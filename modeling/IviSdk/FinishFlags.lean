import IviSdk.PollRules

/-!
How near a stream call is to its end, told by the completions a pass was handed.
`Finish` and `IsFinished` read three flags of the stream state. A completion changes
them by its own tag, if it is one of the stream's, and by the `Finish` calls its
callback makes; on the unary queue only those calls count. A pass that comes back
has folded its completions over the flags.
-/

namespace IviSdk.FinishFlags

open Checks CompletionQueues Streams ManagerWorld Interaction StreamClients ClientManager
open CallbackRules PollRules

variable {env : Env} {world : World}

/-! ## The flags -/

structure CallFlags where
  initMetadataReceived : Bool
  finishCalled : Bool
  finishResponded : Bool

def stateFlags {kind : StreamKind} (state : StreamState kind) : CallFlags where
  initMetadataReceived := state.initMetadataReceived
  finishCalled := state.finishCalled
  finishResponded := state.finishResponded

def callFlags (world : World) (kind : StreamKind) : CallFlags := stateFlags (world.state kind)

namespace CallFlags

/-- `Finish`, which calls `TryCancel` without metadata or when it is called again. -/
def finish (flags : CallFlags) : CallFlags :=
  if flags.finishResponded then flags
  else if !flags.initMetadataReceived || flags.finishCalled then
    { flags with finishResponded := true }
  else { flags with finishCalled := true }

def called (kind : StreamKind) (flags : CallFlags) : ApiCall → CallFlags
  | .finish other => if other = kind then flags.finish else flags
  | .request _ | .confirm _ _ => flags

def reacted (kind : StreamKind) (flags : CallFlags) (reaction : Reaction) : CallFlags :=
  reaction.calls.foldl (called kind) flags

/-- A unary answer only brings the calls of its callback. -/
def completed (kind : StreamKind) (flags : CallFlags) : Completion → CallFlags
  | .unary answer => if answer.origin = .confirm then flags else flags.reacted kind answer.reaction
  | .stream other received =>
      match received.slot with
      | .start => flags
      | .initMetadata => if other = kind then { flags with initMetadataReceived := true } else flags
      | .read => if received.ok then flags.reacted kind received.reaction else flags
      | .finish => if other = kind then { flags with finishResponded := true } else flags

def passed (kind : StreamKind) (flags : CallFlags) (events : List Completion) : CallFlags :=
  events.foldl (completed kind) flags

end CallFlags

theorem flags_set_state (kind : StreamKind) (change : StreamState kind → StreamState kind) :
    callFlags (world.setState kind change) kind = stateFlags (change (world.state kind)) := by
  rw [callFlags, set_state_same]

theorem flags_set_other {kind other : StreamKind} (differs : other ≠ kind)
    (change : StreamState other → StreamState other) :
    callFlags (world.setState other change) kind = callFlags world kind := by
  unfold callFlags World.state
  rw [set_state_other world other change kind (Ne.symm differs)]

/-- A change of one client that a step of its flags describes. -/
theorem flags_changed (other : StreamKind) (change : StreamState other → StreamState other)
    (step : CallFlags → CallFlags)
    (own : stateFlags (change (world.state other)) = step (callFlags world other))
    (kind : StreamKind) :
    callFlags (world.setState other change) kind =
      if other = kind then step (callFlags world kind) else callFlags world kind := by
  by_cases same : other = kind
  · subst same
    rw [flags_set_state, own, if_pos rfl]
  · rw [flags_set_other same, if_neg same]

/-! ## Calls -/

theorem finish_flags (other : StreamKind) :
    wp (finish other)
      (fun _ after => ∀ kind, callFlags after kind =
        (callFlags world kind).called kind (.finish other))
      (fun _ _ => True) world := by
  apply finish_rule other
  · intro responded kind
    simp only [CallFlags.called]
    split
    · next same =>
        subst same
        have again : (callFlags world other).finishResponded = true := responded
        rw [CallFlags.finish, if_pos again]
    · rfl
  · intro unanswered early kind
    refine flags_changed other _ CallFlags.finish ?_ kind
    have open' : (callFlags world other).finishResponded = false := unanswered
    have cancels : (!(callFlags world other).initMetadataReceived ||
        (callFlags world other).finishCalled) = true := by
      by_contra direct
      simp only [Bool.or_eq_true, Bool.not_eq_true', not_or, Bool.not_eq_false,
        Bool.not_eq_true] at direct
      exact early ⟨unanswered, direct.1, direct.2⟩
    change _ = (callFlags world other).finish
    rw [CallFlags.finish, if_neg (by rw [open']; exact Bool.false_ne_true), if_pos cancels]
    rfl
  · intro asking queue _ kind
    refine flags_changed other _ CallFlags.finish ?_ kind
    change stateFlags ({ world.state other with finishCalled := true }) =
      (callFlags world other).finish
    simp [CallFlags.finish, callFlags, stateFlags, asking.metadata, asking.uncalled,
      asking.unanswered]
  · exact fun _ _ => trivial

theorem call_flags (origin : Origin) (call : ApiCall) :
    wp (apiCall env origin call)
      (fun _ after => ∀ kind, callFlags after kind = (callFlags world kind).called kind call)
      (fun _ _ => True) world := by
  apply api_call_rule env origin call
  · rintro client rfl kind
    rfl
  · rintro other arguments rfl value kind
    rfl
  · rintro other rfl
    exact finish_flags other

theorem react_flags (reaction : Reaction) :
    wp (react env reaction)
      (fun _ after => ∀ kind, callFlags after kind = (callFlags world kind).reacted kind reaction)
      (fun _ _ => True) world := by
  rw [react, wp_bind]
  refine wp_each (fun made after => ∀ kind, callFlags after kind =
    made.foldl (CallFlags.called kind) (callFlags world kind)) reaction.calls world (fun _ => rfl)
    ?_ ?_
  · intro earlier call later _ before sofar
    apply wp_then (call_flags .nested call)
    intro _ after changed kind
    rw [changed kind, sofar kind, List.foldl_append]
    rfl
  · intro after all
    rw [wp_only_if]
    split
    · trivial
    · exact all

/-! ## A pass -/

theorem deliver_flags (unary : Bool) (completion : Completion) (kind : StreamKind) :
    callFlags (world.deliver unary completion) kind = callFlags world kind := by
  refine deliver_rule unary completion world
    (fun after => callFlags after kind = callFlags world kind) rfl ?_
  intro other received after same _
  change callFlags (after.setState other ({ · with updateResponse := received.message })) kind = _
  by_cases own : other = kind
  · subst own
    rw [flags_set_state]
    exact same
  · rw [flags_set_other own]
    exact same

theorem process_next_flags {other : StreamKind} (received : StreamCompletion other) :
    wp (processNext env other received)
      (fun _ after => ∀ kind, callFlags after kind =
        if received.ok then (callFlags world kind).reacted kind received.reaction
        else callFlags world kind)
      (fun _ _ => True) world := by
  unfold processNext
  cases received.ok with
  | false =>
      simp only [Bool.not_false, ↓reduceIte, wp_bind, wp_update]
      exact log_stream_failure_keeps (any_manners_allow (.stream other received))
        (fun _ _ _ => trivial) _ fun _ => rfl
  | true =>
      simp only [Bool.not_true, Bool.false_eq_true, ↓reduceIte, onCallback, wp_bind, wp_read,
        wp_update]
      apply wp_then (react_flags received.reaction)
      intro _ after reacted
      have confirmed : wp (onlyIf env.configuration.autoconfirmStreamUpdates
          (sendConfirm env other)) (fun _ last => ∀ kind, callFlags last kind = callFlags after kind)
          (fun _ _ => True)
          (after.note (.update other (after.state other).subscription .returned)) := by
        rw [wp_only_if]
        split
        · simp only [sendConfirm, confirm, wp_bind, wp_read, wp_update, wp_call_unary_async]
          exact fun _ => rfl
        · exact fun _ => rfl
      apply wp_then confirmed
      intro _ last same
      rw [readNext, wp_bind, wp_update, wp_through_reader]
      split
      · exact fun kind => (same kind).trans (reacted kind)
      · trivial

theorem dispatch_unary_flags (answer : UnaryCompletion) :
    wp (dispatchUnary env answer)
      (fun _ after => ∀ kind, callFlags after kind =
        (callFlags world kind).completed kind (.unary answer))
      (fun _ _ => True) world := by
  rw [dispatchUnary, wp_bind, wp_checked]
  split
  · rw [wp_bind, wp_note, wp_only_if]
    split
    · next asked =>
        apply wp_then (react_flags answer.reaction)
        intro _ after reacted kind
        rw [CallFlags.completed, if_neg (by simpa using asked)]
        exact reacted kind
    · next confirms =>
        intro kind
        rw [CallFlags.completed, if_pos (by simpa using confirms)]
        rfl
  · trivial
  · trivial

theorem flag_set_and_logged {other : StreamKind} (received : StreamCompletion other)
    (change : StreamState other → StreamState other) {normal : World → Prop}
    (set : normal (world.setState other change)) :
    wp (do
        setState other change
        onlyIf (!received.ok) (logStreamFailure env received.context))
      (fun _ => normal) (fun _ _ => True) world := by
  rw [wp_bind, wp_set_state]
  exact keeps_only_if (fun _ => log_stream_failure_keeps
    (any_manners_allow (.stream other received)) fun _ _ _ => trivial) _ set

theorem dispatch_stream_flags {other : StreamKind} (received : StreamCompletion other) :
    wp (dispatchStream env other received)
      (fun _ after => ∀ kind, callFlags after kind =
        (callFlags world kind).completed kind (.stream other received))
      (fun _ _ => True) world := by
  simp only [dispatchStream, wp_bind, wp_read, wp_ite, CallFlags.completed]
  split
  · trivial
  · cases received.slot with
    | read => exact process_next_flags received
    | start =>
        exact flag_set_and_logged received _ fun kind =>
          (flags_changed other _ id rfl kind).trans (ite_self _)
    | initMetadata =>
        exact flag_set_and_logged received _
          (flags_changed other _ ({ · with initMetadataReceived := true }) rfl)
    | finish =>
        exact flag_set_and_logged received _
          (flags_changed other _ ({ · with finishResponded := true }) rfl)

theorem dispatch_flags (completion : Completion) :
    wp (dispatch env completion)
      (fun _ after => ∀ kind, callFlags after kind =
        (callFlags world kind).completed kind completion)
      (fun _ _ => True) world := by
  cases completion with
  | unary answer => exact dispatch_unary_flags answer
  | stream other received => exact dispatch_stream_flags received

theorem process_event_flags (runtime : Runtime) (unary : Bool) (completion : Completion) :
    wp (processEvent runtime unary completion)
      (fun _ after => ∀ kind, callFlags after kind =
        (callFlags world kind).completed kind completion)
      (fun _ _ => True) world := by
  rw [processEvent, wp_bind]
  refine wp_async_next runtime unary completion trivial fun _ => ?_
  rw [wp_bind]
  apply wp_then (dispatch_flags completion)
  intro _ after completed
  have noted : ∀ kind, callFlags after kind = (callFlags world kind).completed kind completion :=
    fun kind => (completed kind).trans (by rw [deliver_flags])
  rw [wp_only_if]
  split
  · exact noted
  · exact noted

/-- The completions of a pass, folded over the flags. -/
theorem process_events_flags (runtime : Runtime) (unary : Bool) (events : List Completion)
    (callShutdown : Bool) (world : World) :
    wp (processEvents runtime unary events callShutdown)
      (fun _ after => ∀ kind, callFlags after kind = (callFlags world kind).passed kind events)
      (fun _ _ => True) world := by
  induction events generalizing callShutdown world with
  | nil => exact fun _ => rfl
  | cons completion rest ih =>
      simp only [processEvents, wp_bind]
      apply wp_then (process_event_flags runtime unary completion)
      intro _ middle completed
      apply wp_then (ih (callShutdown || !completion.ok) middle)
      intro _ after passed kind
      rw [passed kind, completed kind]
      rfl

end IviSdk.FinishFlags
