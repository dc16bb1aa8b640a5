import IviSdk.SubscriptionProtocol

/-!
A subscription that does not listen stays silent. When its read failed, or when its
callback threw, no message of it is handed to the application any more, whatever
else the manager does: the application has to rebuild the stream clients, and the
new subscription has a number of its own.
-/

namespace IviSdk.SilentSubscriptions

open Checks CompletionQueues Streams ManagerWorld Interaction StreamClients ClientManager
open CallbackRules PollRules ManagerRuns QueueWiring UpdateOrder Traces SubscriptionProtocol

/-- Its read pends nowhere, and since it said `sofar` it has only been confirmed. -/
structure Silent (kind : StreamKind) (subscription : Nat) (sofar : List (Update kind))
    (world : World) : Prop where
  known : subscription < world.next
  unread : Nowhere (readTag kind subscription) world
  said : ∃ requests : List (ConfirmRequestT kind),
    trace kind subscription world.log = sofar ++ requests.map .confirmed

variable {env : Env} {world before after : World} {kind other : StreamKind}
  {subscription number : Nat} {sofar : List (Update kind)}

/-! ## What leaves it silent -/

namespace Silent

theorem change (silent : Silent kind subscription sofar before) (grows : before.next ≤ after.next)
    (less : ∀ queue, (after.pending queue).count (readTag kind subscription) ≤
      (before.pending queue).count (readTag kind subscription))
    (same : trace kind subscription after.log = trace kind subscription before.log) :
    Silent kind subscription sofar after :=
  ⟨Nat.lt_of_lt_of_le silent.known grows, silent.unread.transport less, same ▸ silent.said⟩

theorem transport (silent : Silent kind subscription sofar before) (quiet : Quiet before after) :
    Silent kind subscription sofar after :=
  silent.change quiet.grows (quiet.reads kind subscription) (quiet.traces kind subscription)

theorem confirmed (silent : Silent kind subscription sofar world)
    (request : ConfirmRequestT other) :
    Silent kind subscription sofar (world.note (.update other number (.confirmed request))) := by
  by_cases own : readTag kind subscription = readTag other number
  · cases own
    obtain ⟨requests, said⟩ := silent.said
    refine ⟨silent.known, silent.unread, requests ++ [request], ?_⟩
    have more : trace kind subscription
        (world.note (.update kind subscription (.confirmed request))).log =
          trace kind subscription world.log ++ [.confirmed request] :=
      observed_some (confirmed_seen request).own world.log
    rw [more, said, List.map_append, List.append_assoc]
    rfl
  · exact silent.change (Nat.le_refl _) (fun _ => Nat.le_refl _)
      (observed_none ((confirmed_seen request).others _ _ own) world.log)

/-- What another subscription notes. -/
theorem elsewhere (silent : Silent kind subscription sofar world)
    (apart : readTag kind subscription ≠ readTag other number) (value : Update other) :
    Silent kind subscription sofar (world.note (.update other number value)) := by
  refine silent.change (Nat.le_refl _) (fun _ => Nat.le_refl _) (observed_none ?_ world.log)
  simp only [observe]
  split
  · next same =>
      have unlike : other ≠ kind := by
        rintro rfl
        exact apart (congrArg (readTag other) same.symm)
      cases value <;> simp [ofKind, unlike]
  · rfl

/-- A read of another subscription is started. -/
theorem read (silent : Silent kind subscription sofar world) (queue : QueueId)
    (apart : readTag kind subscription ≠ readTag other number) :
    Silent kind subscription sofar (world.put queue (readTag other number)) := by
  refine silent.change (Nat.le_refl _) (fun place => ?_) (observed_none ?_ world.log)
  · rw [put_pending]
    split
    · next here =>
        rw [here]
        exact Nat.le_of_eq (List.count_cons_of_ne (Ne.symm apart))
    · exact Nat.le_refl _
  · simp [observe, Ne.symm apart]

end Silent

theorem call_silent (env : Env) (origin : Origin) (call : ApiCall) :
    Keeps (Silent kind subscription sofar) (fun _ => Silent kind subscription sofar)
      (apiCall env origin call) :=
  call_rule (fun _ _ quiet silent => silent.transport quiet)
    (fun _ _ _ request silent => silent.confirmed request) env origin call

/-! ## The tag of another subscription -/

/-- The client works for another subscription. -/
structure Away (kind : StreamKind) (subscription : Nat) (sofar : List (Update kind))
    (other : StreamKind) (number : Nat) (world : World) : Prop where
  silent : Silent kind subscription sofar world
  current : (world.state other).subscription = number

section Away
variable (apart : readTag kind subscription ≠ readTag other number)
include apart

theorem update_away (value : Update other) :
    Keeps (Away kind subscription sofar other number) (fun _ => Silent kind subscription sofar)
      (update other value) := by
  intro world away
  rw [wp_update, away.current]
  exact ⟨away.silent.elsewhere apart value, away.current⟩

omit apart in
theorem call_away (env : Env) (call : ApiCall) :
    Keeps (Away kind subscription sofar other number) (fun _ => Silent kind subscription sofar)
      (apiCall env .nested call) := by
  intro world away
  refine wp_mono (wp_and (call_silent env .nested call world away.silent)
    (api_call_frame env world .nested call world (Frame.refl world))) ?_ fun _ _ both => both.1
  rintro _ after ⟨silent, framed⟩
  exact ⟨silent, (framed.subscriptions other).trans away.current⟩

theorem read_next_away :
    Keeps (Away kind subscription sofar other number) (fun _ => Silent kind subscription sofar)
      (readNext other) := by
  refine keeps_bind (update_away apart .issued) fun _ world away => ?_
  have tag : world.tagOf other .read = readTag other number := congrArg (readTag other) away.current
  rw [wp_through_reader, tag]
  split
  · next queue _ => exact ⟨away.silent.read queue apart, away.current⟩
  · exact away.silent

theorem send_confirm_away (env : Env) :
    Keeps (Away kind subscription sofar other number) (fun _ => Silent kind subscription sofar)
      (sendConfirm env other) := by
  refine keeps_read fun world away => ?_
  refine keeps_bind (update_away apart _) (fun _ after away => ?_) world away
  rw [wp_call_unary_async]
  exact ⟨away.silent.transport ((Quiet.refl after).allocate .confirm), away.current⟩

omit apart in
theorem log_failure_away (env : Env) (context : Results.ClientContext) :
    Keeps (Away kind subscription sofar other number) (fun _ => Silent kind subscription sofar)
      (logStreamFailure env context) :=
  log_stream_failure_keeps (any_manners_allow (.stream .item
    { subscription := 0, slot := .start, ok := false, context := context }))
    fun _ _ away => away.silent

theorem process_next_away (env : Env) (completion : StreamCompletion other) :
    Keeps (Away kind subscription sofar other number) (fun _ => Silent kind subscription sofar)
      (processNext env other completion) := by
  have reacts : Keeps (Away kind subscription sofar other number)
      (fun _ => Silent kind subscription sofar) (react env completion.reaction) :=
    keeps_bind (keeps_each fun call _ => call_away env call) fun _ =>
      keeps_only_if fun _ => keeps_stop fun _ away => away.silent
  refine keeps_ite (keeps_bind (update_away apart .failed) fun _ => log_failure_away env _) ?_
  refine keeps_bind (keeps_read fun world away => ?_) fun _ => ?_
  · refine keeps_bind (update_away apart _) (fun _ => ?_) world away
    exact keeps_bind reacts fun _ => update_away apart .returned
  · exact keeps_bind (keeps_only_if fun _ => send_confirm_away apart env) fun _ =>
      read_next_away apart

end Away

/-! ## Events -/

/-- A read that comes back pended, so it is not one of this subscription. -/
theorem Silent.apart (silent : Silent kind subscription sofar world) {queue : QueueId}
    {received : StreamCompletion other} (slot : received.slot = .read)
    (pends : (Completion.stream other received).tag ∈ world.pending queue) :
    readTag kind subscription ≠ readTag other received.subscription := by
  intro own
  rw [Completion.tag, slot, ← readTag, ← own] at pends
  exact absurd (silent.unread queue) (Nat.ne_of_gt (List.count_pos_iff.mpr pends))

theorem deliver_silent (silent : Silent kind subscription sofar world) (unary : Bool)
    (completion : Completion) (pends : completion.tag ∈ world.pending (world.queueOf unary)) :
    Silent kind subscription sofar (world.deliver unary completion) := by
  have taken := silent.transport ((Quiet.refl world).take (world.queueOf unary) completion.tag)
  have noted : Silent kind subscription sofar ((world.take (world.queueOf unary)
      completion.tag).note (.delivered unary completion world.streamShut world.unaryShut)) := by
    refine taken.change (Nat.le_refl _) (fun _ => Nat.le_refl _) (observed_none ?_ _)
    cases completion with
    | unary received => rfl
    | stream other received =>
        by_cases slot : received.slot = .read
        · exact (delivered_seen received slot unary _ _).others _ _ (silent.apart slot pends)
        · simp [observe, slot]
  exact noted.transport (fill_buffer_quiet completion (Quiet.refl _))

theorem dispatch_silent (env : Env) (completion : Completion)
    (apart : ∀ other (received : StreamCompletion other), completion = .stream other received →
      received.slot = .read → readTag kind subscription ≠ readTag other received.subscription) :
    Keeps (Silent kind subscription sofar) (fun _ => Silent kind subscription sofar)
      (dispatch env completion) := by
  intro world silent
  cases completion with
  | unary completion =>
      refine dispatch_unary_rule (any_manners_allow (.unary completion)) silent (fun _ => silent)
        (fun _ => silent.transport ((Quiet.refl world).note fun _ _ => rfl))
        (fun call _ => call_silent env .nested call) fun _ _ silent => silent
  | stream other received =>
      have flags : ∀ change : StreamState other → StreamState other,
          wp (do
            setState other change
            onlyIf (!received.ok) (logStreamFailure env received.context))
            (fun _ => Silent kind subscription sofar) (fun _ => Silent kind subscription sofar)
            world := by
        intro change
        have logs : Keeps (Silent kind subscription sofar) (fun _ => Silent kind subscription sofar)
            (onlyIf (!received.ok) (logStreamFailure env received.context)) :=
          keeps_only_if fun _ => log_stream_failure_keeps
            (any_manners_allow (.stream other received)) fun _ _ silent => silent
        rw [wp_bind, wp_set_state]
        exact logs _ (silent.transport ((Quiet.refl world).setState other change))
      simp only [dispatch, dispatchStream, wp_bind, wp_read, wp_ite, wp_stop]
      split
      · exact silent
      · next current =>
          have current := Classical.not_not.mp current
          cases slot : received.slot with
          | start => exact flags ({ · with startReceived := true })
          | initMetadata => exact flags ({ · with initMetadataReceived := true })
          | finish => exact flags ({ · with finishResponded := true })
          | read =>
              have away : Away kind subscription sofar other received.subscription world :=
                ⟨silent, current.symm⟩
              exact wp_then (process_next_away (apart other received rfl slot) env received world
                away) fun _ _ away => away.silent

theorem event_silent (env : Env) (unary : Bool) (completion : Completion) :
    Keeps (Silent kind subscription sofar) (fun _ => Silent kind subscription sofar)
      (processEvent (grpc env) unary completion) := by
  intro world silent
  rw [processEvent, wp_bind]
  refine wp_async_next (grpc env) unary completion silent fun admitted => ?_
  have pends := admitted_pending admitted
  have apart : ∀ other (received : StreamCompletion other), completion = .stream other received →
      received.slot = .read → readTag kind subscription ≠ readTag other received.subscription := by
    rintro other received rfl slot
    exact silent.apart slot pends
  rw [wp_bind]
  apply wp_then (dispatch_silent env completion apart _ (deliver_silent silent unary completion pends))
  intro _ after silent
  rw [wp_only_if]
  split
  · exact silent.transport ((Quiet.refl after).note fun _ _ => rfl)
  · exact silent

/-! ## Runs -/

theorem finish_silent (other : StreamKind) :
    Keeps (Silent kind subscription sofar) (fun _ => Silent kind subscription sofar)
      (finish other) := by
  intro world silent
  apply finish_rule other
  · exact fun _ => silent
  · intro _ _
    have quiet : Quiet world (world.note (.tryCancel other (world.state other).subscription)) :=
      (Quiet.refl world).note fun _ _ => rfl
    exact silent.transport (quiet.setState other _)
  · intro _ queue _
    refine silent.transport (((Quiet.refl world).put queue _ ?_).setState other _)
    intro _ _ same
    cases same
  · exact fun _ _ => silent

theorem queue_silent (env : Env) (unary : Bool) :
    QueueKept (grpc env) unary anyManners (Silent kind subscription sofar)
      (fun _ => Silent kind subscription sofar) where
  waiting _ silent := silent
  unfinished _ silent := silent
  event completion _ := event_silent env unary completion
  finish _ other := finish_silent other
  shutdown world silent _ := silent.transport ((Quiet.refl world).shutdown _)
  draining world silent := silent.transport ((Quiet.refl world).note fun _ _ => rfl)
  finishAgain world silent := silent.transport ((Quiet.refl world).note fun _ _ => rfl)
  verdict _ world silent := silent.transport ((Quiet.refl world).note fun _ _ => rfl)

theorem reinitialize_unary_silent (env : Env) :
    Keeps (Silent kind subscription sofar) (fun _ => Silent kind subscription sofar)
      (reinitializeUnary env) := by
  intro world silent
  rw [reinitializeUnary, wp_bind, wp_new_queue, wp_bind, wp_modify]
  refine keeps_each (fun client _ before silent => ?_) (renewUnary world)
    (silent.transport (renew_unary_quiet world))
  rw [reinitializeUnaryClient, wp_bind]
  refine wp_client_checks env ?_ fun _ => silent
  simp only [wp_bind, wp_fresh, wp_modify]
  exact silent.transport ⟨fun _ _ => rfl, fun _ _ _ => Nat.le_refl _, Nat.le_succ _⟩

/-- A client that is rebuilt subscribes under another number. -/
theorem construct_stream_silent (env : Env) (other : StreamKind) (callback : Option CallbackId) :
    Keeps (Silent kind subscription sofar) (fun _ => Silent kind subscription sofar)
      (constructStream env other callback) := by
  intro world silent
  have built : Quiet world (newClient other callback world) :=
    ⟨fun _ _ => rfl, fun _ _ _ => Nat.le_refl _, Nat.le_succ _⟩
  have apart : readTag kind subscription ≠ readTag other world.next := by
    intro own
    cases own
    exact absurd silent.known (Nat.lt_irrefl _)
  have number : ((newClient other callback world).state other).subscription = world.next := by
    rw [World.state, new_client_same]
  apply wp_construct_stream env other callback (fun _ => silent)
  · intro _
    refine @subscribed_read_rule (Silent kind subscription sofar) (Silent kind subscription sofar)
      env other (newClient other callback world) ?_ ?_ ?_ ?_
    · exact (silent.transport built).transport
        (((Quiet.refl _).setState other _).note fun _ _ => rfl)
    · intro slot after start _ silent
      refine silent.transport ((Quiet.refl after).put _ _ fun _ _ same => ?_)
      cases same
      exact start rfl
    · intro after silent
      exact silent.transport ((Quiet.refl after).note fun _ _ => by simp [observe])
    · intro after _ silent
      rw [number]
      exact silent.read _ apart
  · intro _
    exact silent.transport (built.setState other _)

theorem reinitialize_stream_silent (env : Env) :
    Keeps (Silent kind subscription sofar) (fun _ => Silent kind subscription sofar)
      (reinitializeStream env) := by
  intro world silent
  rw [reinitializeStream, wp_bind, wp_new_queue, wp_bind, wp_modify]
  exact keeps_each (fun other _ => keeps_read fun after silent =>
    construct_stream_silent env other _ after silent) (renewStream world)
      (silent.transport (renew_stream_quiet world))

theorem actions_silent (env : Env) :
    ActionsKept (grpc env) anyManners (Silent kind subscription sofar)
      (fun _ => Silent kind subscription sofar) where
  queue unary := queue_silent env unary
  call call _ := call_silent env .direct call
  reinitializeUnary := reinitialize_unary_silent env
  reinitializeStream := reinitialize_stream_silent env
  exited _ silent := silent
  resumes _ silent := silent

/-! ## Silence -/

/-- What comes next in the machine depends on the phase alone. -/
theorem step_determined {phase one another : Phase kind} {label : Update kind}
    (step : Step env kind phase label one) (twin : Step env kind phase label another) :
    one = another := by
  cases step with
  | confirms rests request =>
      cases twin with
      | acknowledges auto message => exact rests.elim
      | confirms _ _ => rfl
  | acknowledges auto message =>
      cases twin with
      | acknowledges _ _ => rfl
      | confirms rests _ => exact rests.elim
  | _ =>
      cases twin
      rfl

/-- Once a subscription has come to rest without listening, its read having failed
or its callback having thrown, the application gets nothing more of it, in whatever
runs follow: only its own confirmations are added to the log. -/
theorem silent_until_rebuilt (env : Env) (connection : IVIConnection)
    (distinct : connection.streamQueue ≠ connection.unaryQueue) (callbacks : IVIStreamCallbacks)
    (actions : List Action) (replies : List Reply) (world : World)
    (reached : Reached (grpc env) connection callbacks actions replies world)
    (kind : StreamKind) (subscription : Nat) (known : subscription < world.next)
    (phase : Phase kind) (follows : Follows env kind (trace kind subscription world.log) phase)
    (closed : phase.outstanding = 0) (more : List Action) (later : List Reply) (after : World)
    (ran : run (grpc env) more replies world = some (later, after)) :
    ∃ requests : List (ConfirmRequestT kind),
      trace kind subscription after.log =
        trace kind subscription world.log ++ requests.map .confirmed := by
  have stands := (reached_subscriptions distinct reached).2.stands kind subscription
  obtain ⟨other, otherFollows, _, linked⟩ := stands
  have determined : ∀ state label next other, Step env kind state label next →
      Step env kind state label other → next = other := fun _ _ _ _ => step_determined
  obtain rfl := follows.unique determined otherFollows
  have unread : Nowhere (readTag kind subscription) world := by
    cases phase with
    | listening => cases closed
    | _ => exact linked
  have silent : Silent kind subscription (trace kind subscription world.log) world :=
    ⟨known, unread, [], (List.append_nil _).symm⟩
  exact (run_keeps (actions_silent env) more (fun action _ => any_action_allowed action) silent
    ran).said

/-! ### A callback that throws -/

/-- A manager with one stream, and the same after the callback of its first message
threw. -/
def newItems : World := (construct defaultEnv itemCallbacks (World.before newConnection)).world

def thrownItems : World := (act (grpc defaultEnv) throwingSword newItems).world

def hands : Update .item → Bool
  | .invoked _ => true
  | _ => false

/-- A log that ends with a handing leaves its machine in the callback. -/
theorem running_of_handed {labels : List (Update .item)} {phase : Phase .item}
    (follows : Follows defaultEnv .item labels phase)
    (last : labels.getLast?.any hands = true) : phase.outstanding = 0 := by
  cases follows with
  | empty => cases last
  | snoc earlier step =>
      rw [List.getLast?_concat] at last
      cases step with
      | hands message => rfl
      | _ => cases last

theorem thrown_reached :
    Reached (grpc defaultEnv) newConnection itemCallbacks [throwingSword] [.threw] thrownItems :=
  @reached_after_one (grpc defaultEnv) _ _ _ _ (by decide +kernel) (by decide +kernel)

/-- The streams are polled once more and then rebuilt. -/
def pollAndRebuild : List Action := [.pollStream [{}], .reinitializeStream]

theorem thrown_items_silent : newConnection.streamQueue ≠ newConnection.unaryQueue ∧
    7 < thrownItems.next ∧
    (∃ phase, Follows defaultEnv .item (trace .item 7 thrownItems.log) phase ∧
      phase.outstanding = 0) ∧
    ∃ later after, run (grpc defaultEnv) pollAndRebuild [.threw] thrownItems =
        some (later, after) ∧
      ∃ requests : List (ConfirmRequestT .item),
        trace .item 7 after.log = trace .item 7 thrownItems.log ++ requests.map .confirmed := by
  have known : 7 < thrownItems.next := by decide +kernel
  have subscriptions := (reached_subscriptions new_connection_distinct thrown_reached).2
  obtain ⟨phase, follows, _, _⟩ := subscriptions.stands .item 7
  have closed := running_of_handed follows (by decide +kernel)
  have back : (run (grpc defaultEnv) pollAndRebuild [.threw] thrownItems).isSome = true := by
    decide +kernel
  obtain ⟨⟨later, after⟩, ran⟩ := Option.isSome_iff_exists.mp back
  refine ⟨new_connection_distinct, known, ⟨phase, follows, closed⟩, later, after, ran, ?_⟩
  exact silent_until_rebuilt defaultEnv newConnection new_connection_distinct itemCallbacks
    [throwingSword] [.threw] thrownItems thrown_reached .item 7 known phase follows closed
    pollAndRebuild later after ran

end IviSdk.SilentSubscriptions
