import IviSdk.Traces
import IviSdk.UpdateOrder
import IviSdk.OperationLedger

/-!
What a subscription is for, as a machine of its own: it listens, a message arrives,
the application is handed the update, the callback comes back, the message is
confirmed if the SDK confirms, and it listens again. A failed read ends it, and a
callback that does not come back leaves it where it is. The manager refines this
machine in both confirmation modes, for callbacks that make requests, `Confirm` and
`Finish` in any order and that may throw.
-/

namespace IviSdk.SubscriptionProtocol

open Checks CompletionQueues Streams ManagerWorld Interaction StreamClients ClientManager
open CallbackRules PollRules ManagerRuns QueueWiring UpdateOrder Traces StepRules OperationLedger

/-! ## The machine -/

inductive Phase (kind : StreamKind) where
  | unopened
  | listening
  | arrived (message : MessageT kind)
  | running (message : MessageT kind)
  | answered (message : MessageT kind)
  | acknowledged
  | ended

/-- The application has control, or may get it: no code of the SDK is under way for
the subscription. -/
def Phase.Rests {kind : StreamKind} : Phase kind → Prop
  | .unopened | .listening | .running _ | .ended => True
  | .arrived _ | .answered _ | .acknowledged => False

inductive Step (env : Env) (kind : StreamKind) : Phase kind → Update kind → Phase kind → Prop where
  | opens : Step env kind .unopened .issued .listening
  | arrives (message : MessageT kind) :
      Step env kind .listening (.received message) (.arrived message)
  | fails : Step env kind .listening .failed .ended
  | hands (message : MessageT kind) :
      Step env kind (.arrived message) (.invoked (fromProto kind message)) (.running message)
  | returns (message : MessageT kind) :
      Step env kind (.running message) .returned (.answered message)
  | acknowledges (auto : env.configuration.autoconfirmStreamUpdates = true)
      (message : MessageT kind) :
      Step env kind (.answered message) (.confirmed (confirmation env kind message)) .acknowledged
  | listens : Step env kind .acknowledged .issued .listening
  | continues (manual : env.configuration.autoconfirmStreamUpdates = false)
      (message : MessageT kind) : Step env kind (.answered message) .issued .listening
  /-- The application confirms whatever it wants while it has control. -/
  | confirms {phase : Phase kind} (rests : phase.Rests) (request : ConfirmRequestT kind) :
      Step env kind phase (.confirmed request) phase

abbrev Follows (env : Env) (kind : StreamKind) : List (Update kind) → Phase kind → Prop :=
  Trace (Step env kind) .unopened

section Machine
variable {env : Env} {kind : StreamKind} {labels : List (Update kind)} {phase : Phase kind}

/-! ### What the machine guarantees -/

def arrival : Update kind → Option (MessageT kind)
  | .received message => some message
  | _ => none

def handing : Update kind → Option (ParsedMessageT kind)
  | .invoked parsed => some parsed
  | _ => none

/-- The message the application is about to be handed. -/
def Phase.waiting : Phase kind → List (MessageT kind)
  | .arrived message => [message]
  | _ => []

theorem waiting_of_rests (rests : phase.Rests) : phase.waiting = [] := by
  cases phase with
  | arrived message => exact rests.elim
  | _ => rfl

/-- The application is handed the messages that arrived, parsed and in order. -/
theorem handed_in_order (follows : Follows env kind labels phase) :
    (labels.filterMap arrival).map (fromProto kind) =
      labels.filterMap handing ++ phase.waiting.map (fromProto kind) := by
  refine follows.rule (fun labels phase => (labels.filterMap arrival).map (fromProto kind) =
    labels.filterMap handing ++ phase.waiting.map (fromProto kind)) rfl ?_
  intro labels phase label next before step
  rw [List.filterMap_append, List.filterMap_append, List.map_append, before]
  cases step with
  | confirms rests request => simp [List.filterMap_cons, arrival, handing]
  | _ => simp [List.filterMap_cons, arrival, handing, Phase.waiting]

def issues : Update kind → Bool
  | .issued => true
  | _ => false

def completes : Update kind → Bool
  | .received _ | .failed => true
  | _ => false

/-- The reads that were issued and have not completed. -/
def Phase.outstanding : Phase kind → Nat
  | .listening => 1
  | _ => 0

theorem Phase.outstanding_le (phase : Phase kind) : phase.outstanding ≤ 1 := by
  cases phase <;> simp [Phase.outstanding]

/-- One read is outstanding while the subscription listens, and none otherwise. -/
theorem reads_balanced (follows : Follows env kind labels phase) :
    labels.countP issues = labels.countP completes + phase.outstanding := by
  refine follows.rule (fun labels phase =>
    labels.countP issues = labels.countP completes + phase.outstanding) rfl ?_
  intro labels phase label next before step
  rw [List.countP_append, List.countP_append, before]
  cases step with
  | confirms rests request => simp [issues, completes]
  | _ => simp [issues, completes, Phase.outstanding]

end Machine

/-! ## The manager between two events -/

/-- A read pends only for a subscription that listens. -/
def Linked {kind : StreamKind} : Phase kind → Tag → World → Prop
  | .listening => AtMostOnce
  | _ => Nowhere

/-- The machine of a subscription is at rest. -/
def Stands (env : Env) (kind : StreamKind) (subscription : Nat) (world : World) : Prop :=
  ∃ phase, Follows env kind (trace kind subscription world.log) phase ∧ phase.Rests ∧
    Linked phase (readTag kind subscription) world

/-- Nobody subscribed under this number. -/
structure Unopened (env : Env) (kind : StreamKind) (subscription : Nat) (world : World) : Prop where
  follows : Follows env kind (trace kind subscription world.log) .unopened
  unread : Nowhere (readTag kind subscription) world

structure Subscriptions (env : Env) (world : World) : Prop where
  stands : ∀ kind subscription, Stands env kind subscription world
  fresh : ∀ kind subscription, world.next ≤ subscription → Unopened env kind subscription world

/-- One machine is moving, or at rest with the application in its callback; its read
does not pend. All others are at rest. -/
structure Engaged (env : Env) (kind : StreamKind) (subscription : Nat) (phase : Phase kind)
    (world : World) : Prop where
  others : ∀ other number, readTag other number ≠ readTag kind subscription →
    Stands env other number world
  own : Follows env kind (trace kind subscription world.log) phase
  unread : Nowhere (readTag kind subscription) world
  known : subscription < world.next
  fresh : ∀ other number, world.next ≤ number → Unopened env other number world

/-- An event of one subscription. -/
structure SeenBy (kind : StreamKind) (subscription : Nat) (event : Event) (value : Update kind) :
    Prop where
  own : observe kind subscription event = some value
  others : ∀ other number, readTag other number ≠ readTag kind subscription →
    observe other number event = none

section Manager
variable {env : Env} {world before after : World} {kind : StreamKind} {subscription : Nat}
  {phase : Phase kind}

theorem linked_transport {tag : Tag} (linked : Linked phase tag before)
    (less : ∀ queue, (after.pending queue).count tag ≤ (before.pending queue).count tag) :
    Linked phase tag after := by
  cases phase with
  | listening => exact AtMostOnce.transport linked less
  | _ => exact Nowhere.transport linked less

theorem Stands.transport (stands : Stands env kind subscription before)
    (same : trace kind subscription after.log = trace kind subscription before.log)
    (less : ∀ queue, (after.pending queue).count (readTag kind subscription) ≤
      (before.pending queue).count (readTag kind subscription)) :
    Stands env kind subscription after := by
  obtain ⟨phase, follows, rests, linked⟩ := stands
  exact ⟨phase, same ▸ follows, rests, linked_transport linked less⟩

theorem Unopened.transport (unopened : Unopened env kind subscription before)
    (same : trace kind subscription after.log = trace kind subscription before.log)
    (less : ∀ queue, (after.pending queue).count (readTag kind subscription) ≤
      (before.pending queue).count (readTag kind subscription)) :
    Unopened env kind subscription after :=
  ⟨same ▸ unopened.follows, unopened.unread.transport less⟩

theorem Subscriptions.transport (subscriptions : Subscriptions env before)
    (quiet : Quiet before after) : Subscriptions env after where
  stands kind subscription := (subscriptions.stands kind subscription).transport
    (quiet.traces kind subscription) (quiet.reads kind subscription)
  fresh kind subscription unknown :=
    (subscriptions.fresh kind subscription (Nat.le_trans quiet.grows unknown)).transport
      (quiet.traces kind subscription) (quiet.reads kind subscription)

theorem Engaged.transport (engaged : Engaged env kind subscription phase before)
    (quiet : Quiet before after) : Engaged env kind subscription phase after where
  others other number differs := (engaged.others other number differs).transport
    (quiet.traces other number) (quiet.reads other number)
  own := (quiet.traces kind subscription).symm ▸ engaged.own
  unread := engaged.unread.transport (quiet.reads kind subscription)
  known := Nat.lt_of_lt_of_le engaged.known quiet.grows
  fresh other number unknown :=
    (engaged.fresh other number (Nat.le_trans quiet.grows unknown)).transport
      (quiet.traces other number) (quiet.reads other number)

/-- A number not given out yet is another subscription's. -/
theorem Engaged.differs (engaged : Engaged env kind subscription phase world) (other : StreamKind)
    {number : Nat} (unknown : world.next ≤ number) :
    readTag other number ≠ readTag kind subscription := by
  intro same
  cases same
  exact absurd engaged.known (Nat.not_lt.mpr unknown)

/-- The moving machine takes a step that only it sees. -/
theorem Engaged.step (engaged : Engaged env kind subscription phase world) {event : Event}
    {value : Update kind} {next : Phase kind} (seen : SeenBy kind subscription event value)
    (step : Step env kind phase value next) :
    Engaged env kind subscription next (world.note event) := by
  have unseen : ∀ other number, readTag other number ≠ readTag kind subscription →
      trace other number (event :: world.log) = trace other number world.log :=
    fun other number differs => observed_none (seen.others other number differs) world.log
  refine ⟨?_, ?_, engaged.unread, engaged.known, ?_⟩
  · intro other number differs
    exact (engaged.others other number differs).transport (unseen other number differs)
      fun _ => Nat.le_refl _
  · have own : trace kind subscription (event :: world.log) =
        trace kind subscription world.log ++ [value] := observed_some seen.own world.log
    rw [note_log, own]
    exact engaged.own.snoc step
  · intro other number unknown
    have differs := engaged.differs other unknown
    exact (engaged.fresh other number unknown).transport (unseen other number differs)
      fun _ => Nat.le_refl _

/-- The machine has come to rest without a read. -/
theorem Engaged.rest (engaged : Engaged env kind subscription phase world) (rests : phase.Rests)
    (closed : phase.outstanding = 0) : Subscriptions env world := by
  refine ⟨?_, engaged.fresh⟩
  intro other number
  by_cases same : readTag other number = readTag kind subscription
  · cases same
    refine ⟨phase, engaged.own, rests, ?_⟩
    cases phase with
    | listening => cases closed
    | _ => exact engaged.unread
  · exact engaged.others other number same

/-- The machine listens again, and its read is the only one. -/
theorem Engaged.read (engaged : Engaged env kind subscription phase world)
    (reissue : Step env kind phase .issued .listening) (queue : QueueId) :
    Subscriptions env (world.put queue (readTag kind subscription)) := by
  have others : ∀ other number, readTag other number ≠ readTag kind subscription →
      trace other number (world.put queue (readTag kind subscription)).log =
        trace other number world.log := by
    intro other number differs
    refine observed_none ?_ world.log
    simp [observe, differs.symm]
  have less : ∀ other number, readTag other number ≠ readTag kind subscription → ∀ place,
      ((world.put queue (readTag kind subscription)).pending place).count (readTag other number) ≤
        (world.pending place).count (readTag other number) := by
    intro other number differs place
    rw [put_pending]
    split
    · next here =>
        rw [here]
        exact Nat.le_of_eq (List.count_cons_of_ne (Ne.symm differs))
    · exact Nat.le_refl _
  constructor
  · intro other number
    by_cases same : readTag other number = readTag kind subscription
    · cases same
      have own : trace kind subscription (world.put queue (readTag kind subscription)).log =
          trace kind subscription world.log ++ [.issued] := by
        refine observed_some ?_ world.log
        simp [observe]
      refine ⟨.listening, own ▸ engaged.own.snoc reissue, trivial, queue, fun place => ?_⟩
      rw [put_pending]
      split
      · rw [List.count_cons_self]
        exact Nat.le_of_eq (congrArg (· + 1) (engaged.unread queue))
      · exact Nat.le_of_eq (engaged.unread place)
    · exact (engaged.others other number same).transport (others other number same)
        (less other number same)
  · intro other number unknown
    have differs := engaged.differs other unknown
    exact (engaged.fresh other number unknown).transport (others other number differs)
      (less other number differs)

/-! ## Calls of the application -/

/-- What the client notes while it handles a message, or the application confirms. -/
theorem update_seen (value : Update kind) (noted : observe kind subscription
    (.update kind subscription value) = some value) :
    SeenBy kind subscription (.update kind subscription value) value := by
  refine ⟨noted, fun other number differs => ?_⟩
  simp only [observe]
  split
  · next same =>
      have unlike : kind ≠ other := by
        intro equal
        subst equal
        exact differs (congrArg (readTag kind) same.symm)
      cases value <;> simp [ofKind, unlike]
  · rfl

theorem confirmed_seen (request : ConfirmRequestT kind) :
    SeenBy kind subscription (.update kind subscription (.confirmed request))
      (.confirmed request) :=
  update_seen _ (by simp [observe, of_kind_same])

/-- A confirmation moves no machine that is at rest. -/
theorem Stands.confirmed {other : StreamKind} {number : Nat}
    (stands : Stands env kind subscription world) (request : ConfirmRequestT other) :
    Stands env kind subscription (world.note (.update other number (.confirmed request))) := by
  by_cases same : readTag kind subscription = readTag other number
  · cases same
    obtain ⟨phase, follows, rests, linked⟩ := stands
    have own : trace kind subscription
        (world.note (.update kind subscription (.confirmed request))).log =
          trace kind subscription world.log ++ [.confirmed request] :=
      observed_some (confirmed_seen request).own world.log
    refine ⟨phase, own ▸ follows.snoc (.confirms rests request), rests, ?_⟩
    cases phase <;> exact linked
  · exact stands.transport (observed_none ((confirmed_seen request).others _ _ same) world.log)
      fun _ => Nat.le_refl _

theorem Unopened.confirmed {other : StreamKind} {number : Nat}
    (unopened : Unopened env kind subscription world) (request : ConfirmRequestT other) :
    Unopened env kind subscription (world.note (.update other number (.confirmed request))) := by
  by_cases same : readTag kind subscription = readTag other number
  · cases same
    have own : trace kind subscription
        (world.note (.update kind subscription (.confirmed request))).log =
          trace kind subscription world.log ++ [.confirmed request] :=
      observed_some (confirmed_seen request).own world.log
    have stays := @Step.confirms env kind .unopened trivial request
    exact ⟨own ▸ unopened.follows.snoc stays, unopened.unread⟩
  · exact unopened.transport (observed_none ((confirmed_seen request).others _ _ same) world.log)
      fun _ => Nat.le_refl _

theorem Subscriptions.confirmed (subscriptions : Subscriptions env world) (other : StreamKind)
    (number : Nat) (request : ConfirmRequestT other) :
    Subscriptions env (world.note (.update other number (.confirmed request))) where
  stands kind subscription := (subscriptions.stands kind subscription).confirmed request
  fresh kind subscription unknown := (subscriptions.fresh kind subscription unknown).confirmed request

theorem Engaged.confirmed (engaged : Engaged env kind subscription phase world)
    (rests : phase.Rests) (other : StreamKind) (number : Nat) (request : ConfirmRequestT other) :
    Engaged env kind subscription phase (world.note (.update other number (.confirmed request))) := by
  by_cases same : readTag kind subscription = readTag other number
  · cases same
    exact engaged.step (confirmed_seen request) (.confirms rests request)
  · have unseen : trace kind subscription
        (world.note (.update other number (.confirmed request))).log =
          trace kind subscription world.log :=
      observed_none ((confirmed_seen request).others _ _ same) world.log
    exact {
      others := fun one which differs => (engaged.others one which differs).confirmed request
      own := unseen.symm ▸ engaged.own
      unread := engaged.unread
      known := engaged.known
      fresh := fun one which unknown => (engaged.fresh one which unknown).confirmed request }

/-- What survives quiet changes and confirmations survives every call. -/
theorem call_rule {kept : World → Prop}
    (transport : ∀ before after, Quiet before after → kept before → kept after)
    (confirmed : ∀ world kind subscription (request : ConfirmRequestT kind), kept world →
      kept (world.note (.update kind subscription (.confirmed request))))
    (env : Env) (origin : Origin) (call : ApiCall) :
    Keeps kept (fun _ => kept) (apiCall env origin call) := by
  intro world holds
  have called : kept (world.note (.called call world.unaryShut)) :=
    transport _ _ ((Quiet.refl world).note fun _ _ => rfl) holds
  simp only [apiCall, wp_bind, wp_modify]
  cases call with
  | request client =>
      rw [wp_call_unary_async]
      exact transport _ _ ((Quiet.refl _).allocate origin) called
  | confirm other arguments =>
      simp only [confirm, wp_bind, wp_update, wp_call_unary_async]
      exact transport _ _ ((Quiet.refl _).allocate .confirm) (confirmed _ _ _ _ called)
  | finish other =>
      apply finish_rule other
      · exact fun _ => called
      · intro _ _
        exact transport _ _ (((Quiet.refl _).note fun _ _ => rfl).setState other _) called
      · intro _ queue _
        refine transport _ _ (((Quiet.refl _).put queue _ fun _ _ same => ?_).setState other _) called
        cases same
      · exact fun _ _ => called

theorem call_subscriptions (env : Env) (origin : Origin) (call : ApiCall) :
    Keeps (Subscriptions env) (fun _ => Subscriptions env) (apiCall env origin call) :=
  call_rule (fun _ _ quiet subscriptions => subscriptions.transport quiet)
    (fun _ other number request subscriptions => subscriptions.confirmed other number request)
    env origin call

theorem call_engaged (rests : phase.Rests) (call : ApiCall) :
    Keeps (Engaged env kind subscription phase) (fun _ => Engaged env kind subscription phase)
      (apiCall env .nested call) :=
  call_rule (fun _ _ quiet engaged => engaged.transport quiet)
    (fun _ other number request engaged => engaged.confirmed rests other number request)
    env .nested call

/-! ## A read comes back -/

/-- A read that pends is the only one, and its subscription listens. -/
theorem Subscriptions.taken (subscriptions : Subscriptions env world) {queue : QueueId}
    (pending : readTag kind subscription ∈ world.pending queue) :
    Engaged env kind subscription .listening (world.take queue (readTag kind subscription)) := by
  have present : 0 < (world.pending queue).count (readTag kind subscription) :=
    List.count_pos_iff.mpr pending
  have quiet := (Quiet.refl world).take queue (readTag kind subscription)
  obtain ⟨follows, place, bound⟩ : Follows env kind (trace kind subscription world.log) .listening ∧
      AtMostOnce (readTag kind subscription) world := by
    obtain ⟨phase, follows, rests, linked⟩ := subscriptions.stands kind subscription
    cases phase with
    | listening => exact ⟨follows, linked⟩
    | _ => exact absurd (linked queue) (Nat.ne_of_gt present)
  have here : queue = place := by
    by_contra elsewhere
    have none := bound queue
    rw [if_neg elsewhere] at none
    omega
  refine ⟨?_, (quiet.traces kind subscription).symm ▸ follows, ?_, ?_, ?_⟩
  · exact fun other number _ => (subscriptions.stands other number).transport
      (quiet.traces other number) (quiet.reads other number)
  · intro other
    rw [take_pending]
    split
    · have one := bound queue
      rw [if_pos here] at one
      rw [List.count_erase_self]
      omega
    · next elsewhere =>
        have none := bound other
        rw [if_neg (by rw [← here]; exact elsewhere)] at none
        exact Nat.le_zero.mp none
  · refine Nat.lt_of_not_le fun unknown => ?_
    exact absurd ((subscriptions.fresh kind subscription unknown).unread queue)
      (Nat.ne_of_gt present)
  · exact fun other number unknown => (subscriptions.fresh other number unknown).transport
      (quiet.traces other number) (quiet.reads other number)

theorem delivered_seen (received : StreamCompletion kind) (slot : received.slot = .read)
    (unary streamShut unaryShut : Bool) :
    SeenBy kind received.subscription
      (.delivered unary (.stream kind received) streamShut unaryShut)
      (if received.ok then .received received.message else .failed) := by
  constructor
  · simp [observe, slot, of_kind_same]
  · intro other number differs
    simp only [observe, slot, and_true]
    split
    · next same =>
        refine of_kind_other _ fun equal => ?_
        subst equal
        exact differs (congrArg (readTag kind) same.symm)
    · rfl

/-- The phase a completed read leads to. -/
def Phase.completed {kind : StreamKind} (received : StreamCompletion kind) : Phase kind :=
  if received.ok then .arrived received.message else .ended

theorem deliver_engages (subscriptions : Subscriptions env world) (received : StreamCompletion kind)
    (slot : received.slot = .read)
    (pending : (Completion.stream kind received).tag ∈ world.pending (world.queueOf false)) :
    Engaged env kind received.subscription (.completed received)
      (world.deliver false (.stream kind received)) := by
  have tag : (Completion.stream kind received).tag = readTag kind received.subscription := by
    rw [Completion.tag, slot, readTag]
  rw [tag] at pending
  have step : Step env kind .listening
      (if received.ok then .received received.message else .failed) (.completed received) := by
    unfold Phase.completed
    cases received.ok with
    | true => exact .arrives received.message
    | false => exact .fails
  have noted := (subscriptions.taken pending).step
    (delivered_seen received slot false world.streamShut world.unaryShut) step
  unfold World.deliver
  rw [tag]
  exact noted.transport (fill_buffer_quiet _ (Quiet.refl _))

/-! ## A message in hand -/

structure Held (env : Env) (kind : StreamKind) (subscription : Nat) (message : MessageT kind)
    (phase : Phase kind) (world : World) : Prop where
  wired : Wired world
  reader : (world.state kind).updateReader.isSome = true
  engaged : Engaged env kind subscription phase world
  inBuffer : InBuffer kind subscription message world

variable {message : MessageT kind}

/-- The client notes a step. -/
theorem Held.step (held : Held env kind subscription message phase world) {value : Update kind}
    {next : Phase kind}
    (noted : observe kind subscription (.update kind subscription value) = some value)
    (step : Step env kind phase value next) :
    Held env kind subscription message next (world.note (.update kind subscription value)) :=
  ⟨held.wired.note _, held.reader, held.engaged.step (update_seen value noted) step,
    ⟨held.inBuffer.current, held.inBuffer.buffer⟩⟩

theorem Held.allocate (held : Held env kind subscription message phase world) :
    Held env kind subscription message phase (allocate .confirm world) :=
  ⟨held.wired.allocate .confirm, held.reader,
    held.engaged.transport ((Quiet.refl world).allocate .confirm),
    ⟨held.inBuffer.current, held.inBuffer.buffer⟩⟩

/-- Whatever the callback calls, its message stays in hand. -/
theorem call_held (call : ApiCall) :
    Keeps (Held env kind subscription message (.running message)) (fun _ => Subscriptions env)
      (apiCall env .nested call) := by
  intro world held
  have framed := api_call_frame env world .nested call world (Frame.refl world)
  have rests : (Phase.running message).Rests := trivial
  refine wp_mono (wp_and (wp_and (call_wired env .nested call world held.wired) framed)
    (wp_and (call_engaged rests call world held.engaged)
      (call_in_buffer env .nested call world held.inBuffer))) ?_ ?_
  · rintro _ after ⟨⟨wired, framed⟩, engaged, inBuffer⟩
    refine ⟨wired, ?_, engaged, inBuffer⟩
    rw [framed.readers]
    exact held.reader
  · rintro _ after ⟨_, engaged, _⟩
    exact engaged.rest rests rfl

theorem read_next_subscriptions (held : Held env kind subscription message phase world)
    (reissue : Step env kind phase .issued .listening) :
    wp (readNext kind) (fun _ => Subscriptions env) (fun _ => Subscriptions env) world := by
  obtain ⟨queue, reader⟩ := Option.isSome_iff_exists.mp held.reader
  let issued := world.note (.update kind (world.state kind).subscription .issued)
  have quiet : Quiet world issued := (Quiet.refl world).note fun other number => by
    simp [observe]
  have tag : issued.tagOf kind .read = readTag kind subscription :=
    congrArg (readTag kind) held.inBuffer.current
  have same : (issued.state kind).updateReader = some queue := reader
  rw [readNext, wp_bind, wp_update, wp_through_reader, same]
  have read := (held.engaged.transport quiet).read reissue queue
  rw [← tag] at read
  exact read

/-- A delivered message goes through the machine, as far as its callback lets it. -/
theorem dispatch_message (received : StreamCompletion kind) (slot : received.slot = .read)
    (ok : received.ok = true)
    (held : Held env kind received.subscription received.message (.arrived received.message)
      world) :
    wp (dispatch env (.stream kind received)) (fun _ => Subscriptions env)
      (fun _ => Subscriptions env) world := by
  simp only [dispatch, dispatchStream, wp_bind, wp_read, wp_ite, held.inBuffer.current, ne_eq,
    not_true_eq_false, ↓reduceIte, slot, processNext, ok, Bool.not_true, Bool.false_eq_true,
    onCallback, wp_update, held.inBuffer.buffer]
  have running := held.step (by simp [observe, of_kind_same]) (.hands received.message)
  have polite : anyManners.Follows received.context received.reaction :=
    any_manners_allow (.stream kind received)
  apply wp_then (react_keeps polite (fun call _ => call_held call)
    (fun _ _ held => held.engaged.rest trivial rfl) _ running)
  intro _ after held
  have answered := held.step (by simp [observe, of_kind_same]) (.returns received.message)
  rw [held.inBuffer.current, wp_only_if]
  split
  · next auto =>
      rw [sendConfirm, wp_bind, wp_read, confirm, wp_bind, wp_update, wp_call_unary_async,
        answered.inBuffer.current, answered.inBuffer.buffer]
      have acknowledged := (answered.step (by simp [observe, of_kind_same])
        (.acknowledges auto received.message)).allocate
      exact read_next_subscriptions acknowledged .listens
  · next manual =>
      rw [Bool.not_eq_true] at manual
      exact read_next_subscriptions answered (.continues manual received.message)

/-! ## Events -/

/-- Every other tag, and a read that failed. -/
theorem dispatch_other (env : Env) (completion : Completion)
    (other : ∀ kind (received : StreamCompletion kind), completion = .stream kind received →
      received.slot = .read → received.ok = false) :
    DispatchKept env anyManners completion (Subscriptions env) (fun _ => Subscriptions env) where
  threw _ _ subscriptions := subscriptions
  exited _ subscriptions := subscriptions
  undefined _ subscriptions := subscriptions
  call call _ := call_subscriptions env .nested call
  update kind received same value noted _ after subscriptions := by
    rw [noted.2 (other kind received same noted.1)]
    exact subscriptions.transport ((Quiet.refl after).note fun _ _ => by simp [observe])
  completed _ _ _ after subscriptions :=
    subscriptions.transport ((Quiet.refl after).note fun _ _ => rfl)
  startReceived kind _ _ _ after subscriptions :=
    subscriptions.transport ((Quiet.refl after).setState kind _)
  initMetadataReceived kind _ _ _ after subscriptions :=
    subscriptions.transport ((Quiet.refl after).setState kind _)
  finishResponded kind _ _ _ after subscriptions :=
    subscriptions.transport ((Quiet.refl after).setState kind _)
  confirms _ _ same good _ _ _ _ := absurd good.ok (by simp [other _ _ same good.slot])
  reads _ _ same good _ _ _ _ _ := absurd good.ok (by simp [other _ _ same good.slot])

theorem message_event (received : StreamCompletion kind) (slot : received.slot = .read)
    (ok : received.ok = true) (wired : Wired world) (subscriptions : Subscriptions env world) :
    wp (processEvent (grpc env) false (.stream kind received)) (fun _ => Subscriptions env)
      (fun _ => Subscriptions env) world := by
  let InHand : World → Prop := fun world =>
    Engaged env kind received.subscription (.arrived received.message) world ∧
    InBuffer kind received.subscription received.message world
  refine @event_rule_wired env false (.stream kind received) (Subscriptions env) InHand
    (Subscriptions env) (fun _ => Subscriptions env) (fun _ kept => kept) ?_ ?_
    (fun never => by cases never) (fun _ _ kept => kept) world wired subscriptions
  · intro before wired subscriptions pending
    have engaged := deliver_engages subscriptions received slot pending
    rw [Phase.completed, if_pos ok] at engaged
    exact ⟨engaged, deliver_in_buffer wired received slot ok pending⟩
  · rintro before wired heard _ ⟨engaged, inBuffer⟩
    exact dispatch_message received slot ok ⟨wired, heard kind received rfl, engaged, inBuffer⟩

theorem other_event (unary : Bool) (completion : Completion)
    (other : ∀ kind (received : StreamCompletion kind), completion = .stream kind received →
      received.slot = .read → received.ok = false)
    (wired : Wired world) (subscriptions : Subscriptions env world) :
    wp (processEvent (grpc env) unary completion) (fun _ => Subscriptions env)
      (fun _ => Subscriptions env) world := by
  refine event_keeps (dispatch_other env completion other) (any_manners_allow completion)
    subscriptions (fun admitted => ?_) fun after kept =>
      kept.transport ((Quiet.refl after).note fun _ _ => rfl)
  have pending := admitted_pending admitted
  have unheard : Unseen (.delivered unary completion world.streamShut world.unaryShut) →
      Subscriptions env (world.deliver unary completion) := fun unseen =>
    subscriptions.transport (fill_buffer_quiet completion
      (((Quiet.refl world).take _ _).note unseen))
  cases completion with
  | unary received => exact unheard fun _ _ => rfl
  | stream kind received =>
      by_cases slot : received.slot = .read
      · cases unary with
        | true =>
            obtain ⟨origin, id, own, _⟩ := wired.unaryOwned _ pending
            cases own
        | false =>
            have engaged := deliver_engages subscriptions received slot pending
            rw [Phase.completed, if_neg (by simp [other kind received rfl slot])] at engaged
            exact engaged.rest trivial rfl
      · exact unheard fun _ _ => by simp [observe, slot]

theorem event_subscriptions (unary : Bool) (completion : Completion) (wired : Wired world)
    (subscriptions : Subscriptions env world) :
    wp (processEvent (grpc env) unary completion) (fun _ => Subscriptions env)
      (fun _ => Subscriptions env) world := by
  by_cases message : ∃ (kind : StreamKind) (received : StreamCompletion kind),
      completion = .stream kind received ∧ received.slot = .read ∧ received.ok = true
  · obtain ⟨kind, received, rfl, slot, ok⟩ := message
    cases unary with
    | false => exact message_event received slot ok wired subscriptions
    | true => exact stream_tag_on_unary wired subscriptions
  · refine other_event unary completion ?_ wired subscriptions
    intro kind received same slot
    by_contra ok
    exact message ⟨kind, received, same, slot, by simpa using ok⟩

/-! ## Runs -/

theorem finish_subscriptions (kind : StreamKind) :
    Keeps (Subscriptions env) (fun _ => Subscriptions env) (finish kind) := by
  intro world subscriptions
  apply finish_rule kind
  · exact fun _ => subscriptions
  · intro _ _
    have quiet : Quiet world (world.note (.tryCancel kind (world.state kind).subscription)) :=
      (Quiet.refl world).note fun _ _ => rfl
    exact subscriptions.transport (quiet.setState kind _)
  · intro _ queue _
    refine subscriptions.transport (((Quiet.refl world).put queue _ ?_).setState kind _)
    intro other number same
    cases same
  · exact fun _ _ => subscriptions

theorem queue_subscriptions (env : Env) (unary : Bool) :
    QueueKeptOver (grpc env) unary anyManners Wired (Subscriptions env)
      (fun _ => Subscriptions env) where
  waiting _ _ subscriptions := subscriptions
  unfinished _ _ subscriptions := subscriptions
  event completion _ _ wired subscriptions := event_subscriptions unary completion wired subscriptions
  finish _ kind world _ subscriptions := finish_subscriptions kind world subscriptions
  shutdown world _ subscriptions _ := subscriptions.transport ((Quiet.refl world).shutdown _)
  draining world subscriptions :=
    subscriptions.transport ((Quiet.refl world).note fun _ _ => rfl)
  finishAgain world subscriptions :=
    subscriptions.transport ((Quiet.refl world).note fun _ _ => rfl)
  verdict _ world subscriptions :=
    subscriptions.transport ((Quiet.refl world).note fun _ _ => rfl)

theorem reinitialize_unary_client_subscriptions (env : Env) (client : UnaryClient) :
    Keeps (Subscriptions env) (fun _ => Subscriptions env) (reinitializeUnaryClient env client) := by
  intro world subscriptions
  rw [reinitializeUnaryClient, wp_bind]
  refine wp_client_checks env ?_ fun _ => subscriptions
  simp only [wp_bind, wp_fresh, wp_modify]
  exact subscriptions.transport ⟨fun _ _ => rfl, fun _ _ _ => Nat.le_refl _, Nat.le_succ _⟩

theorem reinitialize_unary_subscriptions (env : Env) :
    Keeps (Subscriptions env) (fun _ => Subscriptions env) (reinitializeUnary env) := by
  intro world subscriptions
  rw [reinitializeUnary, wp_bind, wp_new_queue, wp_bind, wp_modify]
  exact keeps_each (fun client _ => reinitialize_unary_client_subscriptions env client)
    (renewUnary world) (subscriptions.transport (renew_unary_quiet world))

/-- A client with a callback opens a subscription nobody used before. -/
theorem construct_stream_subscriptions (env : Env) (kind : StreamKind)
    (callback : Option CallbackId) :
    Keeps (Subscriptions env) (fun _ => Subscriptions env) (constructStream env kind callback) := by
  intro world subscriptions
  have built : Quiet world (newClient kind callback world) :=
    ⟨fun _ _ => rfl, fun _ _ _ => Nat.le_refl _, Nat.le_succ _⟩
  apply wp_construct_stream env kind callback (fun _ => subscriptions)
  · intro _
    have number : ((newClient kind callback world).state kind).subscription = world.next := by
      rw [World.state, new_client_same]
    have unopened := subscriptions.fresh kind world.next (Nat.le_refl _)
    have engaged : Engaged env kind world.next .unopened (newClient kind callback world) := by
      have after := subscriptions.transport built
      exact ⟨fun other number _ => after.stands other number, unopened.follows,
        unopened.unread.transport (built.reads kind world.next), Nat.lt_succ_self _, after.fresh⟩
    refine @subscribed_read_rule (Engaged env kind world.next .unopened) (Subscriptions env) env
      kind (newClient kind callback world) ?_ ?_ ?_ ?_
    · exact engaged.transport (((Quiet.refl _).setState kind _).note fun _ _ => rfl)
    · intro slot after start _ engaged
      refine engaged.transport ((Quiet.refl after).put _ _ fun other number same => ?_)
      cases same
      exact start rfl
    · intro after engaged
      exact engaged.transport ((Quiet.refl after).note fun _ _ => by simp [observe])
    · intro after _ engaged
      rw [number]
      exact engaged.read .opens _
  · intro _
    exact subscriptions.transport (built.setState kind _)

theorem reinitialize_stream_subscriptions (env : Env) :
    Keeps (Subscriptions env) (fun _ => Subscriptions env) (reinitializeStream env) := by
  intro world subscriptions
  rw [reinitializeStream, wp_bind, wp_new_queue, wp_bind, wp_modify]
  exact keeps_each (fun kind _ => keeps_read fun after subscriptions =>
    construct_stream_subscriptions env kind _ after subscriptions) (renewStream world)
      (subscriptions.transport (renew_stream_quiet world))

theorem actions_subscriptions (env : Env) :
    ActionsKeptOver (grpc env) anyManners Wired (Subscriptions env)
      (fun _ => Subscriptions env) where
  queue unary := queue_subscriptions env unary
  call call _ world _ subscriptions := call_subscriptions env .direct call world subscriptions
  reinitializeUnary world _ subscriptions :=
    reinitialize_unary_subscriptions env world subscriptions
  reinitializeStream world _ subscriptions :=
    reinitialize_stream_subscriptions env world subscriptions
  exited _ subscriptions := subscriptions
  resumes _ subscriptions := subscriptions

theorem construct_subscriptions (env : Env) (callbacks : IVIStreamCallbacks)
    (connection : IVIConnection) :
    wp (construct env callbacks) (fun _ => Subscriptions env) (fun _ => Subscriptions env)
      (World.before connection) :=
  construct_keeps (reinitialize_unary_client_subscriptions env)
    (fun kind => construct_stream_subscriptions env kind (callbacks kind)) (World.before connection)
    ⟨fun _ _ => ⟨.unopened, .empty, trivial, fun _ => rfl⟩, fun _ _ _ => ⟨.empty, fun _ => rfl⟩⟩

theorem reached_subscriptions {connection : IVIConnection} {callbacks : IVIStreamCallbacks}
    {actions : List Action} {replies : List Reply}
    (distinct : connection.streamQueue ≠ connection.unaryQueue)
    (reached : Reached (grpc env) connection callbacks actions replies world) :
    Wired world ∧ Subscriptions env world :=
  reached_over_wired distinct (construct_subscriptions env callbacks connection)
    (actions_subscriptions env) (fun action _ => any_action_allowed action) reached

/-! ## Reads pend exactly while the machine listens -/

theorem observe_issues (kind : StreamKind) (subscription : Nat) (event : Event) :
    (observe kind subscription event).any issues = starts (readTag kind subscription) event := by
  cases event with
  | started queue shut tag =>
      by_cases own : tag = readTag kind subscription <;> simp [observe, starts, own, issues]
  | delivered unary completion streamShut unaryShut =>
      cases completion with
      | unary completion => rfl
      | stream other completion =>
          simp only [observe, starts]
          split
          · by_cases same : other = kind
            · subst same
              cases completion.ok <;> simp [of_kind_same, issues]
            · simp [of_kind_other _ same]
          · rfl
  | update other number value =>
      simp only [observe, starts]
      split
      · by_cases same : other = kind
        · subst same
          cases value <;> simp [of_kind_same, issues]
        · cases value <;> simp [of_kind_other _ same]
      · rfl
  | _ => rfl

theorem observe_completes (kind : StreamKind) (subscription : Nat) (event : Event)
    (polled : ∀ unary tag, event ≠ .collected unary tag) :
    (observe kind subscription event).any completes =
      handsOut (readTag kind subscription) event := by
  cases event with
  | started queue shut tag =>
      by_cases own : tag = readTag kind subscription <;>
        simp [observe, handsOut, own, completes]
  | delivered unary completion streamShut unaryShut =>
      cases completion with
      | unary completion => simp [observe, handsOut, Completion.tag, readTag]
      | stream other completion =>
          simp only [observe, handsOut, Completion.tag, readTag, Tag.stream.injEq]
          by_cases same : other = kind
          · subst same
            split
            · next own =>
                cases completion.ok <;> simp [of_kind_same, completes, own]
            · next differs =>
                simp [differs]
          · split <;> simp [of_kind_other _ same, same]
  | update other number value =>
      simp only [observe, handsOut]
      split
      · by_cases same : other = kind
        · subst same
          cases value <;> simp [of_kind_same, completes]
        · cases value <;> simp [of_kind_other _ same]
      · rfl
  | collected unary tag => exact absurd rfl (polled unary tag)
  | _ => rfl

/-- As many reads pend as the machine of their subscription awaits. -/
theorem reads_outstanding (conserved : Conserved world) (uncollected : Uncollected world)
    (follows : Follows env kind (trace kind subscription world.log) phase) :
    pendingAnywhere (readTag kind subscription) world = phase.outstanding := by
  have issued : (trace kind subscription world.log).countP issues =
      started (readTag kind subscription) world := by
    refine (count_observed _ _ _).trans (List.countP_congr fun event _ => ?_)
    rw [observe_issues]
  have completed : (trace kind subscription world.log).countP completes =
      handedOut (readTag kind subscription) world := by
    refine (count_observed _ _ _).trans (List.countP_congr fun event member => ?_)
    rw [observe_completes kind subscription event fun unary tag same =>
      uncollected unary tag (same ▸ member)]
  have balance := conserved.balance (readTag kind subscription)
  have awaited := reads_balanced follows
  omega

/-- One queue holds the tag, and holds it once. -/
def PendsOnce (tag : Tag) (world : World) : Prop :=
  ∃ queue, (world.pending queue).count tag = 1 ∧ ∀ other, other ≠ queue → tag ∉ world.pending other

/-- A read pends once while its subscription listens, and not at all otherwise. -/
def Awaits {kind : StreamKind} : Phase kind → Tag → World → Prop
  | .listening => PendsOnce
  | _ => Nowhere

theorem pends_once_of_total {tag : Tag} (once : AtMostOnce tag world)
    (total : pendingAnywhere tag world = 1) : PendsOnce tag world := by
  obtain ⟨place, bound⟩ := once
  have present : pendingAnywhere tag world ≠ 0 := by omega
  obtain ⟨queue, _, holds⟩ := Finset.exists_ne_zero_of_sum_ne_zero present
  have here : queue = place := by
    by_contra elsewhere
    have none := bound queue
    rw [if_neg elsewhere] at none
    omega
  subst here
  refine ⟨queue, ?_, fun other differs member => ?_⟩
  · have one := bound queue
    rw [if_pos rfl] at one
    omega
  · have none := bound other
    rw [if_neg differs] at none
    have present := List.count_pos_iff.mpr member
    omega

/-- The machine of a subscription rests, and its read pends where the phase says. -/
def Refines (env : Env) (kind : StreamKind) (subscription : Nat) (world : World) : Prop :=
  ∃ phase, Follows env kind (trace kind subscription world.log) phase ∧ phase.Rests ∧
    Awaits phase (readTag kind subscription) world

theorem Stands.refines (stands : Stands env kind subscription world)
    (conserved : Conserved world) (uncollected : Uncollected world) :
    Refines env kind subscription world := by
  obtain ⟨phase, follows, rests, linked⟩ := stands
  have total := reads_outstanding conserved uncollected follows
  refine ⟨phase, follows, rests, ?_⟩
  cases phase with
  | listening => exact pends_once_of_total linked total
  | _ => exact linked

end Manager

/-- The manager refines the machine of every subscription, whatever its callbacks
request, confirm and finish and whether they throw, in both confirmation modes,
while an action runs and however it ends: the log of the subscription leads to a
phase at rest, with a read pending exactly once if it listens and nowhere
otherwise. So the application is handed exactly the messages delivered so far, parsed
and in order, and one read at most is outstanding. -/
theorem subscriptions_follow_protocol (env : Env) (connection : IVIConnection)
    (distinct : connection.streamQueue ≠ connection.unaryQueue) (callbacks : IVIStreamCallbacks)
    (actions : List Action) (replies : List Reply) (world : World)
    (reached : Reached (grpc env) connection callbacks actions replies world) (action : Action)
    (kind : StreamKind) (subscription : Nat) :
    let after := (act (grpc env) action world).world
    Refines env kind subscription after ∧
    (trace kind subscription after.log).filterMap handing =
      ((trace kind subscription after.log).filterMap arrival).map (fromProto kind) ∧
    (trace kind subscription after.log).countP issues ≤
      (trace kind subscription after.log).countP completes + 1 := by
  obtain ⟨wired, subscriptions⟩ := reached_subscriptions distinct reached
  have after : Subscriptions env (act (grpc env) action world).world :=
    wp_world (act_over_wired (actions_subscriptions env) (any_action_allowed action) wired
      subscriptions)
  have conserved : Conserved (act (grpc env) action world).world :=
    (operations_conserved env connection callbacks).acting actions replies world reached action
  have uncollected : Uncollected (act (grpc env) action world).world :=
    (alive_uncollected env connection callbacks).acting actions replies world reached action
  have refines := (after.stands kind subscription).refines conserved uncollected
  obtain ⟨phase, follows, rests, _⟩ := after.stands kind subscription
  refine ⟨refines, ?_, ?_⟩
  · rw [handed_in_order follows, waiting_of_rests rests]
    exact (List.append_nil _).symm
  · rw [reads_balanced follows]
    exact Nat.add_le_add_left phase.outstanding_le _

/-- A message arrives on the item stream, and its callback throws. -/
def throwingSword : Action :=
  .pollStream [{ events := [.stream .item { swordArrives with reaction := { throws := true } }] }]

theorem throwing_callback_follows_protocol :
    newConnection.streamQueue ≠ newConnection.unaryQueue ∧
    ∃ world, Reached (grpc defaultEnv) newConnection itemCallbacks [] [] world ∧
      Refines defaultEnv .item 7 (act (grpc defaultEnv) throwingSword world).world := by
  obtain ⟨world, reached⟩ :=
    @reached_of_replies (grpc defaultEnv) newConnection itemCallbacks [] [] (by decide +kernel)
      (by decide +kernel)
  exact ⟨new_connection_distinct, world, reached,
    (subscriptions_follow_protocol defaultEnv newConnection new_connection_distinct itemCallbacks
      [] [] world reached throwingSword .item 7).1⟩

end IviSdk.SubscriptionProtocol
