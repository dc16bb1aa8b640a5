import IviSdk.QueueWiring

/-!
How a stream call ends. gRPC aborts the program when `Finish` and `TryCancel`
come in the wrong order, and `Finish` of the client is called by the recovery,
by the destructor and by the application. The protocol is a small automaton
whose phases fix both the flags of the client and what the log shows of its
subscription; every call, every completion and every action of the manager
moves along it.
-/

namespace IviSdk.FinishProtocol

open Checks CompletionQueues Streams ManagerWorld Interaction StreamClients ClientManager
open CallbackRules PollRules ManagerRuns QueueWiring

/-! ## The protocol -/

/-- What can be seen of the end of a subscription: `Finish` on its reader,
`TryCancel` on its context, and the tag of the former coming back. -/
inductive FinishStep where
  | finish
  | cancel
  | ack
  deriving DecidableEq

inductive Phase where
  | running
  | finishing
  | acknowledged
  | abandoned
  | drained
  | cancelled
  deriving DecidableEq

namespace Phase

def next : Phase → FinishStep → Option Phase
  | .running, .finish => some .finishing
  | .running, .cancel => some .cancelled
  | .finishing, .cancel => some .abandoned
  | .finishing, .ack => some .acknowledged
  | .abandoned, .ack => some .drained
  | _, _ => none

def trace : Phase → List FinishStep
  | .running => []
  | .finishing => [.finish]
  | .acknowledged => [.finish, .ack]
  | .abandoned => [.finish, .cancel]
  | .drained => [.finish, .cancel, .ack]
  | .cancelled => [.cancel]

def finishCalled : Phase → Bool
  | .running | .cancelled => false
  | _ => true

def finishResponded : Phase → Bool
  | .running | .finishing => false
  | _ => true

/-- The `Finish` operations that have not come back. -/
def outstanding : Phase → Nat
  | .finishing | .abandoned => 1
  | _ => 0

theorem next_trace {phase later : Phase} {step : FinishStep}
    (moved : phase.next step = some later) : later.trace = phase.trace ++ [step] := by
  cases phase <;> cases step <;> cases moved <;> rfl

/-- An acknowledgement is accepted exactly while one is outstanding. -/
theorem acknowledges {phase : Phase} (waiting : 0 < phase.outstanding) :
    ∃ later, phase.next .ack = some later ∧ later.finishCalled = phase.finishCalled ∧
      later.finishResponded = true ∧ later.outstanding + 1 = phase.outstanding := by
  cases phase with
  | finishing => exact ⟨.acknowledged, rfl, rfl, rfl, rfl⟩
  | abandoned => exact ⟨.drained, rfl, rfl, rfl, rfl⟩
  | _ => cases waiting

/-- A call can be cancelled as long as it has not ended. -/
theorem cancels {phase : Phase} (open_call : phase.finishResponded = false) :
    ∃ later, phase.next .cancel = some later ∧ later.finishCalled = phase.finishCalled ∧
      later.finishResponded = true ∧ later.outstanding = phase.outstanding := by
  cases phase with
  | running => exact ⟨.cancelled, rfl, rfl, rfl, rfl⟩
  | finishing => exact ⟨.abandoned, rfl, rfl, rfl, rfl⟩
  | _ => cases open_call

theorem running_of_flags {phase : Phase} (open_call : phase.finishResponded = false)
    (uncalled : phase.finishCalled = false) : phase = .running := by
  cases phase with
  | running => rfl
  | finishing => cases uncalled
  | _ => cases open_call

end Phase

/-- The orders gRPC demands. -/
structure SafeTrace (trace : List FinishStep) : Prop where
  finishOnce : trace.count .finish ≤ 1
  cancelOnce : trace.count .cancel ≤ 1
  noFinishAfterCancel : ¬ [FinishStep.cancel, .finish].Sublist trace
  noCancelAfterAck : ¬ [FinishStep.ack, .cancel].Sublist trace

theorem phase_safe (phase : Phase) : SafeTrace phase.trace := by
  cases phase with
  | running => constructor <;> decide
  | finishing => constructor <;> decide
  | acknowledged => constructor <;> decide
  | abandoned => constructor <;> decide
  | drained => constructor <;> decide
  | cancelled => constructor <;> decide

/-! ## Clients in a phase -/

def finishStep (kind : StreamKind) (subscription : Nat) : Event → Option FinishStep
  | .started _ _ (.stream other started .finish) =>
      if other = kind ∧ started = subscription then some .finish else none
  | .tryCancel other cancelled =>
      if other = kind ∧ cancelled = subscription then some .cancel else none
  | .delivered _ (.stream other completion) _ _ =>
      if other = kind ∧ completion.subscription = subscription ∧ completion.slot = .finish then
        some .ack
      else none
  | _ => none

def finishTrace (kind : StreamKind) (subscription : Nat) : List Event → List FinishStep :=
  observed (finishStep kind subscription)

/-- The numbers not yet given out belong to no subscription of the client. -/
structure Unused (kind : StreamKind) (world : World) : Prop where
  queue : world.connection.streamQueue < world.next
  current : (world.state kind).subscription < world.next
  tags : ∀ queue subscription slot, world.next ≤ subscription →
    Tag.stream kind subscription slot ∉ world.pending queue
  traces : ∀ subscription, world.next ≤ subscription →
    finishTrace kind subscription world.log = []

/-- A subscribed client reads from the stream queue, and its tags are there. -/
structure Placed (kind : StreamKind) (world : World) : Prop where
  reader : (world.state kind).updateReader =
    (world.streams kind).callback.map fun _ => world.connection.streamQueue
  tags : ∀ queue slot, world.tagOf kind slot ∈ world.pending queue →
    queue = world.connection.streamQueue ∧ (world.streams kind).callback.isSome = true

/-- The flags, the log and the queue of a client agree with a phase. -/
structure Follows (kind : StreamKind) (phase : Phase) (world : World) : Prop where
  trace : finishTrace kind (world.state kind).subscription world.log = phase.trace
  called : (world.state kind).finishCalled = phase.finishCalled
  responded : (world.state kind).finishResponded =
    ((world.streams kind).callback.isNone || phase.finishResponded)
  outstanding : (world.pending world.connection.streamQueue).count (world.tagOf kind .finish) ≤
    phase.outstanding

structure Protocol (kind : StreamKind) (world : World) : Prop where
  unused : Unused kind world
  placed : Placed kind world
  phase : ∃ phase, Follows kind phase world

/-- The tags that pend for a client are of its current subscription. -/
def NoneStale (kind : StreamKind) (world : World) : Prop :=
  ∀ queue subscription slot, Tag.stream kind subscription slot ∈ world.pending queue →
    subscription = (world.state kind).subscription

theorem protocol_safe {kind : StreamKind} {world : World} (protocol : Protocol kind world) :
    SafeTrace (finishTrace kind (world.state kind).subscription world.log) := by
  obtain ⟨phase, follows⟩ := protocol.phase
  rw [follows.trace]
  exact phase_safe phase

/-! ## What leaves a client alone -/

/-- Nothing happened that the protocol of this client sees. Its operations other
than `Finish` may have been started. -/
structure Aside (kind : StreamKind) (before after : World) : Prop where
  queue : after.connection.streamQueue = before.connection.streamQueue
  next : before.next ≤ after.next
  callback : (after.streams kind).callback = (before.streams kind).callback
  subscription : (after.state kind).subscription = (before.state kind).subscription
  reader : (after.state kind).updateReader = (before.state kind).updateReader
  called : (after.state kind).finishCalled = (before.state kind).finishCalled
  responded : (after.state kind).finishResponded = (before.state kind).finishResponded
  tags : ∀ queue subscription slot, Tag.stream kind subscription slot ∈ after.pending queue →
    Tag.stream kind subscription slot ∈ before.pending queue ∨
      (queue = before.connection.streamQueue ∧
        subscription = (before.state kind).subscription ∧
        (before.streams kind).callback.isSome = true)
  finishes : ∀ queue subscription, (after.pending queue).count (.stream kind subscription .finish) ≤
    (before.pending queue).count (.stream kind subscription .finish)
  traces : ∀ subscription, finishTrace kind subscription after.log =
    finishTrace kind subscription before.log

variable {kind : StreamKind} {before after world : World}

theorem Unused.aside (unused : Unused kind before) (aside : Aside kind before after) :
    Unused kind after where
  queue := by
    rw [aside.queue]
    exact Nat.lt_of_lt_of_le unused.queue aside.next
  current := by
    rw [aside.subscription]
    exact Nat.lt_of_lt_of_le unused.current aside.next
  tags queue subscription slot later member := by
    rcases aside.tags queue subscription slot member with old | ⟨_, same, _⟩
    · exact unused.tags queue subscription slot (Nat.le_trans aside.next later) old
    · have current := unused.current
      have next := aside.next
      omega
  traces subscription later := by
    rw [aside.traces]
    exact unused.traces subscription (Nat.le_trans aside.next later)

theorem Placed.aside (placed : Placed kind before) (aside : Aside kind before after) :
    Placed kind after where
  reader := by rw [aside.reader, aside.callback, aside.queue, placed.reader]
  tags queue slot member := by
    rw [World.tagOf, aside.subscription] at member
    rw [aside.queue, aside.callback]
    rcases aside.tags queue _ slot member with old | ⟨known, _, subscribed⟩
    · exact placed.tags queue slot old
    · exact ⟨known, subscribed⟩

theorem Follows.aside {phase : Phase} (follows : Follows kind phase before)
    (aside : Aside kind before after) : Follows kind phase after where
  trace := by rw [aside.subscription, aside.traces, follows.trace]
  called := by rw [aside.called, follows.called]
  responded := by rw [aside.responded, aside.callback, follows.responded]
  outstanding := by
    rw [World.tagOf, aside.subscription, aside.queue]
    exact Nat.le_trans (aside.finishes _ _) follows.outstanding

theorem Protocol.aside (protocol : Protocol kind before) (aside : Aside kind before after) :
    Protocol kind after := by
  obtain ⟨phase, follows⟩ := protocol.phase
  exact ⟨protocol.unused.aside aside, protocol.placed.aside aside, phase, follows.aside aside⟩

theorem NoneStale.aside (current : NoneStale kind before) (aside : Aside kind before after) :
    NoneStale kind after := by
  intro queue subscription slot member
  rw [aside.subscription]
  rcases aside.tags queue subscription slot member with old | ⟨_, same, _⟩
  · exact current queue subscription slot old
  · exact same

namespace Aside

theorem refl (kind : StreamKind) (world : World) : Aside kind world world :=
  ⟨rfl, Nat.le_refl _, rfl, rfl, rfl, rfl, rfl, fun _ _ _ member => .inl member,
    fun _ _ => Nat.le_refl _, fun _ => rfl⟩

theorem trans {middle : World} (first : Aside kind before middle)
    (second : Aside kind middle after) : Aside kind before after where
  queue := second.queue.trans first.queue
  next := Nat.le_trans first.next second.next
  callback := second.callback.trans first.callback
  subscription := second.subscription.trans first.subscription
  reader := second.reader.trans first.reader
  called := second.called.trans first.called
  responded := second.responded.trans first.responded
  tags queue subscription slot member := by
    rcases second.tags queue subscription slot member with old | ⟨known, same, subscribed⟩
    · exact first.tags queue subscription slot old
    · right
      rw [first.queue] at known
      rw [first.subscription] at same
      rw [first.callback] at subscribed
      exact ⟨known, same, subscribed⟩
  finishes queue subscription :=
    Nat.le_trans (second.finishes queue subscription) (first.finishes queue subscription)
  traces subscription := (second.traces subscription).trans (first.traces subscription)

theorem note (aside : Aside kind before world) {event : Event}
    (unseen : ∀ subscription, finishStep kind subscription event = none) :
    Aside kind before (world.note event) :=
  aside.trans ⟨rfl, Nat.le_refl _, rfl, rfl, rfl, rfl, rfl, fun _ _ _ member => .inl member,
    fun _ _ => Nat.le_refl _, fun subscription => observed_none (unseen subscription) world.log⟩

/-- A change of what the protocol does not look at. -/
theorem setState (aside : Aside kind before world) (other : StreamKind)
    (change : StreamState other → StreamState other)
    (subscription : ∀ state, (change state).subscription = state.subscription)
    (reader : ∀ state, (change state).updateReader = state.updateReader)
    (called : ∀ state, (change state).finishCalled = state.finishCalled)
    (responded : ∀ state, (change state).finishResponded = state.finishResponded) :
    Aside kind before (world.setState other change) := by
  refine aside.trans ⟨rfl, Nat.le_refl _, set_state_callback _ _ _ _, ?_, ?_, ?_, ?_,
    fun _ _ _ member => .inl member, fun _ _ => Nat.le_refl _, fun _ => rfl⟩
  all_goals
    by_cases same : kind = other
    · subst other
      rw [set_state_same]
      first
        | exact subscription _
        | exact reader _
        | exact called _
        | exact responded _
    · rw [World.state, set_state_other world other change kind same, World.state]

theorem setOther (aside : Aside kind before world) {other : StreamKind} (differs : kind ≠ other)
    (change : StreamState other → StreamState other) :
    Aside kind before (world.setState other change) := by
  have same := set_state_other world other change kind differs
  refine aside.trans ⟨rfl, Nat.le_refl _, set_state_callback _ _ _ _, ?_, ?_, ?_, ?_,
    fun _ _ _ member => .inl member, fun _ _ => Nat.le_refl _, fun _ => rfl⟩
  all_goals rw [World.state, same, World.state]

theorem take (aside : Aside kind before world) (queue : QueueId) (tag : Tag) :
    Aside kind before (world.take queue tag) := by
  refine aside.trans ⟨rfl, Nat.le_refl _, rfl, rfl, rfl, rfl, rfl, ?_, ?_, fun _ => rfl⟩
  · intro other subscription slot member
    exact .inl (take_subset queue other tag _ member)
  · intro other subscription
    rw [take_pending]
    split
    · next same =>
        rw [same]
        exact List.Sublist.count_le _ List.erase_sublist
    · exact Nat.le_refl _

theorem shutdown (aside : Aside kind before world) (queue : QueueId) :
    Aside kind before (world.shutdown queue) := by
  refine aside.trans ⟨rfl, Nat.le_refl _, rfl, rfl, rfl, rfl, rfl, ?_, ?_,
    fun _ => observed_none rfl world.log⟩
  · intro other subscription slot member
    rw [shutdown_pending] at member
    exact .inl member
  · intro other subscription
    exact Nat.le_of_eq (congrArg _ (shutdown_pending _ _ _))

/-- An operation is started that is not a `Finish` of the client. -/
theorem put (aside : Aside kind before world) (queue : QueueId) (tag : Tag)
    (allowed : ∀ subscription slot, tag = .stream kind subscription slot →
      slot ≠ .finish ∧ queue = world.connection.streamQueue ∧
        subscription = (world.state kind).subscription ∧
        (world.streams kind).callback.isSome = true) :
    Aside kind before (world.put queue tag) := by
  have other_finish : ∀ subscription, tag ≠ .stream kind subscription .finish :=
    fun subscription same => (allowed subscription .finish same).1 rfl
  refine aside.trans ⟨rfl, Nat.le_refl _, rfl, rfl, rfl, rfl, rfl, ?_, ?_, ?_⟩
  · intro other subscription slot member
    rw [put_pending] at member
    split at member
    · next same =>
        rcases List.mem_cons.mp member with new | old
        · exact .inr (same ▸ (allowed subscription slot new.symm).2)
        · exact .inl (same ▸ old)
    · exact .inl member
  · intro other subscription
    rw [put_pending]
    split
    · next same =>
        rw [same]
        exact Nat.le_of_eq (List.count_cons_of_ne (other_finish subscription))
    · exact Nat.le_refl _
  · intro subscription
    refine observed_none ?_ world.log
    cases tag with
    | unary origin id => rfl
    | stream other started slot =>
        cases slot with
        | finish =>
            simp only [finishStep]
            rw [if_neg]
            rintro ⟨rfl, rfl⟩
            exact other_finish started rfl
        | _ => rfl

theorem putOther (aside : Aside kind before world) {other : StreamKind} (differs : kind ≠ other)
    (queue : QueueId) (subscription : Nat) (slot : Slot) :
    Aside kind before (world.put queue (.stream other subscription slot)) := by
  apply aside.put queue
  intro _ _ same
  cases same
  exact absurd rfl differs

theorem counted (aside : Aside kind before world) (stubs : UnaryClient → Nat) :
    Aside kind before { world with next := world.next + 1, stubs := stubs } :=
  aside.trans ⟨rfl, Nat.le_succ _, rfl, rfl, rfl, rfl, rfl, fun _ _ _ member => .inl member,
    fun _ _ => Nat.le_refl _, fun _ => rfl⟩

theorem allocate (aside : Aside kind before world) (origin : Origin) :
    Aside kind before (allocate origin world) :=
  (aside.counted world.stubs).put _ _ fun _ _ never => nomatch never

/-- Another client is replaced. -/
theorem newClient (aside : Aside kind before world) {other : StreamKind} (differs : kind ≠ other)
    (callback : Option CallbackId) : Aside kind before (newClient other callback world) := by
  have same := @new_client_state world other kind callback differs
  refine aside.trans ⟨rfl, Nat.le_succ _, ?_, ?_, ?_, ?_, ?_, fun _ _ _ member => .inl member,
    fun _ _ => Nat.le_refl _, fun _ => rfl⟩
  · rw [same]
  · rw [World.state, same, World.state]
  · rw [World.state, same, World.state]
  · rw [World.state, same, World.state]
  · rw [World.state, same, World.state]

end Aside

/-! ## Tags of earlier subscriptions -/

namespace NoneStale

theorem note (current : NoneStale kind world) (event : Event) :
    NoneStale kind (world.note event) := current

theorem put (current : NoneStale kind world) (queue : QueueId) (tag : Tag)
    (own : ∀ subscription slot, tag = .stream kind subscription slot →
      subscription = (world.state kind).subscription) : NoneStale kind (world.put queue tag) := by
  intro other subscription slot member
  rw [put_pending] at member
  split at member
  · rcases List.mem_cons.mp member with new | old
    · exact own subscription slot new.symm
    · exact current _ subscription slot old
  · exact current _ subscription slot member

/-- An operation is started on some reader. -/
theorem putOwn (current : NoneStale kind world) (queue : QueueId) (other : StreamKind)
    (slot : Slot) : NoneStale kind (world.put queue (world.tagOf other slot)) := by
  apply current.put queue
  intro subscription _ same
  cases same
  rfl

theorem setState (current : NoneStale kind world) (other : StreamKind)
    (change : StreamState other → StreamState other)
    (subscription : ∀ state, (change state).subscription = state.subscription) :
    NoneStale kind (world.setState other change) := by
  intro queue stale slot member
  have same : ((world.setState other change).state kind).subscription =
      (world.state kind).subscription := by
    by_cases own : kind = other
    · subst other
      rw [set_state_same, subscription]
    · rw [World.state, set_state_other world other change kind own, World.state]
  rw [same]
  exact current queue stale slot member

theorem allocate (current : NoneStale kind world) (origin : Origin) :
    NoneStale kind (allocate origin world) :=
  current.aside ((Aside.refl kind world).allocate origin)

end NoneStale

/-! ## Finish -/

theorem finish_trace_some {subscription : Nat} {event : Event} {step : FinishStep}
    (seen : finishStep kind subscription event = some step) (log : List Event) :
    finishTrace kind subscription (event :: log) = finishTrace kind subscription log ++ [step] :=
  observed_some seen log

/-- An event of a subscription that exists is no trace of one that does not. -/
theorem Unused.event (unused : Unused kind world) {event : Event}
    (known : ∀ subscription step, finishStep kind subscription event = some step →
      subscription < world.next) : Unused kind (world.note event) where
  queue := unused.queue
  current := unused.current
  tags := unused.tags
  traces subscription later := by
    have unseen : finishStep kind subscription event = none := by
      cases seen : finishStep kind subscription event with
      | none => rfl
      | some step => exact absurd (known subscription step seen) (Nat.not_lt.mpr later)
    exact (observed_none unseen world.log).trans (unused.traces subscription later)

/-- A step of the protocol ends with a flag being set. -/
theorem protocol_of_marked {change : StreamState kind → StreamState kind} {phase : Phase}
    (subscription : ∀ state, (change state).subscription = state.subscription)
    (reader : ∀ state, (change state).updateReader = state.updateReader)
    (unused : Unused kind world) (placed : Placed kind world)
    (trace : finishTrace kind (world.state kind).subscription world.log = phase.trace)
    (called : (change (world.state kind)).finishCalled = phase.finishCalled)
    (responded : (change (world.state kind)).finishResponded =
      ((world.streams kind).callback.isNone || phase.finishResponded))
    (outstanding : (world.pending world.connection.streamQueue).count (world.tagOf kind .finish) ≤
      phase.outstanding) : Protocol kind (world.setState kind change) := by
  have same : ((world.setState kind change).state kind).subscription =
      (world.state kind).subscription := by
    rw [set_state_same, subscription]
  have tags : ∀ slot, (world.setState kind change).tagOf kind slot = world.tagOf kind slot := by
    intro slot
    rw [World.tagOf, same, World.tagOf]
  refine ⟨⟨unused.queue, ?_, unused.tags, unused.traces⟩, ⟨?_, ?_⟩, phase, ?_, ?_, ?_, ?_⟩
  · rw [same]
    exact unused.current
  · rw [set_state_same, reader, set_state_callback]
    exact placed.reader
  · intro queue slot member
    rw [tags] at member
    rw [set_state_callback]
    exact placed.tags queue slot member
  · rw [same]
    exact trace
  · rw [set_state_same]
    exact called
  · rw [set_state_same, set_state_callback]
    exact responded
  · rw [tags]
    exact outstanding

/-- A client whose call has not ended has a callback. -/
theorem Follows.open_call {phase : Phase} (follows : Follows kind phase world)
    (open_call : (world.state kind).finishResponded = false) :
    (world.streams kind).callback.isSome = true ∧ phase.finishResponded = false := by
  have responded := follows.responded
  rw [open_call, eq_comm, Bool.or_eq_false_iff] at responded
  refine ⟨?_, responded.2⟩
  rw [← Option.not_isNone, responded.1]
  rfl

/-- `TryCancel`, and the flag that goes with it. -/
theorem Protocol.cancel (protocol : Protocol kind world)
    (open_call : (world.state kind).finishResponded = false) :
    Protocol kind ((world.note (.tryCancel kind (world.state kind).subscription)).setState kind
      ({ · with finishResponded := true })) := by
  obtain ⟨phase, follows⟩ := protocol.phase
  obtain ⟨later, moved, called, ended, outstanding⟩ := Phase.cancels (follows.open_call open_call).2
  have seen : finishStep kind (world.state kind).subscription
      (.tryCancel kind (world.state kind).subscription) = some .cancel := by
    simp [finishStep]
  have noted : Unused kind (world.note (.tryCancel kind (world.state kind).subscription)) := by
    apply protocol.unused.event
    intro subscription step found
    simp only [finishStep] at found
    split at found
    · next same =>
        rw [← same.2]
        exact protocol.unused.current
    · cases found
  refine @protocol_of_marked _ _ _ later (fun _ => rfl) (fun _ => rfl) noted
    ⟨protocol.placed.reader, protocol.placed.tags⟩ ?_ ?_ ?_ ?_
  · refine (finish_trace_some seen world.log).trans ?_
    rw [follows.trace, Phase.next_trace moved]
  · exact follows.called.trans called.symm
  · rw [ended, Bool.or_true]
  · rw [outstanding]
    exact follows.outstanding

/-- `Finish` on the reader, and the flag that goes with it. -/
theorem Protocol.finishes (protocol : Protocol kind world)
    (open_call : (world.state kind).finishResponded = false)
    (uncalled : (world.state kind).finishCalled = false) :
    Protocol kind ((world.put world.connection.streamQueue (world.tagOf kind .finish)).setState kind
      ({ · with finishCalled := true })) := by
  obtain ⟨phase, follows⟩ := protocol.phase
  obtain ⟨subscribed, unended⟩ := follows.open_call open_call
  have running := Phase.running_of_flags unended (follows.called.symm.trans uncalled)
  subst running
  have known := protocol.unused.current
  have step : ∀ subscription, finishStep kind subscription
      (.started world.connection.streamQueue (world.queues world.connection.streamQueue).shut
        (world.tagOf kind .finish)) =
      if subscription = (world.state kind).subscription then some .finish else none := by
    intro subscription
    simp only [finishStep, World.tagOf, true_and, eq_comm]
  have unused : Unused kind
      (world.put world.connection.streamQueue (world.tagOf kind .finish)) := by
    refine ⟨protocol.unused.queue, known, ?_, ?_⟩
    · intro queue subscription slot later member
      rw [put_pending] at member
      split at member
      · rcases List.mem_cons.mp member with new | old
        · simp only [World.tagOf, Tag.stream.injEq, true_and] at new
          have later : world.next ≤ subscription := later
          omega
        · exact protocol.unused.tags _ subscription slot later old
      · exact protocol.unused.tags _ subscription slot later member
    · intro subscription later
      have later : world.next ≤ subscription := later
      refine (observed_none ?_ world.log).trans (protocol.unused.traces subscription later)
      rw [step, if_neg (by omega)]
  have placed : Placed kind
      (world.put world.connection.streamQueue (world.tagOf kind .finish)) := by
    refine ⟨protocol.placed.reader, ?_⟩
    intro queue slot member
    rw [put_pending] at member
    split at member
    · next same => exact ⟨same, subscribed⟩
    · exact protocol.placed.tags queue slot member
  refine @protocol_of_marked _ _ _ .finishing (fun _ => rfl) (fun _ => rfl) unused placed ?_ rfl
    follows.responded ?_
  · have finishes : finishStep kind (world.state kind).subscription
        (.started world.connection.streamQueue (world.queues world.connection.streamQueue).shut
          (world.tagOf kind .finish)) = some .finish := by
      rw [step, if_pos rfl]
    refine (finish_trace_some finishes world.log).trans ?_
    exact congrArg (· ++ [FinishStep.finish]) follows.trace
  · change ((world.put world.connection.streamQueue (world.tagOf kind .finish)).pending
      world.connection.streamQueue).count (world.tagOf kind .finish) ≤ 1
    rw [put_pending, if_pos rfl, List.count_cons_self]
    exact Nat.succ_le_succ follows.outstanding

/-- A client with a callback has a reader. -/
theorem Placed.reading (placed : Placed kind world)
    (subscribed : (world.streams kind).callback.isSome = true) :
    (world.state kind).updateReader = some world.connection.streamQueue := by
  rw [placed.reader]
  cases callback : (world.streams kind).callback with
  | none => simp [callback] at subscribed
  | some id => rfl

theorem Placed.reads (placed : Placed kind world) {queue : QueueId}
    (reader : (world.state kind).updateReader = some queue) :
    queue = world.connection.streamQueue ∧ (world.streams kind).callback.isSome = true := by
  rw [placed.reader] at reader
  cases callback : (world.streams kind).callback with
  | none => simp [callback] at reader
  | some id =>
      simp only [callback, Option.map_some, Option.some.injEq] at reader
      exact ⟨reader.symm, rfl⟩

theorem finish_own (kind : StreamKind) :
    Keeps (Protocol kind) (fun _ _ => False) (finish kind) := by
  intro world protocol
  apply finish_rule kind
  · exact fun _ => protocol
  · exact fun unanswered _ => protocol.cancel unanswered
  · intro asking queue reader
    obtain ⟨known, _⟩ := protocol.placed.reads reader
    rw [known]
    exact protocol.finishes asking.unanswered asking.uncalled
  · intro asking missing
    obtain ⟨phase, follows⟩ := protocol.phase
    rw [protocol.placed.reading (follows.open_call asking.unanswered).1] at missing
    cases missing

theorem finish_aside {other : StreamKind} (differs : kind ≠ other) (world : World) :
    wp (finish other) (fun _ => Aside kind world) (fun _ => Aside kind world) world := by
  have same := Aside.refl kind world
  apply finish_rule other
  · exact fun _ => same
  · intro _ _
    refine (same.note fun subscription => ?_).setOther differs _
    simp only [finishStep]
    rw [if_neg fun both => differs both.1.symm]
  · intro _ queue _
    exact (same.putOther differs _ _ _).setOther differs _
  · exact fun _ _ => same

theorem finish_protocol (kind other : StreamKind) :
    Keeps (Protocol kind) (fun _ => Protocol kind) (finish other) := by
  intro world protocol
  by_cases same : kind = other
  · subst other
    exact wp_mono (finish_own kind world protocol) (fun _ _ kept => kept) fun _ _ never => never.elim
  · exact wp_mono (finish_aside same world) (fun _ _ aside => protocol.aside aside)
      fun _ _ aside => protocol.aside aside

theorem call_protocol (env : Env) (origin : Origin) (call : ApiCall) :
    Keeps (Protocol kind) (fun _ => Protocol kind) (apiCall env origin call) := by
  intro world protocol
  have called := @Aside.note _ _ _ (Aside.refl kind world) (.called call world.unaryShut)
    fun _ => rfl
  apply api_call_rule env origin call
  · exact fun _ _ => protocol.aside (called.allocate origin)
  · exact fun _ _ _ _ => protocol.aside ((called.note fun _ => rfl).allocate .confirm)
  · exact fun other _ => finish_protocol kind other _ (protocol.aside called)

/-! ## Completions -/

/-- Everything a tag does, unless it acknowledges the `Finish` of the client. -/
theorem dispatch_protocol (env : Env) (completion : Completion)
    (other : ∀ received, completion = .stream kind received → received.slot ≠ .finish) :
    DispatchKept env anyManners completion (Protocol kind) (fun _ => Protocol kind) where
  threw _ _ protocol := protocol
  exited _ protocol := protocol
  undefined _ protocol := protocol
  call call _ := call_protocol env .nested call
  update _ _ _ _ _ _ world protocol :=
    protocol.aside ((Aside.refl kind world).note fun _ => rfl)
  completed _ _ _ world protocol := protocol.aside ((Aside.refl kind world).note fun _ => rfl)
  startReceived stream _ _ _ world protocol :=
    protocol.aside ((Aside.refl kind world).setState stream _ (fun _ => rfl) (fun _ => rfl)
      (fun _ => rfl) fun _ => rfl)
  initMetadataReceived stream _ _ _ world protocol :=
    protocol.aside ((Aside.refl kind world).setState stream _ (fun _ => rfl) (fun _ => rfl)
      (fun _ => rfl) fun _ => rfl)
  finishResponded stream received same slot world protocol := by
    have differs : kind ≠ stream := by
      intro own
      subst stream
      exact other received same slot
    exact protocol.aside ((Aside.refl kind world).setOther differs _)
  confirms _ _ _ _ _ world _ protocol :=
    protocol.aside ((Aside.refl kind world).allocate .confirm)
  reads stream received _ _ world queue _ protocol reader := by
    refine protocol.aside ((Aside.refl kind world).put queue _ ?_)
    intro subscription slot tag
    cases tag
    obtain ⟨known, subscribed⟩ := protocol.placed.reads reader
    exact ⟨fun never => (nomatch never), known, rfl, subscribed⟩

/-- The tag of the client's `Finish` comes back, and the flag that goes with it. -/
theorem Protocol.acknowledge (protocol : Protocol kind world) {queue : QueueId}
    (pends : world.tagOf kind .finish ∈ world.pending queue) {event : Event}
    (seen : ∀ subscription, finishStep kind subscription event =
      if subscription = (world.state kind).subscription then some .ack else none) :
    Protocol kind (((world.take queue (world.tagOf kind .finish)).note event).setState kind
      ({ · with finishResponded := true })) := by
  obtain ⟨phase, follows⟩ := protocol.phase
  obtain ⟨known, subscribed⟩ := protocol.placed.tags queue .finish pends
  subst known
  have waiting := Nat.lt_of_lt_of_le (List.count_pos_iff.mpr pends) follows.outstanding
  obtain ⟨later, moved, called, ended, outstanding⟩ := Phase.acknowledges waiting
  have aside := (Aside.refl kind world).take world.connection.streamQueue
    (world.tagOf kind .finish)
  have placed := protocol.placed.aside aside
  have noted : Unused kind
      ((world.take world.connection.streamQueue (world.tagOf kind .finish)).note event) := by
    refine (protocol.unused.aside aside).event ?_
    intro subscription step found
    rw [seen] at found
    split at found
    · next same =>
        rw [same]
        exact protocol.unused.current
    · cases found
  refine @protocol_of_marked _ _ _ later (fun _ => rfl) (fun _ => rfl) noted
    ⟨placed.reader, placed.tags⟩ ?_ ?_ ?_ ?_
  · have acknowledges : finishStep kind (world.state kind).subscription event = some .ack := by
      rw [seen, if_pos rfl]
    refine (finish_trace_some acknowledges world.log).trans ?_
    rw [follows.trace, Phase.next_trace moved]
  · exact follows.called.trans called.symm
  · rw [ended, Bool.or_true]
  · change ((world.take world.connection.streamQueue (world.tagOf kind .finish)).pending
      world.connection.streamQueue).count (world.tagOf kind .finish) ≤ later.outstanding
    rw [take_pending, if_pos rfl, List.count_erase_self]
    have bounded := follows.outstanding
    omega

/-- The tag of the `Finish` of an earlier subscription comes back. -/
theorem Protocol.stale (protocol : Protocol kind world) {queue : QueueId} {subscription : Nat}
    (pends : .stream kind subscription .finish ∈ world.pending queue)
    (old : subscription ≠ (world.state kind).subscription) {event : Event}
    (seen : ∀ other step, finishStep kind other event = some step → other = subscription) :
    Protocol kind ((world.take queue (.stream kind subscription .finish)).note event) := by
  have aside := (Aside.refl kind world).take queue (.stream kind subscription .finish)
  have taken := protocol.aside aside
  have noted : Unused kind ((world.take queue (.stream kind subscription .finish)).note event) := by
    apply taken.unused.event
    intro other step found
    rw [seen other step found]
    have known : ¬ world.next ≤ subscription :=
      fun later => protocol.unused.tags queue subscription .finish later pends
    exact Nat.lt_of_not_le known
  obtain ⟨phase, follows⟩ := taken.phase
  have unseen : finishStep kind (world.state kind).subscription event = none := by
    cases found : finishStep kind (world.state kind).subscription event with
    | none => rfl
    | some step => exact absurd (seen _ step found).symm old
  exact ⟨noted, ⟨taken.placed.reader, taken.placed.tags⟩, phase,
    (observed_none unseen _).trans follows.trace, follows.called, follows.responded,
    follows.outstanding⟩

theorem deliver_finish (unary : Bool) {received : StreamCompletion kind}
    (slot : received.slot = .finish) (world : World) :
    world.deliver unary (.stream kind received) =
      (world.take (world.queueOf unary) (.stream kind received.subscription .finish)).note
        (.delivered unary (.stream kind received) world.streamShut world.unaryShut) := by
  simp [World.deliver, World.fillBuffer, Completion.tag, slot]

/-- A completion other than that of the client's `Finish` is handed over. -/
theorem deliver_aside (unary : Bool) (completion : Completion) (world : World)
    (other : ∀ received, completion = .stream kind received → received.slot ≠ .finish) :
    Aside kind world (world.deliver unary completion) := by
  refine deliver_rule unary completion world (Aside kind world) ?_ ?_
  · refine ((Aside.refl kind world).take _ _).note fun subscription => ?_
    cases completion with
    | unary completion => rfl
    | stream stream received =>
        simp only [finishStep]
        rw [if_neg]
        rintro ⟨own, _, slot⟩
        subst stream
        exact other received rfl slot
  · intro stream received after aside _
    exact (aside.setState stream ({ · with updateResponse := received.message }) (fun _ => rfl)
      (fun _ => rfl) (fun _ => rfl) fun _ => rfl).note fun _ => rfl

/-- The tag of a `Finish` of the client, on its current subscription or an earlier one. -/
theorem finish_event_protocol (env : Env) (unary : Bool) (received : StreamCompletion kind)
    (slot : received.slot = .finish) :
    Keeps (Protocol kind) (fun _ => Protocol kind)
      (processEvent (grpc env) unary (.stream kind received)) := by
  intro world protocol
  rw [processEvent, wp_bind]
  refine wp_async_next (grpc env) unary _ protocol fun admitted => ?_
  have pends := admitted_pending admitted
  simp only [Completion.tag, slot] at pends
  rw [deliver_finish unary slot]
  simp only [wp_bind, dispatch, dispatchStream, wp_read, wp_ite, wp_stop, slot, finishCallback,
    wp_set_state]
  split
  · next old =>
      apply protocol.stale pends old
      intro other step found
      simp only [finishStep] at found
      split at found
      · next known => exact known.2.1.symm
      · cases found
  · next current =>
      have current : received.subscription = (world.state kind).subscription :=
        Classical.not_not.mp current
      rw [current] at pends ⊢
      have acknowledged := @Protocol.acknowledge _ _ protocol _ pends
        (.delivered unary (.stream kind received) world.streamShut world.unaryShut) ?_
      · have logs : Keeps (Protocol kind) (fun _ => Protocol kind)
            (logStreamFailure env received.context) :=
          log_stream_failure_keeps (any_manners_allow (.stream kind received)) fun _ _ kept => kept
        apply wp_then (keeps_only_if (fun _ => logs) _ acknowledged)
        exact fun _ => keeps_only_if fun _ after kept =>
          kept.aside ((Aside.refl kind after).note fun _ => rfl)
      · intro subscription
        simp only [finishStep, slot, current, and_true, true_and, eq_comm]

theorem event_protocol (env : Env) (unary : Bool) (completion : Completion) :
    Keeps (Protocol kind) (fun _ => Protocol kind) (processEvent (grpc env) unary completion) := by
  by_cases own : ∃ received, completion = .stream kind received ∧ received.slot = .finish
  · obtain ⟨received, same, slot⟩ := own
    subst same
    exact finish_event_protocol env unary received slot
  · have other : ∀ received, completion = .stream kind received → received.slot ≠ .finish :=
      fun received same slot => own ⟨received, same, slot⟩
    intro world protocol
    apply event_keeps (dispatch_protocol env completion other) (any_manners_allow completion) protocol
    · exact fun _ => protocol.aside (deliver_aside unary completion world other)
    · exact fun after kept => kept.aside ((Aside.refl kind after).note fun _ => rfl)

/-! ## The manager -/

theorem queue_protocol (env : Env) (unary : Bool) :
    QueueKept (grpc env) unary anyManners (Protocol kind) (fun _ => Protocol kind) where
  waiting _ protocol := protocol
  unfinished _ protocol := protocol
  event completion _ := event_protocol env unary completion
  finish _ other := finish_protocol kind other
  shutdown world protocol _ := protocol.aside ((Aside.refl kind world).shutdown _)
  draining world protocol := protocol.aside ((Aside.refl kind world).note fun _ => rfl)
  finishAgain world protocol := protocol.aside ((Aside.refl kind world).note fun _ => rfl)
  verdict _ world protocol := protocol.aside ((Aside.refl kind world).note fun _ => rfl)

theorem reinitialize_unary_client_aside (env : Env) (client : UnaryClient) (before : World) :
    Keeps (Aside kind before) (fun reason _ => reason = .exited)
      (reinitializeUnaryClient env client) := by
  intro world aside
  rw [reinitializeUnaryClient, wp_bind]
  refine wp_client_checks env ?_ fun _ => rfl
  simp only [wp_bind, wp_fresh, wp_modify]
  exact aside.counted _

/-- Another stream client is built. -/
theorem construct_stream_aside (env : Env) {other : StreamKind} (differs : kind ≠ other)
    (callback : Option CallbackId) (world : World) :
    wp (constructStream env other callback) (fun _ => Aside kind world)
      (fun reason _ => reason = .exited) world := by
  have built := (Aside.refl kind world).newClient differs callback
  refine wp_construct_stream env other callback (fun _ => rfl) ?_ ?_
  · intro _
    refine subscribed_rule env other _ ?_ ?_ ?_
    · exact (built.setOther differs _).note fun _ => rfl
    · exact fun slot after _ aside => aside.putOther differs _ _ slot
    · exact fun after aside => aside.note fun _ => rfl
  · intro _
    exact built.setOther differs _

/-- A client nobody has built, and none of its tags. -/
structure Bare (kind : StreamKind) (world : World) : Prop where
  callback : (world.streams kind).callback = none
  tags : ∀ queue subscription slot, Tag.stream kind subscription slot ∉ world.pending queue

theorem Bare.aside (bare : Bare kind before) (aside : Aside kind before after) :
    Bare kind after where
  callback := aside.callback.trans bare.callback
  tags queue subscription slot member := by
    rcases aside.tags queue subscription slot member with old | ⟨_, _, subscribed⟩
    · exact bare.tags queue subscription slot old
    · rw [bare.callback] at subscribed
      cases subscribed

/-- A client that was just built is running, or never will. -/
theorem new_client_protocol (unused : Unused kind world) (callback : Option CallbackId)
    (change : StreamState kind → StreamState kind)
    (subscription : ∀ state, (change state).subscription = state.subscription)
    (reader : (change { subscription := world.next }).updateReader =
      callback.map fun _ => world.connection.streamQueue)
    (called : (change { subscription := world.next }).finishCalled = false)
    (responded : (change { subscription := world.next }).finishResponded = callback.isNone) :
    Protocol kind ((newClient kind callback world).setState kind change) := by
  have built : (newClient kind callback world).state kind = { subscription := world.next } := by
    rw [World.state, new_client_same]
  have marked : ((newClient kind callback world).setState kind change).state kind =
      change { subscription := world.next } := by
    rw [set_state_same, built]
  have current : (((newClient kind callback world).setState kind change).state kind).subscription =
      world.next := by
    rw [marked, subscription]
  have own : (((newClient kind callback world).setState kind change).streams kind).callback =
      callback := by
    rw [set_state_callback, new_client_same]
  have none_pends : ∀ queue slot,
      Tag.stream kind world.next slot ∉ world.pending queue := fun queue slot =>
    unused.tags queue world.next slot (Nat.le_refl _)
  refine ⟨⟨Nat.lt_succ_of_lt unused.queue, ?_, ?_, ?_⟩, ⟨?_, ?_⟩, .running, ?_, ?_, ?_, ?_⟩
  · rw [current]
    exact Nat.lt_succ_self _
  · exact fun queue subscription slot later =>
      unused.tags queue subscription slot (Nat.le_of_succ_le later)
  · exact fun subscription later => unused.traces subscription (Nat.le_of_succ_le later)
  · rw [marked, own]
    exact reader
  · intro queue slot member
    rw [World.tagOf, current] at member
    exact absurd member (none_pends queue slot)
  · rw [current]
    exact unused.traces world.next (Nat.le_refl _)
  · rw [marked]
    exact called
  · rw [marked, own, responded]
    exact (Bool.or_false _).symm
  · rw [World.tagOf, current]
    exact Nat.le_of_eq (List.count_eq_zero.mpr (none_pends _ _))

theorem new_client_none_stale (bare : Bare kind world) (callback : Option CallbackId)
    (change : StreamState kind → StreamState kind) :
    NoneStale kind ((newClient kind callback world).setState kind change) :=
  fun queue subscription slot member => absurd member (bare.tags queue subscription slot)

/-- Once it has its reader, a client starts nothing but its first operations. -/
theorem subscribed_aside (env : Env) (world : World)
    (subscribes : (world.streams kind).callback.isSome = true) :
    Aside kind (world.setState kind ({ · with updateReader := some world.connection.streamQueue }))
      (subscribed env kind world) := by
  have current : ((world.setState kind
      ({ · with updateReader := some world.connection.streamQueue })).state kind).subscription =
        (world.state kind).subscription := by
    rw [set_state_same]
  have callback : ((world.setState kind
      ({ · with updateReader := some world.connection.streamQueue })).streams kind).callback.isSome =
        true := by
    rw [set_state_callback]
    exact subscribes
  have told := @Aside.note _ _ _ (Aside.refl kind (world.setState kind
    ({ · with updateReader := some world.connection.streamQueue })))
      (.subscribed kind (world.state kind).subscription
        { environmentId := env.configuration.environmentId }) fun _ => rfl
  have started := told.put world.connection.streamQueue
    (.stream kind (world.state kind).subscription .start) fun _ _ same => by
      cases same
      exact ⟨(nomatch ·), rfl, current.symm, callback⟩
  have asked := started.put world.connection.streamQueue
    (.stream kind (world.state kind).subscription .initMetadata) fun _ _ same => by
      cases same
      exact ⟨(nomatch ·), rfl, current.symm, callback⟩
  have issued := @Aside.note _ _ _ asked (.update kind (world.state kind).subscription .issued)
    fun _ => rfl
  exact issued.put world.connection.streamQueue
    (.stream kind (world.state kind).subscription .read) fun _ _ same => by
      cases same
      exact ⟨(nomatch ·), rfl, current.symm, callback⟩

/-- The client itself is built. -/
theorem construct_stream_protocol (env : Env) (callback : Option CallbackId)
    (unused : Unused kind world) :
    wp (constructStream env kind callback)
      (fun _ after => Protocol kind after ∧ (Bare kind world → NoneStale kind after))
      (fun reason _ => reason = .exited) world := by
  refine wp_construct_stream env kind callback (fun _ => rfl) ?_ ?_
  · intro subscribes
    have reader : some world.connection.streamQueue =
        callback.map fun _ => world.connection.streamQueue := by
      cases callback with
      | none => cases subscribes
      | some id => rfl
    have running := new_client_protocol unused callback
      ({ · with updateReader := some world.connection.streamQueue }) (fun _ => rfl) reader rfl
      (by rw [← Option.not_isSome, subscribes]; rfl)
    have started := subscribed_aside env (newClient kind callback world) (by
      rw [new_client_same]
      exact subscribes)
    exact ⟨running.aside started,
      fun bare => (new_client_none_stale bare callback _).aside started⟩
  · intro missing
    subst missing
    exact ⟨new_client_protocol unused none ({ · with finishResponded := true }) (fun _ => rfl) rfl
      rfl rfl, fun bare => new_client_none_stale bare none _⟩

/-- All four stream clients, one after the other. -/
theorem each_stream_protocol (env : Env) (build : StreamKind → Manager Unit)
    (callback : StreamKind → World → Option CallbackId)
    (builds : ∀ kind world normal abrupt,
      wp (constructStream env kind (callback kind world)) normal abrupt world →
        wp (build kind) normal abrupt world)
    (unused : Unused kind world) :
    wp (each build StreamKind.all)
      (fun _ after => Protocol kind after ∧ (Bare kind world → NoneStale kind after))
      (fun reason _ => reason = .exited) world := by
  -- Before its turn the client may be bare; from its turn on it follows the protocol.
  let reached : List StreamKind → World → Prop := fun done after =>
    Unused kind after ∧ (Bare kind world → kind ∉ done → Bare kind after) ∧
      (kind ∈ done → Protocol kind after ∧ (Bare kind world → NoneStale kind after))
  refine wp_each reached StreamKind.all world ⟨unused, fun bare _ => bare, fun never => nomatch never⟩
    ?_ ?_
  · rintro earlier other later order before ⟨fresh, bare, done⟩
    have once : other ∉ earlier := all_once order
    apply builds other before
    by_cases own : kind = other
    · subst other
      apply wp_then (construct_stream_protocol env (callback kind before) fresh)
      rintro _ after ⟨protocol, fromBare⟩
      refine ⟨protocol.unused, ?_, ?_⟩
      · intro _ absent
        exact absurd (List.mem_append_right earlier List.mem_cons_self) absent
      · intro _
        exact ⟨protocol, fun was => fromBare (bare was once)⟩
    · apply wp_then (construct_stream_aside env own (callback other before) before)
      intro _ after aside
      refine ⟨fresh.aside aside, ?_, ?_⟩
      · intro was absent
        refine (bare was fun member => absent ?_).aside aside
        exact List.mem_append_left _ member
      · intro member
        have already : kind ∈ earlier := by
          rcases List.mem_append.mp member with old | new
          · exact old
          · exact absurd (List.mem_singleton.mp new) own
        obtain ⟨protocol, current⟩ := done already
        exact ⟨protocol.aside aside, fun was => (current was).aside aside⟩
  · intro after all
    exact all.2.2 (mem_all kind)

theorem Unused.renewStream (unused : Unused kind world) : Unused kind (renewStream world) where
  queue := Nat.lt_succ_self _
  current := Nat.lt_succ_of_lt unused.current
  tags queue subscription slot later member := by
    change _ ∈ (World.setQueue _ world.next {}).pending queue at member
    rw [new_queue_pending] at member
    split at member
    · cases member
    · exact unused.tags queue subscription slot (Nat.le_of_succ_le later) member
  traces subscription later := unused.traces subscription (Nat.le_of_succ_le later)

theorem renew_unary_aside (world : World) : Aside kind world (renewUnary world) := by
  refine ⟨rfl, Nat.le_succ _, rfl, rfl, rfl, rfl, rfl, ?_, ?_, fun _ => rfl⟩
  · intro queue subscription slot member
    change _ ∈ (World.setQueue _ world.next {}).pending queue at member
    rw [new_queue_pending] at member
    split at member
    · cases member
    · exact .inl member
  · intro queue subscription
    change ((World.setQueue _ world.next {}).pending queue).count _ ≤ _
    rw [new_queue_pending]
    split
    · exact Nat.zero_le _
    · exact Nat.le_refl _

theorem reinitialize_unary_protocol (env : Env) :
    Keeps (Protocol kind) (fun reason _ => reason = .exited) (reinitializeUnary env) := by
  intro world protocol
  rw [reinitializeUnary, wp_bind, wp_new_queue, wp_bind, wp_modify]
  apply wp_then (keeps_each (fun client _ => reinitialize_unary_client_aside env client world) _
    (@renew_unary_aside kind world))
  exact fun _ after aside => protocol.aside aside

theorem reinitialize_stream_protocol (env : Env) :
    Keeps (Protocol kind) (fun reason _ => reason = .exited) (reinitializeStream env) := by
  intro world protocol
  rw [reinitializeStream, wp_bind, wp_new_queue, wp_bind, wp_modify]
  refine wp_then (each_stream_protocol env _ (fun stream world => (world.streams stream).callback)
    ?_ protocol.unused.renewStream) ?_
  · intro stream before normal abrupt built
    rwa [reinitializeStreamClient, wp_bind, wp_read]
  · exact fun _ after both => both.1

theorem actions_protocol (env : Env) :
    ActionsKept (grpc env) anyManners (Protocol kind) (UnlessExited (Protocol kind)) where
  queue unary := (queue_protocol env unary).weaken fun _ _ protocol _ => protocol
  call call _ := keeps_weaken (call_protocol env .direct call) fun _ _ protocol _ => protocol
  reinitializeUnary := keeps_weaken (reinitialize_unary_protocol env)
    fun _ _ exited other => absurd exited other
  reinitializeStream := keeps_weaken (reinitialize_stream_protocol env)
    fun _ _ exited other => absurd exited other
  exited _ _ other := absurd rfl other
  resumes _ interrupted := interrupted fun same => Halt.noConfusion same

theorem before_unused (kind : StreamKind) (connection : IVIConnection) :
    Unused kind (World.before connection) where
  queue := Nat.lt_succ_of_le (Nat.le_max_left _ _)
  current := Nat.succ_pos _
  tags _ _ _ _ member := by cases member
  traces _ _ := rfl

theorem before_bare (kind : StreamKind) (connection : IVIConnection) :
    Bare kind (World.before connection) :=
  ⟨rfl, fun _ _ _ member => nomatch member⟩

theorem construct_protocol (env : Env) (callbacks : IVIStreamCallbacks)
    (connection : IVIConnection) (kind : StreamKind) :
    wp (construct env callbacks) (fun _ after => Protocol kind after ∧ NoneStale kind after)
      (fun reason _ => reason = .exited) (World.before connection) := by
  rw [construct, wp_bind]
  apply wp_then (keeps_each (fun client _ => reinitialize_unary_client_aside env client
    (World.before connection)) _ (Aside.refl kind _))
  intro _ world aside
  rw [wp_bind]
  apply wp_then (each_stream_protocol env _ (fun stream _ => callbacks stream)
    (fun _ _ _ _ built => built) ((before_unused kind connection).aside aside))
  rintro _ after ⟨protocol, current⟩
  exact ⟨protocol, current ((before_bare kind connection).aside aside)⟩

/-- Every stream client the application can meet follows the protocol. -/
theorem reached_protocol {env : Env} {connection : IVIConnection} {callbacks : IVIStreamCallbacks}
    {actions : List Action} {replies : List Reply}
    (reached : Reached (grpc env) connection callbacks actions replies world)
    (kind : StreamKind) : Protocol kind world := by
  obtain ⟨first, constructed, ran⟩ := reached.ran
  have start := wp_returned (construct_protocol env callbacks connection kind) constructed
  exact run_keeps (actions_protocol env) actions (fun action _ => any_action_allowed action)
    start.1 ran

theorem collect_protocol (runtime : Runtime) (unary : Bool) (tag : Tag) :
    Keeps (Protocol kind) (fun _ => Protocol kind) (collect runtime unary tag) := by
  intro world protocol
  refine wp_collect runtime unary tag protocol fun _ => ?_
  have taken := @Aside.note _ _ _ ((Aside.refl kind world).take (world.queueOf unary) tag)
    (.collected unary tag) fun _ => rfl
  exact keeps_only_if (fun _ after protocol =>
    protocol.aside ((Aside.refl kind after).note fun _ => rfl)) _ (protocol.aside taken)

theorem drain_queue_protocol (runtime : Runtime) (unary : Bool) (tags : List Tag)
    (last : Option NextStatus) :
    Keeps (Protocol kind) (fun _ => Protocol kind) (drainQueue runtime unary tags last) := by
  refine keeps_bind (fun world protocol => ?_) fun _ => keeps_bind
    (keeps_each fun tag _ => collect_protocol runtime unary tag) fun _ world protocol => ?_
  · exact protocol.aside ((Aside.refl kind world).shutdown _)
  · exact wp_async_next_last runtime unary last protocol fun _ _ => protocol

/-- The destructor, with its two rounds of `Finish`, keeps to the protocol. -/
theorem destroy_protocol (runtime : Runtime) (collection : Collection) :
    Keeps (Protocol kind) (fun _ => Protocol kind) (destroy runtime collection) := by
  have round : Keeps (Protocol kind) (fun _ => Protocol kind) finishStream :=
    keeps_each fun other _ => finish_protocol kind other
  exact keeps_bind (drain_queue_protocol runtime true _ _) fun _ =>
    keeps_bind round fun _ => keeps_bind round fun _ =>
      keeps_bind (drain_queue_protocol runtime false _ _) fun _ => keeps_pure _

end IviSdk.FinishProtocol
