import IviSdk.DefinedRuns
import IviSdk.OperationLedger
import IviSdk.SubscriptionProtocol

/-!
Nothing that succeeds is held up. Whatever answers and messages the two queues have to
hand out, in whatever number and order, one `Poll` takes them all: it returns, each
request that was answered has had its callback, each message was handed to the
application, and each stream waits for the next.
-/

namespace IviSdk.PollProgress

open Checks CompletionQueues Streams ManagerWorld Interaction StreamClients ClientManager
open CallbackRules PollRules ManagerRuns QueueWiring UpdateOrder DefinedRuns StepRules
open SubscriptionProtocol OperationLedger

variable {env : Env} {world before after : World}

/-! ## What arrived -/

/-- The messages that were delivered to a subscription. -/
def arrivals (kind : StreamKind) (subscription : Nat) (world : World) : List (MessageT kind) :=
  (trace kind subscription world.log).filterMap arrival

/-- The updates the application was handed for a subscription. -/
def handedOver (kind : StreamKind) (subscription : Nat) (world : World) :
    List (ParsedMessageT kind) :=
  (trace kind subscription world.log).filterMap handing

/-- The message a completion brings a subscription. -/
def brought (kind : StreamKind) (subscription : Nat) (completion : Completion) :
    Option (MessageT kind) :=
  (observe kind subscription (.delivered false completion false false)).bind arrival

theorem arrivals_cons (before after : World) {kind : StreamKind} {subscription : Nat}
    {event : Event} (logged : after.log = event :: before.log) :
    arrivals kind subscription after = arrivals kind subscription before ++
      ((observe kind subscription event).bind arrival).toList := by
  unfold arrivals trace
  rw [logged, observed_cons, List.filterMap_append]
  cases observe kind subscription event with
  | none => rfl
  | some value =>
      cases found : arrival value with
      | none => simp [found]
      | some message => simp [found]

/-- An event that brings no message. -/
def Quiet (event : Event) : Prop :=
  ∀ kind subscription, (observe kind subscription event).bind arrival = none

theorem update_quiet (kind : StreamKind) (number : Nat) (value : Update kind) :
    Quiet (.update kind number value) := by
  intro other subscription
  simp only [observe]
  by_cases own : number = subscription
  · rw [if_pos own]
    by_cases same : kind = other
    · subst other
      cases value <;> simp [ofKind, arrival]
    · cases value <;> simp [ofKind, same]
  · rw [if_neg own]
    rfl

/-! ## What a callback leaves alone -/

/-- Nothing was taken off a queue, and no message arrived. -/
structure Adds (before after : World) : Prop where
  pending : ∀ queue tag, tag ∈ before.pending queue → tag ∈ after.pending queue
  arrivals : ∀ kind subscription,
    arrivals kind subscription after = arrivals kind subscription before

namespace Adds

theorem refl (world : World) : Adds world world := ⟨fun _ _ pends => pends, fun _ _ => rfl⟩

theorem trans {middle : World} (first : Adds before middle) (second : Adds middle after) :
    Adds before after where
  pending queue tag pends := second.pending queue tag (first.pending queue tag pends)
  arrivals kind subscription :=
    (second.arrivals kind subscription).trans (first.arrivals kind subscription)

theorem note (adds : Adds before world) {event : Event} (quiet : Quiet event) :
    Adds before (world.note event) where
  pending := adds.pending
  arrivals kind subscription := by
    rw [arrivals_cons world _ rfl, quiet, adds.arrivals]
    exact List.append_nil _

theorem put (adds : Adds before world) (queue : QueueId) (tag : Tag) :
    Adds before (world.put queue tag) where
  pending other one pends := by
    rw [put_pending]
    split
    · next here => exact List.mem_cons_of_mem _ (here ▸ adds.pending other one pends)
    · exact adds.pending other one pends
  arrivals kind subscription := by
    rw [arrivals_cons world _ (put_log world queue tag), adds.arrivals]
    have quiet : (observe kind subscription
        (.started queue (world.queues queue).shut tag)).bind arrival = none := by
      simp only [observe]
      split <;> rfl
    rw [quiet]
    exact List.append_nil _

theorem setState (adds : Adds before world) (kind : StreamKind)
    (change : StreamState kind → StreamState kind) : Adds before (world.setState kind change) :=
  ⟨adds.pending, adds.arrivals⟩

theorem allocate (adds : Adds before world) (origin : Origin) :
    Adds before (allocate origin world) :=
  @Adds.put { world with next := world.next + 1 } before ⟨adds.pending, adds.arrivals⟩ _ _

end Adds

theorem finish_adds (kind : StreamKind) :
    Keeps (Adds before) (fun _ _ => True) (finish kind) := by
  intro world adds
  apply finish_rule kind
  · exact fun _ => adds
  · exact fun _ _ => (adds.note fun _ _ => rfl).setState kind _
  · exact fun _ queue _ => (adds.put queue _).setState kind _
  · exact fun _ _ => trivial

theorem call_adds (env : Env) (origin : Origin) (call : ApiCall) :
    Keeps (Adds before) (fun _ _ => True) (apiCall env origin call) := by
  intro world adds
  have called : Adds before (world.note (.called call world.unaryShut)) :=
    adds.note fun _ _ => rfl
  apply api_call_rule env origin call
  · exact fun _ _ => called.allocate origin
  · exact fun kind _ _ value => (called.note (update_quiet kind _ value)).allocate .confirm
  · exact fun kind _ => finish_adds kind _ called

/-- The callbacks come back, whatever they request, confirm and finish. -/
def comingBack : Manners where
  mayCall _ := True
  mayThrow := False
  mayBreak := True

/-- What a callback may rely on and leaves as it was. -/
structure InHand (completion : Completion) (before world : World) : Prop where
  wired : Wired world
  heard : Heard completion world
  framed : Frame before world
  adds : Adds before world

theorem nested_call_in_hand (env : Env) (completion : Completion) (call : ApiCall) :
    Keeps (InHand completion before) (fun _ _ => False) (apiCall env .nested call) := by
  intro world hand
  have wires := call_wired_heard env completion call world ⟨hand.wired, hand.heard⟩
  have frames := api_call_frame env before .nested call world hand.framed
  have adds := call_adds env .nested call world hand.adds
  apply wp_mono (wp_and (call_returns env .nested call hand.wired)
    (wp_and wires (wp_and frames adds)))
  · exact fun _ _ all => ⟨all.2.1.1, all.2.1.2, all.2.2.1, all.2.2.2⟩
  · exact fun _ _ stopped => stopped.1

/-- A callback that comes back keeps what it was handed. -/
theorem react_in_hand (env : Env) (completion : Completion) {reaction : Reaction}
    (returns : reaction.throws = false) :
    Keeps (InHand completion before) (fun _ _ => False) (react env reaction) := by
  apply keeps_bind (keeps_each fun call _ => nested_call_in_hand env completion call)
  intro _
  apply keeps_only_if
  intro throws
  rw [returns] at throws
  cases throws

/-! ## A tag that succeeded comes back -/

/-- The operation succeeded and its callback comes back. -/
def Succeeds (env : Env) : Completion → Prop
  | .stream _ received => received.ok = true ∧ received.reaction.throws = false
  | .unary answer => answer.ok = true ∧ answer.reaction.throws = false ∧
      ∃ status, passedStatus env answer = .ok status

/-- A read is issued again, every other operation is over. -/
def Consumed : Completion → Prop
  | .stream _ received => received.slot ≠ .read
  | .unary _ => True

theorem consumed_other {one other : Completion} (consumed : Consumed one)
    (again : ¬ Consumed other) : one.tag ≠ other.tag := by
  cases other with
  | unary answer => exact absurd trivial again
  | stream kind received =>
      have read : received.slot = .read := not_not.mp again
      cases one with
      | unary answer => exact Tag.noConfusion
      | stream other earlier =>
          intro same
          simp only [Completion.tag, Tag.stream.injEq] at same
          exact consumed (same.2.2.trans read)

/-- What these completions, all of them successful, leave behind. -/
structure Passed (env : Env) (events : List Completion) (before after : World) : Prop where
  wired : Wired after
  framed : Frame before after
  pending : ∀ queue tag, tag ∈ before.pending queue →
    (∀ completion ∈ events, Consumed completion → completion.tag ≠ tag) → tag ∈ after.pending queue
  arrivals : ∀ kind subscription, arrivals kind subscription after =
    arrivals kind subscription before ++ events.filterMap (brought kind subscription)
  handed : ∀ completion ∈ events, Handed completion after
  answered : ∀ answer, .unary answer ∈ events → ∃ status, passedStatus env answer = .ok status ∧
    .completed (Completion.unary answer).tag status ∈ after.log

namespace Passed

theorem none (wired : Wired world) : Passed env [] world world where
  wired := wired
  framed := Frame.refl world
  pending _ _ pends _ := pends
  arrivals _ _ := (List.append_nil _).symm
  handed _ member := nomatch member
  answered _ member := nomatch member

theorem append {middle : World} {first later : List Completion}
    (one : Passed env first before middle) (two : Passed env later middle after) :
    Passed env (first ++ later) before after where
  wired := two.wired
  framed := one.framed.trans two.framed
  pending queue tag pends spared := by
    apply two.pending queue tag
    · apply one.pending queue tag pends
      exact fun completion member => spared completion (List.mem_append_left _ member)
    · exact fun completion member => spared completion (List.mem_append_right _ member)
  arrivals kind subscription := by
    rw [two.arrivals, one.arrivals, List.filterMap_append, List.append_assoc]
  handed completion member := by
    rcases List.mem_append.mp member with member | member
    · obtain ⟨unary, streamShut, unaryShut, logged⟩ := one.handed completion member
      exact ⟨unary, streamShut, unaryShut, two.framed.log _ logged⟩
    · exact two.handed completion member
  answered answer member := by
    rcases List.mem_append.mp member with member | member
    · obtain ⟨status, passed, logged⟩ := one.answered answer member
      exact ⟨status, passed, two.framed.log _ logged⟩
    · exact two.answered answer member

end Passed

/-- The delivery itself: the tag is taken, and its message arrives. -/
theorem deliver_arrivals (unary : Bool) (completion : Completion) (world : World)
    (kind : StreamKind) (subscription : Nat) :
    arrivals kind subscription (world.deliver unary completion) =
      arrivals kind subscription world ++ (brought kind subscription completion).toList := by
  apply deliver_rule unary completion world (fun after =>
    arrivals kind subscription after =
      arrivals kind subscription world ++ (brought kind subscription completion).toList)
  · rw [arrivals_cons (world.take (world.queueOf unary) completion.tag) _ rfl]
    cases completion <;> rfl
  · intro other received middle same _
    rw [arrivals_cons (middle.setState other
      ({ · with updateResponse := received.message })) _ rfl, update_quiet]
    exact (List.append_nil _).trans same

theorem deliver_spares (unary : Bool) (completion : Completion) (world : World) (queue : QueueId)
    (tag : Tag) (pends : tag ∈ world.pending queue)
    (spared : queue = world.queueOf unary → completion.tag ≠ tag) :
    tag ∈ (world.deliver unary completion).pending queue := by
  apply deliver_rule unary completion world (fun after => tag ∈ after.pending queue)
  · change tag ∈ (world.take (world.queueOf unary) completion.tag).pending queue
    rw [take_pending]
    split
    · next here => exact (List.mem_erase_of_ne (spared here).symm).mpr (here ▸ pends)
    · exact pends
  · exact fun _ _ _ pends _ => pends

namespace InHand

theorem note {completion : Completion} (hand : InHand completion before world) {event : Event}
    (quiet : Quiet event) : InHand completion before (world.note event) :=
  ⟨hand.wired.note event, hand.heard, hand.framed.note event, hand.adds.note quiet⟩

theorem allocate {completion : Completion} (hand : InHand completion before world)
    (origin : Origin) : InHand completion before (allocate origin world) :=
  ⟨hand.wired.allocate origin, hand.heard, hand.framed.allocate origin, hand.adds.allocate origin⟩

end InHand

section Message
variable {kind : StreamKind} (received : StreamCompletion kind)

/-- `ProcessNext` on a message issues the next read. -/
theorem process_next_rearms (env : Env) (ok : received.ok = true)
    (returns : received.reaction.throws = false)
    (hand : InHand (.stream kind received) before world) :
    wp (processNext env kind received)
      (fun _ after => Adds before after ∧
        before.tagOf kind .read ∈ after.pending before.connection.streamQueue)
      (fun _ _ => False) world := by
  have polite : comingBack.Follows received.context received.reaction := by
    refine ⟨fun _ _ => trivial, fun throws => ?_, .inl trivial⟩
    rw [returns] at throws
    cases throws
  apply @process_message_rule (InHand (.stream kind received) before) (fun _ _ => False) env
    comingBack kind received world _ ok polite
  · exact fun value subscription _ hand => hand.note (update_quiet kind subscription value)
  · exact fun call _ => nested_call_in_hand env _ call
  · exact fun never => never.elim
  · -- The read came back through the reader that started it.
    intro last hand missing
    have reader := hand.heard kind received rfl
    rw [missing] at reader
    cases reader
  · exact fun _ _ _ hand => hand.allocate .confirm
  · intro _ last queue hand reader
    refine ⟨hand.adds.put queue _, ?_⟩
    have here : queue = before.connection.streamQueue :=
      (hand.wired.readers kind queue trivial reader).trans
        (congrArg IVIConnection.streamQueue hand.framed.connection)
    have same : last.tagOf kind .read = before.tagOf kind .read := by
      unfold World.tagOf
      rw [hand.framed.subscriptions]
    rw [put_pending, if_pos here.symm, same]
    exact List.mem_cons_self
  · exact hand

theorem dispatch_stream_returns (env : Env) (ok : received.ok = true)
    (returns : received.reaction.throws = false)
    (current : received.subscription = (world.state kind).subscription)
    (hand : InHand (.stream kind received) world world) :
    wp (dispatchStream env kind received)
      (fun _ after => Adds world after ∧ (received.slot = .read →
        world.tagOf kind .read ∈ after.pending world.connection.streamQueue))
      (fun _ _ => False) world := by
  -- The callbacks of the other slots set a flag, and a failure would be logged.
  have marked : ∀ change : StreamState kind → StreamState kind,
      wp (do
          setState kind change
          onlyIf (!received.ok) (logStreamFailure env received.context) : Manager Unit)
        (fun _ => Adds world) (fun _ _ => False) world := by
    intro change
    rw [wp_bind, wp_set_state, wp_only_if, ok]
    exact hand.adds.setState kind change
  simp only [dispatchStream, wp_bind, wp_read, wp_ite, wp_stop]
  rw [if_neg (fun stale => stale current)]
  cases slot : received.slot with
  | start =>
      exact wp_then (marked ({ · with startReceived := true }))
        fun _ _ adds => ⟨adds, Slot.noConfusion⟩
  | initMetadata =>
      exact wp_then (marked ({ · with initMetadataReceived := true }))
        fun _ _ adds => ⟨adds, Slot.noConfusion⟩
  | finish =>
      exact wp_then (marked ({ · with finishResponded := true }))
        fun _ _ adds => ⟨adds, Slot.noConfusion⟩
  | read =>
      apply wp_then (process_next_rearms received env ok returns hand)
      exact fun _ _ both => ⟨both.1, fun _ => both.2⟩

end Message

theorem dispatch_unary_returns (env : Env) (answer : UnaryCompletion)
    (returns : answer.reaction.throws = false) {status : Results.IVIResultStatus}
    (passed : passedStatus env answer = .ok status)
    (hand : InHand (.unary answer) world world) :
    wp (dispatchUnary env answer)
      (fun _ after => Adds world after ∧
        .completed (Completion.unary answer).tag status ∈ after.log)
      (fun _ _ => False) world := by
  rw [dispatchUnary, wp_bind, wp_checked, passed]
  change wp (do
    note (.completed (Completion.unary answer).tag status)
    onlyIf (answer.origin != .confirm) (react env answer.reaction)) _ _ world
  rw [wp_bind, wp_note]
  let told := world.note (.completed (Completion.unary answer).tag status)
  have adds : Adds world told := (Adds.refl world).note fun _ _ => rfl
  have hand : InHand (.unary answer) told told :=
    ⟨hand.wired.note _, hand.heard, Frame.refl told, Adds.refl told⟩
  have reacts : Keeps (InHand (.unary answer) told) (fun _ _ => False)
      (onlyIf (answer.origin != .confirm) (react env answer.reaction)) :=
    keeps_only_if fun _ => react_in_hand env _ returns
  apply wp_then (reacts told hand)
  exact fun _ _ hand => ⟨adds.trans hand.adds, hand.framed.log _ List.mem_cons_self⟩

/-- What the dispatch of a successful completion leaves behind. -/
structure Dispatched (env : Env) (completion : Completion) (before after : World) : Prop where
  adds : Adds before after
  rearmed : ¬ Consumed completion →
    completion.tag ∈ after.pending before.connection.streamQueue
  answered : ∀ answer, completion = .unary answer →
    ∃ status, passedStatus env answer = .ok status ∧ .completed completion.tag status ∈ after.log

theorem dispatch_returns (env : Env) (completion : Completion) (succeeds : Succeeds env completion)
    (current : Current completion world) (hand : InHand completion world world) :
    wp (dispatch env completion) (fun _ => Dispatched env completion world) (fun _ _ => False)
      world := by
  cases completion with
  | stream kind received =>
      have current := current kind received rfl
      apply wp_then (dispatch_stream_returns received env succeeds.1 succeeds.2 current hand)
      rintro _ after ⟨adds, rearmed⟩
      constructor
      · exact adds
      · intro kept
        have slot : received.slot = .read := not_not.mp kept
        have tag : (Completion.stream kind received).tag = world.tagOf kind .read := by
          rw [Completion.tag, slot, current]
          rfl
        rw [tag]
        exact rearmed slot
      · intro _ never
        cases never
  | unary answer =>
      obtain ⟨_, returns, status, passed⟩ := succeeds
      apply wp_then (dispatch_unary_returns env answer returns passed hand)
      rintro _ after ⟨adds, logged⟩
      constructor
      · exact adds
      · exact fun kept => absurd trivial kept
      · intro other same
        cases same
        exact ⟨status, passed, logged⟩

/-- One successful completion passes. -/
theorem event_passes (env : Env) (unary : Bool) (completion : Completion)
    (succeeds : Succeeds env completion) (wiredBefore : Wired world)
    (pends : completion.tag ∈ world.pending (world.queueOf unary)) :
    wp (processEvent (grpc env) unary completion)
      (fun _ after => Passed env [completion] world after) (fun _ _ => False) world := by
  have admitted : (grpc env).admits (world.queues (world.queueOf unary))
      (.gotEvent completion.tag) = true := (grpc_event_iff _ _).mpr pends
  let delivered := world.deliver unary completion
  have hand : InHand completion delivered delivered :=
    ⟨deliver_wired unary completion wiredBefore, deliver_heard wiredBefore admitted,
      Frame.refl delivered, Adds.refl delivered⟩
  have ran : wp (processEvent (grpc env) unary completion)
      (fun _ after => Dispatched env completion delivered after ∧ Frame delivered after)
      (fun _ _ => False) world := by
    rw [processEvent, wp_bind]
    apply (wp_async_next_admitted admitted).mpr
    rw [wp_bind]
    apply wp_mono (wp_and
      (dispatch_returns env completion succeeds (delivered_current wiredBefore pends) hand)
      (dispatch_frame env completion delivered (deliver_announces unary completion world)))
    · rintro _ after ⟨dispatched, framed⟩
      rw [wp_only_if]
      split
      · refine ⟨⟨?_, dispatched.rearmed, ?_⟩, framed.note _⟩
        · exact dispatched.adds.note fun _ _ => rfl
        · intro answer same
          obtain ⟨status, passed, logged⟩ := dispatched.answered answer same
          exact ⟨status, passed, List.mem_cons_of_mem _ logged⟩
      · exact ⟨dispatched, framed⟩
    · exact fun _ _ stopped => stopped.1
  apply wp_mono (wp_and ran (wp_and (event_frame (grpc env) unary completion world)
    (event_wired env unary completion world wiredBefore)))
  · rintro _ after ⟨⟨dispatched, later⟩, framed, wired⟩
    constructor
    · exact wired
    · exact framed
    · intro queue tag pending spared
      by_cases taken : queue = world.queueOf unary ∧ completion.tag = tag
      · obtain ⟨rfl, rfl⟩ := taken
        have kept : ¬ Consumed completion :=
          fun consumed => spared completion List.mem_cons_self consumed rfl
        -- Only reads come back, and they pend on the stream queue.
        have here : world.queueOf unary = delivered.connection.streamQueue := by
          rw [(deliver_frame unary completion world).connection]
          cases unary with
          | false => rfl
          | true =>
              obtain ⟨origin, id, own, _⟩ := wiredBefore.unaryOwned _ pends
              cases completion with
              | stream kind received => cases own
              | unary answer => exact absurd trivial kept
        rw [here]
        exact dispatched.rearmed kept
      · apply dispatched.adds.pending
        apply deliver_spares unary completion world queue tag pending
        exact fun here same => taken ⟨here, same⟩
    · intro kind subscription
      rw [dispatched.adds.arrivals, deliver_arrivals]
      cases found : brought kind subscription completion with
      | none => simp [found]
      | some message => simp [found]
    · intro one member
      rw [List.mem_singleton.mp member]
      exact ⟨unary, _, _, later.log _ (deliver_logged unary completion world)⟩
    · intro answer member
      have same := (List.mem_singleton.mp member).symm
      obtain ⟨status, passed, logged⟩ := dispatched.answered answer same
      exact ⟨status, passed, same ▸ logged⟩
  · exact fun _ _ stopped => stopped.1

/-! ## A poll -/

/-- Completions a queue can hand out one after the other, all of them successful: each
pends, and only a read comes twice. -/
structure Burst (env : Env) (unary : Bool) (events : List Completion) (world : World) : Prop where
  succeed : ∀ completion ∈ events, Succeeds env completion
  pend : ∀ completion ∈ events, completion.tag ∈ world.pending (world.queueOf unary)
  once : events.Pairwise fun first later => Consumed first → first.tag ≠ later.tag

theorem frame_queue_of (framed : Frame before after) (unary : Bool) :
    after.queueOf unary = before.queueOf unary := by
  unfold World.queueOf
  rw [framed.connection]

theorem succeeds_ok {completion : Completion} (succeeds : Succeeds env completion) :
    completion.ok = true := by
  cases completion with
  | stream kind received => exact succeeds.1
  | unary answer => exact succeeds.1

theorem events_pass (env : Env) (unary : Bool) (events : List Completion) (failed : Bool)
    (wired : Wired world) (burst : Burst env unary events world) :
    wp (processEvents (grpc env) unary events failed)
      (fun result after => result = failed ∧ Passed env events world after) (fun _ _ => False)
      world := by
  induction events generalizing world failed with
  | nil => exact ⟨rfl, .none wired⟩
  | cons first rest ih =>
      obtain ⟨apart, once⟩ := List.pairwise_cons.mp burst.once
      have succeeds := burst.succeed first List.mem_cons_self
      rw [processEvents, wp_bind]
      apply wp_then (event_passes env unary first succeeds wired
        (burst.pend first List.mem_cons_self))
      intro _ middle passed
      have later : Burst env unary rest middle := by
        constructor
        · exact fun one member => burst.succeed one (List.mem_cons_of_mem first member)
        · intro one member
          rw [frame_queue_of passed.framed]
          apply passed.pending _ _ (burst.pend one (List.mem_cons_of_mem first member))
          intro other same consumed
          cases List.mem_singleton.mp same
          exact apart one member consumed
        · exact once
      rw [succeeds_ok succeeds]
      apply wp_then (ih (failed || !true) passed.wired later)
      rintro result after ⟨same, rest⟩
      exact ⟨same.trans (Bool.or_false failed), passed.append rest⟩

/-- `Poll<Unary>` takes the whole burst and sees no failure. -/
theorem poll_queue_passes (env : Env) (unary : Bool) (events : List Completion)
    (wired : Wired world) (unshut : (world.queues (world.queueOf unary)).shut = false)
    (burst : Burst env unary events world) :
    wp (pollQueue (grpc env) unary [{ events := events }])
      (fun failed after => failed = false ∧ Passed env events world after) (fun _ _ => False)
      world := by
  rw [pollQueue, wp_bind, processQueue, wp_bind]
  apply wp_then (events_pass env unary events false wired burst)
  rintro failed after ⟨rfl, passed⟩
  have waits : (grpc env).admits (after.queues (after.queueOf unary))
      (NextStatus.answer .timeout) = true := by
    have still : (after.queues (after.queueOf unary)).shut = false := by
      rw [frame_queue_of passed.framed, passed.framed.shut]
      exact unshut
    simp [grpc, grpcRules, NextStatus.answer, CompletionQueue.drained, still]
  rw [wp_bind]
  unfold asyncNextLast wp
  simp only [waits, ↓reduceIte]
  exact ⟨rfl, passed⟩

/-- The tags of requests and of streams are told apart. -/
theorem Burst.undisturbed {answers : List UnaryCompletion} {arrived : List Completion}
    {middle : World} (arrives : Burst env false arrived world) (wired : Wired world)
    (passed : Passed env (answers.map .unary) world middle) : Burst env false arrived middle where
  succeed := arrives.succeed
  pend completion member := by
    rw [frame_queue_of passed.framed]
    have pends := arrives.pend completion member
    apply passed.pending _ _ pends
    intro answer asked _ same
    obtain ⟨_, _, rfl⟩ := List.mem_map.mp asked
    obtain ⟨kind, slot, _, own, _⟩ := wired.streamOwned _ pends
    rw [own] at same
    cases same
  once := arrives.once

/-- `Poll` takes what both queues have to hand out. -/
theorem poll_passes (env : Env) (wired : Wired world)
    (checks : check env.build env.configuration.autoconfirmStreamUpdates = .ok ())
    (unaryOpen : world.unaryShut = false) (streamOpen : world.streamShut = false)
    {answers : List UnaryCompletion} (answered : Burst env true (answers.map .unary) world)
    {arrived : List Completion} (arrives : Burst env false arrived world)
    (channelState : ChannelState) :
    wp (poll (grpc env) channelState [{ events := answers.map .unary }] [{ events := arrived }])
      (fun result after => result = true ∧ Passed env (answers.map .unary ++ arrived) world after)
      (fun _ _ => False) world := by
  have passes : checked (check env.build env.configuration.autoconfirmStreamUpdates) = pure () := by
    rw [checks]
    rfl
  rw [poll, wp_bind]
  change wp (checked (check env.build env.configuration.autoconfirmStreamUpdates)) _ _ world
  rw [passes, wp_pure, wp_bind]
  apply wp_then (poll_queue_passes env true _ wired unaryOpen answered)
  rintro _ middle ⟨rfl, unary⟩
  have unshut : (middle.queues (middle.queueOf false)).shut = false :=
    unary.framed.streamShut.trans streamOpen
  rw [wp_bind]
  apply wp_then (poll_queue_passes env false _ unary.wired unshut (arrives.undisturbed wired unary))
  rintro _ after ⟨rfl, stream⟩
  exact ⟨rfl, unary.append stream⟩

/-! ## Every state -/

/-- Between two actions the application has been handed what arrived. -/
theorem handed_what_arrived (subscriptions : Subscriptions env world) (kind : StreamKind)
    (subscription : Nat) :
    handedOver kind subscription world =
      (arrivals kind subscription world).map (fromProto kind) := by
  obtain ⟨phase, follows, rests, _⟩ := subscriptions.stands kind subscription
  unfold handedOver arrivals
  rw [handed_in_order follows, waiting_of_rests rests]
  exact (List.append_nil _).symm

/-- A unary call that was handed out pends nowhere. -/
theorem answered_nowhere (kept : Kept world) {answer : UnaryCompletion}
    (handed : Handed (.unary answer) world) (queue : QueueId) :
    (Completion.unary answer).tag ∉ world.pending queue := by
  obtain ⟨unary, streamShut, unaryShut, logged⟩ := handed
  have out : 0 < handedOut (Completion.unary answer).tag world :=
    List.countP_pos_iff.mpr ⟨_, logged, by simp [handsOut]⟩
  have once := kept.once answer.origin answer.id
  have balance := kept.balance (Completion.unary answer).tag
  have nowhere : pendingAnywhere (Completion.unary answer).tag world = 0 := by
    change started (Completion.unary answer).tag world ≤ 1 at once
    omega
  by_cases known : queue < world.next
  · have none := Finset.sum_eq_zero_iff.mp nowhere queue (Finset.mem_range.mpr known)
    exact List.count_eq_zero.mp none
  · rw [kept.beyond queue (Nat.le_of_not_lt known)]
    exact List.not_mem_nil

/-- Nothing that succeeds is held up. In every state any use of a manager can reach
with both queues open, for whatever number of answers and messages the queues have to
hand out and in whatever order, `Poll` takes them all and returns true: each answered
request has had its callback and is gone from the queues, the application was handed
each message in order, and each of these streams waits for its next message. -/
theorem successful_burst_gets_through (env : Env) (connection : IVIConnection)
    (distinct : connection.streamQueue ≠ connection.unaryQueue) (callbacks : IVIStreamCallbacks)
    (actions : List Action) (replies : List Reply) (world : World)
    (reached : Reached (grpc env) connection callbacks actions replies world)
    (checks : check env.build env.configuration.autoconfirmStreamUpdates = .ok ())
    (unaryOpen : world.unaryShut = false) (streamOpen : world.streamShut = false)
    (answers : List UnaryCompletion) (answered : Burst env true (answers.map .unary) world)
    (arrived : List Completion) (arrives : Burst env false arrived world)
    (channelState : ChannelState) :
    ∃ after, act (grpc env)
        (.poll channelState [{ events := answers.map .unary }] [{ events := arrived }]) world =
          .returned (.polled true) after ∧
      (∀ answer ∈ answers, (∃ status, passedStatus env answer = .ok status ∧
          .completed (Completion.unary answer).tag status ∈ after.log) ∧
        ∀ queue, (Completion.unary answer).tag ∉ after.pending queue) ∧
      (∀ kind subscription, handedOver kind subscription after =
        handedOver kind subscription world ++
          (arrived.filterMap (brought kind subscription)).map (fromProto kind)) ∧
      ∀ completion ∈ arrived, ¬ Consumed completion →
        completion.tag ∈ after.pending after.connection.streamQueue := by
  let action : Action :=
    .poll channelState [{ events := answers.map .unary }] [{ events := arrived }]
  obtain ⟨wired, subscriptions⟩ := reached_subscriptions distinct reached
  have acts : wp (act (grpc env) action)
      (fun reply after => reply = .polled true ∧
        Passed env (answers.map .unary ++ arrived) world after) (fun _ _ => False) world := by
    rw [act, wp_bind]
    apply wp_then (poll_passes env wired checks unaryOpen streamOpen answered arrives channelState)
    rintro _ after ⟨rfl, passed⟩
    exact ⟨rfl, passed⟩
  obtain ⟨_, after, acted, rfl, passed⟩ := wp_total acts
  have kept : Kept after := by
    have always : Always env connection callbacks Kept :=
      always_of_steps (ledger_steps env) (before_kept connection) fun _ kept => kept
    have kept := always.acting actions replies world reached action
    rw [acted] at kept
    exact kept
  have told : Subscriptions env after := by
    have told := wp_world (act_over_wired (actions_subscriptions env)
      (any_action_allowed action) wired subscriptions)
    rw [acted] at told
    exact told
  refine ⟨after, acted, ?_, ?_, ?_⟩
  · intro answer member
    have asked : Completion.unary answer ∈ answers.map .unary ++ arrived :=
      List.mem_append_left _ (List.mem_map_of_mem member)
    exact ⟨passed.answered answer asked, answered_nowhere kept (passed.handed _ asked)⟩
  · intro kind subscription
    have none : (answers.map Completion.unary).filterMap (brought kind subscription) = [] := by
      rw [List.filterMap_map]
      exact List.filterMap_eq_nil_iff.mpr fun _ _ => rfl
    rw [handed_what_arrived told, handed_what_arrived subscriptions, passed.arrivals,
      List.filterMap_append, none, List.nil_append, List.map_append]
  · intro completion member again
    have here : after.connection.streamQueue = world.connection.streamQueue :=
      frame_queue_of passed.framed false
    rw [here]
    apply passed.pending _ _ (arrives.pend completion member)
    exact fun other _ consumed => consumed_other consumed again

/-! ### A request and two swords -/

/-- A subscribed application made a request. -/
def asked : World :=
  (act (grpc defaultEnv) (.call (.request .order))
    (construct defaultEnv itemCallbacks (World.before newConnection)).world).world

theorem asked_reached :
    Reached (grpc defaultEnv) newConnection itemCallbacks [.call (.request .order)] [.done]
      asked :=
  @reached_after_one (grpc defaultEnv) _ _ _ _ (by decide +kernel) (by decide +kernel)

def orderAnswer : UnaryCompletion := { origin := .direct, id := 11, ok := true }

/-- The call opens between two messages. -/
def twoSwords : List Completion :=
  [.stream .item swordArrives, .stream .item { subscription := 7, slot := .start, ok := true },
    .stream .item swordArrives]

theorem two_swords_get_through :
    newConnection.streamQueue ≠ newConnection.unaryQueue ∧
    Reached (grpc defaultEnv) newConnection itemCallbacks [.call (.request .order)] [.done]
      asked ∧
    ∃ after, act (grpc defaultEnv)
        (.poll .other [{ events := [.unary orderAnswer] }] [{ events := twoSwords }]) asked =
          .returned (.polled true) after ∧
      handedOver .item 7 after = handedOver .item 7 asked ++
        [fromProto .item swordArrives.message, fromProto .item swordArrives.message] := by
  have answered : Burst defaultEnv true ([orderAnswer].map .unary) asked := by
    constructor
    · intro completion member
      cases List.mem_singleton.mp member
      exact ⟨rfl, rfl, .success, rfl⟩
    · intro completion member
      cases List.mem_singleton.mp member
      decide +kernel
    · exact List.pairwise_singleton _ _
  have arrives : Burst defaultEnv false twoSwords asked := by
    constructor
    · intro completion member
      simp only [twoSwords, List.mem_cons, List.not_mem_nil, or_false] at member
      rcases member with rfl | rfl | rfl <;> exact ⟨rfl, rfl⟩
    · intro completion member
      simp only [twoSwords, List.mem_cons, List.not_mem_nil, or_false] at member
      rcases member with rfl | rfl | rfl <;> decide +kernel
    · simp [twoSwords, Consumed, Completion.tag, swordArrives]
  obtain ⟨after, polled, _, handed, _⟩ := successful_burst_gets_through defaultEnv newConnection
    new_connection_distinct itemCallbacks _ _ asked asked_reached rfl (by decide +kernel)
    (by decide +kernel) [orderAnswer] answered twoSwords arrives .other
  exact ⟨new_connection_distinct, asked_reached, after, polled, handed .item 7⟩

end IviSdk.PollProgress
