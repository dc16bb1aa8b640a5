import IviSdk.RequestLedger
import IviSdk.QueueTimings
import Mathlib.Data.List.Nodup

/-!
What `~IVIClientManagerAsync` leaves behind. It shuts each queue and asks without
waiting until the answer is no event, so a call the server has not answered
by then stays on the queue, and its callback is never deleted. A callback left
on a unary queue that was replaced is out of reach.
-/

namespace IviSdk.Teardown

open Checks CompletionQueues QueueTimings Streams ManagerWorld Interaction StreamClients
open ClientManager CallbackRules PollRules ManagerRuns QueueWiring RequestLedger

/-- A queue handed the tag to a pass, which dispatched it. -/
def Dispatched (tag : Tag) (log : List Event) : Prop :=
  ∃ unary completion streamShut unaryShut,
    .delivered unary completion streamShut unaryShut ∈ log ∧ completion.tag = tag

/-- What became of the callbacks that `CallUnaryAsync` allocated: those on the
unary queue were only issued, and nothing becomes of one before its dispatch. -/
structure Fates (world : World) : Prop where
  waiting : ∀ origin id, .unary origin id ∈ world.pending world.connection.unaryQueue →
    history (.unary origin id) world.log = [.issued] ∧ ¬ Dispatched (.unary origin id) world.log
  begun : ∀ origin id, ¬ Dispatched (.unary origin id) world.log →
    history (.unary origin id) world.log <+: [.issued]
  fresh : ∀ origin id, world.next ≤ id →
    history (.unary origin id) world.log = [] ∧ ¬ Dispatched (.unary origin id) world.log

variable {world before after : World}

/-! ## Single changes -/

def isDelivery : Event → Bool
  | .delivered .. => true
  | _ => false

theorem dispatched_note (tag : Tag) {event : Event} (other : isDelivery event = false) :
    Dispatched tag (event :: world.log) ↔ Dispatched tag world.log := by
  constructor
  · rintro ⟨unary, completion, streamShut, unaryShut, member, same⟩
    rcases List.mem_cons.mp member with first | earlier
    · rw [← first] at other
      cases other
    · exact ⟨unary, completion, streamShut, unaryShut, earlier, same⟩
  · rintro ⟨unary, completion, streamShut, unaryShut, member, same⟩
    exact ⟨unary, completion, streamShut, unaryShut, List.mem_cons_of_mem event member, same⟩

/-- An event that touches no callback but one that was dispatched. -/
def Touches (world : World) (event : Event) : Prop :=
  ∀ origin id, stepOf (.unary origin id) event = none ∨ Dispatched (.unary origin id) world.log

theorem Fates.note (fates : Fates world) {event : Event} (other : isDelivery event = false)
    (touches : Touches world event) : Fates (world.note event) where
  waiting origin id member := by
    obtain ⟨issued, idle⟩ := fates.waiting origin id member
    rw [note_log, dispatched_note _ other, history,
      observed_none ((touches origin id).resolve_right idle)]
    exact ⟨issued, idle⟩
  begun origin id idle := by
    rw [note_log, dispatched_note _ other] at idle
    rw [note_log, history, observed_none ((touches origin id).resolve_right idle)]
    exact fates.begun origin id idle
  fresh origin id later := by
    obtain ⟨nothing, idle⟩ := fates.fresh origin id later
    rw [note_log, dispatched_note _ other, history,
      observed_none ((touches origin id).resolve_right idle)]
    exact ⟨nothing, idle⟩

/-- Most events touch no callback at all. -/
theorem Fates.noteForeign (fates : Fates world) {event : Event}
    (other : isDelivery event = false) (foreign : ∀ tag, stepOf tag event = none) :
    Fates (world.note event) :=
  fates.note other fun origin id => .inl (foreign (.unary origin id))

theorem Fates.unqueued (fates : Fates before)
    (fewer : ∀ origin id, .unary origin id ∈ after.pending after.connection.unaryQueue →
      .unary origin id ∈ before.pending before.connection.unaryQueue)
    (log : after.log = before.log) (grows : before.next ≤ after.next) : Fates after where
  waiting origin id member := by
    rw [log]
    exact fates.waiting origin id (fewer origin id member)
  begun origin id := by
    rw [log]
    exact fates.begun origin id
  fresh origin id later := by
    rw [log]
    exact fates.fresh origin id (Nat.le_trans grows later)

theorem Fates.take (fates : Fates world) (queue : QueueId) (tag : Tag) :
    Fates (world.take queue tag) :=
  fates.unqueued (fun _ _ member => take_subset _ _ _ _ member) rfl (Nat.le_refl _)

theorem Fates.shutdown (fates : Fates world) (queue : QueueId) : Fates (world.shutdown queue) := by
  have told : Fates (world.note (.shutdown queue)) := fates.noteForeign rfl fun _ => rfl
  refine told.unqueued (fun origin id member => ?_) rfl (Nat.le_refl _)
  rwa [shutdown_connection, shutdown_pending] at member

theorem Fates.setState (fates : Fates world) (kind : StreamKind)
    (change : StreamState kind → StreamState kind) : Fates (world.setState kind change) :=
  fates.unqueued (fun _ _ member => member) rfl (Nat.le_refl _)

/-- A tag of a stream goes to another queue. -/
theorem Fates.putStream (fates : Fates world) {queue : QueueId}
    (elsewhere : queue ≠ world.connection.unaryQueue) (kind : StreamKind) (subscription : Nat)
    (slot : Slot) : Fates (world.put queue (.stream kind subscription slot)) := by
  have told : Fates (world.note (.started queue (world.queues queue).shut
      (.stream kind subscription slot))) := by
    refine fates.note rfl fun origin id => .inl ?_
    simp [stepOf]
  refine told.unqueued (fun origin id member => ?_) rfl (Nat.le_refl _)
  rwa [put_connection, put_pending, if_neg elsewhere.symm] at member

theorem Fates.putReader (fates : Fates world) (wired : Wired world) {kind : StreamKind}
    {queue : QueueId} (reader : (world.state kind).updateReader = some queue) (slot : Slot) :
    Fates (world.put queue (world.tagOf kind slot)) := by
  refine fates.putStream ?_ kind _ slot
  rw [wired.readers kind queue trivial reader]
  exact wired.distinct

/-- A new callback is issued, once. -/
theorem Fates.allocate (fates : Fates world) (origin : Origin) : Fates (allocate origin world) := by
  have other : isDelivery (.started world.connection.unaryQueue world.unaryShut
      (.unary origin world.next)) = false := rfl
  have issued : ∀ one id, history (.unary one id) (CallbackRules.allocate origin world).log =
      history (.unary one id) world.log ++
        if .unary origin world.next = Tag.unary one id then [.issued] else [] := by
    intro one id
    rw [allocate_log, history, observed_cons]
    simp only [stepOf]
    split
    · rfl
    · rfl
  refine ⟨?_, ?_, ?_⟩
  · intro one id member
    rw [issued, allocate_log, dispatched_note _ other]
    rw [allocate_connection, allocate_pending, if_pos rfl] at member
    -- The number is new, so this callback has no past.
    by_cases new : .unary origin world.next = Tag.unary one id
    · cases new
      obtain ⟨nothing, idle⟩ := fates.fresh origin world.next (Nat.le_refl _)
      rw [nothing, if_pos rfl]
      exact ⟨rfl, idle⟩
    · rw [if_neg new, List.append_nil]
      exact fates.waiting one id ((List.mem_cons.mp member).resolve_left fun same => new same.symm)
  · intro one id idle
    rw [allocate_log, dispatched_note _ other] at idle
    rw [issued]
    by_cases new : .unary origin world.next = Tag.unary one id
    · cases new
      rw [(fates.fresh origin world.next (Nat.le_refl _)).1, if_pos rfl]
      exact List.prefix_refl _
    · rw [if_neg new, List.append_nil]
      exact fates.begun one id idle
  · intro one id later
    have new : .unary origin world.next ≠ Tag.unary one id := by
      intro same
      cases same
      exact absurd later (Nat.not_succ_le_self _)
    rw [issued, if_neg new, List.append_nil, allocate_log, dispatched_note _ other]
    exact fates.fresh one id (Nat.le_of_succ_le later)

/-- A tag that is handed to a pass leaves the queue. -/
theorem Fates.delivered (fates : Fates world) (wired : Wired world) (unary : Bool)
    (completion : Completion) (streamShut unaryShut : Bool)
    (pends : completion.tag ∈ world.pending (world.queueOf unary)) :
    Fates ((world.take (world.queueOf unary) completion.tag).note
      (.delivered unary completion streamShut unaryShut)) := by
  have kept : ∀ tag, completion.tag ≠ tag →
      (Dispatched tag (.delivered unary completion streamShut unaryShut :: world.log) ↔
        Dispatched tag world.log) := by
    intro tag differs
    constructor
    · rintro ⟨side, one, first, second, member, same⟩
      rcases List.mem_cons.mp member with new | earlier
      · cases new
        exact absurd same differs
      · exact ⟨side, one, first, second, earlier, same⟩
    · rintro ⟨side, one, first, second, member, same⟩
      exact ⟨side, one, first, second, List.mem_cons_of_mem _ member, same⟩
  have taken := fates.take (world.queueOf unary) completion.tag
  refine ⟨?_, ?_, ?_⟩
  · intro origin id member
    have differs : completion.tag ≠ .unary origin id := by
      intro same
      -- Each tag is on the unary queue once, so the one taken is off it.
      rw [same] at pends member
      cases unary with
      | true =>
          change _ ∈ (world.take world.connection.unaryQueue _).pending
            world.connection.unaryQueue at member
          rw [take_pending, if_pos rfl] at member
          exact (List.Nodup.not_mem_erase wired.unaryOnce) member
      | false =>
          obtain ⟨kind, slot, _, own, _⟩ := wired.streamOwned _ pends
          cases own
    rw [note_log, take_log, kept _ differs]
    exact taken.waiting origin id member
  · intro origin id idle
    have differs : completion.tag ≠ .unary origin id := by
      intro same
      exact idle ⟨unary, completion, streamShut, unaryShut, List.mem_cons_self, same⟩
    rw [note_log, take_log, kept _ differs] at idle
    exact taken.begun origin id idle
  · intro origin id later
    have differs : completion.tag ≠ .unary origin id := by
      intro same
      rw [same] at pends
      cases unary with
      | true =>
          obtain ⟨other, number, own, earlier⟩ := wired.unaryOwned _ pends
          cases own
          exact absurd later (Nat.not_le_of_lt earlier)
      | false =>
          obtain ⟨kind, slot, _, own, _⟩ := wired.streamOwned _ pends
          cases own
    rw [note_log, take_log, kept _ differs]
    exact taken.fresh origin id later

/-! ## Actions -/

theorem finish_fates (kind : StreamKind) (wired : Wired world) (fates : Fates world) :
    wp (finish kind) (fun _ => Fates) (fun _ => Fates) world := by
  apply finish_rule kind
  · exact fun _ => fates
  · intro _ _
    exact (fates.noteForeign rfl fun _ => rfl).setState kind _
  · intro _ queue reader
    exact (fates.putReader wired reader .finish).setState kind _
  · exact fun _ _ => fates

theorem call_fates (env : Env) (origin : Origin) (call : ApiCall) (wired : Wired world)
    (fates : Fates world) :
    wp (apiCall env origin call) (fun _ => Fates) (fun _ => Fates) world := by
  have called : Fates (world.note (.called call world.unaryShut)) :=
    fates.noteForeign rfl fun _ => rfl
  apply api_call_rule env origin call
  · exact fun _ _ => called.allocate origin
  · exact fun _ _ _ _ => (called.noteForeign rfl fun _ => rfl).allocate .confirm
  · exact fun kind _ => finish_fates kind (wired.note _) called

/-- The fates while a dispatched tag is in hand. -/
structure Handed (completion : Completion) (world : World) : Prop where
  fates : Fates world
  dispatched : Dispatched completion.tag world.log

variable {completion : Completion}

theorem Handed.later (handed : Handed completion before) (fates : Fates after)
    (grows : ∀ event ∈ before.log, event ∈ after.log) : Handed completion after := by
  obtain ⟨unary, one, streamShut, unaryShut, member, same⟩ := handed.dispatched
  exact ⟨fates, unary, one, streamShut, unaryShut, grows _ member, same⟩

theorem Handed.note (handed : Handed completion world) {event : Event}
    (other : isDelivery event = false)
    (own : ∀ tag, tag ≠ completion.tag → stepOf tag event = none) :
    Handed completion (world.note event) := by
  refine handed.later (handed.fates.note other fun origin id => ?_)
    fun _ member => List.mem_cons_of_mem event member
  by_cases same : .unary origin id = completion.tag
  · rw [same]
    exact .inr handed.dispatched
  · exact .inl (own _ same)

theorem dispatch_fates (env : Env) (completion : Completion) :
    DispatchKeptOver env anyManners completion (fun world => Wired world ∧ Heard completion world)
      (Handed completion) (fun _ => Fates) where
  threw _ _ _ handed := handed.fates
  exited _ _ handed := handed.fates
  undefined _ _ handed := handed.fates
  call call _ world base handed := by
    refine wp_mono (wp_and (call_fates env .nested call base.1 handed.fates)
      (api_call_frame env world .nested call world (Frame.refl world))) ?_
        fun _ _ stopped => stopped.1
    rintro _ after ⟨fates, framed⟩
    exact handed.later fates framed.log
  update _ _ _ _ _ _ _ handed := handed.note rfl fun _ _ => rfl
  completed unary same status world handed :=
    handed.note rfl fun tag other => if_neg fun equal => other equal.symm
  startReceived kind _ _ _ _ handed :=
    handed.later (handed.fates.setState kind _) fun _ member => member
  initMetadataReceived kind _ _ _ _ handed :=
    handed.later (handed.fates.setState kind _) fun _ member => member
  finishResponded kind _ _ _ _ handed :=
    handed.later (handed.fates.setState kind _) fun _ member => member
  confirms _ _ _ _ _ world _ _ handed :=
    handed.later (handed.fates.allocate .confirm) fun _ member => List.mem_cons_of_mem _ member
  reads _ _ _ _ world _ _ base handed reader :=
    handed.later (handed.fates.putReader base.1 reader .read)
      fun _ member => List.mem_cons_of_mem _ member

theorem event_fates (env : Env) (unary : Bool) (completion : Completion) (wired : Wired world)
    (fates : Fates world) :
    wp (processEvent (grpc env) unary completion) (fun _ => Fates) (fun _ => Fates) world := by
  refine event_over_wired (any_manners_allow completion) (fun _ fates => fates) ?_
    (dispatch_fates env completion) ?_ (fun _ _ handed => handed.fates) world wired fates
  · intro before wired fates pends
    have handed : Handed completion ((before.take (before.queueOf unary) completion.tag).note
        (.delivered unary completion before.streamShut before.unaryShut)) :=
      ⟨fates.delivered wired unary completion _ _ pends, unary, completion, _, _,
        List.mem_cons_self, rfl⟩
    refine deliver_rule unary completion before (Handed completion) handed ?_
    intro kind received after handed _
    have buffered : Handed completion
        (after.setState kind ({ · with updateResponse := received.message })) :=
      handed.later (handed.fates.setState kind _) fun _ member => member
    exact buffered.note rfl fun _ _ => rfl
  · intro _ after _ handed
    have deleted : Handed completion (after.note (.deleted completion.tag)) :=
      handed.note rfl fun tag other => if_neg fun equal => other equal.symm
    exact deleted.fates

theorem queue_fates (env : Env) (unary : Bool) :
    QueueKeptOver (grpc env) unary anyManners Wired Fates (fun _ => Fates) where
  waiting _ _ fates := fates
  unfinished _ _ fates := fates
  event completion _ _ wired fates := event_fates env unary completion wired fates
  finish _ kind _ wired fates := finish_fates kind wired fates
  shutdown _ _ fates _ := fates.shutdown _
  draining _ fates := fates.noteForeign rfl fun _ => rfl
  finishAgain _ fates := fates.noteForeign rfl fun _ => rfl
  verdict _ _ fates := fates.noteForeign rfl fun _ => rfl

theorem build_fates : BuildKept Fates (fun _ => Fates) where
  exited _ fates := fates
  counted _ _ fates := fates.unqueued (fun _ _ member => member) rfl (Nat.le_succ _)
  client _ _ _ fates := fates.unqueued (fun _ _ member => member) rfl (Nat.le_succ _)
  state kind change _ fates := fates.setState kind change
  told _ _ _ _ fates := fates.noteForeign rfl fun _ => rfl
  issued _ _ _ fates := fates.noteForeign rfl fun _ => rfl
  starts kind subscription slot _ distinct fates :=
    fates.putStream distinct kind subscription slot

/-- Callbacks on a unary queue that is replaced are forgotten, not touched. -/
theorem Fates.renewUnary (fates : Fates world) : Fates (renewUnary world) := by
  refine fates.unqueued (fun origin id member => ?_) rfl (Nat.le_succ _)
  change _ ∈ (World.setQueue _ world.next {}).pending world.next at member
  rw [new_queue_pending, if_pos rfl] at member
  cases member

theorem Fates.renewStream (fates : Fates world) (wired : Wired world) :
    Fates (renewStream world) := by
  refine fates.unqueued (fun origin id member => ?_) rfl (Nat.le_succ _)
  change _ ∈ (World.setQueue _ world.next {}).pending world.connection.unaryQueue at member
  rwa [new_queue_pending, if_neg (Nat.ne_of_lt wired.unaryKnown)] at member

theorem actions_fates (env : Env) :
    ActionsKeptOver (grpc env) anyManners Wired Fates (fun _ => Fates) where
  queue unary := queue_fates env unary
  call call _ _ wired fates := call_fates env .direct call wired fates
  reinitializeUnary _ wired fates :=
    reinitialize_unary_keeps build_fates wired.renewUnary.distinct fates.renewUnary
  reinitializeStream _ wired fates :=
    reinitialize_stream_keeps build_fates wired.renewStream.distinct (fates.renewStream wired)
  exited _ fates := fates
  resumes _ fates := fates

theorem before_fates (connection : IVIConnection) : Fates (World.before connection) := by
  refine ⟨fun _ _ never => ?_, fun _ _ _ => List.nil_prefix, fun _ _ _ => ⟨rfl, ?_⟩⟩
  · cases never
  · rintro ⟨_, _, _, _, never, _⟩
    cases never

theorem reached_fates {env : Env} {connection : IVIConnection} {callbacks : IVIStreamCallbacks}
    {actions : List Action} {replies : List Reply}
    (distinct : connection.streamQueue ≠ connection.unaryQueue)
    (reached : Reached (grpc env) connection callbacks actions replies world) :
    Wired world ∧ Fates world :=
  reached_over_wired distinct (construct_builds build_fates distinct (before_fates connection))
    (actions_fates env) (fun action _ => any_action_allowed action) reached

/-! ## Draining a queue -/

theorem wp_async_next_tag {normal : Unit → World → Prop} {abrupt : Halt → World → Prop}
    {env : Env} {unary : Bool} {tag : Tag} (pends : tag ∈ world.pending (world.queueOf unary)) :
    wp (asyncNextTag (grpc env) unary tag) normal abrupt world ↔
      normal () ((world.take (world.queueOf unary) tag).note (.collected unary tag)) := by
  have admitted : (grpc env).admits (world.queues (world.queueOf unary)) (.gotEvent tag) = true :=
    (grpc_event_iff _ _).mpr pends
  simp [asyncNextTag, wp, admitted]

theorem wp_async_next_ends {normal : NextStatus → World → Prop} {abrupt : Halt → World → Prop}
    {runtime : Runtime} {unary : Bool} {status : NextStatus}
    (admitted : runtime.admits (world.queues (world.queueOf unary)) status.answer = true) :
    wp (asyncNextLast runtime unary (some status)) normal abrupt world ↔ normal status world := by
  simp [asyncNextLast, wp, admitted]

/-- How often a drain deletes a tag. -/
def deletions (unary : Bool) (tags : List Tag) (tag : Tag) : Nat :=
  if unary then tags.count tag else 0

/-- What the collection of these tags does. -/
structure Drained (unary : Bool) (tags : List Tag) (before after : World) : Prop where
  wired : Wired after
  connection : after.connection = before.connection
  streams : after.streams = before.streams
  shut : ∀ queue, (after.queues queue).shut = (before.queues queue).shut
  others : ∀ queue, queue ≠ before.queueOf unary → after.pending queue = before.pending queue
  histories : ∀ origin id, history (.unary origin id) after.log =
    history (.unary origin id) before.log ++
      List.replicate (deletions unary tags (.unary origin id)) .freed

theorem Drained.none (unary : Bool) (wired : Wired world) : Drained unary [] world world := by
  refine ⟨wired, rfl, rfl, fun _ => rfl, fun _ _ => rfl, fun origin id => ?_⟩
  cases unary with
  | true => exact (List.append_nil _).symm
  | false => exact (List.append_nil _).symm

theorem Drained.queue {unary : Bool} {tags : List Tag} (drained : Drained unary tags before after) :
    after.queueOf unary = before.queueOf unary := by
  unfold World.queueOf
  rw [drained.connection]

theorem Drained.cons {unary : Bool} {tag : Tag} {tags : List Tag}
    (first : Drained unary [tag] before world) (rest : Drained unary tags world after) :
    Drained unary (tag :: tags) before after where
  wired := rest.wired
  connection := rest.connection.trans first.connection
  streams := rest.streams.trans first.streams
  shut queue := (rest.shut queue).trans (first.shut queue)
  others queue other := by
    rw [rest.others queue (by rwa [first.queue]), first.others queue other]
  histories origin id := by
    rw [rest.histories, first.histories, List.append_assoc, List.replicate_append_replicate]
    cases unary with
    | true =>
        simp only [deletions, ↓reduceIte]
        rw [← List.count_append, List.singleton_append]
    | false => rfl

theorem collect_drains (env : Env) (unary : Bool) (tag : Tag) (wired : Wired world)
    (pends : tag ∈ world.pending (world.queueOf unary)) :
    wp (collect (grpc env) unary tag)
      (fun _ after => Drained unary [tag] world after ∧
        after.pending (world.queueOf unary) = (world.pending (world.queueOf unary)).erase tag)
      (fun _ _ => False) world := by
  have taken : Wired ((world.take (world.queueOf unary) tag).note (.collected unary tag)) :=
    (wired.take _ _).note _
  have own : ((world.take (world.queueOf unary) tag).note (.collected unary tag)).pending
      (world.queueOf unary) = (world.pending (world.queueOf unary)).erase tag :=
    (take_pending world _ tag _).trans (if_pos rfl)
  have others : ∀ queue, queue ≠ world.queueOf unary →
      ((world.take (world.queueOf unary) tag).note (.collected unary tag)).pending queue =
        world.pending queue :=
    fun queue other => (take_pending world _ tag queue).trans (if_neg other)
  rw [collect, wp_bind, wp_async_next_tag pends, wp_only_if]
  cases unary with
  | true =>
      refine ⟨⟨taken.note _, rfl, rfl, fun queue => take_shut world _ tag queue, others, ?_⟩, own⟩
      intro origin id
      rw [history, note_log, observed_cons, note_log, observed_none rfl]
      simp only [stepOf, deletions, List.count_singleton, beq_iff_eq]
      congr 1
      by_cases same : tag = .unary origin id
      · simp [same]
      · simp [same]
  | false =>
      refine ⟨⟨taken, rfl, rfl, fun queue => take_shut world _ tag queue, others, ?_⟩, own⟩
      intro origin id
      rw [history, note_log, observed_none rfl]
      exact (List.append_nil _).symm

/-- A drain comes to an end, and the queue is empty if its last answer is
`SHUTDOWN`. -/
theorem each_collect_drains (env : Env) (unary : Bool) {timing : Timing Tag} {first : Nat}
    {pending tags : List Tag} {last : NextStatus}
    (answers : Answers timing first pending tags last) (wired : Wired world)
    (shut : (world.queues (world.queueOf unary)).shut = true)
    (same : world.pending (world.queueOf unary) = pending) :
    wp (do
        each (collect (grpc env) unary) tags
        asyncNextLast (grpc env) unary (some last))
      (fun status after => status = last ∧ Drained unary tags world after ∧
        (last = .shutdown → after.pending (world.queueOf unary) = []))
      (fun _ _ => False) world := by
  induction answers generalizing world with
  | @event call pending tag tags last pends done rest ih =>
      rw [wp_bind, each, wp_bind]
      apply wp_then (collect_drains env unary tag wired (same ▸ pends))
      rintro _ middle ⟨drained, left⟩
      rw [same, ← drained.queue] at left
      -- The rest of the answers fits what the first one left on the queue.
      have later := ih drained.wired (by rw [drained.queue, drained.shut, shut]) left
      rw [wp_bind] at later
      apply wp_then later
      intro _ middle again
      apply wp_then again
      rintro status after ⟨ends, more, empty⟩
      refine ⟨ends, drained.cons more, fun all => ?_⟩
      rw [← drained.queue]
      exact empty all
  | timeout waits undone =>
      have admitted : (grpc env).admits (world.queues (world.queueOf unary))
          NextStatus.timeout.answer = true := by
        change (!(world.queues (world.queueOf unary)).drained) = true
        rw [Bool.not_eq_true']
        refine Bool.eq_false_iff.mpr fun drained => waits ?_
        rw [← same]
        exact ((drained_iff _).mp drained).2
      rw [wp_bind, each, wp_pure, wp_async_next_ends admitted]
      exact ⟨rfl, Drained.none unary wired, fun never => by cases never⟩
  | shutdown =>
      have admitted : (grpc env).admits (world.queues (world.queueOf unary))
          NextStatus.shutdown.answer = true := (grpc_shutdown_iff _).mpr ⟨shut, same⟩
      rw [wp_bind, each, wp_pure, wp_async_next_ends admitted]
      exact ⟨rfl, Drained.none unary wired, fun _ => same⟩

theorem drain_queue_drains (env : Env) (unary : Bool) {timing : Timing Tag} {tags : List Tag}
    {last : NextStatus} (wired : Wired world)
    (answers : Answers timing 0 (world.pending (world.queueOf unary)) tags last) :
    wp (drainQueue (grpc env) unary tags (some last))
      (fun status after => status = last ∧
        Drained unary tags (world.shutdown (world.queueOf unary)) after ∧
        (last = .shutdown → after.pending (world.queueOf unary) = []))
      (fun _ _ => False) world := by
  rw [drainQueue, wp_bind, shutdownQueue, wp_modify]
  refine each_collect_drains env unary answers (wired.shutdown _) ?_ (shutdown_pending _ _ _)
  exact (shutdown_shut world _ _).trans (if_pos rfl)

/-! ## Finishing the streams -/

/-- `Finish` would start an operation: the stream call has answered, and was
neither finished nor told to. -/
def startsFinish (world : World) (kind : StreamKind) : Bool :=
  !(world.state kind).finishResponded && (world.state kind).initMetadataReceived &&
    !(world.state kind).finishCalled

theorem starts_finish_iff {kind : StreamKind} :
    startsFinish world kind = true ↔ AsksReader kind world := by
  simp only [startsFinish, Bool.and_eq_true, Bool.not_eq_true']
  constructor
  · rintro ⟨⟨unanswered, metadata⟩, uncalled⟩
    exact ⟨unanswered, metadata, uncalled⟩
  · rintro ⟨unanswered, metadata, uncalled⟩
    exact ⟨⟨unanswered, metadata⟩, uncalled⟩

/-- The operations that `FinishStream` starts for these clients, last one first. -/
def finishOperations (world : World) (kinds : List StreamKind) : List Tag :=
  ((kinds.filter (startsFinish world)).map (world.tagOf · .finish)).reverse

theorem finish_operations_congr (same : after.streams = before.streams)
    (kinds : List StreamKind) : finishOperations after kinds = finishOperations before kinds := by
  have starts : startsFinish after = startsFinish before := by
    unfold startsFinish World.state
    rw [same]
  unfold finishOperations World.tagOf World.state
  rw [starts, same]

/-- What a round of `Finish` over these clients does. -/
structure Round (kinds : List StreamKind) (before after : World) : Prop where
  wired : Wired after
  connection : after.connection = before.connection
  later : ∀ kind, kind ∉ kinds → after.streams kind = before.streams kind
  stream : after.pending before.connection.streamQueue =
    finishOperations before kinds ++ before.pending before.connection.streamQueue
  others : ∀ queue, queue ≠ before.connection.streamQueue →
    after.pending queue = before.pending queue
  histories : ∀ origin id, history (.unary origin id) after.log =
    history (.unary origin id) before.log

theorem Round.none (wired : Wired world) : Round [] world world :=
  ⟨wired, rfl, fun _ _ => rfl, rfl, fun _ _ => rfl, fun _ _ => rfl⟩

theorem finish_operations_settled (kinds : List StreamKind) (settled : AllSettled world) :
    finishOperations world kinds = [] := by
  have none : ∀ kind, startsFinish world kind = false := by
    intro kind
    unfold startsFinish
    rcases settled kind with called | responded
    · simp [called]
    · simp [responded]
  simp [finishOperations, none]

/-- What `Finish` of one client does. -/
structure Finishes (kind : StreamKind) (before after : World) : Prop where
  connection : after.connection = before.connection
  others : ∀ other, other ≠ kind → after.streams other = before.streams other
  started : startsFinish before kind = true → ∀ queue, after.pending queue =
    if queue = before.connection.streamQueue then
      before.tagOf kind .finish :: before.pending queue
    else before.pending queue
  quiet : startsFinish before kind = false → ∀ queue, after.pending queue = before.pending queue
  histories : ∀ origin id, history (.unary origin id) after.log =
    history (.unary origin id) before.log

theorem finish_finishes (kind : StreamKind) (wired : Wired world) :
    wp (finish kind) (fun _ => Finishes kind world) (fun _ _ => False) world := by
  apply finish_rule kind
  · intro responded
    have quiet : startsFinish world kind = false := by simp [startsFinish, responded]
    refine ⟨rfl, fun _ _ => rfl, fun starts => ?_, fun _ _ => rfl, fun _ _ => rfl⟩
    rw [quiet] at starts
    cases starts
  · intro _ idle
    have quiet : startsFinish world kind = false := by
      rw [← Bool.not_eq_true]
      exact fun starts => idle (starts_finish_iff.mp starts)
    refine ⟨rfl, set_state_other _ kind _, fun starts => ?_, fun _ _ => rfl, fun _ _ => rfl⟩
    rw [quiet] at starts
    cases starts
  · intro asking queue reader
    have own := wired.readers kind queue trivial reader
    have starts : startsFinish world kind = true := starts_finish_iff.mpr asking
    refine ⟨rfl, set_state_other _ kind _, fun _ other => ?_, fun never => ?_, ?_⟩
    · change (world.put queue (world.tagOf kind .finish)).pending other = _
      rw [put_pending, own]
      by_cases here : other = world.connection.streamQueue
      · rw [if_pos here, if_pos here, here]
      · rw [if_neg here, if_neg here]
    · rw [starts] at never
      cases never
    · intro origin id
      refine observed_none ?_ world.log
      simp [stepOf, World.tagOf]
  · intro asking missing
    -- Metadata came through a reader, so there is one.
    have present := wired.metadata kind trivial asking.metadata
    rw [missing] at present
    cases present

theorem Round.snoc {kinds : List StreamKind} {kind : StreamKind}
    (round : Round kinds before world) (later : kind ∉ kinds) (wired : Wired after)
    (finishes : Finishes kind world after) : Round (kinds ++ [kind]) before after := by
  have state : world.state kind = before.state kind := by
    rw [World.state, round.later kind later, World.state]
  have starts : startsFinish world kind = startsFinish before kind := by
    unfold startsFinish
    rw [state]
  have tag : world.tagOf kind .finish = before.tagOf kind .finish := by
    rw [World.tagOf, state, World.tagOf]
  refine ⟨wired, finishes.connection.trans round.connection, ?_, ?_, ?_, ?_⟩
  · intro other absent
    rw [List.mem_append, List.mem_singleton, not_or] at absent
    rw [finishes.others other absent.2, round.later other absent.1]
  · cases yes : startsFinish before kind with
    | true =>
        rw [finishes.started (starts.trans yes), round.connection, if_pos rfl, round.stream, tag]
        simp [finishOperations, yes]
    | false =>
        rw [finishes.quiet (starts.trans yes), round.stream]
        simp [finishOperations, yes]
  · intro queue elsewhere
    cases yes : startsFinish before kind with
    | true =>
        rw [finishes.started (starts.trans yes), round.connection, if_neg elsewhere]
        exact round.others queue elsewhere
    | false =>
        rw [finishes.quiet (starts.trans yes)]
        exact round.others queue elsewhere
  · intro origin id
    rw [finishes.histories, round.histories]

theorem finish_stream_round (wired : Wired world) :
    wp finishStream (fun _ after => Round StreamKind.all world after) (fun _ _ => False) world := by
  refine wp_each (fun done => Round done world) StreamKind.all world (Round.none wired) ?_
    fun _ round => round
  intro earlier kind later order middle round
  refine wp_mono (wp_and (finish_wired kind middle round.wired)
    (finish_finishes kind round.wired)) ?_ fun _ _ never => never.2
  rintro _ after ⟨wired, finishes⟩
  exact round.snoc (all_once order) wired finishes

/-- Both rounds together start each operation once. -/
theorem finish_stream_twice (wired : Wired world) :
    wp (do
        finishStream
        finishStream)
      (fun _ after => Round StreamKind.all world after) (fun _ _ => False) world := by
  rw [wp_bind]
  refine wp_mono (wp_and (finish_stream_round wired) (finish_stream_settles world)) ?_
    fun _ _ never => never.1
  rintro _ middle ⟨first, settled⟩
  apply wp_then (finish_stream_round first.wired)
  intro _ after second
  refine ⟨second.wired, second.connection.trans first.connection, ?_, ?_, ?_, ?_⟩
  · intro kind absent
    exact absurd (mem_all kind) absent
  · rw [← first.stream, ← first.connection, second.stream, finish_operations_settled _ settled]
    rfl
  · intro queue elsewhere
    rw [second.others queue (by rwa [first.connection]), first.others queue elsewhere]
  · intro origin id
    rw [second.histories, first.histories]

/-! ## The destructor -/

/-- When the operations on the two queues complete, counted in calls of each
drain. -/
structure TeardownTiming where
  unary : Timing Tag
  stream : Timing Tag

/-- The operations on the stream queue when the destructor drains it. -/
def streamOperations (world : World) : List Tag :=
  finishOperations world StreamKind.all ++ world.pending world.connection.streamQueue

/-- The answers the destructor gets with this timing. -/
structure Observes (timing : TeardownTiming) (world : World) (collection : Collection)
    (statuses : NextStatus × NextStatus) : Prop where
  unary : Answers timing.unary 0 (world.pending world.connection.unaryQueue) collection.unaryTags
    statuses.1
  unaryLast : collection.unaryLast = some statuses.1
  stream : Answers timing.stream 0 (streamOperations world) collection.streamTags statuses.2
  streamLast : collection.streamLast = some statuses.2

/-- What the body of the destructor leaves. -/
structure Torn (collection : Collection) (statuses : NextStatus × NextStatus)
    (before after : World) : Prop where
  connection : after.connection = before.connection
  unary : statuses.1 = .shutdown → after.pending before.connection.unaryQueue = []
  stream : statuses.2 = .shutdown → after.pending before.connection.streamQueue = []
  histories : ∀ origin id, history (.unary origin id) after.log =
    history (.unary origin id) before.log ++
      List.replicate (collection.unaryTags.count (.unary origin id)) .freed

theorem destroy_tears (env : Env) {timing : TeardownTiming} {collection : Collection}
    {statuses : NextStatus × NextStatus} (wired : Wired world)
    (observes : Observes timing world collection statuses) :
    wp (destroy (grpc env) collection)
      (fun result after => result = statuses ∧ Torn collection statuses world after)
      (fun _ _ => False) world := by
  rw [destroy, wp_bind, observes.unaryLast]
  apply wp_then (drain_queue_drains env true wired observes.unary)
  rintro status first ⟨ends, drained, unaryEmpty⟩
  have connection : first.connection = world.connection := drained.connection
  -- The drain of the unary queue leaves the stream side as it was.
  have operations : finishOperations first StreamKind.all ++
      first.pending first.connection.streamQueue = streamOperations world := by
    rw [finish_operations_congr drained.streams, connection, drained.others _ wired.distinct,
      shutdown_pending]
    rfl
  have both := finish_stream_twice drained.wired
  rw [wp_bind] at both ⊢
  apply wp_then both
  intro _ middle again
  rw [wp_bind]
  apply wp_then again
  intro _ second round
  have pending : second.pending (second.queueOf false) = streamOperations world := by
    change second.pending second.connection.streamQueue = _
    rw [round.connection, round.stream, operations]
  rw [wp_bind, observes.streamLast]
  apply wp_then (drain_queue_drains env false round.wired (pending ▸ observes.stream))
  rintro other after ⟨finishes, collected, streamEmpty⟩
  have queue : second.queueOf false = world.connection.streamQueue := by
    change second.connection.streamQueue = _
    rw [round.connection, connection]
  refine ⟨Prod.ext ends finishes, ?_, ?_, ?_, ?_⟩
  · rw [collected.connection, shutdown_connection, round.connection, connection]
  · intro all
    rw [collected.others _ (queue ▸ wired.distinct.symm),
      shutdown_pending, round.others _ (by rw [connection]; exact wired.distinct.symm)]
    exact unaryEmpty all
  · intro all
    rw [← queue]
    exact streamEmpty all
  · intro origin id
    rw [collected.histories]
    change history _ (_ :: second.log) ++ _ = _
    rw [history, observed_none rfl]
    change history _ second.log ++ _ = _
    rw [round.histories, drained.histories]
    change (history _ (_ :: world.log) ++ _) ++ _ = _
    rw [history, observed_none rfl]
    exact List.append_nil _

/-! ## What is left behind -/

/-- `CallUnaryAsync` allocated the callback, and no pass dispatched it so far. -/
structure Undispatched (tag : Tag) (world : World) : Prop where
  issued : .issued ∈ history tag world.log
  idle : ¬ Dispatched tag world.log

/-- No callback waits on a unary queue that the connection no longer has. -/
def NoneStranded (world : World) : Prop :=
  ∀ origin id, Undispatched (.unary origin id) world →
    .unary origin id ∈ world.pending world.connection.unaryQueue

/-- Whenever a drain asks, another operation has completed. -/
def PromptTeardown (timing : TeardownTiming) (world : World) : Prop :=
  Prompt timing.unary 0 (world.pending world.connection.unaryQueue) ∧
    Prompt timing.stream 0 (streamOperations world)

/-- The destructor left nothing behind: both queues are drained, and every
callback that was still to be dispatched is deleted, once and uninvoked. -/
structure NothingLeft (statuses : NextStatus × NextStatus) (before after : World) : Prop where
  unaryShutdown : statuses.1 = .shutdown
  streamShutdown : statuses.2 = .shutdown
  unaryEmpty : after.pending after.connection.unaryQueue = []
  streamEmpty : after.pending after.connection.streamQueue = []
  freed : ∀ origin id, Undispatched (.unary origin id) before →
    history (.unary origin id) after.log = [.issued, .freed]

theorem Fates.undispatched (fates : Fates world) {origin : Origin} {id : Nat}
    (waits : Undispatched (.unary origin id) world) :
    history (.unary origin id) world.log = [.issued] := by
  rcases List.prefix_cons_iff.mp (fates.begun origin id waits.idle) with none | ⟨rest, all, empty⟩
  · have issued := waits.issued
    rw [none] at issued
    cases issued
  · rw [all, List.prefix_nil.mp empty]

theorem observed_exist (timing : TeardownTiming) (world : World) :
    ∃ collection statuses, Observes timing world collection statuses := by
  obtain ⟨unaryTags, unary, unaryAnswers⟩ :=
    answers_exist timing.unary 0 (world.pending world.connection.unaryQueue)
  obtain ⟨streamTags, stream, streamAnswers⟩ :=
    answers_exist timing.stream 0 (streamOperations world)
  exact ⟨⟨unaryTags, some unary, streamTags, some stream⟩, (unary, stream), unaryAnswers, rfl,
    streamAnswers, rfl⟩

theorem torn_leaves_nothing_iff {timing : TeardownTiming} {collection : Collection}
    {statuses : NextStatus × NextStatus} (wired : Wired before) (fates : Fates before)
    (observes : Observes timing before collection statuses)
    (torn : Torn collection statuses before after) :
    NothingLeft statuses before after ↔ PromptTeardown timing before ∧ NoneStranded before := by
  constructor
  · intro nothing
    refine ⟨⟨observes.unary.drains_iff.mp nothing.unaryShutdown,
      observes.stream.drains_iff.mp nothing.streamShutdown⟩, ?_⟩
    intro origin id waits
    have freed := nothing.freed origin id waits
    rw [torn.histories, fates.undispatched waits] at freed
    -- Only the drain of the unary queue deletes anything, and it takes from that queue.
    have collected : 0 < collection.unaryTags.count (.unary origin id) := by
      refine Nat.pos_of_ne_zero fun none => ?_
      rw [none] at freed
      cases freed
    exact observes.unary.subperm.subset (List.count_pos_iff.mp collected)
  · rintro ⟨⟨unaryPrompt, streamPrompt⟩, onQueue⟩
    have unary := observes.unary.drains_iff.mpr unaryPrompt
    have stream := observes.stream.drains_iff.mpr streamPrompt
    refine ⟨unary, stream, ?_, ?_, ?_⟩
    · rw [torn.connection]
      exact torn.unary unary
    · rw [torn.connection]
      exact torn.stream stream
    · intro origin id waits
      have answers := observes.unary
      rw [unary] at answers
      -- A drained queue handed out each of its tags, and it held each once.
      have once : collection.unaryTags.count (.unary origin id) = 1 := by
        rw [answers.perm.count_eq]
        exact List.count_eq_one_of_mem wired.unaryOnce (onQueue origin id waits)
      rw [torn.histories, fates.undispatched waits, once]
      rfl

/-- Whatever the timing, both drains end, after at most as many events as there
were operations. They leave nothing behind exactly if each operation has
completed by the time it is asked for and no callback was stranded before. -/
theorem teardown_leaves_nothing_iff (env : Env) (connection : IVIConnection)
    (distinct : connection.streamQueue ≠ connection.unaryQueue) (callbacks : IVIStreamCallbacks)
    (actions : List Action) (replies : List Reply) (world : World)
    (reached : Reached (grpc env) connection callbacks actions replies world)
    (timing : TeardownTiming) :
    (∃ collection statuses, Observes timing world collection statuses) ∧
    ∀ collection statuses, Observes timing world collection statuses →
      collection.unaryTags.length ≤ (world.pending world.connection.unaryQueue).length ∧
      collection.streamTags.length ≤ (streamOperations world).length ∧
      ∃ after, destroy (grpc env) collection world = .returned statuses after ∧
        (NothingLeft statuses world after ↔ PromptTeardown timing world ∧ NoneStranded world) := by
  obtain ⟨wired, fates⟩ := reached_fates distinct reached
  refine ⟨observed_exist timing world, ?_⟩
  intro collection statuses observes
  refine ⟨observes.unary.subperm.length_le, observes.stream.subperm.length_le, ?_⟩
  obtain ⟨result, after, returned, same, torn⟩ := wp_total (destroy_tears env wired observes)
  subst same
  exact ⟨after, returned, torn_leaves_nothing_iff wired fates observes torn⟩

/-- A check of the log that finds no stranded callback. -/
def strandsNone (world : World) : Bool :=
  world.log.all fun
    | .started _ _ (.unary origin id) =>
        (world.pending world.connection.unaryQueue).contains (.unary origin id)
    | _ => true

theorem started_of_issued {tag : Tag} {log : List Event} (issued : .issued ∈ history tag log) :
    ∃ queue shut, .started queue shut tag ∈ log := by
  rw [history, observed, List.mem_reverse] at issued
  obtain ⟨event, member, step⟩ := List.mem_filterMap.mp issued
  cases event with
  | started queue shut other =>
      simp only [stepOf, Option.ite_none_right_eq_some] at step
      exact ⟨queue, shut, step.1 ▸ member⟩
  | completed | deleted =>
      simp only [stepOf, Option.ite_none_right_eq_some] at step
      cases step.2
  | called | subscribed | delivered | update | collected | shutdown | tryCancel | draining
  | finishAgain | verdict => cases step

theorem none_stranded (checked : strandsNone world = true) : NoneStranded world := by
  intro origin id waits
  obtain ⟨queue, shut, member⟩ := started_of_issued waits.issued
  have holds := List.all_eq_true.mp checked _ member
  simpa using holds

/-- Everything has completed. -/
def promptTiming : TeardownTiming where
  unary := ⟨fun _ _ => true, fun _ _ _ => rfl⟩
  stream := ⟨fun _ _ => true, fun _ _ _ => rfl⟩

theorem always_prompt (first : Nat) (pending : List Tag) :
    Prompt promptTiming.unary first pending := by
  intro call within
  change call < pending.countP fun _ => true
  rwa [List.countP_true]

/-- Two requests that were answered, but not polled for, are collected. -/
theorem prompt_requests_collected : newConnection.streamQueue ≠ newConnection.unaryQueue ∧
    ∃ world collection statuses after,
      Reached (grpc defaultEnv) newConnection (fun _ => none)
        [.call (.request .payment), .call (.request .order)] [.done, .done] world ∧
      destroy (grpc defaultEnv) collection world = .returned statuses after ∧
      NothingLeft statuses world after := by
  have reached := @requests_reached (grpc defaultEnv) newConnection (fun _ => none) _
    (Outcome.eq_returned (by decide +kernel)) .payment .order
  obtain ⟨⟨collection, statuses, observes⟩, tears⟩ := teardown_leaves_nothing_iff defaultEnv
    newConnection new_connection_distinct _ _ _ _ reached promptTiming
  obtain ⟨_, _, after, returned, nothing⟩ := tears collection statuses observes
  refine ⟨new_connection_distinct, _, collection, statuses, after, reached, returned,
    nothing.mpr ⟨⟨always_prompt 0 _, always_prompt 0 _⟩, none_stranded ?_⟩⟩
  decide +kernel

/-- Nothing completes before the manager is gone. -/
def slowTiming : TeardownTiming where
  unary := ⟨fun _ _ => false, fun _ _ never => never⟩
  stream := ⟨fun _ _ => false, fun _ _ never => never⟩

def nothingCollected : Collection where
  unaryTags := []
  unaryLast := some .timeout
  streamTags := []
  streamLast := some .shutdown

/-- The callbacks of two requests the server is still working on are never
deleted. -/
theorem slow_requests_leak : ∃ world after,
    Reached (grpc defaultEnv) newConnection (fun _ => none)
      [.call (.request .payment), .call (.request .order)] [.done, .done] world ∧
    Observes slowTiming world nothingCollected (.timeout, .shutdown) ∧
    destroy (grpc defaultEnv) nothingCollected world = .returned (.timeout, .shutdown) after ∧
    history (request 11) after.log = [.issued] ∧
    history (request 12) after.log = [.issued] ∧
    ¬ NothingLeft (.timeout, .shutdown) world after := by
  have reached := @requests_reached (grpc defaultEnv) newConnection (fun _ => none) _
    (Outcome.eq_returned (by decide +kernel)) .payment .order
  refine ⟨_, _, reached, ⟨.timeout ?_ fun _ _ => rfl, rfl, ?_, rfl⟩,
    Outcome.eq_returned (by decide +kernel), by decide +kernel, by decide +kernel,
    fun nothing => by cases nothing.unaryShutdown⟩
  · decide +kernel
  · exact answers_none slowTiming.stream 0 (by decide +kernel)

end IviSdk.Teardown
