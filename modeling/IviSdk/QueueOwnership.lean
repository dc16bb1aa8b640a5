import IviSdk.QueueWiring

/-!
Who may delete a tag. Only a tag that `CallUnaryAsync` allocated lies on the heap
of its own; the tags of a stream call are members of its state. The two are told
apart by the queue they arrive on, so a manager whose connection has one queue
for both deletes members and never deletes what it allocated. The constructor's
sanity check compares the addresses of two members of the connection and passes
for every connection.
-/

namespace IviSdk.QueueOwnership

open Checks CompletionQueues Streams ManagerWorld Interaction StreamClients ClientManager
open CallbackRules PollRules ManagerRuns QueueWiring

/-- `CallUnaryAsync` allocated the tag, and nobody deleted it so far. -/
structure Owned (earlier : List Event) (tag : Tag) : Prop where
  allocated : ∃ origin id queue shut, tag = .unary origin id ∧ .started queue shut tag ∈ earlier
  alive : .deleted tag ∉ earlier

/-- Only an owned tag is deleted, and `PollStream` dispatches no tag of a unary
call, which it would not delete. -/
def Rightful (earlier : List Event) : Event → Prop
  | .deleted tag => Owned earlier tag
  | .delivered false completion _ _ => ∃ kind received, completion = .stream kind received
  | _ => True

def RightfulLog : List Event → Prop
  | [] => True
  | event :: earlier => Rightful earlier event ∧ RightfulLog earlier

/-- The log is rightful, deleted tags had numbers from the counter, and every
tag on the unary queue can still be deleted. -/
structure Ownership (world : World) : Prop where
  log : RightfulLog world.log
  known : ∀ origin id, .deleted (.unary origin id) ∈ world.log → id < world.next
  alive : ∀ tag ∈ world.pending world.connection.unaryQueue, Owned world.log tag

/-- A tag that left the unary queue and is still to be deleted. -/
structure InHand (tag : Tag) (world : World) : Prop where
  owned : Owned world.log tag
  gone : tag ∉ world.pending world.connection.unaryQueue
  earlier : ∀ origin id, tag = .unary origin id → id < world.next

variable {world : World} {tag : Tag}

/-! ## Single changes -/

theorem Owned.cons {earlier : List Event} (owned : Owned earlier tag) {event : Event}
    (other : event ≠ .deleted tag) : Owned (event :: earlier) tag := by
  obtain ⟨origin, id, queue, shut, own, started⟩ := owned.allocated
  refine ⟨⟨origin, id, queue, shut, own, List.mem_cons_of_mem event started⟩, ?_⟩
  intro deleted
  rcases List.mem_cons.mp deleted with same | before
  · exact other same.symm
  · exact owned.alive before

/-- An event that is no deletion. -/
def Harmless (event : Event) : Prop := ∀ tag, event ≠ .deleted tag

theorem Ownership.note (ownership : Ownership world) {event : Event} (harmless : Harmless event)
    (rightful : Rightful world.log event) : Ownership (world.note event) := by
  refine ⟨⟨rightful, ownership.log⟩, ?_, ?_⟩
  · intro origin id deleted
    rcases List.mem_cons.mp deleted with same | before
    · exact absurd same.symm (harmless _)
    · exact ownership.known origin id before
  · intro tag member
    exact (ownership.alive tag member).cons (harmless tag)

theorem InHand.note (inHand : InHand tag world) {event : Event} (harmless : Harmless event) :
    InHand tag (world.note event) :=
  ⟨inHand.owned.cons (harmless tag), inHand.gone, inHand.earlier⟩

theorem Ownership.take (ownership : Ownership world) (queue : QueueId) (taken : Tag) :
    Ownership (world.take queue taken) :=
  ⟨ownership.log, ownership.known,
    fun tag member => ownership.alive tag (take_subset _ _ _ _ member)⟩

theorem Ownership.shutdown (ownership : Ownership world) (queue : QueueId) :
    Ownership (world.shutdown queue) := by
  have told : Ownership (world.note (.shutdown queue)) :=
    ownership.note (fun _ => Event.noConfusion) trivial
  refine ⟨told.log, told.known, ?_⟩
  intro tag member
  rw [shutdown_pending] at member
  exact told.alive tag member

theorem Ownership.setState (ownership : Ownership world) (kind : StreamKind)
    (change : StreamState kind → StreamState kind) : Ownership (world.setState kind change) :=
  ⟨ownership.log, ownership.known, ownership.alive⟩

theorem InHand.setState (inHand : InHand tag world) (kind : StreamKind)
    (change : StreamState kind → StreamState kind) : InHand tag (world.setState kind change) :=
  ⟨inHand.owned, inHand.gone, inHand.earlier⟩

/-- What is put on another queue is not on the unary queue. -/
theorem put_elsewhere (queue : QueueId) (put : Tag)
    (elsewhere : queue ≠ world.connection.unaryQueue) :
    (world.put queue put).pending world.connection.unaryQueue =
      world.pending world.connection.unaryQueue := by
  rw [put_pending, if_neg elsewhere.symm]

theorem Ownership.putStream (ownership : Ownership world) (queue : QueueId) (put : Tag)
    (elsewhere : queue ≠ world.connection.unaryQueue) : Ownership (world.put queue put) := by
  have told : Ownership (world.note (.started queue (world.queues queue).shut put)) :=
    ownership.note (fun _ => Event.noConfusion) trivial
  refine ⟨told.log, told.known, ?_⟩
  intro tag member
  rw [put_connection, put_elsewhere queue put elsewhere] at member
  exact told.alive tag member

theorem InHand.putStream (inHand : InHand tag world) (queue : QueueId) (put : Tag)
    (elsewhere : queue ≠ world.connection.unaryQueue) : InHand tag (world.put queue put) := by
  refine ⟨inHand.owned.cons Event.noConfusion, ?_, inHand.earlier⟩
  rw [put_connection, put_elsewhere queue put elsewhere]
  exact inHand.gone

/-- A new tag has a number no deleted tag had. -/
theorem Ownership.allocate (ownership : Ownership world) (origin : Origin) :
    Ownership (allocate origin world) := by
  refine ⟨⟨trivial, ownership.log⟩, ?_, ?_⟩
  · intro other id deleted
    rcases List.mem_cons.mp deleted with same | before
    · cases same
    · exact Nat.lt_succ_of_lt (ownership.known other id before)
  · intro tag member
    rw [allocate_connection, allocate_pending, if_pos rfl] at member
    rcases List.mem_cons.mp member with new | old
    · subst new
      refine ⟨⟨origin, world.next, _, _, rfl, List.mem_cons_self⟩, ?_⟩
      intro deleted
      rcases List.mem_cons.mp deleted with same | before
      · cases same
      · exact absurd (ownership.known origin world.next before) (Nat.lt_irrefl _)
    · exact (ownership.alive tag old).cons Event.noConfusion

theorem InHand.allocate (inHand : InHand tag world) (origin : Origin) :
    InHand tag (allocate origin world) := by
  refine ⟨inHand.owned.cons Event.noConfusion, ?_, ?_⟩
  · rw [allocate_connection, allocate_pending, if_pos rfl]
    intro member
    rcases List.mem_cons.mp member with new | old
    · exact absurd (inHand.earlier origin world.next new) (Nat.lt_irrefl _)
    · exact inHand.gone old
  · intro other id own
    exact Nat.lt_succ_of_lt (inHand.earlier other id own)

/-- The tag of a dispatched unary call is deleted, once. -/
theorem Ownership.delete (ownership : Ownership world) (inHand : InHand tag world) :
    Ownership (world.note (.deleted tag)) := by
  refine ⟨⟨inHand.owned, ownership.log⟩, ?_, ?_⟩
  · intro origin id deleted
    rcases List.mem_cons.mp deleted with same | before
    · cases same
      exact inHand.earlier origin id rfl
    · exact ownership.known origin id before
  · intro other member
    apply (ownership.alive other member).cons
    intro same
    cases same
    exact inHand.gone member

theorem Ownership.renewUnary (ownership : Ownership world) : Ownership (renewUnary world) := by
  refine ⟨ownership.log, fun origin id deleted =>
    Nat.lt_succ_of_lt (ownership.known origin id deleted), ?_⟩
  intro tag member
  change tag ∈ (World.setQueue _ world.next {}).pending world.next at member
  rw [new_queue_pending, if_pos rfl] at member
  cases member

/-! ## Dispatching a tag -/

/-- Ownership, with the tag in hand while there is one. -/
structure Handling (held : Option Tag) (world : World) : Prop where
  ownership : Ownership world
  inHand : ∀ tag, held = some tag → InHand tag world

theorem Ownership.emptyHanded (ownership : Ownership world) : Handling none world :=
  ⟨ownership, fun _ none => nomatch none⟩

variable {held : Option Tag}

theorem Handling.note (handling : Handling held world) {event : Event}
    (harmless : Harmless event) (rightful : Rightful world.log event) :
    Handling held (world.note event) :=
  ⟨handling.ownership.note harmless rightful,
    fun tag one => (handling.inHand tag one).note harmless⟩

theorem Handling.setState (handling : Handling held world) (kind : StreamKind)
    (change : StreamState kind → StreamState kind) : Handling held (world.setState kind change) :=
  ⟨handling.ownership.setState kind change,
    fun tag one => (handling.inHand tag one).setState kind change⟩

theorem Handling.allocate (handling : Handling held world) (origin : Origin) :
    Handling held (allocate origin world) :=
  ⟨handling.ownership.allocate origin, fun tag one => (handling.inHand tag one).allocate origin⟩

/-- Readers put their tags on the stream queue. -/
theorem Handling.putReader (handling : Handling held world) (wired : Wired world)
    {kind : StreamKind} {queue : QueueId} (reader : (world.state kind).updateReader = some queue)
    (put : Tag) : Handling held (world.put queue put) := by
  have elsewhere : queue ≠ world.connection.unaryQueue := by
    rw [wired.readers kind queue trivial reader]
    exact wired.distinct
  exact ⟨handling.ownership.putStream queue put elsewhere,
    fun tag one => (handling.inHand tag one).putStream queue put elsewhere⟩

theorem finish_handling (kind : StreamKind) (wired : Wired world)
    (handling : Handling held world) :
    wp (finish kind) (fun _ => Handling held) (fun _ => Handling held) world := by
  apply finish_rule kind
  · exact fun _ => handling
  · intro _ _
    have told : Handling held
        (world.note (.tryCancel kind (world.state kind).subscription)) :=
      handling.note (fun _ => Event.noConfusion) trivial
    exact told.setState kind _
  · intro _ queue reader
    exact (handling.putReader wired reader _).setState kind _
  · exact fun _ _ => handling

theorem call_handling (env : Env) (origin : Origin) (call : ApiCall) (wired : Wired world)
    (handling : Handling held world) :
    wp (apiCall env origin call) (fun _ => Handling held) (fun _ => Handling held) world := by
  have called : Handling held (world.note (.called call world.unaryShut)) :=
    handling.note (fun _ => Event.noConfusion) trivial
  apply api_call_rule env origin call
  · exact fun _ _ => called.allocate origin
  · intro _ _ _ _
    refine Handling.allocate (called.note ?_ ?_) .confirm
    · exact fun _ => Event.noConfusion
    · trivial
  · exact fun kind _ => finish_handling kind (wired.note _) called

theorem dispatch_handling (env : Env) (completion : Completion) (held : Option Tag) :
    DispatchKeptOver env anyManners completion (fun world => Wired world ∧ Heard completion world)
      (Handling held) (fun _ => Handling held) where
  threw _ _ _ handling := handling
  exited _ _ handling := handling
  undefined _ _ handling := handling
  call call _ _ base handling := call_handling env .nested call base.1 handling
  update _ _ _ _ _ _ _ handling := handling.note (fun _ => Event.noConfusion) trivial
  completed _ _ _ _ handling := handling.note (fun _ => Event.noConfusion) trivial
  startReceived kind _ _ _ _ handling := handling.setState kind _
  initMetadataReceived kind _ _ _ _ handling := handling.setState kind _
  finishResponded kind _ _ _ _ handling := handling.setState kind _
  confirms _ _ _ _ _ _ _ _ handling := handling.allocate .confirm
  reads _ _ _ _ _ _ _ base handling reader := handling.putReader base.1 reader _

/-! ## Events -/

theorem deliver_ownership (unary : Bool) (completion : Completion) (wired : Wired world)
    (ownership : Ownership world)
    (pending : completion.tag ∈ world.pending (world.queueOf unary)) :
    Ownership (world.deliver unary completion) := by
  have rightful : Rightful world.log
      (.delivered unary completion world.streamShut world.unaryShut) := by
    cases unary with
    | true => trivial
    | false =>
        obtain ⟨kind, slot, _, own, _⟩ := wired.streamOwned _ pending
        cases completion with
        | stream kind received => exact ⟨kind, received, rfl⟩
        | unary received => cases own
  refine deliver_rule unary completion world Ownership
    ((ownership.take _ _).note (fun _ => Event.noConfusion) rightful) ?_
  intro kind received after ownership _
  exact (ownership.setState kind _).note (fun _ => Event.noConfusion) trivial

/-- What a delivery leaves on the unary queue and in the log. -/
theorem deliver_in_hand (completion : Completion) (wired : Wired world)
    (ownership : Ownership world)
    (pending : completion.tag ∈ world.pending world.connection.unaryQueue) :
    InHand completion.tag (world.deliver true completion) := by
  obtain ⟨origin, id, own, earlier⟩ := wired.unaryOwned _ pending
  refine deliver_rule true completion world (InHand completion.tag)
    ⟨(ownership.alive _ pending).cons Event.noConfusion, ?_, ?_⟩ ?_
  · intro member
    change completion.tag ∈ (world.take world.connection.unaryQueue completion.tag).pending
      world.connection.unaryQueue at member
    rw [take_pending, if_pos rfl] at member
    exact (List.Nodup.not_mem_erase wired.unaryOnce) member
  · intro other number same
    rw [own] at same
    cases same
    exact earlier
  · intro kind received after inHand _
    exact (inHand.setState kind _).note fun _ => Event.noConfusion

theorem event_ownership (env : Env) (unary : Bool) (completion : Completion)
    (wired : Wired world) (ownership : Ownership world) :
    wp (processEvent (grpc env) unary completion) (fun _ => Ownership) (fun _ => Ownership)
      world := by
  have rules := dispatch_handling env completion (if unary then some completion.tag else none)
  refine event_over_wired (any_manners_allow completion) (fun _ ownership => ownership) ?_
    { rules with
      threw := fun _ _ _ handling => handling.ownership
      exited := fun _ _ handling => handling.ownership
      undefined := fun _ _ handling => handling.ownership
      call := fun call may world base handling =>
        wp_mono (rules.call call may world base handling) (fun _ _ kept => kept)
          fun _ _ kept => kept.ownership } ?_ ?_ world wired ownership
  · intro before wired ownership pending
    refine ⟨deliver_ownership unary completion wired ownership pending, ?_⟩
    intro tag one
    cases unary with
    | true =>
        cases one
        exact deliver_in_hand completion wired ownership pending
    | false => cases one
  · intro side after _ handling
    exact handling.ownership.delete (handling.inHand _ (by rw [side]; rfl))
  · intro _ after handling
    exact handling.ownership

/-! ## Runs and destruction -/

theorem queue_ownership (env : Env) (unary : Bool) :
    QueueKeptOver (grpc env) unary anyManners Wired Ownership (fun _ => Ownership) where
  waiting _ _ ownership := ownership
  unfinished _ _ ownership := ownership
  event completion _ _ wired ownership := event_ownership env unary completion wired ownership
  finish _ kind _ wired ownership :=
    wp_mono (finish_handling kind wired ownership.emptyHanded)
      (fun _ _ handling => handling.ownership) fun _ _ handling => handling.ownership
  shutdown _ _ ownership _ := ownership.shutdown _
  draining _ ownership := ownership.note (fun _ => Event.noConfusion) trivial
  finishAgain _ ownership := ownership.note (fun _ => Event.noConfusion) trivial
  verdict _ _ ownership := ownership.note (fun _ => Event.noConfusion) trivial

/-- Building a client deletes nothing, and puts its tags on the stream queue. -/
theorem build_ownership : BuildKept Ownership (fun _ => Ownership) where
  exited _ ownership := ownership
  counted _ _ ownership := ⟨ownership.log, fun origin id deleted =>
    Nat.lt_succ_of_lt (ownership.known origin id deleted), ownership.alive⟩
  client _ _ _ ownership := ⟨ownership.log, fun origin id deleted =>
    Nat.lt_succ_of_lt (ownership.known origin id deleted), ownership.alive⟩
  state kind change _ ownership := ownership.setState kind change
  told _ _ _ _ ownership := ownership.note (fun _ => Event.noConfusion) trivial
  issued _ _ _ ownership := ownership.note (fun _ => Event.noConfusion) trivial
  starts _ _ _ _ distinct ownership := ownership.putStream _ _ distinct

theorem Ownership.renewStream (ownership : Ownership world) (wired : Wired world) :
    Ownership (renewStream world) := by
  refine ⟨ownership.log, fun origin id deleted =>
    Nat.lt_succ_of_lt (ownership.known origin id deleted), ?_⟩
  intro tag member
  change tag ∈ (World.setQueue _ world.next {}).pending world.connection.unaryQueue at member
  rw [new_queue_pending, if_neg (Nat.ne_of_lt wired.unaryKnown)] at member
  exact ownership.alive tag member

theorem actions_ownership (env : Env) :
    ActionsKeptOver (grpc env) anyManners Wired Ownership (fun _ => Ownership) where
  queue unary := queue_ownership env unary
  call call _ _ wired ownership :=
    wp_mono (call_handling env .direct call wired ownership.emptyHanded)
      (fun _ _ handling => handling.ownership) fun _ _ handling => handling.ownership
  reinitializeUnary _ wired ownership :=
    reinitialize_unary_keeps build_ownership wired.renewUnary.distinct ownership.renewUnary
  reinitializeStream _ wired ownership :=
    reinitialize_stream_keeps build_ownership wired.renewStream.distinct
      (ownership.renewStream wired)
  exited _ ownership := ownership
  resumes _ ownership := ownership

theorem before_ownership (connection : IVIConnection) : Ownership (World.before connection) := by
  refine ⟨trivial, ?_, ?_⟩
  · intro _ _ never
    cases never
  · intro _ never
    cases never

theorem reached_ownership {env : Env} {connection : IVIConnection}
    {callbacks : IVIStreamCallbacks} {actions : List Action} {replies : List Reply}
    (distinct : connection.streamQueue ≠ connection.unaryQueue)
    (reached : Reached (grpc env) connection callbacks actions replies world) :
    Wired world ∧ Ownership world :=
  reached_over_wired distinct
    (construct_builds build_ownership distinct (before_ownership connection))
    (actions_ownership env) (fun action _ => any_action_allowed action) reached

/-- The destructor deletes the tags its drain of the unary queue collects. -/
theorem destroy_ownership (env : Env) (collection : Collection) (wired : Wired world)
    (ownership : Ownership world) :
    wp (destroy (grpc env) collection) (fun _ => Ownership) (fun _ => Ownership) world := by
  refine destroy_over_wired ?_ ?_ ?_ ?_ wired ownership
  · intro world ownership
    exact ownership
  · intro unary tag world wired ownership pending
    have taken : Ownership ((world.take (world.queueOf unary) tag).note (.collected unary tag)) :=
      (ownership.take _ _).note (fun _ => Event.noConfusion) trivial
    rw [wp_only_if]
    cases unary with
    | false => exact taken
    | true =>
        obtain ⟨origin, id, own, earlier⟩ := wired.unaryOwned tag pending
        -- The tag was alive on the queue and is not on it any more.
        refine taken.delete ⟨(ownership.alive tag pending).cons Event.noConfusion, ?_, ?_⟩
        · change tag ∉ (world.take world.connection.unaryQueue tag).pending
            world.connection.unaryQueue
          rw [take_pending, if_pos rfl]
          exact List.Nodup.not_mem_erase wired.unaryOnce
        · intro other number same
          rw [own] at same
          cases same
          exact earlier
  · intro unary world _ ownership _
    exact ownership.shutdown _
  · intro kind world wired ownership
    exact wp_mono (finish_handling kind wired ownership.emptyHanded)
      (fun _ _ handling => handling.ownership) fun _ _ handling => handling.ownership

/-! ## One queue for both -/

theorem rightful_of_mem {log : List Event} (rightful : RightfulLog log) {event : Event}
    (member : event ∈ log) : ∃ earlier, Rightful earlier event := by
  induction log with
  | nil => cases member
  | cons first earlier ih =>
      rcases List.mem_cons.mp member with same | before
      · exact ⟨earlier, same ▸ rightful.1⟩
      · exact ih rightful.2 before

/-- A request whose tag is on the stream queue is dispatched there and leaks. -/
def leakedRequest (id : Nat) : List Pass :=
  [{ events := [.unary { origin := .direct, id := id, ok := true }] }]

theorem shared_queue_leaks (env : Env) (id : Nat)
    (pending : .unary .direct id ∈ world.pending world.connection.streamQueue) :
    ¬ RightfulLog (act (grpc env) (.pollStream (leakedRequest id)) world).world.log := by
  intro rightful
  let completion : UnaryCompletion := { origin := .direct, id := id, ok := true }
  let leak : Event := .delivered false (.unary completion) world.streamShut world.unaryShut
  have ran : wp (act (grpc env) (.pollStream (leakedRequest id)))
      (fun _ after => leak ∈ after.log) (fun _ after => leak ∈ after.log) world := by
    simp only [act, leakedRequest, pollQueue, processQueue, processEvents, processEvent, wp_bind]
    apply (wp_async_next_admitted ((grpc_event_iff _ _).mpr pending)).mpr
    have logged : leak ∈ (world.deliver false (.unary completion)).log := List.mem_cons_self
    refine wp_mono (dispatch_frame (grpc env).toEnv (.unary completion)
      (world.deliver false (.unary completion))
      (deliver_announces false (.unary completion) world)) ?_
      fun _ after framed => framed.log leak logged
    intro _ after framed
    have kept := framed.log leak logged
    exact wp_async_next_last (grpc env) false (some .timeout) kept fun _ _ => kept
  have logged : (fun after : World => leak ∈ after.log)
      (act (grpc env) (.pollStream (leakedRequest id)) world).world := wp_world ran
  obtain ⟨earlier, kind, received, same⟩ := rightful_of_mem rightful logged
  cases same

theorem construct_returns (env : Env) (passes : clientChecks env = .ok ())
    (connection : IVIConnection) (callbacks : IVIStreamCallbacks) :
    ∃ world, construct env callbacks (World.before connection) = .returned () world ∧
      world.connection = connection := by
  have unary : ∀ client, Keeps (fun world => world.connection = connection) (fun _ _ => False)
      (reinitializeUnaryClient env client) := by
    intro client world same
    rw [reinitializeUnaryClient, wp_bind]
    exact wp_client_checks env same fun failed => absurd passes failed
  have stream : ∀ kind callback, Keeps (fun world => world.connection = connection)
      (fun _ _ => False) (constructStream env kind callback) := by
    intro kind callback world same
    apply wp_construct_stream env kind callback
    · exact fun failed => absurd passes failed
    · exact fun _ => (subscribed_connection env kind (newClient kind callback world)).trans same
    · exact fun _ => same
  have built := construct_keeps unary fun kind => stream kind (callbacks kind)
  obtain ⟨_, world, returned, same⟩ := wp_total (built (World.before connection) rfl)
  exact ⟨world, returned, same⟩

/-- Every run of the manager deletes and dispatches tags rightfully exactly when
its connection has two queues. The constructor accepts either. -/
theorem tags_rightful_iff_two_queues (env : Env) (passes : clientChecks env = .ok ())
    (connection : IVIConnection) :
    (∀ callbacks actions replies world,
      Reached (grpc env) connection callbacks actions replies world →
        (∀ action, RightfulLog (act (grpc env) action world).world.log) ∧
          ∀ collection, RightfulLog (destroy (grpc env) collection world).world.log) ↔
      connection.streamQueue ≠ connection.unaryQueue := by
  constructor
  · intro rightful shared
    obtain ⟨first, constructed, same⟩ :=
      construct_returns env passes connection (fun _ => none)
    let world := allocate .direct (first.note (.called (.request .item) first.unaryShut))
    have reached : Reached (grpc env) connection (fun _ => none) [.call (.request .item)]
        [.done] world := ⟨first, constructed, rfl⟩
    have pending : .unary .direct first.next ∈ world.pending world.connection.streamQueue := by
      change _ ∈ (allocate .direct _).pending first.connection.streamQueue
      rw [allocate_pending, same, shared, if_pos (by rw [note_connection, same])]
      exact List.mem_cons_self
    exact shared_queue_leaks env first.next pending
      ((rightful _ _ _ world reached).1 (.pollStream (leakedRequest first.next)))
  · intro distinct callbacks actions replies world reached
    obtain ⟨wired, ownership⟩ := reached_ownership distinct reached
    constructor
    · intro action
      have kept : Ownership (act (grpc env) action world).world :=
        wp_world (act_over_wired (actions_ownership env) (any_action_allowed action) wired
          ownership)
      exact kept.log
    · intro collection
      have kept : Ownership (destroy (grpc env) collection world).world :=
        wp_world (destroy_ownership env collection wired ownership)
      exact kept.log

theorem tags_rightful_by_default : clientChecks defaultEnv = .ok () ∧
    ((∀ callbacks actions replies world,
      Reached (grpc defaultEnv) newConnection callbacks actions replies world →
        (∀ action, RightfulLog (act (grpc defaultEnv) action world).world.log) ∧
          ∀ collection, RightfulLog (destroy (grpc defaultEnv) collection world).world.log) ↔
      newConnection.streamQueue ≠ newConnection.unaryQueue) := by
  have passes : clientChecks defaultEnv = .ok () := rfl
  exact ⟨passes, tags_rightful_iff_two_queues defaultEnv passes newConnection⟩

/-- A connection whose members point to one queue. -/
def sharedConnection : IVIConnection where
  streamQueue := 0
  unaryQueue := 0

/-- `PollUnary` is handed the tag of the item stream's start. -/
def deletedMember : Action :=
  .pollUnary [{ events := [.stream .item { subscription := 6, slot := .start, ok := true }] }]

/-- The last event is the deletion of a member of a stream state. -/
def endsWithMember : List Event → Bool
  | .deleted (.stream ..) :: _ => true
  | _ => false

theorem member_not_rightful {log : List Event} (deleted : endsWithMember log = true) :
    ¬ RightfulLog log := by
  intro rightful
  unfold endsWithMember at deleted
  split at deleted
  · obtain ⟨origin, id, queue, shut, own, _⟩ := rightful.1.allocated
    cases own
  · cases deleted

/-- The constructor accepts the shared queue, and `PollUnary` deletes a member of
the item stream's state. -/
theorem shared_connection_deletes_member :
    ∃ world, Reached (grpc defaultEnv) sharedConnection itemCallbacks [] [] world ∧
      ¬ RightfulLog (act (grpc defaultEnv) deletedMember world).world.log :=
  ⟨(construct defaultEnv itemCallbacks (World.before sharedConnection)).world,
    ⟨_, Outcome.eq_returned (by decide +kernel), rfl⟩, member_not_rightful (by decide +kernel)⟩

end IviSdk.QueueOwnership
