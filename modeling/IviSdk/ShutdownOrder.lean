import IviSdk.QueueWiring

/-!
Which operations are started on a queue that was shut down. `Finish` never is:
every stream client is settled before the stream queue is shut and stays so. A
read is, when a message arrives while the stream queue is being drained, and so
is a confirmation or a request made while the unary queue is. Those are the only
ways: a run without them starts everything on open queues.
-/

namespace IviSdk.ShutdownOrder

open Checks CompletionQueues Streams ManagerWorld Interaction StreamClients ClientManager
open CallbackRules PollRules ManagerRuns QueueWiring

/-- A message whose callback returns arrives before the stream queue is shut,
and before the unary queue is when it will be confirmed; unary calls are made
before the unary queue is shut. -/
def timely (env : Env) : Event → Bool
  | .delivered _ (.stream _ completion) streamShut unaryShut =>
      !(completion.slot = .read && completion.ok && !completion.reaction.throws) ||
        (!streamShut && !(env.configuration.autoconfirmStreamUpdates && unaryShut))
  | .called (.finish _) _ => true
  | .called _ unaryShut => !unaryShut
  | _ => true

/-- An operation is started on a queue that was not shut down. -/
def onOpenQueue : Event → Bool
  | .started _ shut _ => !shut
  | _ => true

def Timely (env : Env) (log : List Event) : Prop := ∀ event ∈ log, timely env event = true

def Clean (log : List Event) : Prop := ∀ event ∈ log, onOpenQueue event = true

instance (env : Env) (log : List Event) : Decidable (Timely env log) :=
  inferInstanceAs (Decidable (∀ event ∈ log, timely env event = true))

instance (log : List Event) : Decidable (Clean log) :=
  inferInstanceAs (Decidable (∀ event ∈ log, onOpenQueue event = true))

/-- Stream clients are settled when their queue is shut, and what happened so far
is clean if it was timely. -/
structure Orderly (env : Env) (world : World) : Prop where
  settled : world.streamShut = true → AllSettled world
  clean : Timely env world.log → Clean world.log

variable {env : Env} {world : World}

/-! ## Single changes -/

theorem Timely.tail {event : Event} {log : List Event} (timed : Timely env (event :: log)) :
    Timely env log :=
  fun one member => timed one (List.mem_cons_of_mem event member)

theorem Clean.cons {event : Event} {log : List Event} (clean : Clean log)
    (open_ : onOpenQueue event = true) : Clean (event :: log) := by
  intro one member
  rcases List.mem_cons.mp member with same | before
  · rw [same]
    exact open_
  · exact clean one before

theorem Orderly.note (orderly : Orderly env world) {event : Event}
    (open_ : onOpenQueue event = true) : Orderly env (world.note event) :=
  ⟨orderly.settled, fun timed => (orderly.clean timed.tail).cons open_⟩

theorem Orderly.put (orderly : Orderly env world) (queue : QueueId) (tag : Tag)
    (unshut : Timely env world.log → (world.queues queue).shut = false) :
    Orderly env (world.put queue tag) := by
  constructor
  · intro shut
    unfold World.streamShut at shut
    rw [put_connection, put_shut] at shut
    exact orderly.settled shut
  · intro timed
    apply (orderly.clean timed.tail).cons
    rw [onOpenQueue, unshut timed.tail]
    rfl

theorem Orderly.allocate (orderly : Orderly env world) (origin : Origin)
    (unshut : Timely env world.log → world.unaryShut = false) :
    Orderly env (allocate origin world) := by
  constructor
  · intro shut
    unfold World.streamShut at shut
    rw [allocate_connection, allocate_shut] at shut
    exact orderly.settled shut
  · intro timed
    refine (orderly.clean timed.tail).cons ?_
    have unshut : (world.queues world.connection.unaryQueue).shut = false := unshut timed.tail
    simp [onOpenQueue, unshut]

theorem Orderly.setState (orderly : Orderly env world) (kind : StreamKind)
    (change : StreamState kind → StreamState kind)
    (called : (world.state kind).finishCalled = true →
      (change (world.state kind)).finishCalled = true)
    (responded : (world.state kind).finishResponded = true →
      (change (world.state kind)).finishResponded = true) :
    Orderly env (world.setState kind change) :=
  ⟨fun shut other => settled_set_state kind other world change called responded
    (orderly.settled shut other), orderly.clean⟩

theorem Orderly.take (orderly : Orderly env world) (queue : QueueId) (tag : Tag) :
    Orderly env (world.take queue tag) := by
  constructor
  · intro shut
    unfold World.streamShut at shut
    rw [take_connection, take_shut] at shut
    exact orderly.settled shut
  · exact orderly.clean

/-! ## Dispatching a tag -/

/-- `Finish` puts its tag on a queue only for a client that is not settled. -/
theorem finish_orderly (kind : StreamKind) (wired : Wired world) (orderly : Orderly env world) :
    wp (finish kind) (fun _ => Orderly env) (fun _ => Orderly env) world := by
  apply finish_rule kind
  · exact fun _ => orderly
  · intro _ _
    exact (orderly.note rfl).setState kind _ id fun _ => rfl
  · intro asking queue reader
    have known := wired.readers kind queue trivial reader
    have unsettled : ¬ Settled kind world := by
      rintro (called | responded)
      · rw [asking.uncalled] at called
        cases called
      · rw [asking.unanswered] at responded
        cases responded
    refine (orderly.put queue _ fun _ => ?_).setState kind _ (fun _ => rfl) id
    rw [known]
    cases shut : world.streamShut with
    | true => exact absurd (orderly.settled shut kind) unsettled
    | false => exact shut
  · exact fun _ _ => orderly

theorem call_orderly (origin : Origin) (call : ApiCall) (wired : Wired world)
    (orderly : Orderly env world) :
    wp (apiCall env origin call) (fun _ => Orderly env) (fun _ => Orderly env) world := by
  have called : Orderly env (world.note (.called call world.unaryShut)) := orderly.note rfl
  apply api_call_rule env origin call
  · rintro client rfl
    refine called.allocate origin fun timed => ?_
    have early : world.unaryShut = false := by
      simpa [timely] using timed _ List.mem_cons_self
    exact early
  · rintro kind arguments rfl value
    refine Orderly.allocate (called.note rfl) .confirm fun timed => ?_
    have early : world.unaryShut = false := by
      simpa [timely] using timed _ (List.mem_cons_of_mem _ List.mem_cons_self)
    exact early
  · exact fun kind _ => finish_orderly kind (wired.note _) called

/-- A timely message finds the queues it needs open. -/
theorem announced_timely {kind : StreamKind} {received : StreamCompletion kind}
    (good : GoodRead received) (announced : Announced (.stream kind received) world)
    (timed : Timely env world.log) :
    world.streamShut = false ∧
      (env.configuration.autoconfirmStreamUpdates = true → world.unaryShut = false) := by
  obtain ⟨unary, member⟩ := announced
  have early := timed _ member
  simp only [timely, good.slot, good.ok, good.returns, decide_true, Bool.and_self, Bool.not_false,
    Bool.not_true, Bool.false_or, Bool.and_eq_true, Bool.not_eq_true'] at early
  refine ⟨early.1, fun confirms => ?_⟩
  simpa [confirms] using early.2

theorem dispatch_orderly (env : Env) (completion : Completion) :
    DispatchKeptOver env anyManners completion (fun world => Wired world ∧ Heard completion world)
      (Orderly env) (fun _ => Orderly env) where
  threw _ _ _ orderly := orderly
  exited _ _ orderly := orderly
  undefined _ _ orderly := orderly
  call call _ _ base orderly := call_orderly .nested call base.1 orderly
  update _ _ _ _ _ _ _ orderly := orderly.note rfl
  completed _ _ _ _ orderly := orderly.note rfl
  startReceived kind _ _ _ _ orderly := orderly.setState kind _ id id
  initMetadataReceived kind _ _ _ _ orderly := orderly.setState kind _ id id
  finishResponded kind _ _ _ _ orderly := orderly.setState kind _ id fun _ => rfl
  confirms kind received same good confirms world announced _ orderly := by
    subst same
    exact orderly.allocate .confirm fun timed => (announced_timely good announced timed).2 confirms
  reads kind received same good world queue announced base orderly reader := by
    subst same
    have known := base.1.readers kind queue trivial reader
    refine orderly.put queue _ fun timed => ?_
    rw [known]
    exact (announced_timely good announced timed).1

/-! ## Actions -/

theorem event_orderly (unary : Bool) (completion : Completion) (wired : Wired world)
    (orderly : Orderly env world) :
    wp (processEvent (grpc env) unary completion) (fun _ => Orderly env) (fun _ => Orderly env)
      world := by
  refine event_over_wired (any_manners_allow completion) (fun _ orderly => orderly) ?_
    (dispatch_orderly env completion) (fun _ _ _ orderly => orderly.note rfl)
    (fun _ _ orderly => orderly) world wired orderly
  intro before _ orderly _
  apply deliver_rule unary completion before (Orderly env) ((orderly.take _ _).note rfl)
  intro kind received after orderly _
  exact (orderly.setState kind _ id id).note rfl

theorem shutdown_orderly (unary : Bool) (wired : Wired world) (orderly : Orderly env world)
    (settled : unary = false → AllSettled world) :
    Orderly env (world.shutdown (world.queueOf unary)) := by
  constructor
  · intro shut
    unfold World.streamShut at shut
    rw [shutdown_connection, shutdown_shut] at shut
    cases unary with
    | false => exact settled rfl
    | true =>
        rw [if_neg (by exact wired.distinct)] at shut
        exact orderly.settled shut
  · intro timed
    exact (orderly.clean timed.tail).cons rfl

theorem queue_orderly (env : Env) (unary : Bool) :
    QueueKeptOver (grpc env) unary anyManners Wired (Orderly env) (fun _ => Orderly env) where
  waiting _ _ orderly := orderly
  unfinished _ _ orderly := orderly
  event completion _ _ wired orderly := event_orderly unary completion wired orderly
  finish _ kind _ wired orderly := finish_orderly kind wired orderly
  shutdown _ wired orderly settled := shutdown_orderly unary wired orderly settled
  draining _ orderly := orderly.note rfl
  finishAgain _ orderly := orderly.note rfl
  verdict _ _ orderly := orderly.note rfl

theorem reinitialize_unary_client_orderly (env : Env) (client : UnaryClient) :
    Keeps (Orderly env) (fun _ => Orderly env) (reinitializeUnaryClient env client) := by
  intro world orderly
  rw [reinitializeUnaryClient, wp_bind]
  refine wp_client_checks env ?_ fun _ => orderly
  simp only [wp_bind, wp_fresh, wp_modify]
  exact ⟨orderly.settled, orderly.clean⟩

theorem reinitialize_unary_orderly (wired : Wired world) (orderly : Orderly env world) :
    wp (reinitializeUnary env) (fun _ => Orderly env) (fun _ => Orderly env) world := by
  rw [reinitializeUnary, wp_bind, wp_new_queue, wp_bind, wp_modify]
  refine keeps_each (fun client _ => reinitialize_unary_client_orderly env client)
    (renewUnary world) ⟨?_, orderly.clean⟩
  intro shut
  apply orderly.settled
  have differs : world.connection.streamQueue ≠ world.next := Nat.ne_of_lt wired.streamKnown
  simpa [World.streamShut, renewUnary, World.setQueue, Function.update_of_ne differs] using shut

/-- While stream clients are built their queue is open. -/
structure Opened (env : Env) (world : World) : Prop where
  unshut : world.streamShut = false
  clean : Timely env world.log → Clean world.log

theorem Opened.orderly (opened : Opened env world) : Orderly env world :=
  ⟨fun shut => absurd shut (by simp [opened.unshut]), opened.clean⟩

theorem Opened.note (opened : Opened env world) {event : Event}
    (open_ : onOpenQueue event = true) : Opened env (world.note event) :=
  ⟨opened.unshut, fun timed => (opened.clean timed.tail).cons open_⟩

theorem Opened.putStream (opened : Opened env world) (tag : Tag) :
    Opened env (world.put world.connection.streamQueue tag) := by
  have unshut : (world.queues world.connection.streamQueue).shut = false := opened.unshut
  constructor
  · unfold World.streamShut
    rw [put_connection, put_shut]
    exact unshut
  · intro timed
    apply (opened.clean timed.tail).cons
    simp [onOpenQueue, unshut]

theorem build_opened : BuildKept (Opened env) (fun _ => Orderly env) where
  exited _ opened := opened.orderly
  counted _ _ opened := ⟨opened.unshut, opened.clean⟩
  client _ _ _ opened := ⟨opened.unshut, opened.clean⟩
  state _ _ _ opened := ⟨opened.unshut, opened.clean⟩
  told _ _ _ _ opened := opened.note rfl
  issued _ _ _ opened := opened.note rfl
  starts _ _ _ _ _ opened := opened.putStream _

theorem reinitialize_stream_orderly (wired : Wired world) (orderly : Orderly env world) :
    wp (reinitializeStream env) (fun _ => Orderly env) (fun _ => Orderly env) world := by
  have renewed : Opened env (renewStream world) := by
    refine ⟨?_, orderly.clean⟩
    simp [World.streamShut, renewStream, World.setQueue]
  exact wp_then (reinitialize_stream_keeps build_opened wired.renewStream.distinct renewed)
    fun _ _ opened => opened.orderly

theorem actions_orderly (env : Env) :
    ActionsKeptOver (grpc env) anyManners Wired (Orderly env) (fun _ => Orderly env) where
  queue unary := queue_orderly env unary
  call call _ _ wired orderly := call_orderly .direct call wired orderly
  reinitializeUnary _ wired orderly := reinitialize_unary_orderly wired orderly
  reinitializeStream _ wired orderly := reinitialize_stream_orderly wired orderly
  exited _ orderly := orderly
  resumes _ orderly := orderly

theorem construct_orderly (env : Env) (callbacks : IVIStreamCallbacks)
    (connection : IVIConnection) (distinct : connection.streamQueue ≠ connection.unaryQueue) :
    wp (construct env callbacks) (fun _ => Orderly env) (fun _ => Orderly env)
      (World.before connection) := by
  have start : Opened env (World.before connection) :=
    ⟨rfl, fun _ event never => by cases never⟩
  exact wp_then (construct_builds build_opened distinct start)
    fun _ _ opened => opened.orderly

theorem reached_orderly {connection : IVIConnection} {callbacks : IVIStreamCallbacks}
    {actions : List Action} {replies : List Reply}
    (distinct : connection.streamQueue ≠ connection.unaryQueue)
    (reached : Reached (grpc env) connection callbacks actions replies world) :
    Wired world ∧ Orderly env world :=
  reached_over_wired distinct (construct_orderly env callbacks connection distinct)
    (actions_orderly env)
    (fun action _ => any_action_allowed action) reached

theorem destroy_orderly (collection : Collection) (wired : Wired world)
    (orderly : Orderly env world) :
    wp (destroy (grpc env) collection) (fun _ => Orderly env) (fun _ => Orderly env) world := by
  refine destroy_over_wired ?_ ?_ ?_ ?_ wired orderly
  · intro world orderly
    exact orderly
  · intro unary tag world _ orderly _
    have taken : Orderly env
        ((world.take (world.queueOf unary) tag).note (.collected unary tag)) :=
      (orderly.take _ _).note rfl
    rw [wp_only_if]
    split
    · exact taken.note rfl
    · exact taken
  · intro unary world wired orderly settled
    exact shutdown_orderly unary wired orderly settled
  · intro kind world wired orderly
    exact finish_orderly kind wired orderly

/-- In every run, destruction included, whose messages and calls are timely,
every operation is started on a queue that was not shut down. The callbacks make
requests, `Confirm` and `Finish`; one that polled the manager could shut the queue
its own message came from. -/
theorem timely_run_starts_on_open_queues (env : Env) (connection : IVIConnection)
    (distinct : connection.streamQueue ≠ connection.unaryQueue) (callbacks : IVIStreamCallbacks)
    (actions : List Action) (replies : List Reply) (world : World)
    (reached : Reached (grpc env) connection callbacks actions replies world) :
    (∀ action, Timely env (act (grpc env) action world).world.log →
      Clean (act (grpc env) action world).world.log) ∧
    ∀ collection, Timely env (destroy (grpc env) collection world).world.log →
      Clean (destroy (grpc env) collection world).world.log := by
  obtain ⟨wired, orderly⟩ := reached_orderly distinct reached
  constructor
  · intro action
    have kept : Orderly env (act (grpc env) action world).world :=
      wp_world (act_over_wired (actions_orderly env) (any_action_allowed action) wired orderly)
    exact kept.clean
  · intro collection
    have kept : Orderly env (destroy (grpc env) collection world).world :=
      wp_world (destroy_orderly collection wired orderly)
    exact kept.clean

/-- The item stream's initial metadata fails. -/
def metadataFails : Pass :=
  { events := [.stream .item { subscription := 7, slot := .initMetadata, ok := false }] }

/-- The item stream delivers a message. -/
def messageArrives : Pass :=
  { events := [.stream .item { subscription := 7, slot := .read, ok := true }] }

/-- A message arrives before the stream fails, and nothing after it. -/
theorem early_message_starts_on_open_queues :
    newConnection.streamQueue ≠ newConnection.unaryQueue ∧
    ∃ world, Reached (grpc defaultEnv) newConnection itemCallbacks [] [] world ∧
      ((Timely defaultEnv (act (grpc defaultEnv)
          (.poll .other [{}] [messageArrives]) world).world.log ∧
        Clean (act (grpc defaultEnv) (.poll .other [{}] [messageArrives]) world).world.log) ∧
      (Timely defaultEnv (destroy (grpc defaultEnv)
          ⟨[], some .shutdown, [], some .timeout⟩ world).world.log ∧
        Clean (destroy (grpc defaultEnv)
          ⟨[], some .shutdown, [], some .timeout⟩ world).world.log)) := by
  refine ⟨new_connection_distinct,
    (construct defaultEnv itemCallbacks (World.before newConnection)).world,
    ⟨_, Outcome.eq_returned (by decide +kernel), rfl⟩, ?_⟩
  have timed : Timely defaultEnv (act (grpc defaultEnv) (.poll .other [{}] [messageArrives])
      (construct defaultEnv itemCallbacks (World.before newConnection)).world).world.log := by
    decide +kernel
  have torn : Timely defaultEnv (destroy (grpc defaultEnv) ⟨[], some .shutdown, [], some .timeout⟩
      (construct defaultEnv itemCallbacks (World.before newConnection)).world).world.log := by
    decide +kernel
  have run := timely_run_starts_on_open_queues defaultEnv newConnection new_connection_distinct
    itemCallbacks [] [] _ ⟨_, Outcome.eq_returned (by decide +kernel), rfl⟩
  exact ⟨⟨timed, run.1 _ timed⟩, torn, run.2 _ torn⟩

/-- A message that arrives while the stream queue is drained rearms its read on
the queue that was just shut. -/
theorem late_message_reads_on_shut_queue :
    ∃ world, Reached (grpc defaultEnv) newConnection itemCallbacks [] [] world ∧
      ¬ Clean (act (grpc defaultEnv)
        (.poll .other [{}] [metadataFails, {}, messageArrives]) world).world.log :=
  ⟨(construct defaultEnv itemCallbacks (World.before newConnection)).world,
    ⟨_, Outcome.eq_returned (by decide +kernel), rfl⟩, by decide +kernel⟩

end IviSdk.ShutdownOrder
