import IviSdk.QueueWiring

/-!
A property that survives each single thing a manager does, in whatever order,
holds at every moment of its life: in the middle of a callback, of a recovery or of
the constructor, after an exception, and during and after the destructor. Nothing
is assumed of the calls the callbacks make (an `ApiCall` each), of the order of the
actions, or of the two queues.
-/

namespace IviSdk.StepRules

open Checks Messages CompletionQueues Streams ManagerWorld Interaction StreamClients
open ClientManager CallbackRules PollRules ManagerRuns QueueWiring

/-- What is logged by itself, with nothing else happening: operations and shutdowns
are logged with the change they make. -/
def Routine (env : Env) : Event → Prop
  | .subscribed _ _ request => request = { environmentId := env.configuration.environmentId }
  | .update kind _ (.confirmed request) => ∃ arguments : ConfirmArguments kind,
      request = setEnvironmentId env.configuration.environmentId (requestCreator arguments)
  | .update _ _ (.received _) => False
  | .update _ _ _ => True
  | .called _ _ | .deleted _ | .tryCancel _ _ => True
  | .draining _ | .finishAgain | .verdict _ _ => True
  | .started _ _ _ | .delivered _ _ _ _ | .completed _ _ | .collected _ _ | .shutdown _ => False

/-- A queue handed this completion out. -/
def Handed (completion : Completion) (world : World) : Prop :=
  ∃ unary streamShut unaryShut, .delivered unary completion streamShut unaryShut ∈ world.log

/-- A property that survives each single thing a manager does while it lives. -/
structure ActionStepsKept (env : Env) (kept : World → Prop) : Prop where
  note : ∀ event world, Routine env event → kept world → kept (world.note event)
  state : ∀ kind (change : StreamState kind → StreamState kind) world,
    (∀ state, (change state).subscription = state.subscription) →
    (∀ state, (change state).updateReader = state.updateReader) →
    kept world → kept (world.setState kind change)
  reader : ∀ kind world, kept world →
    kept (world.setState kind ({ · with updateReader := some world.connection.streamQueue }))
  client : ∀ kind callback world, kept world → kept (newClient kind callback world)
  counted : ∀ stubs world, kept world →
    kept { world with next := world.next + 1, stubs := stubs }
  renewUnary : ∀ world, kept world → kept (renewUnary world)
  renewStream : ∀ world, kept world → kept (renewStream world)
  starts : ∀ kind slot queue world, (world.state kind).updateReader = some queue → kept world →
    kept (world.put queue (world.tagOf kind slot))
  calls : ∀ origin world, kept world → kept (allocate origin world)
  delivers : ∀ unary completion world, completion.tag ∈ world.pending (world.queueOf unary) →
    kept world → kept (world.deliver unary completion)
  completes : ∀ completion status world, Handed (.unary completion) world →
    passedStatus env completion = .ok status → kept world →
    kept (world.note (.completed (Completion.unary completion).tag status))
  shuts : ∀ unary world, kept world → kept (world.shutdown (world.queueOf unary))

/-- The destructor also takes tags off a queue without dispatching them. -/
structure StepsKept (env : Env) (kept : World → Prop) : Prop extends ActionStepsKept env kept where
  collects : ∀ unary tag world, tag ∈ world.pending (world.queueOf unary) → kept world →
    kept ((world.take (world.queueOf unary) tag).note (.collected unary tag))

section Actions
variable {env : Env} {kept : World → Prop} (rules : ActionStepsKept env kept)
include rules

/-! ## Clients -/

theorem note_steps {event : Event} (routine : Routine env event) :
    Keeps kept (fun _ => kept) (StreamClients.note event) :=
  fun world holds => rules.note event world routine holds

theorem update_steps (kind : StreamKind) (value : Update kind)
    (routine : ∀ subscription, Routine env (.update kind subscription value)) :
    Keeps kept (fun _ => kept) (update kind value) :=
  fun world holds => rules.note _ world (routine _) holds

theorem through_reader_steps (kind : StreamKind) (slot : Slot) :
    Keeps kept (fun _ => kept) (throughReader kind slot) := by
  intro world holds
  rw [wp_through_reader]
  split
  · next queue reader => exact rules.starts kind slot queue world reader holds
  · exact holds

theorem set_state_steps (kind : StreamKind) (change : StreamState kind → StreamState kind)
    (subscription : ∀ state, (change state).subscription = state.subscription)
    (reader : ∀ state, (change state).updateReader = state.updateReader) :
    Keeps kept (fun _ => kept) (setState kind change) :=
  fun world holds => rules.state kind change world subscription reader holds

theorem call_unary_async_steps (origin : Origin) :
    Keeps kept (fun _ => kept) (callUnaryAsync origin) := by
  intro world holds
  rw [wp_call_unary_async]
  exact rules.calls origin world holds

theorem finish_steps (kind : StreamKind) : Keeps kept (fun _ => kept) (finish kind) := by
  refine keeps_read fun world holds => ?_
  refine keeps_ite (keeps_pure ()) (keeps_ite ?_ ?_) world holds
  · exact keeps_bind (note_steps rules trivial) fun _ =>
      set_state_steps rules kind _ (fun _ => rfl) fun _ => rfl
  · exact keeps_bind (through_reader_steps rules kind .finish) fun _ =>
      set_state_steps rules kind _ (fun _ => rfl) fun _ => rfl

theorem finish_stream_steps : Keeps kept (fun _ => kept) finishStream :=
  keeps_each fun kind _ => finish_steps rules kind

theorem read_next_steps (kind : StreamKind) : Keeps kept (fun _ => kept) (readNext kind) :=
  keeps_bind (update_steps rules kind .issued fun _ => trivial) fun _ =>
    through_reader_steps rules kind .read

theorem confirm_steps (kind : StreamKind) (arguments : ConfirmArguments kind) :
    Keeps kept (fun _ => kept) (confirm env kind arguments) :=
  keeps_bind (update_steps rules kind _ fun _ => ⟨arguments, rfl⟩) fun _ =>
    call_unary_async_steps rules .confirm

theorem api_call_steps (origin : Origin) (call : ApiCall) :
    Keeps kept (fun _ => kept) (apiCall env origin call) := by
  refine keeps_bind (fun world holds => rules.note _ world trivial holds) fun _ => ?_
  cases call with
  | request client => exact call_unary_async_steps rules origin
  | confirm kind arguments => exact confirm_steps rules kind arguments
  | finish kind => exact finish_steps rules kind

theorem react_steps (reaction : Reaction) : Keeps kept (fun _ => kept) (react env reaction) :=
  keeps_bind (keeps_each fun call _ => api_call_steps rules .nested call) fun _ =>
    keeps_only_if fun _ => keeps_stop fun _ holds => holds

theorem subscribe_steps (kind : StreamKind) : Keeps kept (fun _ => kept) (subscribe env kind) := by
  refine keeps_read fun world holds => ?_
  have starts : Keeps kept (fun _ => kept) (do
      throughReader kind .start
      throughReader kind .initMetadata
      readNext kind) :=
    keeps_bind (through_reader_steps rules kind .start) fun _ =>
      keeps_bind (through_reader_steps rules kind .initMetadata) fun _ => read_next_steps rules kind
  have told := rules.note (.subscribed kind (world.state kind).subscription
    { environmentId := env.configuration.environmentId }) _ rfl (rules.reader kind world holds)
  exact starts _ told

/-! ## A tag comes back -/

omit rules in
theorem checked_steps {Value : Type} (result : Checked Value) :
    Keeps kept (fun _ => kept) (checked result) := by
  intro world holds
  rw [wp_checked]
  cases result with
  | ok value => exact holds
  | error stop => cases stop <;> exact holds

/-- A callback that only sets a flag and logs a failure. -/
theorem flag_steps (kind : StreamKind) (change : StreamState kind → StreamState kind)
    (subscription : ∀ state, (change state).subscription = state.subscription)
    (reader : ∀ state, (change state).updateReader = state.updateReader) (failed : Bool)
    (context : Results.ClientContext) :
    Keeps kept (fun _ => kept) (do
      setState kind change
      onlyIf failed (logStreamFailure env context)) :=
  keeps_bind (set_state_steps rules kind change subscription reader) fun _ =>
    keeps_only_if fun _ => checked_steps _

theorem process_next_steps (kind : StreamKind) (completion : StreamCompletion kind) :
    Keeps kept (fun _ => kept) (processNext env kind completion) := by
  refine keeps_ite ?_ ?_
  · exact keeps_bind (update_steps rules kind .failed fun _ => trivial) fun _ =>
      checked_steps _
  · refine keeps_bind (keeps_read fun world holds => ?_) fun _ => ?_
    · have later : Keeps kept (fun _ => kept) (do
          react env completion.reaction
          update kind .returned) :=
        keeps_bind (react_steps rules completion.reaction) fun _ =>
          update_steps rules kind .returned fun _ => trivial
      exact later _ (rules.note (.update kind (world.state kind).subscription
        (.invoked (fromProto kind (world.state kind).updateResponse))) world trivial holds)
    · refine keeps_bind (keeps_only_if fun _ => keeps_read fun world holds => ?_) fun _ =>
        read_next_steps rules kind
      exact confirm_steps rules kind _ world holds

theorem dispatch_stream_steps (kind : StreamKind) (completion : StreamCompletion kind) :
    Keeps kept (fun _ => kept) (dispatchStream env kind completion) := by
  refine keeps_read fun world holds => ?_
  rw [wp_ite]
  split
  · exact holds
  · cases completion.slot with
    | start =>
        exact flag_steps rules kind ({ · with startReceived := true }) (fun _ => rfl) (fun _ => rfl)
          (!completion.ok) completion.context world holds
    | initMetadata =>
        exact flag_steps rules kind ({ · with initMetadataReceived := true }) (fun _ => rfl) (fun _ => rfl)
          (!completion.ok) completion.context world holds
    | read => exact process_next_steps rules kind completion world holds
    | finish =>
        exact flag_steps rules kind ({ · with finishResponded := true }) (fun _ => rfl) (fun _ => rfl)
          (!completion.ok) completion.context world holds

theorem dispatch_unary_steps (completion : UnaryCompletion) {world : World}
    (handed : Handed (.unary completion) world) (holds : kept world) :
    wp (dispatchUnary env completion) (fun _ => kept) (fun _ => kept) world := by
  have reacts : Keeps kept (fun _ => kept)
      (onlyIf (completion.origin != .confirm) (react env completion.reaction)) :=
    keeps_only_if fun _ => react_steps rules completion.reaction
  rw [dispatchUnary, wp_bind, wp_checked]
  split
  · next status passed =>
      rw [wp_bind, wp_note]
      exact reacts _ (rules.completes completion status world handed passed holds)
  · exact holds
  · exact holds

theorem dispatch_steps (completion : Completion) {world : World}
    (handed : Handed completion world) (holds : kept world) :
    wp (dispatch env completion) (fun _ => kept) (fun _ => kept) world := by
  cases completion with
  | stream kind completion => exact dispatch_stream_steps rules kind completion world holds
  | unary completion => exact dispatch_unary_steps rules completion handed holds

omit rules in
theorem deliver_logged (unary : Bool) (completion : Completion) (world : World) :
    .delivered unary completion world.streamShut world.unaryShut ∈
      (world.deliver unary completion).log := by
  refine deliver_rule unary completion world
    (fun after => .delivered unary completion world.streamShut world.unaryShut ∈ after.log)
    List.mem_cons_self ?_
  exact fun _ _ _ member _ => List.mem_cons_of_mem _ member

theorem process_event_steps (unary : Bool) (completion : Completion) :
    Keeps kept (fun _ => kept) (processEvent (grpc env) unary completion) := by
  intro world holds
  rw [processEvent, wp_bind]
  refine wp_async_next (grpc env) unary completion holds fun admitted => ?_
  have delivered := rules.delivers unary completion world (admitted_pending admitted) holds
  have deletes : Keeps kept (fun _ => kept)
      (onlyIf unary (StreamClients.note (.deleted completion.tag))) :=
    keeps_only_if fun _ => note_steps rules trivial
  have handed : Handed completion (world.deliver unary completion) :=
    ⟨unary, world.streamShut, world.unaryShut, deliver_logged unary completion world⟩
  rw [wp_bind]
  exact wp_then (dispatch_steps rules completion handed delivered) fun _ after holds =>
    deletes after holds

/-! ## Polling and rebuilding -/

theorem queue_steps (unary : Bool) :
    QueueKept (grpc env) unary anyManners kept (fun _ => kept) where
  waiting _ holds := holds
  unfinished _ holds := holds
  event completion _ := process_event_steps rules unary completion
  finish _ kind := finish_steps rules kind
  shutdown world holds _ := rules.shuts unary world holds
  draining world holds := rules.note _ world trivial holds
  finishAgain world holds := rules.note _ world trivial holds
  verdict _ world holds := rules.note _ world trivial holds

theorem construct_stream_steps (kind : StreamKind) (callback : Option CallbackId) :
    Keeps kept (fun _ => kept) (constructStream env kind callback) := by
  refine keeps_bind (checked_steps _) fun _ => ?_
  intro world holds
  rw [wp_bind, wp_fresh, wp_bind, wp_modify]
  refine keeps_ite (subscribe_steps rules kind) ?_ _ (rules.client kind callback world holds)
  exact set_state_steps rules kind _ (fun _ => rfl) fun _ => rfl

theorem reinitialize_unary_client_steps (client : UnaryClient) :
    Keeps kept (fun _ => kept) (reinitializeUnaryClient env client) := by
  refine keeps_bind (checked_steps _) fun _ => ?_
  intro world holds
  rw [wp_bind, wp_fresh, wp_modify]
  exact rules.counted _ world holds

theorem reinitialize_unary_steps : Keeps kept (fun _ => kept) (reinitializeUnary env) := by
  intro world holds
  rw [reinitializeUnary, wp_bind, wp_new_queue, wp_bind, wp_modify]
  exact keeps_each (fun client _ => reinitialize_unary_client_steps rules client) _
    (rules.renewUnary world holds)

theorem reinitialize_stream_steps : Keeps kept (fun _ => kept) (reinitializeStream env) := by
  intro world holds
  rw [reinitializeStream, wp_bind, wp_new_queue, wp_bind, wp_modify]
  refine keeps_each (fun kind _ => keeps_read fun world holds => ?_) _
    (rules.renewStream world holds)
  exact construct_stream_steps rules kind _ world holds

/-! ## The life of a manager -/

theorem construct_steps (callbacks : IVIStreamCallbacks) :
    Keeps kept (fun _ => kept) (construct env callbacks) :=
  construct_keeps (reinitialize_unary_client_steps rules) fun kind =>
    construct_stream_steps rules kind (callbacks kind)

theorem actions_steps : ActionsKept (grpc env) anyManners kept (fun _ => kept) where
  queue unary := queue_steps rules unary
  call call _ := api_call_steps rules .direct call
  reinitializeUnary := reinitialize_unary_steps rules
  reinitializeStream := reinitialize_stream_steps rules
  exited _ holds := holds
  resumes _ holds := holds

theorem act_steps (action : Action) : Keeps kept (fun _ => kept) (act (grpc env) action) :=
  act_keeps (actions_steps rules) (any_action_allowed action)

/-- At every moment until its destructor: after the constructor, in every state an
application can act in, and wherever an action stops. -/
structure WhileAlive (env : Env) (connection : IVIConnection) (callbacks : IVIStreamCallbacks)
    (holds : World → Prop) : Prop where
  constructed : holds (construct env callbacks (World.before connection)).world
  reached : ∀ actions replies world,
    Reached (grpc env) connection callbacks actions replies world → holds world
  acting : ∀ actions replies world,
    Reached (grpc env) connection callbacks actions replies world →
    ∀ action, holds (act (grpc env) action world).world

/-- A property of a connection nobody has used that survives every step of the
constructor and of the actions. -/
theorem while_alive_of_steps {connection : IVIConnection} {callbacks : IVIStreamCallbacks}
    (start : kept (World.before connection)) : WhileAlive env connection callbacks kept := by
  have built := construct_steps rules callbacks (World.before connection) start
  have every : ∀ actions replies world,
      Reached (grpc env) connection callbacks actions replies world → kept world := by
    rintro actions replies world ⟨first, constructed, ran⟩
    have first := wp_returned built constructed
    exact run_keeps (actions_steps rules) actions (fun action _ => any_action_allowed action) first
      ran
  refine ⟨wp_world built, every, ?_⟩
  intro actions replies world reached action
  exact wp_world (act_steps rules action world (every actions replies world reached))

end Actions

/-! ## The destructor -/

section Rules
variable {env : Env} {kept : World → Prop} (rules : StepsKept env kept)
include rules

theorem drain_queue_steps (unary : Bool) (tags : List Tag) (last : Option NextStatus) :
    Keeps kept (fun _ => kept) (drainQueue (grpc env) unary tags last) := by
  refine keeps_bind (fun world holds => rules.shuts unary world holds) fun _ => ?_
  refine keeps_bind (keeps_each fun tag _ world holds => ?_) fun _ world holds => ?_
  · refine wp_collect (grpc env) unary tag holds fun admitted => ?_
    have pends : tag ∈ world.pending (world.queueOf unary) := (grpc_event_iff _ _).mp admitted
    have deletes : Keeps kept (fun _ => kept)
        (onlyIf unary (StreamClients.note (.deleted tag))) :=
      keeps_only_if fun _ => note_steps rules.toActionStepsKept trivial
    exact deletes _ (rules.collects unary tag world pends holds)
  · exact wp_async_next_last (grpc env) unary last holds fun _ _ => holds

theorem destroy_steps (collection : Collection) :
    Keeps kept (fun _ => kept) (destroy (grpc env) collection) := by
  refine keeps_bind (drain_queue_steps rules true _ _) fun _ => ?_
  refine keeps_bind (finish_stream_steps rules.toActionStepsKept) fun _ => ?_
  refine keeps_bind (finish_stream_steps rules.toActionStepsKept) fun _ => ?_
  exact keeps_bind (drain_queue_steps rules false _ _) fun _ => keeps_pure _

/-- At every moment: while the manager lives, and wherever its destructor stops. -/
structure Always (env : Env) (connection : IVIConnection) (callbacks : IVIStreamCallbacks)
    (holds : World → Prop) : Prop extends WhileAlive env connection callbacks holds where
  destroyed : ∀ actions replies world,
    Reached (grpc env) connection callbacks actions replies world →
    ∀ collection, holds (destroy (grpc env) collection world).world

/-- A property of a connection nobody has used that survives every step always
holds. -/
theorem always_of_steps {connection : IVIConnection} {callbacks : IVIStreamCallbacks}
    {told : World → Prop} (start : kept (World.before connection))
    (tells : ∀ world, kept world → told world) : Always env connection callbacks told := by
  have alive : WhileAlive env connection callbacks kept :=
    while_alive_of_steps rules.toActionStepsKept start
  refine ⟨⟨tells _ alive.constructed, ?_, ?_⟩, ?_⟩
  · exact fun actions replies world reached =>
      tells world (alive.reached actions replies world reached)
  · exact fun actions replies world reached action =>
      tells _ (alive.acting actions replies world reached action)
  · intro actions replies world reached collection
    exact tells _ (wp_world
      (destroy_steps rules collection world (alive.reached actions replies world reached)))

end Rules

end IviSdk.StepRules
