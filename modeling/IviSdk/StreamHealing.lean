import IviSdk.LiveStreams

/-!
However a manager was used, a reinitialisation makes it whole. The application may
have finished streams by hand, its callbacks may have thrown in the middle of a
recovery, and a queue may have been shut and left: from any such state the stream
clients come back, each with a new subscription that waits for one message. What is
left on the old queue goes with it, drained or not.
-/

namespace IviSdk.StreamHealing

open Checks CompletionQueues Streams ManagerWorld Interaction StreamClients ClientManager
open CallbackRules PollRules ManagerRuns QueueWiring LiveStreams

variable {env : Env} {callbacks : IVIStreamCallbacks} {base : Nat} {world : World}

/-! ## Any use keeps what a rebuild needs -/

/-- The exceptions of callbacks leave it too; after an exit nothing is left to keep. -/
def SteadyIfThrown (base : Nat) (callbacks : IVIStreamCallbacks) (reason : Halt) (world : World) :
    Prop :=
  reason = .threw → Steady base callbacks everyKind world

theorem steady_if_thrown (reason : Halt) (steady : Steady base callbacks everyKind world) :
    SteadyIfThrown base callbacks reason world := fun _ => steady

theorem finish_kept (kind : StreamKind) :
    Keeps (Steady base callbacks everyKind) (SteadyIfThrown base callbacks) (finish kind) := by
  intro world steady
  apply wp_mono (finish_steady kind world steady)
  · exact fun _ _ holds => holds
  · exact fun _ _ calm threw => absurd threw calm

theorem call_kept (env : Env) (origin : Origin) (call : ApiCall) :
    Keeps (Steady base callbacks everyKind) (SteadyIfThrown base callbacks)
      (apiCall env origin call) := by
  intro world steady
  have called : Steady base callbacks everyKind (world.note (.called call world.unaryShut)) :=
    steady.transport ((Lesser.refl world).note _)
  apply api_call_rule env origin call
  · exact fun _ _ => called.transport ((Lesser.refl _).allocate origin)
  · exact fun _ _ _ _ => called.transport (((Lesser.refl _).note _).allocate .confirm)
  · exact fun kind _ => finish_kept kind _ called

theorem dispatch_kept (env : Env) (completion : Completion) :
    DispatchKeptOver env anyManners completion
      (fun world => Wired world ∧ Heard completion world) (Steady base callbacks everyKind)
      (SteadyIfThrown base callbacks) :=
  { dispatch_steady env completion with
    threw := fun _ _ _ steady => steady_if_thrown .threw steady
    exited := fun _ _ steady => steady_if_thrown .exited steady
    undefined := fun _ _ steady => steady_if_thrown .undefined steady
    call := fun call _ world _ steady => call_kept env .nested call world steady }

theorem queue_kept (env : Env) (unary : Bool) :
    QueueKeptOver (grpc env) unary anyManners Wired (Steady base callbacks everyKind)
      (SteadyIfThrown base callbacks) where
  waiting _ _ steady := steady_if_thrown .waiting steady
  unfinished _ _ steady := steady_if_thrown .unfinished steady
  event completion polite world wired steady := by
    refine event_over_wired polite (fun _ steady => steady_if_thrown .waiting steady) ?_
      (dispatch_kept env completion) ?_ ?_ world wired steady
    · intro before _ steady _
      exact steady.transport (deliver_lesser unary completion before)
    · intro _ after _ steady
      exact steady.transport ((Lesser.refl after).note _)
    · intro _ after steady
      exact steady
  finish _ kind world _ steady := finish_kept kind world steady
  shutdown world _ steady _ := steady.transport ((Lesser.refl world).shutdown _)
  draining world steady := steady.transport ((Lesser.refl world).note _)
  finishAgain world steady := steady.transport ((Lesser.refl world).note _)
  verdict _ world steady := steady.transport ((Lesser.refl world).note _)

theorem actions_kept (env : Env) :
    ActionsKeptOver (grpc env) anyManners Wired (Steady base callbacks everyKind)
      (SteadyIfThrown base callbacks) where
  queue := queue_kept env
  call call _ world _ steady := call_kept env .direct call world steady
  reinitializeUnary world wired steady := by
    apply wp_mono (reinitialize_unary_undisturbed env wired)
    · exact fun _ _ both => steady.transport both.1.toLesser
    · exact fun _ _ calm threw => absurd threw calm
  reinitializeStream world wired steady := by
    apply wp_mono (reinitialize_stream_thrives env wired steady)
    · exact fun _ _ rebuilt => rebuilt.1
    · exact fun _ _ calm threw => absurd threw calm
  exited _ steady := steady_if_thrown .exited steady
  resumes _ steady := steady rfl

theorem reached_steady {connection : IVIConnection} {actions : List Action}
    {replies : List Reply} (distinct : connection.streamQueue ≠ connection.unaryQueue)
    (reached : Reached (grpc env) connection callbacks actions replies world) :
    Wired world ∧ Steady 0 callbacks everyKind world := by
  have constructs : wp (construct env callbacks)
      (fun _ => Steady 0 callbacks everyKind) Calm (World.before connection) :=
    wp_then (construct_thrives env connection) fun _ _ built => built.1
  exact reached_over_wired distinct constructs (actions_kept env)
    (fun action _ => any_action_allowed action) reached

/-! ## A reinitialisation comes back -/

theorem checked_returned {Value : Type} {result : Checked Value} {value : Value}
    {before after : World} (returned : checked result before = .returned value after) :
    result = .ok value := by
  cases result with
  | ok other =>
      cases returned
      rfl
  | error stopped => cases stopped <;> cases returned

/-- A manager that was constructed passed the checks, and every client built later
makes the same ones. -/
theorem constructed_checks {connection : IVIConnection} {first : World}
    (built : construct env callbacks (World.before connection) = .returned () first) :
    clientChecks env = .ok () := by
  obtain ⟨_, _, unary, _⟩ := returned_of_bind built
  obtain ⟨_, _, item, _⟩ := returned_of_bind unary
  obtain ⟨_, _, checks, _⟩ := returned_of_bind item
  exact checked_returned checks

section Rebuilding
variable (checks : clientChecks env = .ok ())
include checks

theorem unary_client_returns (client : UnaryClient) (world : World) :
    wp (reinitializeUnaryClient env client) (fun _ _ => True) (fun _ _ => False) world := by
  rw [reinitializeUnaryClient, wp_bind]
  exact wp_client_checks env trivial fun failed => absurd checks failed

theorem stream_client_returns (kind : StreamKind) (world : World) :
    wp (reinitializeStreamClient env kind) (fun _ _ => True) (fun _ _ => False) world := by
  rw [reinitializeStreamClient, wp_bind, wp_read]
  exact wp_construct_stream env kind _ (fun failed => absurd checks failed) (fun _ => trivial)
    fun _ => trivial

theorem reinitialize_unary_returns (world : World) :
    wp (reinitializeUnary env) (fun _ _ => True) (fun _ _ => False) world := by
  rw [reinitializeUnary, wp_bind, wp_new_queue, wp_bind, wp_modify]
  have each : Keeps (fun _ => True) (fun _ _ => False)
      (Interaction.each (reinitializeUnaryClient env) [.item, .itemType, .payment, .player]) :=
    keeps_each fun client _ world _ => unary_client_returns checks client world
  exact each _ trivial

theorem reinitialize_stream_returns (world : World) :
    wp (reinitializeStream env) (fun _ _ => True) (fun _ _ => False) world := by
  rw [reinitializeStream, wp_bind, wp_new_queue, wp_bind, wp_modify]
  have each : Keeps (fun _ => True) (fun _ _ => False)
      (Interaction.each (reinitializeStreamClient env) StreamKind.all) :=
    keeps_each fun kind _ world _ => stream_client_returns checks kind world
  exact each _ trivial

end Rebuilding

/-! ## Whole again -/

/-- Every stream that has a callback is subscribed anew since `start` and waits for
one message; the others have nothing to wait for. -/
structure Whole (callbacks : IVIStreamCallbacks) (start world : World) : Prop where
  unshut : world.streamShut = false
  subscribed : ∀ kind callback, callbacks kind = some callback →
    SubscribedClient kind callback world ∧ Resubscribed kind start world
  idle : ∀ kind, callbacks kind = none → ∀ queue subscription slot,
    .stream kind subscription slot ∉ world.pending queue

theorem reinitialize_stream_whole (env : Env) {start : World} (wired : Wired world)
    (steady : Steady base callbacks everyKind world)
    (before : ∀ kind, (start.state kind).subscription < base) :
    wp (reinitializeStream env) (fun _ after => Whole callbacks start after) (fun _ _ => True)
      world := by
  apply wp_partial (reinitialize_stream_thrives env wired steady)
  rintro _ after ⟨again, healthy, anew, _⟩
  constructor
  · exact healthy.unshut
  · intro kind callback given
    have live : Live 1 kind after := healthy.live kind trivial (by rw [given]; rfl)
    constructor
    · apply live.client
      rw [again.own kind trivial, given]
    · constructor
      · exact Nat.lt_of_lt_of_le (before kind) (Nat.le_trans steady.come (anew kind))
      · exact live.told
  · intro kind none queue subscription slot
    exact List.count_eq_zero.mp (again.unsubscribed kind none queue subscription slot)

/-- Polling a queue shuts it at most; the connection keeps it. -/
theorem queue_connection (env : Env) (unary : Bool) (connection : IVIConnection) :
    QueueKept (grpc env) unary anyManners (fun world => world.connection = connection)
      (fun _ _ => True) where
  waiting _ _ := trivial
  unfinished _ _ := trivial
  event completion _ world same :=
    wp_partial (event_frame (grpc env) unary completion world)
      fun _ _ framed => framed.connection.trans same
  finish _ kind world same :=
    wp_partial (finish_frame world kind world (Frame.refl world))
      fun _ _ framed => framed.connection.trans same
  shutdown _ same _ := same
  draining _ same := same
  finishAgain _ same := same
  verdict _ _ same := same

/-- The reinitialisations at the end of `Poll`. -/
theorem reinitializations_whole (env : Env) {start : World} (unaryShutdown streamShutdown : Bool)
    (wired : Wired world) (steady : Steady base callbacks everyKind world)
    (before : ∀ kind, (start.state kind).subscription < base)
    (same : world.connection.streamQueue = start.connection.streamQueue) :
    wp (do
        onlyIf unaryShutdown (reinitializeUnary env)
        onlyIf streamShutdown (reinitializeStream env)
        pure true : Manager Bool)
      (fun _ after => after.connection.streamQueue ≠ start.connection.streamQueue →
        Whole callbacks start after) (fun _ _ => True) world := by
  have renewed : wp (onlyIf unaryShutdown (reinitializeUnary env))
      (fun _ middle => Wired middle ∧ Steady base callbacks everyKind middle ∧
        middle.connection.streamQueue = start.connection.streamQueue) (fun _ _ => True) world := by
    rw [wp_only_if]
    split
    · apply wp_partial (wp_and (reinitialize_unary_wired env world wired)
        (reinitialize_unary_undisturbed env wired))
      rintro _ middle ⟨wired, undisturbed, _⟩
      exact ⟨wired, steady.transport undisturbed.toLesser, undisturbed.queue.trans same⟩
    · exact ⟨wired, steady, same⟩
  rw [wp_bind]
  apply wp_then renewed
  rintro _ middle ⟨wired, steady, same⟩
  rw [wp_bind, wp_only_if]
  split
  · apply wp_then (reinitialize_stream_whole env wired steady before)
    exact fun _ _ whole _ => whole
  · intro replaced
    exact absurd same replaced

/-- A `Poll` that put a new stream queue in place has made the streams whole. -/
theorem poll_whole (env : Env) (channelState : ChannelState)
    (unaryPasses streamPasses : List Pass) (wired : Wired world)
    (steady : Steady world.next callbacks everyKind world) :
    wp (poll (grpc env) channelState unaryPasses streamPasses)
      (fun _ after => after.connection.streamQueue ≠ world.connection.streamQueue →
        Whole callbacks world after) (fun _ _ => True) world := by
  have before : ∀ kind, (world.state kind).subscription < world.next :=
    fun kind => steady.current kind trivial
  have polls : ∀ unary passes first, Wired first ∧ Steady world.next callbacks everyKind first →
      first.connection = world.connection →
      wp (pollQueue (grpc env) unary passes)
        (fun _ after => (Wired after ∧ Steady world.next callbacks everyKind after) ∧
          after.connection = world.connection) (fun _ _ => True) first := by
    intro unary passes first kept same
    have rules := (queue_wired env unary).over (@queue_kept callbacks world.next env unary)
    exact wp_partial (wp_and (poll_queue_keeps rules (any_passes_allowed passes) first kept)
      (poll_queue_keeps (queue_connection env unary world.connection) (any_passes_allowed passes)
        first same)) fun _ _ both => both
  rw [poll, wp_bind]
  apply wp_partial (@check_keeps (fun after => after = world) (fun _ _ => True)
    (fun _ _ => trivial) env.build env.configuration.autoconfirmStreamUpdates world rfl)
  rintro _ first same
  rw [same, wp_bind]
  apply wp_then (polls true unaryPasses world ⟨wired, steady⟩ rfl)
  rintro unaryShutdown middle ⟨kept, same⟩
  rw [wp_bind]
  apply wp_then (polls false streamPasses middle kept same)
  rintro streamShutdown last ⟨⟨wired, steady⟩, same⟩
  have queue : last.connection.streamQueue = world.connection.streamQueue := by rw [same]
  rw [wp_ite]
  split
  · rw [wp_ite]
    split
    · intro replaced
      exact absurd queue replaced
    · exact reinitializations_whole env unaryShutdown streamShutdown wired steady before queue
  · intro replaced
    exact absurd queue replaced

/-- A unary queue nobody has put anything on. -/
def Unused (world : World) : Prop :=
  world.unaryShut = false ∧ world.pending world.connection.unaryQueue = []

theorem renewed_unused (world : World) : Unused (renewUnary world) := by
  constructor
  · simp [World.unaryShut, renewUnary, World.setQueue]
  · simp [World.pending, renewUnary, World.setQueue]

theorem reinitialize_unary_unused (env : Env) (world : World) :
    wp (reinitializeUnary env) (fun _ => Unused) (fun _ _ => True) world := by
  rw [reinitializeUnary, wp_bind, wp_new_queue, wp_bind, wp_modify]
  have each : Keeps Unused (fun _ _ => True)
      (Interaction.each (reinitializeUnaryClient env) [.item, .itemType, .payment, .player]) := by
    apply keeps_each
    intro client _ before unused
    rw [reinitializeUnaryClient, wp_bind]
    exact wp_client_checks env unused fun _ => trivial
  exact each _ (renewed_unused world)

/-- From any state it was left in, a reinitialisation of a side comes back. That of
the streams makes them whole, as does a `Poll` that reinitialised them, and that of
the unary side leaves an open queue with nothing on it. -/
theorem any_state_heals (env : Env) (connection : IVIConnection)
    (distinct : connection.streamQueue ≠ connection.unaryQueue) (callbacks : IVIStreamCallbacks)
    (actions : List Action) (replies : List Reply) (world : World)
    (reached : Reached (grpc env) connection callbacks actions replies world) :
    (∃ after, act (grpc env) .reinitializeStream world = .returned .done after ∧
      Whole callbacks world after) ∧
    (∃ after, act (grpc env) .reinitializeUnary world = .returned .done after ∧ Unused after) ∧
    ∀ channelState unaryPasses streamPasses result after,
      act (grpc env) (.poll channelState unaryPasses streamPasses) world =
        .returned (.polled result) after →
      after.connection.streamQueue ≠ world.connection.streamQueue →
      Whole callbacks world after := by
  obtain ⟨wired, steady⟩ := reached_steady distinct reached
  have now : Steady world.next callbacks everyKind world := steady.since (Nat.le_refl _)
  obtain ⟨first, built, _⟩ := reached.ran
  have checks := constructed_checks built
  refine ⟨?_, ?_, ?_⟩
  · have rebuilds : wp (act (grpc env) .reinitializeStream)
        (fun reply after => reply = .done ∧ Whole callbacks world after) (fun _ _ => False)
        world := by
      rw [act, wp_bind]
      apply wp_mono (wp_and (reinitialize_stream_returns checks world)
        (reinitialize_stream_whole env wired now fun kind => now.current kind trivial))
      · exact fun _ _ both => ⟨rfl, both.2⟩
      · exact fun _ _ both => both.1
    obtain ⟨reply, after, returned, rfl, whole⟩ := wp_total rebuilds
    exact ⟨after, returned, whole⟩
  · have rebuilds : wp (act (grpc env) .reinitializeUnary)
        (fun reply after => reply = .done ∧ Unused after) (fun _ _ => False) world := by
      rw [act, wp_bind]
      apply wp_mono (wp_and (reinitialize_unary_returns checks world)
        (reinitialize_unary_unused env world))
      · exact fun _ _ both => ⟨rfl, both.2⟩
      · exact fun _ _ both => both.1
    obtain ⟨reply, after, returned, rfl, unused⟩ := wp_total rebuilds
    exact ⟨after, returned, unused⟩
  · intro channelState unaryPasses streamPasses result after polled
    have polls : wp (act (grpc env) (.poll channelState unaryPasses streamPasses))
        (fun _ after => after.connection.streamQueue ≠ world.connection.streamQueue →
          Whole callbacks world after) (fun _ _ => True) world := by
      rw [act, wp_bind]
      exact wp_then (poll_whole env channelState unaryPasses streamPasses wired now)
        fun _ _ whole => whole
    exact wp_returned polls polled

/-! ### A stream finished by hand -/

/-- The application finishes the item stream before anything arrived. -/
def finishedByHand : World :=
  (act (grpc defaultEnv) (.call (.finish .item))
    (construct defaultEnv itemCallbacks (World.before newConnection)).world).world

theorem finished_by_hand_reached :
    Reached (grpc defaultEnv) newConnection itemCallbacks [.call (.finish .item)] [.done]
      finishedByHand :=
  @reached_after_one (grpc defaultEnv) _ _ _ _ (by decide +kernel) (by decide +kernel)

theorem finished_by_hand_heals :
    newConnection.streamQueue ≠ newConnection.unaryQueue ∧
    Reached (grpc defaultEnv) newConnection itemCallbacks [.call (.finish .item)] [.done]
      finishedByHand ∧
    isFinished finishedByHand .item = true ∧
    ∃ after, act (grpc defaultEnv) .reinitializeStream finishedByHand = .returned .done after ∧
      SubscribedClient .item 0 after ∧ Resubscribed .item finishedByHand after := by
  obtain ⟨⟨after, rebuilt, whole⟩, _⟩ := any_state_heals defaultEnv newConnection
    new_connection_distinct itemCallbacks [.call (.finish .item)] [.done] finishedByHand
    finished_by_hand_reached
  exact ⟨new_connection_distinct, finished_by_hand_reached, by decide +kernel, after, rebuilt,
    whole.subscribed .item 0 rfl⟩

end IviSdk.StreamHealing
