import IviSdk.LiveStreams

/-!
An application that polls the two queues itself, in any order and with requests in
between, and that reinitialises a side before it polls it again once its poll
reported a failure. The other side may go on meanwhile. Its streams live on as
those of an application that leaves recovery to `Poll`.
-/

namespace IviSdk.ManualRecovery

open Checks CompletionQueues Streams ManagerWorld Interaction StreamClients ClientManager
open CallbackRules PollRules ManagerRuns QueueWiring LiveStreams

/-! ## Self-managed use -/

/-- The states of such an application, and which sides it has yet to reinitialise. -/
inductive Managed (env : Env) (connection : IVIConnection) (callbacks : IVIStreamCallbacks) :
    (unaryDown streamDown : Bool) → World → Prop where
  | constructed {first : World}
      (built : construct env callbacks (World.before connection) = .returned () first) :
      Managed env connection callbacks false false first
  | called {unaryDown streamDown : Bool} {world after : World} (call : ApiCall)
      (polite : ActionAllowed goodManners (.call call))
      (managed : Managed env connection callbacks unaryDown streamDown world)
      (made : act (grpc env) (.call call) world = .returned .done after) :
      Managed env connection callbacks unaryDown streamDown after
  | polledUnary {streamDown failed : Bool} {world after : World} (passes : List Pass)
      (polite : ActionAllowed goodManners (.pollUnary passes))
      (managed : Managed env connection callbacks false streamDown world)
      (polled : act (grpc env) (.pollUnary passes) world = .returned (.queuePolled failed) after) :
      Managed env connection callbacks failed streamDown after
  | polledStream {unaryDown failed : Bool} {world after : World} (passes : List Pass)
      (polite : ActionAllowed goodManners (.pollStream passes))
      (managed : Managed env connection callbacks unaryDown false world)
      (polled : act (grpc env) (.pollStream passes) world = .returned (.queuePolled failed) after) :
      Managed env connection callbacks unaryDown failed after
  | rebuiltUnary {unaryDown streamDown : Bool} {world after : World}
      (managed : Managed env connection callbacks unaryDown streamDown world)
      (rebuilt : act (grpc env) .reinitializeUnary world = .returned .done after) :
      Managed env connection callbacks false streamDown after
  | rebuiltStream {unaryDown streamDown : Bool} {world after : World}
      (managed : Managed env connection callbacks unaryDown streamDown world)
      (rebuilt : act (grpc env) .reinitializeStream world = .returned .done after) :
      Managed env connection callbacks unaryDown false after

/-- A side that is up is as `Poll` would leave it. -/
structure Standing (callbacks : IVIStreamCallbacks) (unaryDown streamDown : Bool)
    (world : World) : Prop where
  wired : Wired world
  steady : Steady 0 callbacks everyKind world
  unary : unaryDown = false → world.unaryShut = false
  stream : streamDown = false → Healthy callbacks everyKind none world

section Steps
variable {env : Env} {callbacks : IVIStreamCallbacks} {unaryDown streamDown failed : Bool}
  {world after : World}

/-! ## One action -/

theorem Standing.called (standing : Standing callbacks unaryDown streamDown world)
    {call : ApiCall} (polite : ActionAllowed goodManners (.call call))
    (made : act (grpc env) (.call call) world = .returned .done after) :
    Standing callbacks unaryDown streamDown after := by
  have wired := wp_returned (act_keeps (actions_wired env) (any_action_allowed (.call call)) world
    standing.wired) made
  have calls : wp (act (grpc env) (.call call))
      (fun _ after => Undisturbed world after ∧ Frame world after) (fun _ _ => True) world := by
    rw [act, wp_bind]
    exact wp_partial (wp_and (call_undisturbed env .direct call polite (Undisturbed.refl world))
      (api_call_frame env world .direct call world (Frame.refl world))) fun _ _ both => both
  obtain ⟨same, framed⟩ := wp_returned calls made
  constructor
  · exact wired
  · exact standing.steady.transport same.toLesser
  · intro up
    rw [framed.unaryShut]
    exact standing.unary up
  · intro up
    exact (standing.stream up).transport same

/-- Nothing done on the unary queue disturbs the streams. -/
theorem Standing.polledUnary (standing : Standing callbacks false streamDown world)
    {passes : List Pass} (polite : ActionAllowed goodManners (.pollUnary passes))
    (polled : act (grpc env) (.pollUnary passes) world = .returned (.queuePolled failed) after) :
    Standing callbacks failed streamDown after := by
  have rules := ((queue_wired env true).restrict goodManners).over (queue_undisturbed env world)
  have polls : wp (act (grpc env) (.pollUnary passes))
      (fun reply after => ∃ failed, reply = .queuePolled failed ∧ Wired after ∧
        Undisturbed world after ∧ (failed = false → Frame world after))
      (fun _ _ => True) world := by
    rw [act, wp_bind]
    refine wp_partial (wp_and (poll_queue_keeps rules polite world
      ⟨standing.wired, Undisturbed.refl world⟩) (poll_queue_frame (grpc env) true passes world)) ?_
    rintro failed after ⟨⟨wired, same⟩, framed⟩
    exact ⟨failed, rfl, wired, same, framed⟩
  obtain ⟨result, replied, wired, same, framed⟩ := wp_returned polls polled
  cases replied
  constructor
  · exact wired
  · exact standing.steady.transport same.toLesser
  · intro up
    rw [(framed up).unaryShut]
    exact standing.unary rfl
  · intro up
    exact (standing.stream up).transport same

/-- A poll of the stream queue that reports no failure has seen none. -/
theorem Standing.polledStream (standing : Standing callbacks unaryDown false world)
    {passes : List Pass} (polite : ActionAllowed goodManners (.pollStream passes))
    (polled : act (grpc env) (.pollStream passes) world = .returned (.queuePolled failed) after) :
    Standing callbacks unaryDown failed after ∧
      (failed = false → failures after.log = failures world.log) := by
  have steadyRules := ((queue_wired env false).restrict goodManners).over
    (@queue_steady 0 callbacks env false)
  have shutRules := ((queue_wired env false).restrict goodManners).over
    (queue_unary_shut env world.unaryShut)
  have thriving : Thriving callbacks none (failures world.log) world := ⟨standing.stream rfl, rfl⟩
  have polls : wp (act (grpc env) (.pollStream passes))
      (fun reply after => ∃ failed, reply = .queuePolled failed ∧ Wired after ∧
        Steady 0 callbacks everyKind after ∧ after.unaryShut = world.unaryShut ∧
        (failed = false → Thriving callbacks none (failures world.log) after))
      (fun _ _ => True) world := by
    rw [act, wp_bind]
    refine wp_partial (wp_and (poll_queue_keeps steadyRules polite world
        ⟨standing.wired, standing.steady⟩)
      (wp_and (poll_queue_keeps shutRules polite world ⟨standing.wired, rfl⟩)
        (poll_stream_thrives env polite (failures world.log) standing.wired standing.steady
          thriving))) ?_
    rintro failed after ⟨⟨wired, steady⟩, ⟨_, shut⟩, thrives⟩
    exact ⟨failed, rfl, wired, steady, shut, thrives⟩
  obtain ⟨result, replied, wired, steady, shut, thrives⟩ := wp_returned polls polled
  cases replied
  constructor
  · constructor
    · exact wired
    · exact steady
    · intro up
      rw [shut]
      exact standing.unary up
    · exact fun up => (thrives up).1
  · exact fun up => (thrives up).2

theorem Standing.rebuiltUnary (standing : Standing callbacks unaryDown streamDown world)
    (rebuilt : act (grpc env) .reinitializeUnary world = .returned .done after) :
    Standing callbacks false streamDown after := by
  have rebuilds : wp (act (grpc env) .reinitializeUnary)
      (fun _ after => Wired after ∧ Undisturbed world after ∧ after.unaryShut = false)
      (fun _ _ => True) world := by
    rw [act, wp_bind]
    exact wp_partial (wp_and (reinitialize_unary_wired env world standing.wired)
      (reinitialize_unary_undisturbed env standing.wired)) fun _ _ both => both
  obtain ⟨wired, same, unshut⟩ := wp_returned rebuilds rebuilt
  constructor
  · exact wired
  · exact standing.steady.transport same.toLesser
  · exact fun _ => unshut
  · intro up
    exact (standing.stream up).transport same

theorem Standing.rebuiltStream (standing : Standing callbacks unaryDown streamDown world)
    (rebuilt : act (grpc env) .reinitializeStream world = .returned .done after) :
    Standing callbacks unaryDown false after := by
  have rebuilds : wp (act (grpc env) .reinitializeStream)
      (fun _ after => Wired after ∧ Steady 0 callbacks everyKind after ∧
        Healthy callbacks everyKind none after ∧ after.unaryShut = world.unaryShut)
      (fun _ _ => True) world := by
    rw [act, wp_bind]
    apply wp_partial (wp_and (reinitialize_stream_wired env world standing.wired)
      (reinitialize_stream_thrives env standing.wired standing.steady))
    rintro _ after ⟨wired, steady, healthy, _, shut⟩
    exact ⟨wired, steady, healthy, shut⟩
  obtain ⟨wired, steady, healthy, shut⟩ := wp_returned rebuilds rebuilt
  constructor
  · exact wired
  · exact steady
  · intro up
    rw [shut]
    exact standing.unary up
  · exact fun _ => healthy

end Steps

/-! ## Any order of polls, requests and reinitialisations -/

theorem managed_standing {env : Env} {connection : IVIConnection}
    {callbacks : IVIStreamCallbacks} {unaryDown streamDown : Bool} {world : World}
    (distinct : connection.streamQueue ≠ connection.unaryQueue)
    (managed : Managed env connection callbacks unaryDown streamDown world) :
    Standing callbacks unaryDown streamDown world := by
  induction managed with
  | constructed built =>
      have wired := wp_returned (construct_wired env callbacks connection distinct) built
      obtain ⟨steady, healthy, unary⟩ := wp_returned (construct_thrives env connection) built
      exact ⟨wired, steady, fun _ => unary, fun _ => healthy⟩
  | called call polite _ made standing => exact standing.called polite made
  | polledUnary passes polite _ polled standing => exact standing.polledUnary polite polled
  | polledStream passes polite _ polled standing => exact (standing.polledStream polite polled).1
  | rebuiltUnary _ rebuilt standing => exact standing.rebuiltUnary rebuilt
  | rebuiltStream _ rebuilt standing => exact standing.rebuiltStream rebuilt

/-- While the application reinitialises a side before it polls it again, a queue
whose last poll reported no failure is open, every subscribed stream on it waits for
one message, and no failure goes unreported. -/
theorem manual_recovery_keeps_streams (env : Env) (connection : IVIConnection)
    (distinct : connection.streamQueue ≠ connection.unaryQueue) (callbacks : IVIStreamCallbacks)
    (unaryDown streamDown : Bool) (world : World)
    (managed : Managed env connection callbacks unaryDown streamDown world) :
    (unaryDown = false → world.unaryShut = false) ∧
    (streamDown = false → world.streamShut = false ∧
      (∀ kind callback, callbacks kind = some callback → SubscribedClient kind callback world) ∧
      ∀ passes after, ActionAllowed goodManners (.pollStream passes) →
        act (grpc env) (.pollStream passes) world = .returned (.queuePolled false) after →
        failures after.log = failures world.log) ∧
    (∀ kind, callbacks kind = none → ∀ queue subscription slot,
      .stream kind subscription slot ∉ world.pending queue) := by
  have standing := managed_standing distinct managed
  refine ⟨standing.unary, ?_, ?_⟩
  · intro up
    have healthy := standing.stream up
    refine ⟨healthy.unshut, ?_, ?_⟩
    · intro kind callback given
      apply (healthy.live kind trivial (by rw [given]; rfl)).client
      rw [standing.steady.own kind trivial, given]
    · intro passes after polite polled
      rw [up] at standing
      exact (standing.polledStream polite polled).2 rfl
  · intro kind none queue subscription slot
    exact List.count_eq_zero.mp (standing.steady.unsubscribed kind none queue subscription slot)

/-! ### A refused stream and a request meanwhile -/

def itemsRefused : World :=
  (act (grpc defaultEnv) (.pollStream refusedPasses)
    (construct defaultEnv itemCallbacks (World.before newConnection)).world).world

def requestedMeanwhile : World :=
  (act (grpc defaultEnv) (.call (.request .item)) itemsRefused).world

def polledMeanwhile : World := (act (grpc defaultEnv) (.pollUnary [{}]) requestedMeanwhile).world

def itemsRebuilt : World := (act (grpc defaultEnv) .reinitializeStream polledMeanwhile).world

theorem items_rebuilt_managed :
    Managed defaultEnv newConnection itemCallbacks false true polledMeanwhile ∧
    Managed defaultEnv newConnection itemCallbacks false false itemsRebuilt := by
  have built : construct defaultEnv itemCallbacks (World.before newConnection) = .returned () _ :=
    Outcome.eq_returned (by decide +kernel)
  have refused : act (grpc defaultEnv) (.pollStream refusedPasses)
      (construct defaultEnv itemCallbacks (World.before newConnection)).world =
        .returned (.queuePolled true) itemsRefused := Outcome.eq_returned (by decide +kernel)
  have requested : act (grpc defaultEnv) (.call (.request .item)) itemsRefused =
      .returned .done requestedMeanwhile := Outcome.eq_returned (by decide +kernel)
  have polled : act (grpc defaultEnv) (.pollUnary [{}]) requestedMeanwhile =
      .returned (.queuePolled false) polledMeanwhile := Outcome.eq_returned (by decide +kernel)
  have polite : ActionAllowed goodManners (.pollStream refusedPasses) := by
    simp [refusedPasses, ActionAllowed, PassesAllowed, Pass.Allowed, Manners.Allows]
  have waits : ActionAllowed goodManners (.pollUnary [{}]) := by
    simp [ActionAllowed, PassesAllowed, Pass.Allowed]
  have down := Managed.polledUnary [{}] waits
    (.called (.request .item) trivial (.polledStream refusedPasses polite (.constructed built) refused)
      requested) polled
  exact ⟨down, .rebuiltStream down (Outcome.eq_returned (by decide +kernel))⟩

theorem rebuilt_items_live :
    newConnection.streamQueue ≠ newConnection.unaryQueue ∧
    Managed defaultEnv newConnection itemCallbacks false true polledMeanwhile ∧
    polledMeanwhile.unaryShut = false ∧
    Managed defaultEnv newConnection itemCallbacks false false itemsRebuilt ∧
    itemsRebuilt.streamShut = false ∧ SubscribedClient .item 0 itemsRebuilt := by
  obtain ⟨down, up⟩ := items_rebuilt_managed
  obtain ⟨unary, _⟩ := manual_recovery_keeps_streams defaultEnv newConnection
    new_connection_distinct itemCallbacks false true polledMeanwhile down
  obtain ⟨_, stream, _⟩ := manual_recovery_keeps_streams defaultEnv newConnection
    new_connection_distinct itemCallbacks false false itemsRebuilt up
  obtain ⟨unshut, clients, _⟩ := stream rfl
  exact ⟨new_connection_distinct, down, unary rfl, up, unshut, clients .item 0 rfl⟩

end IviSdk.ManualRecovery
