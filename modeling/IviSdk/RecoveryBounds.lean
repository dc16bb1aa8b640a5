import IviSdk.FinishFlags
import IviSdk.ManagerRuns

/-!
How long a recovery can go on. Every pass of `Poll<Unary>` is assumed to end, so
the question is how many passes it asks for: one, one more after a failure, and
then one for each turn of the loop after `Shutdown`. The stream instantiation
counts its turns. The unary one does not, and leaves its loop only once the
queue is shut down and the stream clients are finished. Whether that happens in time
is told by the answers of the queue and the flags the streams had before the call.
-/

namespace IviSdk.RecoveryBounds

open Checks CompletionQueues Streams ManagerWorld Interaction StreamClients ClientManager
open CallbackRules PollRules ManagerRuns FinishFlags

variable {Value : Type}

/-- The code does not ask for another pass than those it was given: it returns,
or is left by an exception or an exit, or one of its passes does not end. -/
def ComesBack (outcome : Outcome World Halt Value) : Prop :=
  ∀ world, outcome ≠ .stopped .unfinished world

def firstPasses (passes : Nat → Pass) (count : Nat) : List Pass := (List.range count).map passes

theorem first_passes_succ (passes : Nat → Pass) (count : Nat) :
    firstPasses passes (count + 1) =
      passes 0 :: firstPasses (fun turn => passes (turn + 1)) count := by
  simp [firstPasses, List.range_succ_eq_map]

theorem comes_back_iff (program : Manager Value) (world : World) :
    ComesBack (program world) ↔
      wp program (fun _ _ => True) (fun reason _ => reason ≠ .unfinished) world := by
  unfold ComesBack wp
  cases program world with
  | returned value after => simp
  | stopped reason after => simp

/-! ## A pass never asks for another one -/

def NeverUnfinished (program : Manager Value) : Prop :=
  Keeps (fun _ => True) (fun reason _ => reason ≠ .unfinished) program

theorem finish_never_unfinished (kind : StreamKind) : NeverUnfinished (finish kind) := by
  intro world _
  refine finish_rule kind (fun _ => trivial) (fun _ _ => trivial) (fun _ _ _ => trivial) ?_
  exact fun _ _ => Halt.noConfusion

theorem call_never_unfinished (env : Env) (origin : Origin) (call : ApiCall) :
    NeverUnfinished (apiCall env origin call) := by
  intro world _
  refine api_call_rule env origin call (fun _ _ => trivial) (fun _ _ _ _ => trivial) ?_
  exact fun kind _ => finish_never_unfinished kind _ trivial

theorem dispatch_never_unfinished (env : Env) (completion : Completion) :
    DispatchKept env anyManners completion (fun _ => True) (fun reason _ => reason ≠ .unfinished)
    where
  threw _ _ _ := fun same => Halt.noConfusion same
  exited _ _ := fun same => Halt.noConfusion same
  undefined _ _ := fun same => Halt.noConfusion same
  call call _ := call_never_unfinished env .nested call
  update _ _ _ _ _ _ _ _ := trivial
  completed _ _ _ _ _ := trivial
  startReceived _ _ _ _ _ _ := trivial
  initMetadataReceived _ _ _ _ _ _ := trivial
  finishResponded _ _ _ _ _ _ := trivial
  confirms _ _ _ _ _ _ _ _ := trivial
  reads _ _ _ _ _ _ _ _ _ := trivial

theorem process_event_never_unfinished (runtime : Runtime) (unary : Bool)
    (completion : Completion) : NeverUnfinished (processEvent runtime unary completion) := by
  intro world _
  exact event_keeps (dispatch_never_unfinished runtime.toEnv completion)
    (any_manners_allow completion) (fun same => Halt.noConfusion same) (fun _ => trivial)
    fun _ _ => trivial

theorem process_queue_never_unfinished (runtime : Runtime) (unary : Bool) (pass : Pass) :
    NeverUnfinished (processQueue runtime unary pass) :=
  process_queue_lifts (fun _ _ same => Halt.noConfusion same)
    fun completion _ => process_event_never_unfinished runtime unary completion

theorem finish_stream_never_unfinished : NeverUnfinished finishStream :=
  keeps_each fun kind _ => finish_never_unfinished kind

theorem wp_after_pass {program : Manager Value} (ends : NeverUnfinished program)
    (normal : Value → World → Prop) (world : World) :
    wp program normal (fun reason _ => reason ≠ .unfinished) world ↔
      wp program normal (fun _ _ => True) world := by
  constructor
  · exact fun ran => wp_partial ran fun _ _ holds => holds
  · exact fun ran => wp_mono (wp_and ran (ends world trivial)) (fun _ _ both => both.1)
      fun _ _ both => both.2

/-! ## The stream queue -/

/-- The counter and the passes left add up to the bound. -/
theorem drain_stream_comes_back (runtime : Runtime) (passes : List Pass) (nextStatus : NextStatus)
    (pollCount : Nat) (world : World)
    (enough : runtime.configuration.errorLoopMax ≤ pollCount + passes.length) :
    wp (drain runtime false passes nextStatus pollCount) (fun _ _ => True)
      (fun reason _ => reason ≠ .unfinished) world := by
  induction passes generalizing nextStatus pollCount world with
  | nil =>
      simp only [List.length_nil, Nat.add_zero] at enough
      simp only [drain, wp_bind, wp_read, wp_ite, wp_pure]
      -- No passes left: the counter has reached the bound.
      split
      · next turn => exact absurd turn.2 (by omega)
      · trivial
  | cons pass rest ih =>
      simp only [List.length_cons] at enough
      simp only [drain, wp_bind, wp_read, wp_ite, wp_pure, wp_note, Bool.false_eq_true,
        ↓reduceIte]
      split
      · apply wp_then (process_queue_never_unfinished runtime false pass _ trivial)
        intro drained after _
        have again : NeverUnfinished (onlyIf
            (pollCount + 1 == runtime.configuration.errorLoopMax / 2) finishAgain) :=
          keeps_only_if fun _ => keeps_bind (fun _ _ => trivial) fun _ =>
            finish_stream_never_unfinished
        apply wp_then (again after trivial)
        intro _ last _
        exact ih drained.nextStatus (pollCount + 1) last (by omega)
      · trivial

/-! ## The unary queue -/

def Done (nextStatus : NextStatus) (world : World) : Prop :=
  nextStatus = .shutdown ∧ isStreamFinished world = true

/-- The queue reports its shutdown with all stream clients finished before these
passes are used up, or one of them does not come back. Here the passes are run;
`drains_in_time_iff` reads the same off their answers. -/
def DrainsInTime (runtime : Runtime) : List Pass → NextStatus → World → Prop
  | [], nextStatus, world => Done nextStatus world
  | pass :: rest, nextStatus, world =>
      Done nextStatus world ∨
        wp (processQueue runtime true pass)
          (fun drained after => DrainsInTime runtime rest drained.nextStatus after)
          (fun _ _ => True) (world.note (.draining true))

theorem turn_iff (runtime : Runtime) (nextStatus : NextStatus) (world : World) :
    ((nextStatus ≠ .shutdown ∨ isStreamFinished world = false) ∧
        0 < runtime.configuration.errorLoopMax) ↔
      (¬ Done nextStatus world ∧ 0 < runtime.configuration.errorLoopMax) := by
  unfold Done
  cases nextStatus <;> cases isStreamFinished world <;> simp

theorem drain_unary_comes_back_iff (runtime : Runtime) (passes : List Pass)
    (nextStatus : NextStatus) (world : World) :
    wp (drain runtime true passes nextStatus 0) (fun _ _ => True)
        (fun reason _ => reason ≠ .unfinished) world ↔
      (0 < runtime.configuration.errorLoopMax → DrainsInTime runtime passes nextStatus world) := by
  -- The counter stays at zero.
  induction passes generalizing nextStatus world with
  | nil =>
      simp only [drain, wp_bind, wp_read, wp_ite, wp_pure, wp_stop, DrainsInTime]
      by_cases turn : ¬ Done nextStatus world ∧ 0 < runtime.configuration.errorLoopMax
      · rw [if_pos ((turn_iff runtime nextStatus world).mpr turn)]
        exact ⟨fun other => absurd rfl other, fun entered => absurd (entered turn.2) turn.1⟩
      · rw [if_neg fun other => turn ((turn_iff runtime nextStatus world).mp other)]
        refine ⟨fun _ entered => ?_, fun _ => trivial⟩
        by_cases done : Done nextStatus world
        · exact done
        · exact absurd ⟨done, entered⟩ turn
  | cons pass rest ih =>
      simp only [drain, wp_bind, wp_read, wp_ite, wp_pure, wp_note, DrainsInTime, ↓reduceIte]
      by_cases turn : ¬ Done nextStatus world ∧ 0 < runtime.configuration.errorLoopMax
      · rw [if_pos ((turn_iff runtime nextStatus world).mpr turn),
          wp_after_pass (process_queue_never_unfinished runtime true pass)]
        simp only [ih, turn.1, turn.2, false_or, forall_const]
      · rw [if_neg fun other => turn ((turn_iff runtime nextStatus world).mp other)]
        refine ⟨fun _ entered => .inl ?_, fun _ => trivial⟩
        by_cases done : Done nextStatus world
        · exact done
        · exact absurd ⟨done, entered⟩ turn

/-! ### Told by the answers -/

theorem is_stream_finished_iff (world : World) :
    isStreamFinished world = true ↔ ∀ kind, (callFlags world kind).finishResponded = true := by
  rw [isStreamFinished, List.all_eq_true]
  exact ⟨fun all kind => all kind (mem_all kind), fun all kind _ => all kind⟩

theorem process_queue_tells (runtime : Runtime) (unary : Bool) (pass : Pass) (world : World) :
    wp (processQueue runtime unary pass)
      (fun polled after =>
        (polled.callShutdown = true ↔ ∃ completion ∈ pass.events, completion.ok = false) ∧
        pass.last = some polled.nextStatus ∧
        ∀ kind, callFlags after kind = (callFlags world kind).passed kind pass.events)
      (fun _ _ => True) world := by
  rw [processQueue, wp_bind]
  apply wp_partial (wp_and (process_events_saw runtime unary pass.events false world)
    (process_events_flags runtime unary pass.events false world))
  rintro callShutdown middle ⟨saw, flags⟩
  rw [wp_bind]
  apply wp_partial (async_next_last_tells runtime unary pass.last middle)
  rintro status _ ⟨last, rfl⟩
  exact ⟨by simpa using saw, last, flags⟩

/-- One of the drain passes, made one after the other, does not come back: `AsyncNext`
does not answer, a callback throws, or the process exits. -/
def DrainsInterrupted (runtime : Runtime) : List Pass → World → Prop
  | [], _ => False
  | pass :: rest, world =>
      wp (processQueue runtime true pass) (fun _ after => DrainsInterrupted runtime rest after)
        (fun _ _ => True) (world.note (.draining true))

/-- The same for all passes of a recovery of the unary queue. -/
def Interrupted (runtime : Runtime) (passes : Nat → Pass) (world : World) : Prop :=
  wp (processQueue runtime true (passes 0))
    (fun _ middle => wp (processQueue runtime true (passes 1))
      (fun _ after => DrainsInterrupted runtime
        (firstPasses (fun turn => passes (turn + 2)) runtime.configuration.errorLoopMax)
        (after.shutdown after.connection.unaryQueue))
      (fun _ _ => True) middle)
    (fun _ _ => True) world

/-- All stream clients are finished once these passes have brought their completions. -/
def FinishedBy (passes : List Pass) (flags : StreamKind → CallFlags) : Prop :=
  ∀ kind, ((flags kind).passed kind (passes.flatMap Pass.events)).finishResponded = true

/-- Read off the answers and the flags before the call: the first pass is handed no
failed completion, or the loop is not entered, or after one of its turns the queue has
reported its shutdown and the stream clients are finished. -/
def UnaryInTime (passes : Nat → Pass) (bound : Nat) (flags : StreamKind → CallFlags) : Prop :=
  (∀ completion ∈ (passes 0).events, completion.ok = true) ∨ bound = 0 ∨
    ∃ turns ≤ bound, (passes (turns + 1)).last = some .shutdown ∧
      FinishedBy (firstPasses passes (turns + 2)) flags

theorem finished_by_cons (pass : Pass) (passes : List Pass) {before after : World}
    (passed : ∀ kind, callFlags after kind = (callFlags before kind).passed kind pass.events) :
    FinishedBy (pass :: passes) (callFlags before) ↔ FinishedBy passes (callFlags after) := by
  refine forall_congr' fun kind => ?_
  rw [passed kind, List.flatMap_cons, CallFlags.passed, List.foldl_append]
  rfl

theorem done_iff {passes : Nat → Pass} {nextStatus : NextStatus} {world : World}
    (told : (passes 0).last = some nextStatus) :
    Done nextStatus world ↔ (passes 0).last = some .shutdown ∧
      FinishedBy (firstPasses (fun turn => passes (turn + 1)) 0) (callFlags world) := by
  rw [Done, is_stream_finished_iff, told, Option.some.injEq]
  rfl

/-- A pass that leaves the rest to `turns` more leaves it to one more, counted from
before it. -/
theorem turned_iff (runtime : Runtime) (passes : Nat → Pass) (bound : Nat) (middle : World)
    (inTime : NextStatus → World → Prop) (interrupted : World → Prop)
    (tells : ∀ nextStatus after, (passes 1).last = some nextStatus →
      (inTime nextStatus after ↔ interrupted after ∨
        ∃ turns ≤ bound, (passes (turns + 1)).last = some .shutdown ∧
          FinishedBy (firstPasses (fun turn => passes (turn + 2)) turns) (callFlags after))) :
    wp (processQueue runtime true (passes 1))
        (fun passed after => inTime passed.nextStatus after) (fun _ _ => True) middle ↔
      wp (processQueue runtime true (passes 1))
        (fun _ after => interrupted after) (fun _ _ => True) middle ∨
      ∃ turns ≤ bound, (passes (turns + 1)).last = some .shutdown ∧
        FinishedBy (firstPasses (fun turn => passes (turn + 1)) (turns + 1))
          (callFlags middle) := by
  apply wp_or_congr (process_queue_tells runtime true (passes 1) middle)
  rintro passed after ⟨_, last, flags⟩
  rw [tells _ after last]
  refine or_congr_right (exists_congr fun turns => ?_)
  refine and_congr_right fun _ => and_congr_right fun _ => ?_
  rw [first_passes_succ]
  exact (finished_by_cons (passes 1) _ flags).symm

/-- The loop runs as its answers tell, unless one of its passes does not come back. -/
theorem drains_in_time_iff (runtime : Runtime) (passes : Nat → Pass) (bound : Nat)
    (nextStatus : NextStatus) (world : World) (told : (passes 0).last = some nextStatus) :
    DrainsInTime runtime (firstPasses (fun turn => passes (turn + 1)) bound) nextStatus world ↔
      DrainsInterrupted runtime (firstPasses (fun turn => passes (turn + 1)) bound) world ∨
      ∃ turns ≤ bound, (passes turns).last = some .shutdown ∧
        FinishedBy (firstPasses (fun turn => passes (turn + 1)) turns) (callFlags world) := by
  induction bound generalizing passes nextStatus world with
  | zero =>
      change Done nextStatus world ↔ False ∨ _
      rw [done_iff told, false_or]
      constructor
      · exact fun done => ⟨0, Nat.le_refl 0, done⟩
      · rintro ⟨turns, none, done⟩
        cases Nat.le_zero.mp none
        exact done
  | succ bound ih =>
      have turned := turned_iff runtime passes bound (world.note (.draining true))
        (DrainsInTime runtime (firstPasses (fun turn => passes (turn + 2)) bound))
        (DrainsInterrupted runtime (firstPasses (fun turn => passes (turn + 2)) bound))
        (ih fun turn => passes (turn + 1))
      rw [first_passes_succ]
      simp only [DrainsInTime, DrainsInterrupted]
      rw [done_iff told, turned]
      -- No turn is needed, or one more than after the first.
      constructor
      · rintro (done | interrupted | ⟨turns, within, done⟩)
        · exact .inr ⟨0, Nat.zero_le _, done⟩
        · exact .inl interrupted
        · exact .inr ⟨turns + 1, Nat.succ_le_succ within, done⟩
      · rintro (interrupted | ⟨turns, within, done⟩)
        · exact .inr (.inl interrupted)
        · cases turns with
          | zero => exact .inl done
          | succ turns => exact .inr (.inr ⟨turns, Nat.le_of_succ_le_succ within, done⟩)

theorem second_in_time_iff (runtime : Runtime) (passes : Nat → Pass) (middle : World) :
    wp (processQueue runtime true (passes 1))
        (fun passed after => DrainsInTime runtime
          (firstPasses (fun turn => passes (turn + 2)) runtime.configuration.errorLoopMax)
          passed.nextStatus (after.shutdown after.connection.unaryQueue))
        (fun _ _ => True) middle ↔
      wp (processQueue runtime true (passes 1))
        (fun _ after => DrainsInterrupted runtime
          (firstPasses (fun turn => passes (turn + 2)) runtime.configuration.errorLoopMax)
          (after.shutdown after.connection.unaryQueue))
        (fun _ _ => True) middle ∨
      ∃ turns ≤ runtime.configuration.errorLoopMax,
        (passes (turns + 1)).last = some .shutdown ∧
          FinishedBy (firstPasses (fun turn => passes (turn + 1)) (turns + 1))
            (callFlags middle) := by
  exact turned_iff runtime passes _ middle
    (fun nextStatus after => DrainsInTime runtime _ nextStatus
      (after.shutdown after.connection.unaryQueue))
    (fun after => DrainsInterrupted runtime _ (after.shutdown after.connection.unaryQueue))
    fun nextStatus _ last =>
      drains_in_time_iff runtime (fun turn => passes (turn + 1)) _ nextStatus _ last

/-- The counter stays at zero, so the bound only decides whether the loop is entered. -/
theorem loop_comes_back_iff (runtime : Runtime) (pass : Pass) (drains : List Pass)
    (middle : World) :
    wp (processQueue runtime true pass)
        (fun passed after => wp (drain runtime true drains passed.nextStatus 0) (fun _ _ => True)
          (fun reason _ => reason ≠ .unfinished) (after.shutdown after.connection.unaryQueue))
        (fun reason _ => reason ≠ .unfinished) middle ↔
      (0 < runtime.configuration.errorLoopMax →
        wp (processQueue runtime true pass)
          (fun passed after => DrainsInTime runtime drains passed.nextStatus
            (after.shutdown after.connection.unaryQueue))
          (fun _ _ => True) middle) := by
  rw [wp_after_pass (process_queue_never_unfinished runtime true _)]
  simp only [drain_unary_comes_back_iff]
  by_cases entered : 0 < runtime.configuration.errorLoopMax
  · simp only [entered, forall_const]
  · simp only [entered, false_imp_iff, iff_true]
    exact wp_true _ middle

/-- A recovery of the unary queue comes back as its answers tell, unless one of its
passes does not come back. -/
theorem unary_comes_back_iff (runtime : Runtime) (passes : Nat → Pass) (world : World) :
    ComesBack (pollQueue runtime true
        (firstPasses passes (runtime.configuration.errorLoopMax + 2)) world) ↔
      Interrupted runtime passes world ∨
      UnaryInTime passes runtime.configuration.errorLoopMax (callFlags world) := by
  rw [first_passes_succ, first_passes_succ, comes_back_iff]
  simp only [pollQueue, recover, wp_bind, wp_only_if, wp_pure, Bool.not_true, Bool.false_eq_true,
    ↓reduceIte, shutdownQueue, wp_modify, wp_note]
  rw [wp_after_pass (process_queue_never_unfinished runtime true _)]
  apply wp_or_congr (process_queue_tells runtime true (passes 0) world)
  rintro polled middle ⟨saw, _, flags⟩
  cases failed : polled.callShutdown with
  | false =>
      rw [failed] at saw
      have fine : ∀ completion ∈ (passes 0).events, completion.ok = true := by
        intro completion member
        by_contra broken
        rw [Bool.not_eq_true] at broken
        exact Bool.false_ne_true (saw.mpr ⟨completion, member, broken⟩)
      exact ⟨fun _ => .inr (.inl fine), fun _ => trivial⟩
  | true =>
      obtain ⟨completion, member, broken⟩ := saw.mp failed
      have notFine : ¬ ∀ completion ∈ (passes 0).events, completion.ok = true := by
        intro fine
        rw [fine completion member] at broken
        cases broken
      have finishes : ∀ turns,
          FinishedBy (firstPasses (fun turn => passes (turn + 1)) (turns + 1)) (callFlags middle) ↔
            FinishedBy (firstPasses passes (turns + 2)) (callFlags world) := by
        intro turns
        rw [first_passes_succ passes (turns + 1)]
        exact (finished_by_cons (passes 0) _ flags).symm
      simp only [↓reduceIte, World.queueOf]
      rw [loop_comes_back_iff, second_in_time_iff]
      simp only [UnaryInTime, notFine, finishes, false_or]
      by_cases entered : runtime.configuration.errorLoopMax = 0
      · simp only [entered, Nat.lt_irrefl, false_imp_iff, true_or, or_true]
      · simp only [entered, Nat.pos_of_ne_zero entered, forall_const, false_or]

/-- `Poll<false>` never asks for more than `errorLoopMax` drain passes. `Poll<true>`
keeps to that bound exactly when a pass does not come back or its answers and the
stream flags it starts from let it. -/
theorem recovery_bounded_iff (runtime : Runtime) (passes : Nat → Pass) (world : World) :
    ComesBack (pollQueue runtime false
      (firstPasses passes (runtime.configuration.errorLoopMax + 2)) world) ∧
    (ComesBack (pollQueue runtime true
        (firstPasses passes (runtime.configuration.errorLoopMax + 2)) world) ↔
      Interrupted runtime passes world ∨
      UnaryInTime passes runtime.configuration.errorLoopMax (callFlags world)) := by
  refine ⟨?_, unary_comes_back_iff runtime passes world⟩
  rw [first_passes_succ, first_passes_succ, comes_back_iff]
  simp only [pollQueue, recover, wp_bind, wp_only_if, wp_pure, Bool.not_false, ↓reduceIte,
    shutdownQueue, wp_modify, wp_note]
  apply wp_then (process_queue_never_unfinished runtime false _ world trivial)
  intro polled middle _
  split
  · apply wp_then (finish_stream_never_unfinished middle trivial)
    intro _ finished _
    apply wp_then (process_queue_never_unfinished runtime false _ finished trivial)
    intro passed after _
    exact drain_stream_comes_back runtime _ _ 0 _ (by simp [firstPasses])
  · trivial

/-! ## A unary failure while the streams are healthy -/

theorem drained_never_done (env : Env) (world : World) (turns : Nat)
    (drained : (world.queues world.connection.unaryQueue).drained = true)
    (healthy : isStreamFinished world = false) (nextStatus : NextStatus) :
    ¬ DrainsInTime (grpc env) (List.replicate turns ⟨[], some .shutdown⟩) nextStatus world := by
  induction turns generalizing world nextStatus with
  | zero =>
      rintro ⟨_, finished⟩
      rw [finished] at healthy
      cases healthy
  | succ turns ih =>
      rw [List.replicate_succ]
      rintro (⟨_, finished⟩ | passes)
      · rw [finished] at healthy
        cases healthy
      · have idle : processQueue (grpc env) true ⟨[], some .shutdown⟩
            (world.note (.draining true)) =
              .returned ⟨false, .shutdown⟩ (world.note (.draining true)) := by
          have admitted : (grpc env).admits ((world.note (.draining true)).queues
              ((world.note (.draining true)).queueOf true)) NextStatus.shutdown.answer = true :=
            drained
          change (asyncNextLast (grpc env) true (some .shutdown) >>= fun status =>
            pure (⟨false, status⟩ : PassResult)) (world.note (.draining true)) = _
          simp only [bind, asyncNextLast, admitted, ↓reduceIte]
          rfl
        have later := wp_returned passes idle
        exact ih (world.note (.draining true)) drained healthy .shutdown later

/-- A failure on the unary queue while a stream client is not finished: from
then on `PollUnary` asks for one pass after another. -/
theorem healthy_streams_never_come_back (env : Env) (passes : Nat → Pass)
    {world middle last : World} {polled passed : PassResult}
    (first : processQueue (grpc env) true (passes 0) world = .returned polled middle)
    (failed : polled.callShutdown = true)
    (second : processQueue (grpc env) true (passes 1) middle = .returned passed last)
    (idle : ∀ turn, passes (turn + 2) = ⟨[], some .shutdown⟩)
    (entered : 0 < env.configuration.errorLoopMax)
    (drained : ((last.shutdown last.connection.unaryQueue).queues
      last.connection.unaryQueue).drained = true)
    (healthy : isStreamFinished last = false) (turns : Nat) :
    ¬ ComesBack (pollQueue (grpc env) true (firstPasses passes turns) world) := by
  intro back
  rw [comes_back_iff] at back
  cases turns with
  | zero => simp [firstPasses, pollQueue] at back
  | succ turns =>
      rw [first_passes_succ] at back
      simp only [pollQueue, wp_bind, wp_only_if, wp_pure] at back
      have recovers := wp_returned back first
      simp only [failed, ↓reduceIte] at recovers
      cases turns with
      | zero => simp [firstPasses, recover] at recovers
      | succ turns =>
          rw [first_passes_succ] at recovers
          simp only [recover, wp_bind, wp_only_if, Bool.not_true, Bool.false_eq_true,
            ↓reduceIte, shutdownQueue, wp_modify] at recovers
          -- From the third pass on the queue is asked for nothing but its shutdown.
          have turned : firstPasses (fun turn => passes (turn + 1 + 1)) turns =
              List.replicate turns ⟨[], some .shutdown⟩ := by
            simp [firstPasses, idle, List.map_const']
          rw [turned] at recovers
          have loops := wp_returned recovers second
          have drains := (drain_unary_comes_back_iff (grpc env) _ _ _).mp
            (wp_then loops fun _ _ _ => trivial)
          exact drained_never_done env _ turns drained healthy _ (drains entered)

def requestPending : World :=
  (act (grpc defaultEnv) (.call (.request .item))
    (construct defaultEnv itemCallbacks (World.before newConnection)).world).world

/-- The request comes back with `ok = false`, then `AsyncNext` times out twice
and reports the shutdown of the drained queue for ever. -/
def failedRequest : Nat → Pass
  | 0 => { events := [.unary { origin := .direct, id := 11, ok := false }] }
  | 1 => {}
  | _ => { last := some .shutdown }

def requestFailed : World :=
  (processQueue (grpc defaultEnv) true (failedRequest 0) requestPending).world

def requestFailedLater : World :=
  (processQueue (grpc defaultEnv) true (failedRequest 1) requestFailed).world

theorem failed_request_polled :
    processQueue (grpc defaultEnv) true (failedRequest 0) requestPending =
        .returned ⟨true, .timeout⟩ requestFailed ∧
      processQueue (grpc defaultEnv) true (failedRequest 1) requestFailed =
        .returned ⟨false, .timeout⟩ requestFailedLater :=
  ⟨Outcome.eq_returned (by decide +kernel), Outcome.eq_returned (by decide +kernel)⟩

/-- However many passes it is given, `PollUnary` asks for another one. -/
theorem unary_failure_never_comes_back :
    Reached (grpc defaultEnv) newConnection itemCallbacks [.call (.request .item)] [.done]
      requestPending ∧
    ∀ turns, ¬ ComesBack (pollQueue (grpc defaultEnv) true (firstPasses failedRequest turns)
      requestPending) := by
  constructor
  · exact @reached_after_one (grpc defaultEnv) _ _ _ _ (by decide +kernel) (by decide +kernel)
  · exact healthy_streams_never_come_back defaultEnv failedRequest failed_request_polled.1 rfl
      failed_request_polled.2 (fun _ => rfl) (by decide) (by decide +kernel) (by decide +kernel)

end IviSdk.RecoveryBounds
