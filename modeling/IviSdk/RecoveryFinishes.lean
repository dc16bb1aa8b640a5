import IviSdk.FinishMoves
import IviSdk.RecoveryLoop

/-!
A recovery of the stream queue that comes back leaves every stream client
finished. Its first round of `Finish` settles the clients, and a second round
ends the calls of settled clients. The counter cannot get to a bound of two or
more without passing its half, where that second round is issued.
-/

namespace IviSdk.RecoveryFinishes

open Checks CompletionQueues Streams ManagerWorld Interaction StreamClients ClientManager
open CountedLoops CallbackRules PollRules ManagerRuns QueueWiring FinishProtocol FinishMoves
open RecoveryLoop

variable {kind : StreamKind} {before after world : World} {runtime : Runtime}

/-! ## The rounds in the log -/

/-- A drain pass after `Shutdown`, and the second round of `Finish`. -/
inductive Mark where
  | pass
  | again
  deriving DecidableEq

def mark : Event → Option Mark
  | .draining false => some .pass
  | .finishAgain => some .again
  | _ => none

def marks (world : World) : List Mark := observed mark world.log

/-- The marks of this many turns, with the second round where the counter meets `half`. -/
def marksOf (half count : Nat) : List Mark :=
  if half ≤ count then
    List.replicate half .pass ++ .again :: List.replicate (count - half) .pass
  else List.replicate count .pass

theorem marks_of_succ (half count : Nat) : marksOf half (count + 1) =
    marksOf half count ++ .pass :: if count + 1 = half then [.again] else [] := by
  unfold marksOf
  rcases Nat.lt_trichotomy (count + 1) half with early | now | late
  · rw [if_neg (by omega), if_neg (by omega), if_neg (by omega), List.replicate_succ']
  · rw [if_pos (by omega), if_neg (by omega), if_pos now, ← now, Nat.sub_self, List.replicate_succ',
      List.append_assoc]
    rfl
  · rw [if_pos (by omega), if_pos (by omega), if_neg (by omega), Nat.succ_sub (by omega),
      List.replicate_succ', List.append_assoc, List.cons_append]

theorem marks_of_again (half count : Nat) :
    (marksOf half count).count .again = if half ≤ count then 1 else 0 := by
  unfold marksOf
  split
  · simp [List.count_replicate]
  · simp [List.count_replicate]

def Marked (seen : List Mark) (world : World) : Prop := marks world = seen

theorem Marked.note {seen : List Mark} (marked : Marked seen world) {event : Event}
    (unmarked : mark event = none) : Marked seen (world.note event) :=
  (observed_none unmarked world.log).trans marked

theorem finish_marked (seen : List Mark) (kind : StreamKind) :
    Keeps (Marked seen) (fun _ => Marked seen) (finish kind) := by
  intro world marked
  apply finish_rule kind
  · exact fun _ => marked
  · exact fun _ _ => marked.note rfl
  · exact fun _ _ _ => marked.note rfl
  · exact fun _ _ => marked

theorem call_marked (env : Env) (seen : List Mark) (origin : Origin) (call : ApiCall) :
    Keeps (Marked seen) (fun _ => Marked seen) (apiCall env origin call) := by
  intro world marked
  have called : Marked seen (world.note (.called call world.unaryShut)) := marked.note rfl
  apply api_call_rule env origin call
  · exact fun _ _ => called.note rfl
  · exact fun _ _ _ _ => (called.note rfl).note rfl
  · exact fun kind _ => finish_marked seen kind _ called

theorem dispatch_marked (env : Env) (seen : List Mark) (completion : Completion) :
    DispatchKept env anyManners completion (Marked seen) (fun _ => Marked seen) where
  threw _ _ marked := marked
  exited _ marked := marked
  undefined _ marked := marked
  call call _ := call_marked env seen .nested call
  update _ _ _ _ _ _ _ marked := marked.note rfl
  completed _ _ _ _ marked := marked.note rfl
  startReceived _ _ _ _ _ marked := marked
  initMetadataReceived _ _ _ _ _ marked := marked
  finishResponded _ _ _ _ _ marked := marked
  confirms _ _ _ _ _ _ _ marked := marked.note rfl
  reads _ _ _ _ _ _ _ marked _ := marked.note rfl

theorem process_queue_marked (seen : List Mark) (pass : Pass) :
    Keeps (Marked seen) (fun _ => Marked seen) (processQueue runtime false pass) := by
  refine process_queue_lifts (fun _ marked => marked) fun completion _ world marked => ?_
  refine event_keeps (dispatch_marked runtime.toEnv seen completion) (any_manners_allow completion)
    marked (fun _ => ?_) fun _ marked => marked.note rfl
  refine deliver_rule false completion world (Marked seen) (marked.note rfl) ?_
  exact fun _ _ _ marked _ => marked.note rfl

theorem finish_stream_marked (seen : List Mark) :
    Keeps (Marked seen) (fun _ => Marked seen) finishStream :=
  keeps_each fun kind _ => finish_marked seen kind

/-! ## Two rounds are enough -/

def AllFinished (world : World) : Prop := ∀ kind, isFinished world kind = true

theorem finish_keeps_finished (kind other : StreamKind) :
    Keeps (fun world => isFinished world other = true) (fun _ _ => True) (finish kind) :=
  fun world finished => wp_partial (finish_later world other kind world (Later.refl other world))
    fun _ _ later => later.finished finished

/-- `Finish` ends the call of a client that is settled. -/
theorem finish_ends (kind : StreamKind) (world : World) (settled : Settled kind world) :
    wp (finish kind) (fun _ after => isFinished after kind = true) (fun _ _ => True) world := by
  have near : 1 ≤ level kind world := by
    unfold level
    rcases settled with called | responded
    · rw [called]
      split <;> simp
    · simp [responded]
  apply wp_partial (finish_raises kind world)
  rintro _ after ⟨_, raised⟩
  exact finished_of_level (by omega)

theorem finish_stream_ends (world : World) (settled : AllSettled world) :
    wp finishStream (fun _ => AllFinished) (fun _ _ => True) world := by
  refine finish_stream_rule (fun kind world settled => ?_) finish_keeps_finished
    (fun kind world settled => finish_ends kind world (settled kind)) world settled
  exact wp_partial (wp_forall fun other => finish_keeps_settled kind other world (settled other))
    fun _ _ all => all

theorem process_queue_settled (pass : Pass) :
    Keeps AllSettled (fun _ _ => True) (processQueue runtime false pass) :=
  process_queue_lifts (fun _ _ => trivial)
    fun completion _ => settled_process_event runtime false completion

theorem process_queue_finished (pass : Pass) :
    Keeps AllFinished (fun _ _ => True) (processQueue runtime false pass) := by
  refine process_queue_lifts (fun _ _ => trivial) fun completion _ world finished => ?_
  apply wp_partial (wp_forall fun kind =>
    event_later runtime false completion world world (Later.refl kind world))
  exact fun _ _ later kind => (later kind).finished (finished kind)

/-! ## The stages of a recovery -/

/-- What holds where the loop evaluates its condition. -/
structure Stage (runtime : Runtime) (seen : List Mark) (count : Nat) (world : World) : Prop where
  settled : AllSettled world
  marked : Marked (seen ++ marksOf (runtime.configuration.errorLoopMax / 2) count) world
  finished : runtime.configuration.errorLoopMax / 2 ≤ count → AllFinished world

theorem finish_again_stage {seen : List Mark} (world : World) (settled : AllSettled world)
    (marked : Marked seen world) :
    wp finishAgain (fun _ after => AllFinished after ∧ Marked (seen ++ [.again]) after)
      (fun _ _ => True) world := by
  rw [finishAgain, wp_bind, wp_note]
  have noted : Marked (seen ++ [.again]) (world.note .finishAgain) := by
    rw [← marked]
    exact @observed_some _ mark _ _ rfl world.log
  exact wp_partial (wp_and (finish_stream_ends (world.note .finishAgain) settled)
    (finish_stream_marked _ _ noted)) fun _ _ both => both

/-- One turn of the loop. -/
theorem turn_stage {seen : List Mark} {count : Nat} (pass : Pass)
    (stage : Stage runtime seen count world) :
    wp (drainTurn runtime pass count) (fun _ => Stage runtime seen (count + 1)) (fun _ _ => True)
      world := by
  obtain ⟨settled, marked, finished⟩ := stage
  have noted : Marked (seen ++ marksOf (runtime.configuration.errorLoopMax / 2) count ++ [.pass])
      (world.note (.draining false)) := by
    rw [← marked]
    exact @observed_some _ mark _ _ rfl world.log
  rw [drainTurn, wp_bind, wp_note, wp_bind]
  refine wp_partial (wp_and (wp_and (process_queue_settled pass _ settled)
    (process_queue_marked _ pass _ noted))
    (wp_imp fun late => process_queue_finished pass _ (finished late))) ?_
  rintro polled after ⟨⟨settled, marked⟩, finished⟩
  rw [wp_bind, wp_only_if]
  split
  · next meets =>
      have now : count + 1 = runtime.configuration.errorLoopMax / 2 := beq_iff_eq.mp meets
      apply wp_partial (finish_again_stage after settled marked)
      rintro _ last ⟨ended, marked⟩
      rw [wp_pure]
      refine ⟨fun kind => .inr (ended kind), ?_, fun _ => ended⟩
      rw [marks_of_succ, if_pos now]
      simpa only [List.append_assoc, List.singleton_append] using marked
  · next differs =>
      have other : count + 1 ≠ runtime.configuration.errorLoopMax / 2 :=
        fun same => differs (beq_iff_eq.mpr same)
      rw [wp_pure]
      refine ⟨settled, ?_, fun late => finished (by omega)⟩
      rw [marks_of_succ, if_neg other]
      simpa only [List.append_assoc] using marked

theorem head_stage {passes : List Pass} {seen : List Mark} {start last : LoopState} {count : Nat}
    (head : AtHead (DrainTurn runtime passes) LoopState.Done start count last)
    (stage : Stage runtime seen 0 start.world) : Stage runtime seen count last.world := by
  induction head with
  | enter => exact stage
  | again _ _ turned ih =>
      obtain ⟨pass, _, ran⟩ := turned
      have next := wp_returned (turn_stage pass ih) ran
      exact next

/-- The loop is entered with settled clients. -/
theorem enters_stage {first second : Pass} {start : LoopState}
    (enough : 2 ≤ runtime.configuration.errorLoopMax)
    (enters : EntersLoop runtime first second world start) :
    Stage runtime (marks world) 0 start.world := by
  obtain ⟨polled, middle, finished, passed, waited, seen, _, rounds, waits, same⟩ := enters
  subst same
  have atMiddle := wp_returned (process_queue_marked (marks world) first world rfl) seen
  have atFinished := wp_returned (finish_stream_marked _ middle atMiddle) rounds
  have atWaited := wp_returned (process_queue_marked _ second finished atFinished) waits
  have settled := wp_returned (finish_stream_settles middle) rounds
  have stays := wp_returned (process_queue_settled second finished settled) waits
  refine ⟨stays, ?_, fun never => absurd never (by omega)⟩
  have none_yet : marksOf (runtime.configuration.errorLoopMax / 2) 0 = [] := if_neg (by omega)
  rw [none_yet, List.append_nil]
  exact atWaited.note rfl

/-! ## Every recovery -/

/-- The queue and the streams were not done before the drain pass that the second
round follows. -/
def SecondRoundNeeded (runtime : Runtime) : List Pass → World → Prop
  | first :: second :: drains, world =>
      ∃ start state, EntersLoop runtime first second world start ∧
        AtHead (DrainTurn runtime drains) LoopState.Done start
          (runtime.configuration.errorLoopMax / 2 - 1) state ∧ ¬ state.Done
  | _, _ => False

/-- What a recovery has done when it returns. -/
structure Recovered (runtime : Runtime) (passes : List Pass) (world after : World) : Prop where
  finished : AllFinished after
  rounds : ∃ count last, LeavesLoop runtime passes world count last ∧
    marks after = marks world ++ marksOf (runtime.configuration.errorLoopMax / 2) count ∧
    (runtime.configuration.errorLoopMax / 2 ≤ count → SecondRoundNeeded runtime passes world)
  once : (marks after).count .again ≤ (marks world).count .again + 1

theorem recovered (enough : 2 ≤ runtime.configuration.errorLoopMax) {passes : List Pass}
    (returned : pollQueue runtime false passes world = .returned true after) :
    Recovered runtime passes world after := by
  obtain ⟨count, last, leavesLoop, same⟩ := (poll_recovers_iff passes world after).mp returned
  subst same
  match passes, leavesLoop with
  | first :: second :: drains, ⟨start, enters, leaves⟩ =>
      have stage := head_stage leaves.head (enters_stage enough enters)
      have marked : Marked _ (last.world.note
          (.verdict false (count < runtime.configuration.errorLoopMax))) := stage.marked.note rfl
      constructor
      · -- The loop is left because it is done, or with the counter beyond its half.
        rcases leaves.left with done | full
        · intro kind
          exact List.all_eq_true.mp done.2 kind (mem_all kind)
        · exact stage.finished (by omega)
      · refine ⟨count, last, ⟨start, enters, leaves⟩, marked, fun late => ?_⟩
        obtain ⟨state, head, going⟩ := leaves.head.earlier
          (show runtime.configuration.errorLoopMax / 2 - 1 < count by omega)
        exact ⟨start, state, enters, head, going⟩
      · rw [show marks _ = _ from marked, List.count_append, marks_of_again]
        split <;> omega

/-- How the call of a client ended, if it ever had one. -/
def Ended (kind : StreamKind) (world : World) : Prop :=
  (world.streams kind).callback = none ∨
    FinishStep.ack ∈ finishTrace kind (world.state kind).subscription world.log ∨
    FinishStep.cancel ∈ finishTrace kind (world.state kind).subscription world.log

theorem ended_of_finished (protocol : Protocol kind world) (finished : isFinished world kind = true) :
    Ended kind world := by
  obtain ⟨phase, follows⟩ := protocol.phase
  have responded := follows.responded
  rw [show (world.state kind).finishResponded = true from finished, eq_comm, Bool.or_eq_true]
    at responded
  rcases responded with missing | responded
  · exact .inl (Option.isNone_iff_eq_none.mp missing)
  · right
    rw [follows.trace]
    cases phase with
    | running => cases responded
    | finishing => cases responded
    | acknowledged => exact .inl (by decide)
    | abandoned => exact .inr (by decide)
    | drained => exact .inl (by decide)
    | cancelled => exact .inr (by decide)

/-- `PollStream` comes back from a recovery with every stream finished. -/
theorem recovery_finishes_streams {env : Env} {connection : IVIConnection}
    {callbacks : IVIStreamCallbacks} {actions : List Action} {replies : List Reply}
    (reached : Reached (grpc env) connection callbacks actions replies world)
    (enough : 2 ≤ env.configuration.errorLoopMax) (passes : List Pass)
    (returned : pollQueue (grpc env) false passes world = .returned true after) :
    Recovered (grpc env) passes world after ∧ ∀ kind, Ended kind after := by
  have done := @recovered _ _ (grpc env) enough passes returned
  refine ⟨done, fun kind => ended_of_finished ?_ (done.finished kind)⟩
  have keeps : Keeps (Protocol kind) (fun _ => Protocol kind) (pollQueue (grpc env) false passes) :=
    poll_queue_keeps (queue_protocol env false) fun _ _ completion _ => any_manners_allow completion
  have kept := wp_returned (keeps world (reached_protocol reached kind)) returned
  exact kept

/-- With a bound of two, the second round follows the first of two drain passes. -/
theorem late_recovery_finishes_streams :
    ∃ after, Recovered (grpc twoPassesEnv) [startFails, {}, metadataFails, readFails]
      subscribedItems after ∧ ∀ kind, Ended kind after := by
  have leaves : LeavesLoop (grpc twoPassesEnv) [startFails, {}, metadataFails, readFails]
      subscribedItems 2 ⟨.shutdown, lateTwice⟩ :=
    ⟨lateStart, late_enters, late_head, Nat.le_refl _, .inl late_done⟩
  have returned := (poll_recovers_iff _ subscribedItems _).mpr ⟨2, _, leaves, rfl⟩
  exact ⟨_, recovery_finishes_streams subscribed_items_reached (by decide) _ returned⟩

end IviSdk.RecoveryFinishes
