import IviSdk.CountedLoops
import IviSdk.RecoveryBounds

/-!
The recovery of the stream queue as a counted loop. Its state is the last answer
of the queue and the world; a turn is one drain pass, followed half-way by
another round of `Finish`. The verdict in the log is read off the counter, and
says what became of the shutdown unless the last permitted pass completes it.
-/

namespace IviSdk.RecoveryLoop

open Checks CompletionQueues Streams ManagerWorld Interaction StreamClients ClientManager
open CountedLoops CallbackRules PollRules ManagerRuns RecoveryBounds

/-! ## Turns -/

/-- One turn of the loop after `Shutdown`, the counter having the given value. -/
def drainTurn (runtime : Runtime) (pass : Pass) (pollCount : Nat) : Manager NextStatus := do
  note (.draining false)
  let drained ← processQueue runtime false pass
  onlyIf (pollCount + 1 == runtime.configuration.errorLoopMax / 2) finishAgain
  pure drained.nextStatus

/-- Where the loop evaluates its condition. -/
structure LoopState where
  nextStatus : NextStatus
  world : World

def LoopState.Done (state : LoopState) : Prop := RecoveryBounds.Done state.nextStatus state.world

/-- The turns a recovery can take with the passes it is given. -/
def DrainTurn (runtime : Runtime) (passes : List Pass) (count : Nat) (before after : LoopState) :
    Prop :=
  ∃ pass, passes[count]? = some pass ∧
    drainTurn runtime pass count before.world = .returned after.nextStatus after.world

theorem drain_turn_determined (runtime : Runtime) (passes : List Pass) :
    Deterministic (DrainTurn runtime passes) := by
  rintro count before ⟨firstStatus, firstWorld⟩ ⟨secondStatus, secondWorld⟩
    ⟨pass, given, one⟩ ⟨otherPass, otherGiven, other⟩
  rw [given, Option.some.injEq] at otherGiven
  subst otherGiven
  rw [one, Outcome.returned.injEq] at other
  rw [LoopState.mk.injEq]
  exact other

section Drain
variable (runtime : Runtime)

theorem drain_left (passes : List Pass) (state : LoopState) (count : Nat)
    (left : state.Done ∨ runtime.configuration.errorLoopMax ≤ count) :
    drain runtime false passes state.nextStatus count state.world =
      .returned count state.world := by
  have stays : ¬ ((state.nextStatus ≠ .shutdown ∨ isStreamFinished state.world = false) ∧
      count < runtime.configuration.errorLoopMax) := by
    rintro ⟨going, below⟩
    rcases left with ⟨shut, finished⟩ | full
    · rcases going with other | other
      · exact other shut
      · rw [finished] at other
        cases other
    · omega
  cases passes with
  | nil =>
      change (if _ then _ else _ : Manager Nat) state.world = _
      rw [if_neg stays]
      rfl
  | cons pass rest =>
      change (if _ then _ else _ : Manager Nat) state.world = _
      rw [if_neg stays]
      rfl

theorem going_condition {state : LoopState} {count : Nat} (going : ¬ state.Done)
    (below : count < runtime.configuration.errorLoopMax) :
    (state.nextStatus ≠ .shutdown ∨ isStreamFinished state.world = false) ∧
      count < runtime.configuration.errorLoopMax := by
  refine ⟨?_, below⟩
  by_cases shut : state.nextStatus = .shutdown
  · right
    cases finished : isStreamFinished state.world with
    | false => rfl
    | true => exact absurd ⟨shut, finished⟩ going
  · exact .inl shut

/-- The loop goes on with another turn. -/
theorem drain_turn (pass : Pass) (rest : List Pass) {state : LoopState} {count : Nat}
    (going : ¬ state.Done) (below : count < runtime.configuration.errorLoopMax) :
    drain runtime false (pass :: rest) state.nextStatus count state.world =
      (drainTurn runtime pass count >>= fun nextStatus =>
        drain runtime false rest nextStatus (count + 1)) state.world := by
  change (if _ then _ else _ : Manager Nat) state.world = _
  rw [if_pos (going_condition runtime going below)]
  simp only [drainTurn, program_bind_assoc, Bool.false_eq_true, ↓reduceIte]
  rfl

theorem drain_unfinished {state : LoopState} {count : Nat} (going : ¬ state.Done)
    (below : count < runtime.configuration.errorLoopMax) :
    drain runtime false [] state.nextStatus count state.world =
      .stopped .unfinished state.world := by
  change (if _ then _ else _ : Manager Nat) state.world = _
  rw [if_pos (going_condition runtime going below)]
  rfl

end Drain

/-! ## The loop -/

section Loop
variable {runtime : Runtime} {passes : List Pass} {start : LoopState}

/-- The loop from one of its heads on is what is left of the loop. -/
theorem drain_from_head {count : Nat} {state : LoopState}
    (head : AtHead (DrainTurn runtime passes) LoopState.Done start count state)
    (within : count ≤ runtime.configuration.errorLoopMax) :
    drain runtime false passes start.nextStatus 0 start.world =
      drain runtime false (passes.drop count) state.nextStatus count state.world := by
  induction head with
  | enter => rw [List.drop_zero]
  | @again count before after head going turned ih =>
      obtain ⟨pass, given, turned⟩ := turned
      have later := drain_turn runtime pass (passes.drop (count + 1)) going within
      rw [ih (by omega), List.drop_eq_getElem?_toList_append, given]
      change drain runtime false (pass :: passes.drop (count + 1)) _ _ _ = _
      rw [later]
      exact bind_of_returned turned

/-- The loop returns where it is left. -/
theorem drain_of_leaves {count : Nat} {last : LoopState}
    (leaves : LeavesAt (DrainTurn runtime passes) LoopState.Done start
      runtime.configuration.errorLoopMax count last) :
    drain runtime false passes start.nextStatus 0 start.world = .returned count last.world := by
  rw [drain_from_head leaves.head leaves.within]
  exact drain_left runtime _ last count (leaves.left.imp_right fun full => Nat.le_of_eq full.symm)

theorem leaves_of_drain {count : Nat} {after : World}
    (returned : drain runtime false passes start.nextStatus 0 start.world =
      .returned count after) :
    ∃ nextStatus, LeavesAt (DrainTurn runtime passes) LoopState.Done start
      runtime.configuration.errorLoopMax count ⟨nextStatus, after⟩ := by
  -- Over the passes that are left, from any head within the bound.
  have loop : ∀ rest turns state, passes.drop turns = rest →
      AtHead (DrainTurn runtime passes) LoopState.Done start turns state →
      turns ≤ runtime.configuration.errorLoopMax →
      drain runtime false rest state.nextStatus turns state.world = .returned count after →
      ∃ nextStatus, LeavesAt (DrainTurn runtime passes) LoopState.Done start
        runtime.configuration.errorLoopMax count ⟨nextStatus, after⟩ := by
    intro rest
    induction rest with
    | nil =>
        intro turns state dropped head within returned
        by_cases left : state.Done ∨ runtime.configuration.errorLoopMax ≤ turns
        · rw [drain_left runtime [] state turns left, Outcome.returned.injEq] at returned
          obtain ⟨rfl, rfl⟩ := returned
          exact ⟨state.nextStatus, head, within, left.imp_right fun full => by omega⟩
        · have going : ¬ state.Done := fun finished => left (.inl finished)
          rw [drain_unfinished runtime going (by omega)] at returned
          cases returned
    | cons pass rest ih =>
        intro turns state dropped head within returned
        by_cases left : state.Done ∨ runtime.configuration.errorLoopMax ≤ turns
        · rw [drain_left runtime _ state turns left, Outcome.returned.injEq] at returned
          obtain ⟨rfl, rfl⟩ := returned
          exact ⟨state.nextStatus, head, within, left.imp_right fun full => by omega⟩
        · have going : ¬ state.Done := fun finished => left (.inl finished)
          rw [drain_turn runtime pass rest going (by omega)] at returned
          have given : passes[turns]? = some pass := by
            have first := congrArg List.head? dropped
            rwa [List.head?_drop] at first
          obtain ⟨nextStatus, world, turned, returned⟩ := returned_of_bind returned
          have next : passes.drop (turns + 1) = rest := by
            rw [← List.drop_drop, dropped, List.drop_succ_cons, List.drop_zero]
          have again : AtHead (DrainTurn runtime passes) LoopState.Done start (turns + 1)
              ⟨nextStatus, world⟩ := .again head going ⟨pass, given, turned⟩
          exact ih (turns + 1) ⟨nextStatus, world⟩ next again (by omega) returned
  exact loop passes 0 start List.drop_zero .enter (by omega) returned

end Loop

/-! ## The recovery -/

/-- `Poll<false>` sees `ok = false`, finishes the stream clients, makes one more
pass and shuts the queue: its loop is entered here. -/
def EntersLoop (runtime : Runtime) (first second : Pass) (world : World) (start : LoopState) :
    Prop :=
  ∃ polled middle finished passed waited,
    processQueue runtime false first world = .returned polled middle ∧
    polled.callShutdown = true ∧
    finishStream middle = .returned () finished ∧
    processQueue runtime false second finished = .returned passed waited ∧
    start = ⟨passed.nextStatus, waited.shutdown waited.connection.streamQueue⟩

/-- The recovery leaves its loop in this state, after this many turns. -/
def LeavesLoop (runtime : Runtime) : List Pass → World → (count : Nat) → LoopState → Prop
  | first :: second :: drains, world, count, last =>
      ∃ start, EntersLoop runtime first second world start ∧
        LeavesAt (DrainTurn runtime drains) LoopState.Done start
          runtime.configuration.errorLoopMax count last
  | _, _, _, _ => False

/-- The recovery gets to the last turn its bound permits, and that turn is the one
that completes the shutdown. -/
def CompletesLast (runtime : Runtime) : List Pass → World → Prop
  | first :: second :: drains, world =>
      ∃ start late, EntersLoop runtime first second world start ∧
        AtHead (DrainTurn runtime drains) LoopState.Done start
          runtime.configuration.errorLoopMax late ∧ late.Done
  | _, _ => False

section Recovery
variable {runtime : Runtime}

theorem enters_loop_unique {first second : Pass} {world : World} {one other : LoopState}
    (enters : EntersLoop runtime first second world one)
    (entersToo : EntersLoop runtime first second world other) : one = other := by
  obtain ⟨polled, middle, finished, passed, waited, seen, _, rounds, waits, same⟩ := enters
  obtain ⟨polled', middle', finished', passed', waited', seen', _, rounds', waits', same'⟩ :=
    entersToo
  rw [seen, Outcome.returned.injEq] at seen'
  obtain ⟨rfl, rfl⟩ := seen'
  rw [rounds, Outcome.returned.injEq] at rounds'
  obtain ⟨_, rfl⟩ := rounds'
  rw [waits, Outcome.returned.injEq] at waits'
  obtain ⟨rfl, rfl⟩ := waits'
  rw [same, same']

theorem leaves_loop_unique {passes : List Pass} {world : World} {first second : Nat}
    {one other : LoopState} (left : LeavesLoop runtime passes world first one)
    (leftToo : LeavesLoop runtime passes world second other) : first = second ∧ one = other := by
  match passes, left, leftToo with
  | firstPass :: secondPass :: drains, ⟨start, enters, leaves⟩, ⟨start', enters', leaves'⟩ =>
      have same := enters_loop_unique enters enters'
      subst same
      exact LeavesAt.unique (drain_turn_determined runtime drains) leaves leaves'

/-- `Poll<false>` returns from a recovery exactly when its loop is left, and
writes a verdict read off the counter. -/
theorem poll_recovers_iff (passes : List Pass) (world after : World) :
    pollQueue runtime false passes world = .returned true after ↔
      ∃ count last, LeavesLoop runtime passes world count last ∧
        after = last.world.note
          (.verdict false (count < runtime.configuration.errorLoopMax)) := by
  constructor
  · intro returned
    cases passes with
    | nil => cases returned
    | cons first rest =>
        obtain ⟨polled, middle, seen, returned⟩ := returned_of_bind returned
        obtain ⟨_, recovered, recovers, returned⟩ := returned_of_bind returned
        obtain ⟨failed, same⟩ := Outcome.returned.inj returned
        subst same
        rw [failed] at recovers
        obtain ⟨_, finished, rounds, recovers⟩ := returned_of_bind recovers
        cases rest with
        | nil => cases recovers
        | cons second drains =>
            obtain ⟨passed, waited, waits, recovers⟩ := returned_of_bind recovers
            obtain ⟨_, shut, shuts, recovers⟩ := returned_of_bind recovers
            obtain ⟨count, left, drained, noted⟩ := returned_of_bind recovers
            cases shuts
            cases noted
            obtain ⟨nextStatus, leaves⟩ := @leaves_of_drain runtime drains
              ⟨passed.nextStatus, waited.shutdown waited.connection.streamQueue⟩ count left drained
            exact ⟨count, ⟨nextStatus, left⟩, ⟨_, ⟨polled, middle, finished, passed, waited, seen,
              failed, rounds, waits, rfl⟩, leaves⟩, rfl⟩
  · rintro ⟨count, last, left, same⟩
    subst same
    match passes, left with
    | first :: second :: drains, ⟨start, enters, leaves⟩ =>
        obtain ⟨polled, middle, finished, passed, waited, seen, failed, rounds, waits, same⟩ :=
          enters
        subst same
        have drained := drain_of_leaves leaves
        have recovers : recover runtime false (second :: drains) middle =
            .returned () (last.world.note
              (.verdict false (count < runtime.configuration.errorLoopMax))) := by
          refine (bind_of_returned rounds).trans ((bind_of_returned waits).trans ?_)
          exact bind_of_returned drained
        refine (bind_of_returned seen).trans ?_
        rw [failed]
        exact bind_of_returned recovers

end Recovery

/-! ## The verdict -/

/-- The verdict of a recovery that returns says "gracefully" if and only if the
last answer of the queue is its shutdown and all stream clients are finished. -/
def VerdictTruthful (runtime : Runtime) (passes : List Pass) (world : World) : Prop :=
  ∀ after, pollQueue runtime false passes world = .returned true after →
    ∀ count last, LeavesLoop runtime passes world count last →
      ∃ graceful, after = last.world.note (.verdict false graceful) ∧
        (graceful = true ↔ last.Done)

theorem verdict_truthful_iff (runtime : Runtime) (passes : List Pass) (world : World) :
    VerdictTruthful runtime passes world ↔ ¬ CompletesLast runtime passes world := by
  constructor
  · intro truthful completes
    match passes, completes with
    | first :: second :: drains, ⟨start, late, enters, head, done⟩ =>
        have leaves : LeavesLoop runtime (first :: second :: drains) world
            runtime.configuration.errorLoopMax late :=
          ⟨start, enters, head, Nat.le_refl _, .inr rfl⟩
        have returned := (poll_recovers_iff _ world _).mpr ⟨_, late, leaves, rfl⟩
        obtain ⟨graceful, same, tells⟩ := truthful _ returned _ late leaves
        have verdict : decide (runtime.configuration.errorLoopMax <
            runtime.configuration.errorLoopMax) = graceful := by
          have logs := congrArg World.log same
          simp only [note_log, List.cons.injEq, Event.verdict.injEq, true_and, and_true] at logs
          exact logs
        rw [tells.mpr done] at verdict
        simp at verdict
  · intro late after returned count last left
    obtain ⟨count', last', leaves, same⟩ := (poll_recovers_iff passes world after).mp returned
    obtain ⟨rfl, rfl⟩ := leaves_loop_unique left leaves
    refine ⟨_, same, ?_⟩
    match passes, left with
    | first :: second :: drains, ⟨start, enters, leaves⟩ =>
        rw [decide_eq_true_iff]
        refine (LeavesAt.counter_tells_iff (drain_turn_determined runtime drains) leaves).mpr ?_
        rintro ⟨state, head, done⟩
        exact late ⟨start, state, enters, head, done⟩

/-- The defaults, but for a bound of two drain passes. -/
def twoPassesEnv : Env :=
  { defaultEnv with configuration := { defaultEnv.configuration with errorLoopMax := 2 } }

/-- A manager that has just subscribed to item updates. -/
def subscribedItems : World := (construct twoPassesEnv itemCallbacks (World.before newConnection)).world

/-- The stream of `subscribedItems` fails with its start; its other two tags come
back one drain pass each. -/
def failedTag (slot : Slot) : Completion :=
  .stream .item { subscription := 7, slot := slot, ok := false }

def startFails : Pass := { events := [failedTag .start] }
def metadataFails : Pass := { events := [failedTag .initMetadata] }
def readFails : Pass := { events := [failedTag .read], last := some .shutdown }

def lateMiddle : World := (processQueue (grpc twoPassesEnv) false startFails subscribedItems).world

def lateFinished : World := (finishStream lateMiddle).world

def lateWaited : World := (processQueue (grpc twoPassesEnv) false {} lateFinished).world

def lateStart : LoopState := ⟨.timeout, lateWaited.shutdown lateWaited.connection.streamQueue⟩

def lateOnce : World := (drainTurn (grpc twoPassesEnv) metadataFails 0 lateStart.world).world

def lateTwice : World := (drainTurn (grpc twoPassesEnv) readFails 1 lateOnce).world

theorem late_enters :
    EntersLoop (grpc twoPassesEnv) startFails {} subscribedItems lateStart :=
  ⟨⟨true, .timeout⟩, lateMiddle, lateFinished, ⟨false, .timeout⟩, lateWaited,
    Outcome.eq_returned (by decide +kernel), rfl, Outcome.eq_returned (by decide +kernel),
    Outcome.eq_returned (by decide +kernel), rfl⟩

theorem late_turns :
    drainTurn (grpc twoPassesEnv) metadataFails 0 lateStart.world = .returned .timeout lateOnce ∧
      drainTurn (grpc twoPassesEnv) readFails 1 lateOnce = .returned .shutdown lateTwice :=
  ⟨Outcome.eq_returned (by decide +kernel), Outcome.eq_returned (by decide +kernel)⟩

theorem late_head :
    AtHead (DrainTurn (grpc twoPassesEnv) [metadataFails, readFails]) LoopState.Done lateStart 2
      ⟨.shutdown, lateTwice⟩ := by
  have first : DrainTurn (grpc twoPassesEnv) [metadataFails, readFails] 0 lateStart
      ⟨.timeout, lateOnce⟩ := by
    refine ⟨metadataFails, rfl, ?_⟩
    dsimp only
    exact late_turns.1
  have second : DrainTurn (grpc twoPassesEnv) [metadataFails, readFails] 1 ⟨.timeout, lateOnce⟩
      ⟨.shutdown, lateTwice⟩ := by
    refine ⟨readFails, rfl, ?_⟩
    dsimp only
    exact late_turns.2
  refine .again (.again .enter ?_ first) ?_ second
  · rintro ⟨never, _⟩
    cases never
  · rintro ⟨never, _⟩
    cases never

theorem late_done : LoopState.Done ⟨.shutdown, lateTwice⟩ := ⟨rfl, by decide +kernel⟩

theorem subscribed_items_reached :
    Reached (grpc twoPassesEnv) newConnection itemCallbacks [] [] subscribedItems := by
  have made : construct twoPassesEnv itemCallbacks (World.before newConnection) =
      .returned () subscribedItems := Outcome.eq_returned (by decide +kernel)
  exact ⟨subscribedItems, made, rfl⟩

/-- With two drain passes, the second of which drains the queue, the SDK reports
a possible leak although nothing leaked. -/
theorem completed_recovery_reported_as_leak :
    Reached (grpc twoPassesEnv) newConnection itemCallbacks [] [] subscribedItems ∧
    ¬ VerdictTruthful (grpc twoPassesEnv) [startFails, {}, metadataFails, readFails]
      subscribedItems := by
  refine ⟨subscribed_items_reached, fun truthful => ?_⟩
  have leaves : LeavesLoop (grpc twoPassesEnv) [startFails, {}, metadataFails, readFails]
      subscribedItems 2 ⟨.shutdown, lateTwice⟩ :=
    ⟨lateStart, late_enters, late_head, Nat.le_refl _, .inl late_done⟩
  have returned := (poll_recovers_iff _ subscribedItems _).mpr ⟨2, _, leaves, rfl⟩
  obtain ⟨graceful, same, tells⟩ := truthful _ returned 2 _ leaves
  rw [tells.mpr late_done] at same
  have logs := congrArg (fun world => world.log.head?) same
  simp [twoPassesEnv, grpc] at logs

end IviSdk.RecoveryLoop
