import Mathlib.Data.List.Basic

/-!
Several parties that take turns. Each sees a part of the state; a move depends on
what its own party sees and leaves what the others see alone. Then an interleaving
can be made exactly when each party could make its own moves without the others,
and each ends up seeing what it would have seen alone.
-/

namespace IviSdk.Interleavings

variable {State Move Party : Type}

/-- The moves one after the other, as far as each can be made. -/
def runMoves (step : Move → State → Option State) : List Move → State → Option State
  | [], state => some state
  | move :: rest, state =>
      match step move state with
      | some after => runMoves step rest after
      | none => none

theorem run_moves_cons {step : Move → State → Option State} {move : Move} {rest : List Move}
    {state after : State} (made : step move state = some after) :
    runMoves step (move :: rest) state = runMoves step rest after := by
  simp only [runMoves, made]

theorem run_moves_stuck {step : Move → State → Option State} {move : Move} {rest : List Move}
    {state : State} (stuck : step move state = none) :
    runMoves step (move :: rest) state = none := by
  simp only [runMoves, stuck]

/-- The moves that are allowed keep the base property, depend on what their own party
sees and are not seen by the others. -/
structure Separated (step : Move → State → Option State) (party : Move → Party)
    (allowed : Move → Prop) (base : State → Prop) (alike : Party → State → State → Prop) :
    Prop where
  refl : ∀ side state, alike side state state
  symm : ∀ side first second, alike side first second → alike side second first
  trans : ∀ side first second third, alike side first second → alike side second third →
    alike side first third
  keeps : ∀ move, allowed move → ∀ state after, base state → step move state = some after →
    base after
  own : ∀ move, allowed move → ∀ state twin, base state → base twin →
    alike (party move) state twin → ∀ after, step move state = some after →
    ∃ twinAfter, step move twin = some twinAfter ∧ alike (party move) after twinAfter
  unseen : ∀ move, allowed move → ∀ state after, base state → step move state = some after →
    ∀ side, side ≠ party move → alike side state after

section Parties
variable [DecidableEq Party] {step : Move → State → Option State} {party : Move → Party}
  {allowed : Move → Prop} {base : State → Prop} {alike : Party → State → State → Prop}

def ownMoves (party : Move → Party) (side : Party) (moves : List Move) : List Move :=
  moves.filter fun move => decide (party move = side)

theorem own_moves_same {side : Party} {move : Move} (own : party move = side) (rest : List Move) :
    ownMoves party side (move :: rest) = move :: ownMoves party side rest := by
  simp [ownMoves, own]

theorem own_moves_other {side : Party} {move : Move} (other : party move ≠ side)
    (rest : List Move) : ownMoves party side (move :: rest) = ownMoves party side rest := by
  simp [ownMoves, other]

variable (separated : Separated step party allowed base alike)
include separated

theorem Separated.follow {move : Move} (may : allowed move) {state after twin : State}
    {side : Party} (good : base state) (goodTwin : base twin) (same : alike side state twin)
    (made : step move state = some after) (rest : List Move) :
    ∃ twinAfter, base twinAfter ∧ alike side after twinAfter ∧
      runMoves step (ownMoves party side (move :: rest)) twin =
        runMoves step (ownMoves party side rest) twinAfter := by
  by_cases own : party move = side
  · subst own
    obtain ⟨twinAfter, twinMade, ends⟩ :=
      separated.own move may state twin good goodTwin same after made
    refine ⟨twinAfter, separated.keeps move may twin twinAfter goodTwin twinMade, ends, ?_⟩
    rw [own_moves_same rfl, run_moves_cons twinMade]
  · have unseen := separated.unseen move may state after good made side (Ne.symm own)
    refine ⟨twin, goodTwin, ?_, ?_⟩
    · exact separated.trans side after state twin (separated.symm side state after unseen) same
    · rw [own_moves_other own]

/-- A party sees the interleaving as its own moves alone. -/
theorem Separated.alone {moves : List Move} (may : ∀ move ∈ moves, allowed move)
    {state last twin : State} {side : Party} (good : base state) (goodTwin : base twin)
    (same : alike side state twin) (ran : runMoves step moves state = some last) :
    ∃ own, runMoves step (ownMoves party side moves) twin = some own ∧ alike side last own := by
  induction moves generalizing state twin with
  | nil =>
      cases ran
      exact ⟨twin, rfl, same⟩
  | cons move rest ih =>
      cases made : step move state with
      | none =>
          rw [run_moves_stuck made] at ran
          cases ran
      | some after =>
          have first := may move List.mem_cons_self
          rw [run_moves_cons made] at ran
          obtain ⟨twinAfter, goodAfter, ends, follows⟩ :=
            separated.follow first good goodTwin same made rest
          rw [follows]
          exact ih (fun later member => may later (List.mem_cons_of_mem move member))
            (separated.keeps move first state after good made) goodAfter ends ran

theorem Separated.together {moves : List Move} (may : ∀ move ∈ moves, allowed move)
    {state : State} (good : base state)
    (each : ∀ side, ∃ twin, base twin ∧ alike side state twin ∧
      (runMoves step (ownMoves party side moves) twin).isSome = true) :
    (runMoves step moves state).isSome = true := by
  induction moves generalizing state with
  | nil => rfl
  | cons move rest ih =>
      have first := may move List.mem_cons_self
      -- The party whose turn it is can make the move, so it can be made.
      obtain ⟨after, made⟩ : ∃ after, step move state = some after := by
        obtain ⟨twin, goodTwin, same, goes⟩ := each (party move)
        rw [own_moves_same rfl] at goes
        cases twinMade : step move twin with
        | none =>
            rw [run_moves_stuck twinMade] at goes
            cases goes
        | some twinAfter =>
            obtain ⟨after, made, _⟩ := separated.own move first twin state goodTwin good
              (separated.symm _ state twin same) twinAfter twinMade
            exact ⟨after, made⟩
      rw [run_moves_cons made]
      apply ih (fun later member => may later (List.mem_cons_of_mem move member))
        (separated.keeps move first state after good made)
      intro side
      obtain ⟨twin, goodTwin, same, goes⟩ := each side
      obtain ⟨twinAfter, goodAfter, ends, follows⟩ :=
        separated.follow first good goodTwin same made rest
      rw [follows] at goes
      exact ⟨twinAfter, goodAfter, ends, goes⟩

/-- An interleaving can be made exactly when each party can make its own moves. -/
theorem Separated.possible_iff {moves : List Move} (may : ∀ move ∈ moves, allowed move)
    {state : State} (good : base state) :
    (runMoves step moves state).isSome = true ↔
      ∀ side, (runMoves step (ownMoves party side moves) state).isSome = true := by
  constructor
  · intro goes side
    obtain ⟨last, ran⟩ := Option.isSome_iff_exists.mp goes
    obtain ⟨own, alone, _⟩ := separated.alone may good good (separated.refl side state) ran
    rw [alone]
    rfl
  · intro each
    exact separated.together may good fun side =>
      ⟨state, good, separated.refl side state, each side⟩

end Parties

end IviSdk.Interleavings
