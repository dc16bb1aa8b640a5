import Mathlib.Init

/-!
Loops that count their turns and give up at a bound, over any states. `AtHead`
holds of the states in which the condition of the loop is evaluated, with the
turns taken so far; the bound is left out of it. What the counter says about a
loop that was left is right unless its last permitted turn was the one it needed.
-/

namespace IviSdk.CountedLoops

variable {State : Type}

inductive AtHead (turn : Nat → State → State → Prop) (done : State → Prop) (start : State) :
    Nat → State → Prop where
  | enter : AtHead turn done start 0 start
  | again {count : Nat} {before after : State} (head : AtHead turn done start count before)
      (going : ¬ done before) (turned : turn count before after) :
      AtHead turn done start (count + 1) after

/-- The loop is left: it is done, or the turns are used up. -/
structure LeavesAt (turn : Nat → State → State → Prop) (done : State → Prop) (start : State)
    (bound count : Nat) (last : State) : Prop where
  head : AtHead turn done start count last
  within : count ≤ bound
  left : done last ∨ count = bound

variable {turn : Nat → State → State → Prop} {done : State → Prop} {start : State}

/-- The states before a head are heads at which the loop went on. -/
theorem AtHead.earlier {count later : Nat} {last : State}
    (reached : AtHead turn done start later last) (before : count < later) :
    ∃ middle, AtHead turn done start count middle ∧ ¬ done middle := by
  induction reached with
  | enter => cases before
  | again head going turned ih =>
      rcases Nat.lt_succ_iff_lt_or_eq.mp before with earlier | same
      · exact ih earlier
      · subst same
        exact ⟨_, head, going⟩

/-! ## Loops whose turns are functions of the state -/

def Deterministic (turn : Nat → State → State → Prop) : Prop :=
  ∀ count before first second, turn count before first → turn count before second → first = second

section Deterministic
variable (determined : Deterministic turn)
include determined

theorem AtHead.unique {count : Nat} {first second : State}
    (one : AtHead turn done start count first) (other : AtHead turn done start count second) :
    first = second := by
  induction one generalizing second with
  | enter =>
      cases other
      rfl
  | again head going turned ih =>
      cases other with
      | again otherHead otherGoing otherTurned =>
          have same := ih otherHead
          subst same
          exact determined _ _ _ _ turned otherTurned

theorem AtHead.going {count later : Nat} {middle last : State}
    (reached : AtHead turn done start later last) (head : AtHead turn done start count middle)
    (before : count < later) : ¬ done middle := by
  obtain ⟨other, same, going⟩ := reached.earlier before
  rwa [AtHead.unique determined head same]

theorem LeavesAt.unique {bound first second : Nat} {one other : State}
    (left : LeavesAt turn done start bound first one)
    (leftToo : LeavesAt turn done start bound second other) : first = second ∧ one = other := by
  have never : ∀ {before after : Nat} {early late : State},
      LeavesAt turn done start bound before early → LeavesAt turn done start bound after late →
      ¬ before < after := by
    intro before after early late stops goesOn less
    rcases stops.left with finished | full
    · exact AtHead.going determined goesOn.head stops.head less finished
    · have within := goesOn.within
      omega
  have same : first = second := by
    have notLess := never left leftToo
    have notMore := never leftToo left
    omega
  subst same
  exact ⟨rfl, AtHead.unique determined left.head leftToo.head⟩

/-- A loop is left below the bound iff it is done, unless it becomes done in the
last turn it may take. -/
theorem LeavesAt.counter_tells_iff {bound count : Nat} {last : State}
    (leaves : LeavesAt turn done start bound count last) :
    (count < bound ↔ done last) ↔ ¬ ∃ late, AtHead turn done start bound late ∧ done late := by
  have within := leaves.within
  rcases Nat.lt_or_eq_of_le within with below | full
  · have finished : done last := leaves.left.resolve_right (by omega)
    have before : ¬ ∃ late, AtHead turn done start bound late ∧ done late := by
      rintro ⟨late, reached, _⟩
      exact AtHead.going determined reached leaves.head below finished
    exact iff_of_true (iff_of_true below finished) before
  · subst full
    constructor
    · rintro told ⟨late, reached, finished⟩
      have same := AtHead.unique determined leaves.head reached
      exact absurd (told.mpr (same ▸ finished)) (Nat.lt_irrefl _)
    · intro open_at
      refine iff_of_false (Nat.lt_irrefl _) fun finished => ?_
      exact open_at ⟨last, leaves.head, finished⟩

end Deterministic

end IviSdk.CountedLoops
