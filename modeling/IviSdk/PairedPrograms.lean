import IviSdk.Interaction

/-!
Two programs run side by side, from related worlds. They match when both return
the same value or both stop for the same reason, in related worlds again.
Sequences, choices and loops of programs that agree agree, and the rest of a
sequence may use what is known of either program alone.
-/

namespace IviSdk.PairedPrograms

open Interaction

variable {World Twin Reason Value Result Item : Type}

/-- How two runs may end. -/
inductive Matches (related : World → Twin → Prop) :
    Outcome World Reason Value → Outcome Twin Reason Value → Prop where
  | returned (value : Value) {after : World} {twinAfter : Twin} (ends : related after twinAfter) :
      Matches related (.returned value after) (.returned value twinAfter)
  | stopped (reason : Reason) {after : World} {twinAfter : Twin} (ends : related after twinAfter) :
      Matches related (.stopped reason after) (.stopped reason twinAfter)

/-- From related worlds the two programs match. -/
def Agree (related : World → Twin → Prop) (program : Program World Reason Value)
    (twin : Program Twin Reason Value) : Prop :=
  ∀ world twinWorld, related world twinWorld →
    Matches related (program world) (twin twinWorld)

theorem bind_of_stopped {program : Program World Reason Value}
    {next : Value → Program World Reason Result} {world after : World} {reason : Reason}
    (ran : program world = .stopped reason after) :
    (program >>= next) world = .stopped reason after := by
  simp only [bind, ran]

section Outcomes
variable {related : World → Twin → Prop}

/-- A sequence. What is known of the first program alone may be used for the rest. -/
theorem Matches.bind {program : Program World Reason Value} {twin : Program Twin Reason Value}
    {next : Value → Program World Reason Result} {twinNext : Value → Program Twin Reason Result}
    {world : World} {twinWorld : Twin}
    (first : Matches related (program world) (twin twinWorld))
    (later : ∀ value after twinAfter, program world = .returned value after →
      related after twinAfter →
      Matches related (next value after) (twinNext value twinAfter)) :
    Matches related ((program >>= next) world) ((twin >>= twinNext) twinWorld) := by
  generalize ran : program world = outcome at first
  generalize twinRan : twin twinWorld = other at first
  cases first with
  | returned value ends =>
      rw [bind_of_returned ran, bind_of_returned twinRan]
      exact later value _ _ ran ends
  | stopped reason ends =>
      rw [bind_of_stopped ran, bind_of_stopped twinRan]
      exact .stopped reason ends

theorem Matches.eq {related : World → World → Prop} {outcome other : Outcome World Reason Value}
    (ended : Matches related outcome other)
    (same : ∀ world twinWorld, related world twinWorld → twinWorld = world) : other = outcome := by
  cases ended with
  | returned value ends => rw [same _ _ ends]
  | stopped reason ends => rw [same _ _ ends]

end Outcomes

/-! ## Programs that agree -/

section Rules
variable {related : World → Twin → Prop}

theorem agree_pure (value : Value) :
    Agree related (pure value : Program World Reason Value)
      (pure value : Program Twin Reason Value) :=
  fun _ _ start => .returned value start

theorem agree_stop (reason : Reason) :
    Agree related (stop reason : Program World Reason Value)
      (stop reason : Program Twin Reason Value) :=
  fun _ _ start => .stopped reason start

theorem agree_modify {change : World → World} {twinChange : Twin → Twin}
    (step : ∀ world twinWorld, related world twinWorld →
      related (change world) (twinChange twinWorld)) :
    Agree related (modify change : Program World Reason Unit)
      (modify twinChange : Program Twin Reason Unit) :=
  fun world twinWorld start => .returned () (step world twinWorld start)

theorem agree_bind {program : Program World Reason Value} {twin : Program Twin Reason Value}
    {next : Value → Program World Reason Result} {twinNext : Value → Program Twin Reason Result}
    (first : Agree related program twin)
    (later : ∀ value, Agree related (next value) (twinNext value)) :
    Agree related (program >>= next) (twin >>= twinNext) := by
  intro world twinWorld start
  exact (first world twinWorld start).bind fun value after twinAfter _ ends =>
    later value after twinAfter ends

/-- A program may depend on the world it reads; related worlds are enough. -/
theorem agree_read {next : World → Program World Reason Result}
    {twinNext : Twin → Program Twin Reason Result}
    (later : ∀ world twinWorld, related world twinWorld →
      Matches related (next world world) (twinNext twinWorld twinWorld)) :
    Agree related (read >>= next) (read >>= twinNext) :=
  later

theorem agree_ite {condition twinCondition : Prop} [Decidable condition] [Decidable twinCondition]
    {yes no : Program World Reason Value} {twinYes twinNo : Program Twin Reason Value}
    (same : condition ↔ twinCondition) (left : Agree related yes twinYes)
    (right : Agree related no twinNo) :
    Agree related (if condition then yes else no)
      (if twinCondition then twinYes else twinNo) := by
  by_cases holds : condition
  · rwa [if_pos holds, if_pos (same.mp holds)]
  · rwa [if_neg holds, if_neg fun other => holds (same.mpr other)]

theorem agree_only_if {condition : Bool} {program : Program World Reason Unit}
    {twin : Program Twin Reason Unit}
    (body : condition = true → Agree related program twin) :
    Agree related (onlyIf condition program) (onlyIf condition twin) := by
  cases condition with
  | true => exact body rfl
  | false => exact agree_pure ()

theorem agree_each {body : Item → Program World Reason Unit}
    {twinBody : Item → Program Twin Reason Unit} {items : List Item}
    (step : ∀ item ∈ items, Agree related (body item) (twinBody item)) :
    Agree related (each body items) (each twinBody items) := by
  induction items with
  | nil => exact agree_pure ()
  | cons item rest ih =>
      apply agree_bind (step item List.mem_cons_self)
      intro _
      exact ih fun later member => step later (List.mem_cons_of_mem item member)

end Rules

/-- A loop over two lists is one over the first and then one over the second. -/
theorem each_append (body : Item → Program World Reason Unit) (first second : List Item) :
    each body (first ++ second) = (each body first >>= fun _ => each body second) := by
  induction first with
  | nil => rfl
  | cons item rest ih =>
      change (body item >>= fun _ => each body (rest ++ second)) =
        ((body item >>= fun _ => each body rest) >>= fun _ => each body second)
      rw [ih, program_bind_assoc]

end IviSdk.PairedPrograms
