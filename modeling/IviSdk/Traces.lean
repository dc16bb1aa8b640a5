import Mathlib.Init

/-!
Finite traces of a labelled transition relation, grown at their end as a log is,
and the induction over them.
-/

namespace IviSdk.Traces

variable {State Label : Type} {Step : State → Label → State → Prop}

inductive Trace (Step : State → Label → State → Prop) (first : State) :
    List Label → State → Prop where
  | empty : Trace Step first [] first
  | snoc {labels : List Label} {state next : State} {label : Label}
      (earlier : Trace Step first labels state) (step : Step state label next) :
      Trace Step first (labels ++ [label]) next

/-- What holds of no label at the first state and is carried on by every step
holds of every trace. -/
theorem Trace.rule {first last : State} {labels : List Label}
    (trace : Trace Step first labels last) (holds : List Label → State → Prop)
    (start : holds [] first)
    (carries : ∀ labels state label next, holds labels state → Step state label next →
      holds (labels ++ [label]) next) : holds labels last := by
  induction trace with
  | empty => exact start
  | snoc earlier step ih => exact carries _ _ _ _ ih step

/-- Where every step is determined by its label, so is the last state of a trace. -/
theorem Trace.unique {first last other : State} {labels : List Label}
    (determined : ∀ state label next other, Step state label next → Step state label other →
      next = other)
    (trace : Trace Step first labels last) (twin : Trace Step first labels other) :
    last = other := by
  induction trace generalizing other with
  | empty =>
      generalize none : ([] : List Label) = labels at twin
      cases twin with
      | empty => rfl
      | snoc earlier step => simp at none
  | @snoc labels state next label earlier step ih =>
      generalize same : labels ++ [label] = all at twin
      cases twin with
      | empty => simp at same
      | snoc twinEarlier twinStep =>
          obtain ⟨rfl, rfl⟩ := List.append_singleton_inj.mp same
          obtain rfl := ih twinEarlier
          exact determined _ _ _ _ step twinStep

end IviSdk.Traces
