import IviSdk.CompletionQueues
import Mathlib.Data.List.Perm.Subperm

/-!
Asking a shut queue without waiting. An operation that has completed by the time
of a call can be handed out by it; when none has, the answer is `TIMEOUT`, and
`SHUTDOWN` when none is left. A loop that asks until the answer is no event
comes to an end, but it drains the queue only if every call finds more
operations completed than were handed out before it.
-/

namespace IviSdk.QueueTimings

open CompletionQueues

variable {Tag : Type}

/-- Which operations have completed by the time of each call. -/
structure Timing (Tag : Type) where
  completed : Nat → Tag → Bool
  stays : ∀ call tag, completed call tag = true → completed (call + 1) tag = true

theorem Timing.completed_later (timing : Timing Tag) {tag : Tag} {first : Nat}
    (done : timing.completed first tag = true) (calls : Nat) :
    timing.completed (first + calls) tag = true := by
  induction calls with
  | zero => exact done
  | succ calls ih => exact timing.stays _ tag ih

variable [DecidableEq Tag]

/-- The answers to calls from this one on: the events handed out and the last
answer. -/
inductive Answers (timing : Timing Tag) : Nat → List Tag → List Tag → NextStatus → Prop where
  | event {call pending tag tags last} (pends : tag ∈ pending)
      (done : timing.completed call tag = true)
      (rest : Answers timing (call + 1) (pending.erase tag) tags last) :
      Answers timing call pending (tag :: tags) last
  | timeout {call pending} (waits : pending ≠ [])
      (undone : ∀ tag ∈ pending, timing.completed call tag = false) :
      Answers timing call pending [] .timeout
  | shutdown {call} : Answers timing call [] [] .shutdown

/-- Every call finds more operations completed than were handed out before it. -/
def Prompt (timing : Timing Tag) (first : Nat) (pending : List Tag) : Prop :=
  ∀ call, call < pending.length → call < pending.countP (timing.completed (first + call))

variable {timing : Timing Tag} {first : Nat} {pending tags : List Tag} {last : NextStatus}

/-- The loop ends whatever the timing is. -/
theorem answers_exist (timing : Timing Tag) (first : Nat) (pending : List Tag) :
    ∃ tags last, Answers timing first pending tags last := by
  -- Every event leaves one operation less.
  induction many : pending.length generalizing first pending with
  | zero =>
      rw [List.length_eq_zero_iff] at many
      subst many
      exact ⟨[], .shutdown, .shutdown⟩
  | succ fewer ih =>
      -- Either some operation can be handed out now, or the answer is `TIMEOUT`.
      by_cases ready : ∃ tag ∈ pending, timing.completed first tag = true
      · obtain ⟨tag, pends, done⟩ := ready
        have less : (pending.erase tag).length = fewer := by
          rw [List.length_erase_of_mem pends, many]
          rfl
        obtain ⟨tags, last, answers⟩ := ih (first + 1) (pending.erase tag) less
        exact ⟨tag :: tags, last, .event pends done answers⟩
      · refine ⟨[], .timeout, .timeout ?_ ?_⟩
        · rintro rfl
          cases many
        · intro tag pends
          exact Bool.eq_false_iff.mpr fun done => ready ⟨tag, pends, done⟩

theorem answers_none (timing : Timing Tag) (first : Nat) (none : pending = []) :
    Answers timing first pending [] .shutdown := by
  rw [none]
  exact .shutdown

theorem Answers.subperm (answers : Answers timing first pending tags last) :
    tags.Subperm pending := by
  induction answers with
  | event pends _ _ ih =>
      exact ((List.subperm_cons _).mpr ih).trans (List.perm_cons_erase pends).symm.subperm
  | timeout _ _ => exact List.nil_subperm
  | shutdown => exact List.nil_subperm

theorem Answers.perm (answers : Answers timing first pending tags .shutdown) :
    tags.Perm pending := by
  generalize drained : NextStatus.shutdown = last at answers
  induction answers with
  | event pends _ _ ih => exact ((ih drained).cons _).trans (List.perm_cons_erase pends).symm
  | timeout _ _ => cases drained
  | shutdown => exact .nil

theorem prompt_erase {tag : Tag} (pends : tag ∈ pending)
    (done : timing.completed first tag = true) :
    Prompt timing first pending ↔ Prompt timing (first + 1) (pending.erase tag) := by
  have length : (pending.erase tag).length + 1 = pending.length := by
    rw [List.length_erase_of_mem pends]
    exact Nat.succ_pred_eq_of_pos (List.length_pos_of_mem pends)
  -- A completed operation stays completed, so it counts at every later call.
  have count : ∀ calls, (pending.erase tag).countP (timing.completed (first + 1 + calls)) + 1 =
      pending.countP (timing.completed (first + (calls + 1))) := by
    intro calls
    rw [(List.perm_cons_erase pends).countP_eq, Nat.add_right_comm, Nat.add_assoc first calls 1,
      List.countP_cons_of_pos (timing.completed_later done (calls + 1))]
  constructor
  · intro prompt call within
    have more := prompt (call + 1) (by omega)
    have same := count call
    omega
  · intro prompt call within
    cases call with
    | zero => exact List.countP_pos_iff.mpr ⟨tag, pends, done⟩
    | succ call =>
        have more := prompt call (by omega)
        have same := count call
        omega

/-- Exactly prompt operations are all handed out. -/
theorem Answers.drains_iff (answers : Answers timing first pending tags last) :
    last = .shutdown ↔ Prompt timing first pending := by
  induction answers with
  | event pends done _ ih => rw [ih, prompt_erase pends done]
  | @timeout call pending waits undone =>
      constructor
      · intro never
        cases never
      · intro prompt
        have one := prompt 0 (List.length_pos_iff.mpr waits)
        obtain ⟨tag, pends, done⟩ := List.countP_pos_iff.mp one
        rw [Nat.add_zero, undone tag pends] at done
        cases done
  | shutdown => exact ⟨fun _ call within => absurd within (Nat.not_lt_zero call), fun _ => rfl⟩

end IviSdk.QueueTimings
