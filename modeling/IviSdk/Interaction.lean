import Mathlib.Init

/-!
Programs that change a world and may stop before their end: a small imperative
language with a reason for every stop, and its rules of pre- and
postconditions. `wp` has one postcondition for a program that returns and one
for a program that stops, and its equations execute a program step by step.
`Keeps` is the same judgement for an invariant, with its own rules for
sequences, choices and loops.
-/

namespace IviSdk.Interaction

variable {World Reason Value Result Item : Type}

inductive Outcome (World Reason Value : Type) where
  | returned (value : Value) (world : World)
  | stopped (reason : Reason) (world : World)

def Outcome.world : Outcome World Reason Value → World
  | .returned _ world => world
  | .stopped _ world => world

def Outcome.value? : Outcome World Reason Value → Option Value
  | .returned value _ => some value
  | .stopped _ _ => none

theorem Outcome.eq_returned {outcome : Outcome World Reason Value} {value : Value}
    (returned : outcome.value? = some value) : outcome = .returned value outcome.world := by
  cases outcome with
  | returned result world =>
      cases returned
      rfl
  | stopped reason world => cases returned

def Program (World Reason Value : Type) := World → Outcome World Reason Value

instance : Monad (Program World Reason) where
  pure value := fun world => .returned value world
  bind program next := fun world =>
    match program world with
    | .returned value world => next value world
    | .stopped reason world => .stopped reason world

def read : Program World Reason World := fun world => .returned world world

def modify (change : World → World) : Program World Reason Unit :=
  fun world => .returned () (change world)

def stop (reason : Reason) : Program World Reason Value := fun world => .stopped reason world

/-- A statement guarded by a condition without an alternative. -/
def onlyIf (condition : Bool) (program : Program World Reason Unit) : Program World Reason Unit :=
  if condition then program else pure ()

/-- A statement for each item, in order. -/
def each (body : Item → Program World Reason Unit) : List Item → Program World Reason Unit
  | [] => pure ()
  | item :: rest => do
      body item
      each body rest

/-! ## Sequences -/

section Sequences
variable {program : Program World Reason Value} {next : Value → Program World Reason Result}
  {world after : World}

theorem bind_of_returned {value : Value} (ran : program world = .returned value after) :
    (program >>= next) world = next value after := by
  simp only [bind, ran]

/-- A sequence that returned did so part by part. -/
theorem returned_of_bind {result : Result} {last : World}
    (ran : (program >>= next) world = .returned result last) :
    ∃ value middle, program world = .returned value middle ∧
      next value middle = .returned result last := by
  simp only [bind] at ran
  cases outcome : program world with
  | returned value middle =>
      rw [outcome] at ran
      exact ⟨value, middle, rfl, ran⟩
  | stopped reason middle =>
      rw [outcome] at ran
      cases ran

theorem program_bind_assoc {Last : Type} (later : Result → Program World Reason Last) :
    (program >>= next >>= later) = (program >>= fun value => next value >>= later) := by
  funext world
  simp only [bind]
  cases program world <;> rfl

end Sequences

/-! ## Weakest preconditions -/

def wp (program : Program World Reason Value) (normal : Value → World → Prop)
    (abrupt : Reason → World → Prop) (world : World) : Prop :=
  match program world with
  | .returned value after => normal value after
  | .stopped reason after => abrupt reason after

section Rules
variable {normal : Value → World → Prop} {abrupt : Reason → World → Prop} {world : World}

@[simp] theorem wp_pure (value : Value) :
    wp (pure value : Program World Reason Value) normal abrupt world ↔ normal value world :=
  Iff.rfl

@[simp] theorem wp_bind {normal : Result → World → Prop} (program : Program World Reason Value)
    (next : Value → Program World Reason Result) :
    wp (program >>= next) normal abrupt world ↔
      wp program (fun value after => wp (next value) normal abrupt after) abrupt world := by
  change (match (match program world with
    | .returned value after => next value after
    | .stopped reason after => .stopped reason after) with
    | .returned value after => normal value after
    | .stopped reason after => abrupt reason after) ↔ _
  unfold wp
  cases program world with
  | returned value after => exact Iff.rfl
  | stopped reason after => exact Iff.rfl

@[simp] theorem wp_read {normal : World → World → Prop} :
    wp (read : Program World Reason World) normal abrupt world ↔ normal world world := Iff.rfl

@[simp] theorem wp_modify {normal : Unit → World → Prop} (change : World → World) :
    wp (modify change : Program World Reason Unit) normal abrupt world ↔
      normal () (change world) := Iff.rfl

@[simp] theorem wp_stop (reason : Reason) :
    wp (stop reason : Program World Reason Value) normal abrupt world ↔ abrupt reason world :=
  Iff.rfl

@[simp] theorem wp_ite (condition : Prop) [Decidable condition]
    (yes no : Program World Reason Value) :
    wp (if condition then yes else no) normal abrupt world ↔
      if condition then wp yes normal abrupt world else wp no normal abrupt world := by
  by_cases holds : condition <;> simp [holds]

@[simp] theorem wp_only_if {normal : Unit → World → Prop} (condition : Bool)
    (program : Program World Reason Unit) :
    wp (onlyIf condition program) normal abrupt world ↔
      if condition = true then wp program normal abrupt world else normal () world := by
  cases condition <;> simp [onlyIf]

theorem wp_mono {program : Program World Reason Value} {normal' : Value → World → Prop}
    {abrupt' : Reason → World → Prop} (ran : wp program normal abrupt world)
    (returns : ∀ value after, normal value after → normal' value after)
    (stops : ∀ reason after, abrupt reason after → abrupt' reason after) :
    wp program normal' abrupt' world := by
  unfold wp at ran ⊢
  cases outcome : program world with
  | returned value after =>
      rw [outcome] at ran
      exact returns value after ran
  | stopped reason after =>
      rw [outcome] at ran
      exact stops reason after ran

/-- A weaker ending, and the same ways to stop. -/
theorem wp_then {program : Program World Reason Value} {normal' : Value → World → Prop}
    (ran : wp program normal abrupt world)
    (later : ∀ value after, normal value after → normal' value after) :
    wp program normal' abrupt world :=
  wp_mono ran later fun _ _ stopped => stopped

/-- A weaker ending, when it does not matter how the program stops. -/
theorem wp_partial {program : Program World Reason Value} {normal' : Value → World → Prop}
    (ran : wp program normal abrupt world)
    (later : ∀ value after, normal value after → normal' value after) :
    wp program normal' (fun _ _ => True) world :=
  wp_mono ran later fun _ _ _ => trivial

theorem wp_congr {program : Program World Reason Value} {normal' : Value → World → Prop}
    (same : ∀ value after, normal value after ↔ normal' value after) :
    wp program normal abrupt world ↔ wp program normal' abrupt world :=
  ⟨fun ran => wp_mono ran (fun value after => (same value after).mp) fun _ _ stopped => stopped,
    fun ran => wp_mono ran (fun value after => (same value after).mpr) fun _ _ stopped => stopped⟩

/-- Two postconditions that differ by a statement about neither the value nor the
last world, given what the program tells when it returns. -/
theorem wp_or_congr {program : Program World Reason Value}
    {told normal' : Value → World → Prop} {aside : Prop}
    (tells : wp program told (fun _ _ => True) world)
    (same : ∀ value after, told value after → (normal value after ↔ normal' value after ∨ aside)) :
    wp program normal (fun _ _ => True) world ↔
      wp program normal' (fun _ _ => True) world ∨ aside := by
  unfold wp at tells ⊢
  cases outcome : program world with
  | returned value after =>
      rw [outcome] at tells
      exact same value after tells
  | stopped reason after => exact ⟨fun _ => .inl trivial, fun _ => trivial⟩

theorem wp_true (program : Program World Reason Value) (world : World) :
    wp program (fun _ _ => True) (fun _ _ => True) world := by
  unfold wp
  cases program world <;> trivial

/-- A fact that holds before may be assumed of the run. -/
theorem wp_imp {program : Program World Reason Value} {condition : Prop}
    (runs : condition → wp program normal (fun _ _ => True) world) :
    wp program (fun value after => condition → normal value after) (fun _ _ => True) world := by
  by_cases holds : condition
  · exact wp_mono (runs holds) (fun _ _ normal _ => normal) fun _ _ _ => trivial
  · exact wp_mono (wp_true program world) (fun _ _ _ now => absurd now holds) fun _ _ _ => trivial

theorem wp_and {program : Program World Reason Value} {normal' : Value → World → Prop}
    {abrupt' : Reason → World → Prop} (left : wp program normal abrupt world)
    (right : wp program normal' abrupt' world) :
    wp program (fun value after => normal value after ∧ normal' value after)
      (fun reason after => abrupt reason after ∧ abrupt' reason after) world := by
  unfold wp at left right ⊢
  cases outcome : program world with
  | returned value after =>
      rw [outcome] at left right
      exact ⟨left, right⟩
  | stopped reason after =>
      rw [outcome] at left right
      exact ⟨left, right⟩

theorem wp_forall {Index : Type} {program : Program World Reason Value}
    {normal : Index → Value → World → Prop} {abrupt : Index → Reason → World → Prop}
    (each : ∀ index, wp program (normal index) (abrupt index) world) :
    wp program (fun value after => ∀ index, normal index value after)
      (fun reason after => ∀ index, abrupt index reason after) world := by
  unfold wp at each ⊢
  cases outcome : program world with
  | returned value after =>
      rw [outcome] at each
      exact each
  | stopped reason after =>
      rw [outcome] at each
      exact each

theorem wp_returned {program : Program World Reason Value} {value : Value} {after : World}
    (ran : wp program normal abrupt world) (outcome : program world = .returned value after) :
    normal value after := by
  unfold wp at ran
  rwa [outcome] at ran

theorem wp_stopped {program : Program World Reason Value} {reason : Reason} {after : World}
    (ran : wp program normal abrupt world) (outcome : program world = .stopped reason after) :
    abrupt reason after := by
  unfold wp at ran
  rwa [outcome] at ran

/-- A program that cannot stop returns. -/
theorem wp_total {program : Program World Reason Value}
    (ran : wp program normal (fun _ _ => False) world) :
    ∃ value after, program world = .returned value after ∧ normal value after := by
  unfold wp at ran
  cases outcome : program world with
  | returned value after =>
      rw [outcome] at ran
      exact ⟨value, after, rfl, ran⟩
  | stopped reason after =>
      rw [outcome] at ran
      exact ran.elim

/-- What holds however a program ends holds of the world it leaves. -/
theorem wp_world {program : Program World Reason Value} {kept : World → Prop}
    (ran : wp program (fun _ => kept) (fun _ => kept) world) : kept (program world).world := by
  unfold wp at ran
  cases outcome : program world with
  | returned value after =>
      rw [outcome] at ran
      exact ran
  | stopped reason after =>
      rw [outcome] at ran
      exact ran

end Rules

/-! ## Invariants -/

/-- From a world with the invariant the program returns with the invariant, or
stops as `abrupt` allows. -/
def Keeps (kept : World → Prop) (abrupt : Reason → World → Prop)
    (program : Program World Reason Value) : Prop :=
  ∀ world, kept world → wp program (fun _ => kept) abrupt world

section Invariants
variable {kept : World → Prop} {abrupt : Reason → World → Prop}

theorem keeps_pure (value : Value) :
    Keeps kept abrupt (pure value : Program World Reason Value) :=
  fun _ holds => holds

theorem keeps_weaken {program : Program World Reason Value} {abrupt' : Reason → World → Prop}
    (holds : Keeps kept abrupt program)
    (stops : ∀ reason world, abrupt reason world → abrupt' reason world) :
    Keeps kept abrupt' program :=
  fun world start => wp_mono (holds world start) (fun _ _ kept => kept) stops

theorem keeps_bind {program : Program World Reason Value}
    {next : Value → Program World Reason Result} (first : Keeps kept abrupt program)
    (later : ∀ value, Keeps kept abrupt (next value)) :
    Keeps kept abrupt (program >>= next) := by
  intro world holds
  rw [wp_bind]
  exact wp_then (first world holds) fun value after holds => later value after holds

theorem keeps_read {next : World → Program World Reason Result}
    (later : ∀ world, kept world → wp (next world) (fun _ => kept) abrupt world) :
    Keeps kept abrupt (read >>= next) := by
  intro world holds
  rw [wp_bind, wp_read]
  exact later world holds

theorem keeps_stop {reason : Reason} (allowed : ∀ world, kept world → abrupt reason world) :
    Keeps kept abrupt (stop reason : Program World Reason Value) :=
  fun world holds => allowed world holds

theorem keeps_ite {condition : Prop} [Decidable condition]
    {yes no : Program World Reason Value} (left : Keeps kept abrupt yes)
    (right : Keeps kept abrupt no) : Keeps kept abrupt (if condition then yes else no) := by
  by_cases holds : condition
  · rwa [if_pos holds]
  · rwa [if_neg holds]

theorem keeps_only_if {condition : Bool} {program : Program World Reason Unit}
    (body : condition = true → Keeps kept abrupt program) :
    Keeps kept abrupt (onlyIf condition program) := by
  cases condition with
  | true => exact body rfl
  | false => exact keeps_pure ()

theorem keeps_each {body : Item → Program World Reason Unit} {items : List Item}
    (step : ∀ item ∈ items, Keeps kept abrupt (body item)) :
    Keeps kept abrupt (each body items) := by
  induction items with
  | nil => exact keeps_pure ()
  | cons item rest ih =>
      refine keeps_bind (step item List.mem_cons_self) fun _ => ih ?_
      intro later member
      exact step later (List.mem_cons_of_mem item member)

/-- A loop that establishes something for the items it is done with. -/
theorem wp_each {body : Item → Program World Reason Unit} {normal : Unit → World → Prop}
    (done : List Item → World → Prop) (items : List Item) (world : World)
    (start : done [] world)
    (step : ∀ earlier item later, items = earlier ++ item :: later → ∀ world,
      done earlier world → wp (body item) (fun _ => done (earlier ++ [item])) abrupt world)
    (finished : ∀ world, done items world → normal () world) :
    wp (each body items) normal abrupt world := by
  have loop : ∀ later earlier world, items = earlier ++ later → done earlier world →
      wp (each body later) normal abrupt world := by
    intro later
    induction later with
    | nil =>
        intro earlier world split reached
        rw [List.append_nil] at split
        exact finished world (split ▸ reached)
    | cons item rest ih =>
        intro earlier world split reached
        change wp (body item >>= fun _ => each body rest) normal abrupt world
        rw [wp_bind]
        apply wp_then (step earlier item rest split world reached)
        intro _ after reached
        exact ih (earlier ++ [item]) after (by simp [split]) reached
  exact loop items [] world rfl start

end Invariants

end IviSdk.Interaction
