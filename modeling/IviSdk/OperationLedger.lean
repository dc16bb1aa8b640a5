import Mathlib.Algebra.BigOperators.Group.Finset.Piecewise
import Mathlib.Algebra.BigOperators.Group.Finset.Basic
import IviSdk.StepRules

/-!
The books of a manager: every operation that was ever started has been handed out
or still pends on a queue that exists, as often as it was started. A discarded queue
keeps what pended on it. The balance ties what the log tells to what the queues
hold, so that a property of one becomes a property of the other.
-/

namespace IviSdk.OperationLedger

open Checks CompletionQueues Streams ManagerWorld Interaction StreamClients ClientManager
open CallbackRules PollRules QueueWiring StepRules

variable {world : World} {tag : Tag}

/-! ## The books -/

def starts (tag : Tag) : Event → Bool
  | .started _ _ other => other = tag
  | _ => false

/-- An operation is handed out by a poll or by the destructor. -/
def handsOut (tag : Tag) : Event → Bool
  | .delivered _ completion _ _ => completion.tag = tag
  | .collected _ other => other = tag
  | _ => false

def started (tag : Tag) (world : World) : Nat := world.log.countP (starts tag)

def handedOut (tag : Tag) (world : World) : Nat := world.log.countP (handsOut tag)

/-- How often the operation pends, over the queues made so far. -/
def pendingAnywhere (tag : Tag) (world : World) : Nat :=
  ∑ queue ∈ Finset.range world.next, (world.pending queue).count tag

/-- The books are balanced, and a unary call was started at most once. -/
structure Conserved (world : World) : Prop where
  balance : ∀ tag, started tag world = handedOut tag world + pendingAnywhere tag world
  once : ∀ origin id, started (.unary origin id) world ≤ 1

/-- What the balance rests on: queues in use exist, and numbers not given out are
not in use. -/
structure Kept (world : World) : Prop extends Conserved world where
  connection : ∀ unary, world.queueOf unary < world.next
  readers : ∀ kind queue, (world.state kind).updateReader = some queue → queue < world.next
  beyond : ∀ queue, world.next ≤ queue → world.pending queue = []
  fresh : ∀ origin id, world.next ≤ id → started (.unary origin id) world = 0

/-! ## One entry -/

theorem pending_grows {before after : World} {queue : QueueId} {amount : Nat}
    (next : after.next = before.next) (known : queue < before.next)
    (more : ∀ other, (after.pending other).count tag =
      (before.pending other).count tag + if other = queue then amount else 0) :
    pendingAnywhere tag after = pendingAnywhere tag before + amount := by
  unfold pendingAnywhere
  rw [next, Finset.sum_congr rfl fun other _ => more other, Finset.sum_add_distrib,
    Finset.sum_ite_eq' (Finset.range before.next) queue fun _ => amount,
    if_pos (Finset.mem_range.mpr known)]

theorem put_pending_anywhere {queue : QueueId} (known : queue < world.next) (other : Tag) :
    pendingAnywhere other (world.put queue tag) =
      pendingAnywhere other world + if tag = other then 1 else 0 := by
  refine pending_grows rfl known fun one => ?_
  rw [put_pending]
  by_cases here : one = queue
  · subst here
    simp only [↓reduceIte, List.count_cons, beq_iff_eq]
  · rw [if_neg here, if_neg here, Nat.add_zero]

theorem take_pending_anywhere {queue : QueueId} (known : queue < world.next)
    (pends : tag ∈ world.pending queue) (other : Tag) :
    pendingAnywhere other world =
      pendingAnywhere other (world.take queue tag) + if tag = other then 1 else 0 := by
  refine @pending_grows other (world.take queue tag) world queue _ rfl known fun one => ?_
  rw [take_pending]
  by_cases here : one = queue
  · subst here
    have more := (List.perm_cons_erase pends).count_eq other
    simp only [↓reduceIte, more, List.count_cons, beq_iff_eq]
  · rw [if_neg here, if_neg here, Nat.add_zero]

namespace Kept

theorem note (kept : Kept world) {event : Event} (noStart : ∀ tag, starts tag event = false)
    (noHandOut : ∀ tag, handsOut tag event = false) : Kept (world.note event) := by
  have started : ∀ tag, started tag (world.note event) = started tag world := fun tag =>
    List.countP_cons_of_neg (by simp [noStart tag])
  have handedOut : ∀ tag, handedOut tag (world.note event) = handedOut tag world := fun tag =>
    List.countP_cons_of_neg (by simp [noHandOut tag])
  exact {
    balance := fun tag => by
      rw [started, handedOut]
      exact kept.balance tag
    once := fun origin id => by
      rw [started]
      exact kept.once origin id
    connection := kept.connection
    readers := kept.readers
    beyond := kept.beyond
    fresh := fun origin id later => by
      rw [started]
      exact kept.fresh origin id later }

/-- A change that starts nothing and hands nothing out. -/
theorem aside (kept : Kept world) {after : World}
    (pending : ∀ queue, after.pending queue = world.pending queue)
    (next : after.next = world.next) (log : after.log = world.log)
    (connection : ∀ unary, after.queueOf unary < world.next)
    (readers : ∀ kind queue, (after.state kind).updateReader = some queue → queue < world.next) :
    Kept after where
  balance tag := by
    have same : pendingAnywhere tag after = pendingAnywhere tag world := by
      simp only [pendingAnywhere, next, pending]
    rw [started, handedOut, log, same]
    exact kept.balance tag
  once origin id := by
    rw [started, log]
    exact kept.once origin id
  connection unary := next ▸ connection unary
  readers kind queue reader := next ▸ readers kind queue reader
  beyond queue later := by
    rw [pending]
    exact kept.beyond queue (next ▸ later)
  fresh origin id later := by
    rw [started, log]
    exact kept.fresh origin id (next ▸ later)

/-- A number is given out. -/
theorem counted (kept : Kept world) :
    Kept { world with next := world.next + 1 } where
  balance tag := by
    have nothing : (world.pending world.next).count tag = 0 := by
      rw [kept.beyond world.next (Nat.le_refl _), List.count_nil]
    have grown : pendingAnywhere tag ({ world with next := world.next + 1 } : World) =
        pendingAnywhere tag world := by
      unfold pendingAnywhere
      rw [Finset.sum_range_succ]
      exact (congrArg _ nothing).trans (Nat.add_zero _)
    rw [grown]
    exact kept.balance tag
  once := kept.once
  connection unary := Nat.lt_succ_of_lt (kept.connection unary)
  readers kind queue reader := Nat.lt_succ_of_lt (kept.readers kind queue reader)
  beyond queue later := kept.beyond queue (Nat.le_of_succ_le later)
  fresh origin id later := kept.fresh origin id (Nat.le_of_succ_le later)

/-- An operation is started on a queue that exists. A unary call has a number that
was not used before. -/
theorem put (kept : Kept world) {queue : QueueId} (known : queue < world.next)
    (unused : ∀ origin id, tag = .unary origin id → started tag world = 0 ∧ id < world.next) :
    Kept (world.put queue tag) := by
  have startedOwn : started tag (world.put queue tag) = started tag world + 1 :=
    List.countP_cons_of_pos (by simp [starts])
  have startedOther : ∀ other, other ≠ tag →
      started other (world.put queue tag) = started other world := fun other differs =>
    List.countP_cons_of_neg (by simp [starts, differs.symm])
  have handed : ∀ other, handedOut other (world.put queue tag) = handedOut other world :=
    fun other => List.countP_cons_of_neg (by simp [handsOut])
  exact {
    balance := fun other => by
      have balance := kept.balance other
      have pending := @put_pending_anywhere world tag queue known other
      rw [handed]
      by_cases own : tag = other
      · subst own
        rw [if_pos rfl] at pending
        omega
      · rw [if_neg own] at pending
        rw [startedOther other (Ne.symm own)]
        omega
    once := fun origin id => by
      by_cases own : Tag.unary origin id = tag
      · rw [own, startedOwn, (unused origin id own.symm).1]
      · rw [startedOther _ own]
        exact kept.once origin id
    connection := kept.connection
    readers := kept.readers
    beyond := fun one later => by
      rw [put_pending, if_neg (by
        rintro rfl
        exact absurd known (Nat.not_lt.mpr later))]
      exact kept.beyond one later
    fresh := fun origin id later => by
      rw [startedOther]
      · exact kept.fresh origin id later
      · rintro own
        exact absurd (unused origin id own.symm).2 (Nat.not_lt.mpr later) }

/-- A pending operation is taken off its queue, and that is logged. -/
theorem handOut (kept : Kept world) {queue : QueueId} (known : queue < world.next)
    (pends : tag ∈ world.pending queue) {event : Event} (noStart : ∀ other, starts other event = false)
    (own : handsOut tag event = true) (others : ∀ other, other ≠ tag → handsOut other event = false) :
    Kept ((world.take queue tag).note event) := by
  have same : ∀ other, started other ((world.take queue tag).note event) = started other world :=
    fun other => List.countP_cons_of_neg (by simp [noStart other])
  exact {
    balance := fun other => by
      rw [same]
      have balance := kept.balance other
      have pending := take_pending_anywhere known pends other
      change started other world = handedOut other _ + pendingAnywhere other (world.take queue tag)
      by_cases isTag : tag = other
      · subst isTag
        have handed : handedOut tag ((world.take queue tag).note event) =
            handedOut tag world + 1 := List.countP_cons_of_pos own
        rw [if_pos rfl] at pending
        omega
      · have handed : handedOut other ((world.take queue tag).note event) = handedOut other world :=
          List.countP_cons_of_neg (by simp [others other (Ne.symm isTag)])
        rw [if_neg isTag] at pending
        omega
    once := fun origin id => by
      rw [same]
      exact kept.once origin id
    connection := kept.connection
    readers := kept.readers
    beyond := fun one later => by
      change (world.take queue tag).pending one = []
      rw [take_pending, if_neg (by
        rintro rfl
        exact absurd known (Nat.not_lt.mpr later))]
      exact kept.beyond one later
    fresh := fun origin id later => by
      rw [same]
      exact kept.fresh origin id later }

end Kept

/-! ## The manager keeps its books -/

/-- A stream client gets another state; its reader, if any, exists. -/
theorem Kept.setClient (kept : Kept world) (kind : StreamKind) (client : StreamClient kind)
    (reader : ∀ queue, client.state.updateReader = some queue → queue < world.next) :
    Kept (world.setClient kind client) := by
  refine kept.aside (fun _ => rfl) rfl rfl kept.connection fun other queue => ?_
  by_cases own : other = kind
  · subst own
    simpa [World.setClient, World.state] using reader queue
  · simpa [World.setClient, World.state, own] using kept.readers other queue

theorem Kept.setState (kept : Kept world) (kind : StreamKind)
    (change : StreamState kind → StreamState kind)
    (reader : ∀ state, (change state).updateReader = state.updateReader) :
    Kept (world.setState kind change) :=
  kept.setClient kind _ fun queue own => kept.readers kind queue ((reader _).symm.trans own)

/-- A queue that was just made has nothing pending, as its number had before. -/
theorem Kept.renew (kept : Kept world) (connection : IVIConnection)
    (streamKnown : connection.streamQueue < world.next + 1)
    (unaryKnown : connection.unaryQueue < world.next + 1) :
    Kept { (({ world with next := world.next + 1 } : World).setQueue world.next {}) with
      connection := connection } := by
  refine kept.counted.aside (fun queue => ?_) rfl rfl (fun unary => ?_) kept.counted.readers
  · change (World.setQueue _ world.next {}).pending queue = _
    rw [new_queue_pending]
    split
    · next here => exact (here ▸ kept.beyond world.next (Nat.le_refl _)).symm
    · rfl
  · cases unary with
    | true => exact unaryKnown
    | false => exact streamKnown

theorem ledger_steps (env : Env) : StepsKept env Kept where
  note event world routine kept := by
    refine kept.note (fun tag => ?_) fun tag => ?_
    · cases event with
      | started => exact routine.elim
      | _ => rfl
    · cases event with
      | delivered => exact routine.elim
      | collected => exact routine.elim
      | _ => rfl
  state kind change world _ reader kept := kept.setState kind change reader
  reader kind world kept := by
    refine kept.setClient kind _ fun queue own => ?_
    cases own
    exact kept.connection false
  client kind callback world kept :=
    kept.counted.setClient kind _ fun queue never => nomatch never
  counted stubs world kept :=
    kept.counted.aside (fun _ => rfl) rfl rfl kept.counted.connection kept.counted.readers
  renewUnary world kept :=
    kept.renew _ (Nat.lt_succ_of_lt (kept.connection false)) (Nat.lt_succ_self _)
  renewStream world kept :=
    kept.renew _ (Nat.lt_succ_self _) (Nat.lt_succ_of_lt (kept.connection true))
  starts kind slot queue world reader kept :=
    kept.put (kept.readers kind queue reader) fun _ _ never => nomatch never
  calls origin world kept := by
    refine kept.counted.put (Nat.lt_succ_of_lt (kept.connection true)) fun other id own => ?_
    cases own
    exact ⟨kept.fresh origin world.next (Nat.le_refl _), Nat.lt_succ_self _⟩
  delivers unary completion world pends kept := by
    have handed := @Kept.handOut world completion.tag kept _ (kept.connection unary) pends
      (.delivered unary completion world.streamShut world.unaryShut) (fun _ => rfl)
      (by simp [handsOut]) fun other differs => by simp [handsOut, Ne.symm differs]
    refine deliver_rule unary completion world Kept handed fun kind received after kept _ => ?_
    exact (kept.setState kind ({ · with updateResponse := received.message }) fun _ => rfl).note
      (fun _ => rfl) fun _ => rfl
  completes completion status world _ _ kept :=
    kept.note (fun _ => rfl) fun _ => rfl
  collects unary tag world pends kept :=
    kept.handOut (kept.connection unary) pends (fun _ => rfl) (by simp [handsOut])
      fun other differs => by simp [handsOut, Ne.symm differs]
  shuts unary world kept := by
    have shut : Kept (world.setQueue (world.queueOf unary)
        { world.queues (world.queueOf unary) with shut := true }) :=
      kept.aside (shutdown_pending world (world.queueOf unary)) rfl rfl kept.connection kept.readers
    exact @Kept.note _ shut (.shutdown (world.queueOf unary)) (fun _ => rfl) fun _ => rfl

theorem before_kept (connection : IVIConnection) : Kept (World.before connection) where
  balance tag := by
    have nothing : pendingAnywhere tag (World.before connection) = 0 :=
      Finset.sum_eq_zero fun _ _ => rfl
    rw [nothing]
    rfl
  once _ _ := Nat.zero_le _
  connection unary := by
    cases unary with
    | true => exact Nat.lt_succ_of_le (Nat.le_max_right _ _)
    | false => exact Nat.lt_succ_of_le (Nat.le_max_left _ _)
  readers _ _ never := nomatch never
  beyond _ _ := rfl
  fresh _ _ _ := rfl

/-- The balance of the log and the queues: each tag was handed out by the polls and
the destructor and pends as often as it was started. -/
theorem operations_conserved (env : Env) (connection : IVIConnection)
    (callbacks : IVIStreamCallbacks) : Always env connection callbacks Conserved :=
  always_of_steps (ledger_steps env) (before_kept connection) fun _ kept => kept.toConserved

/-! ## Until the destructor -/

/-- No tag was taken off a queue undispatched: only the destructor does that. -/
def Uncollected (world : World) : Prop := ∀ unary tag, .collected unary tag ∉ world.log

theorem Uncollected.note (uncollected : Uncollected world) {event : Event}
    (other : ∀ unary tag, event ≠ .collected unary tag) : Uncollected (world.note event) := by
  intro unary tag member
  rcases List.mem_cons.mp member with same | earlier
  · exact other unary tag same.symm
  · exact uncollected unary tag earlier

theorem uncollected_steps (env : Env) : ActionStepsKept env Uncollected where
  note event world routine uncollected := uncollected.note fun unary tag same => by
    subst same
    exact routine
  state _ _ _ _ _ uncollected := uncollected
  reader _ _ uncollected := uncollected
  client _ _ _ uncollected := uncollected
  counted _ _ uncollected := uncollected
  renewUnary _ uncollected := uncollected
  renewStream _ uncollected := uncollected
  starts kind slot queue world _ uncollected :=
    @Uncollected.note world uncollected (.started queue _ (world.tagOf kind slot))
      fun _ _ never => Event.noConfusion never
  calls _ world uncollected :=
    @Uncollected.note world uncollected _ fun _ _ never => Event.noConfusion never
  delivers unary completion world _ uncollected := by
    refine deliver_rule unary completion world Uncollected ?_ fun _ _ _ kept _ => ?_
    · exact @Uncollected.note world uncollected _ fun _ _ never => Event.noConfusion never
    · exact Uncollected.note kept fun _ _ never => Event.noConfusion never
  completes _ _ _ _ _ uncollected :=
    uncollected.note fun _ _ never => Event.noConfusion never
  shuts _ world uncollected :=
    @Uncollected.note world uncollected _ fun _ _ never => Event.noConfusion never

theorem alive_uncollected (env : Env) (connection : IVIConnection)
    (callbacks : IVIStreamCallbacks) : WhileAlive env connection callbacks Uncollected :=
  while_alive_of_steps (uncollected_steps env) fun _ _ => List.not_mem_nil

end IviSdk.OperationLedger
