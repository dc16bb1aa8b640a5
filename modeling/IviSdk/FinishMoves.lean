import Mathlib.Logic.Relation
import IviSdk.DefinedRuns
import IviSdk.FinishProtocol

/-!
The clients of a manager under any order of calls, completions and shutdowns.
Each call of `Finish` brings a client one level nearer to its end, nothing takes
it back, and no call and no completion reaches for a reader that is not there.
-/

namespace IviSdk.FinishMoves

open Checks CompletionQueues Streams ManagerWorld Interaction StreamClients ClientManager
open CallbackRules PollRules ManagerRuns QueueWiring DefinedRuns FinishProtocol

variable {kind : StreamKind} {before after start world : World}

/-! ## Any order of calls and completions -/

/-- What can happen to the clients of a manager: a call by whoever calls it, a
completion with what its callback does, a tag that is thrown away, a shutdown. -/
inductive Move where
  | call (origin : Origin) (call : ApiCall)
  | event (unary : Bool) (completion : Completion)
  | collect (unary : Bool) (tag : Tag)
  | shutdown (unary : Bool)

def Move.run (env : Env) : Move → Manager Unit
  | .call origin asked => apiCall env origin asked
  | .event unary completion => processEvent (grpc env) unary completion
  | .collect unary tag => ClientManager.collect (grpc env) unary tag
  | .shutdown unary => shutdownQueue unary

/-- A move that came back, perhaps with an exception. -/
def Moved (env : Env) (before after : World) : Prop :=
  ∃ move, Move.run env move before = .returned () after ∨
    Move.run env move before = .stopped .threw after

abbrev Moves (env : Env) : World → World → Prop := Relation.ReflTransGen (Moved env)

/-- What every move keeps, however it comes back, holds at the end of any. -/
theorem moves_keep {env : Env} {kept : World → Prop} {abrupt : Halt → World → Prop}
    (step : ∀ move, Keeps kept abrupt (Move.run env move))
    (resumes : ∀ world, abrupt .threw world → kept world) (moves : Moves env before after)
    (holds : kept before) : kept after := by
  induction moves with
  | refl => exact holds
  | tail _ moved ih =>
      obtain ⟨move, returned | threw⟩ := moved
      · exact wp_returned (step move _ ih) returned
      · exact resumes _ (wp_stopped (step move _ ih) threw)

theorem move_protocol (env : Env) (move : Move) :
    Keeps (Protocol kind) (fun _ => Protocol kind) (Move.run env move) := by
  cases move with
  | call origin call => exact call_protocol env origin call
  | event unary completion => exact event_protocol env unary completion
  | collect unary tag => exact collect_protocol (grpc env) unary tag
  | shutdown unary =>
      exact fun world protocol => protocol.aside ((Aside.refl kind world).shutdown _)

/-! ## Progress -/

/-- A call of `Finish` on the client, from wherever. -/
def finishCall (kind : StreamKind) : Event → Bool
  | .called (.finish other) _ => decide (other = kind)
  | _ => false

def finishCalls (kind : StreamKind) (world : World) : Nat := world.log.countP (finishCall kind)

/-- How near the client is to its end. -/
def level (kind : StreamKind) (world : World) : Nat :=
  if (world.state kind).finishResponded then 2
  else if (world.state kind).finishCalled then 1
  else 0

/-- No flag was taken back, and each call of `Finish` counted. -/
structure Later (kind : StreamKind) (before after : World) : Prop where
  calls : finishCalls kind before ≤ finishCalls kind after
  called : (before.state kind).finishCalled = true → (after.state kind).finishCalled = true
  progress : min 2 (level kind before + (finishCalls kind after - finishCalls kind before)) ≤
    level kind after

theorem level_mono
    (called : (before.state kind).finishCalled = true → (after.state kind).finishCalled = true)
    (responded : (before.state kind).finishResponded = true →
      (after.state kind).finishResponded = true) : level kind before ≤ level kind after := by
  unfold level
  cases wasResponded : (before.state kind).finishResponded with
  | true => simp [responded wasResponded]
  | false =>
      cases wasCalled : (before.state kind).finishCalled with
      | true =>
          rw [called wasCalled]
          cases (after.state kind).finishResponded <;> simp
      | false => simp

namespace Later

theorem refl (kind : StreamKind) (world : World) : Later kind world world :=
  ⟨Nat.le_refl _, id, by omega⟩

/-- A change that is no call of `Finish` and takes no flag back. -/
theorem grow (later : Later kind start before)
    (calls : finishCalls kind after = finishCalls kind before)
    (called : (before.state kind).finishCalled = true → (after.state kind).finishCalled = true)
    (responded : (before.state kind).finishResponded = true →
      (after.state kind).finishResponded = true) : Later kind start after where
  calls := by
    rw [calls]
    exact later.calls
  called was := called (later.called was)
  progress := by
    rw [calls]
    exact Nat.le_trans later.progress (level_mono called responded)

theorem note (later : Later kind start world) {event : Event}
    (other : finishCall kind event = false) : Later kind start (world.note event) :=
  later.grow (List.countP_cons_of_neg (by simp [other])) id id

theorem setState (later : Later kind start world) (other : StreamKind)
    (change : StreamState other → StreamState other)
    (called : ∀ state, state.finishCalled = true → (change state).finishCalled = true)
    (responded : ∀ state, state.finishResponded = true →
      (change state).finishResponded = true) : Later kind start (world.setState other change) := by
  by_cases own : kind = other
  · subst other
    refine later.grow rfl ?_ ?_
    · rw [set_state_same]
      exact called _
    · rw [set_state_same]
      exact responded _
  · have same := set_state_other world other change kind own
    refine later.grow rfl ?_ ?_
    · rw [World.state, World.state, same]
      exact id
    · rw [World.state, World.state, same]
      exact id

theorem put (later : Later kind start world) (queue : QueueId) (tag : Tag) :
    Later kind start (world.put queue tag) :=
  later.grow (List.countP_cons_of_neg (by simp [finishCall])) id id

theorem allocate (later : Later kind start world) (origin : Origin) :
    Later kind start (allocate origin world) :=
  later.grow (List.countP_cons_of_neg (by simp [finishCall])) id id

theorem take (later : Later kind start world) (queue : QueueId) (tag : Tag) :
    Later kind start (world.take queue tag) :=
  later.grow rfl id id

theorem shutdown (later : Later kind start world) (queue : QueueId) :
    Later kind start (world.shutdown queue) :=
  later.grow (List.countP_cons_of_neg (by simp [finishCall])) id id

end Later

/-- A null reader would be the end of the program. -/
def UnlessUndefined (kept : World → Prop) (reason : Halt) (world : World) : Prop :=
  reason ≠ .undefined → kept world

theorem finish_later (start : World) (kind other : StreamKind) :
    Keeps (Later kind start) (UnlessUndefined (Later kind start)) (finish other) := by
  intro world later
  apply finish_rule other
  · exact fun _ => later
  · intro _ _
    exact (later.note rfl).setState other _ (fun _ => id) fun _ _ => rfl
  · intro _ queue _
    exact (later.put queue _).setState other _ (fun _ _ => rfl) fun _ => id
  · exact fun _ _ never => absurd rfl never

/-- One call of `Finish` is one level. -/
theorem finish_raises (kind : StreamKind) (world : World) :
    wp (finish kind)
      (fun _ after => finishCalls kind after = finishCalls kind world ∧
        min 2 (level kind world + 1) ≤ level kind after)
      (fun reason _ => reason = .undefined) world := by
  apply finish_rule kind
  · intro responded
    have ended : level kind world = 2 := by simp [level, responded]
    refine ⟨rfl, ?_⟩
    omega
  · intro _ _
    refine ⟨List.countP_cons_of_neg (by simp [finishCall]), ?_⟩
    have ended : level kind ((world.note (.tryCancel kind (world.state kind).subscription)).setState
        kind ({ · with finishResponded := true })) = 2 := by
      simp only [level, set_state_same, ↓reduceIte]
    omega
  · intro asking queue _
    have running : level kind world = 0 := by simp [level, asking.unanswered, asking.uncalled]
    refine ⟨List.countP_cons_of_neg (by simp [finishCall]), ?_⟩
    have called : 1 ≤ level kind ((world.put queue (world.tagOf kind .finish)).setState kind
        ({ · with finishCalled := true })) := by
      simp only [level, set_state_same, ↓reduceIte]
      split <;> omega
    omega
  · exact fun _ _ => rfl

theorem call_later (env : Env) (origin : Origin) (call : ApiCall) (start : World) :
    Keeps (Later kind start) (UnlessUndefined (Later kind start)) (apiCall env origin call) := by
  intro world later
  apply api_call_rule env origin call
  · rintro client rfl
    exact (later.note rfl).allocate origin
  · rintro other arguments rfl value
    exact ((later.note rfl).note rfl).allocate .confirm
  · rintro other rfl
    by_cases own : other = kind
    · subst other
      have counted : finishCalls kind (world.note (.called (.finish kind) world.unaryShut)) =
          finishCalls kind world + 1 := List.countP_cons_of_pos (by simp [finishCall])
      have same : level kind (world.note (.called (.finish kind) world.unaryShut)) =
          level kind world := rfl
      refine wp_mono (wp_and (finish_later _ kind kind _ (Later.refl kind _))
        (finish_raises kind _)) ?_ fun _ _ stopped defined => absurd stopped.2 defined
      rintro _ after ⟨since, called, raised⟩
      have earlier := later.calls
      have progress := later.progress
      refine ⟨?_, fun was => since.called (later.called was), ?_⟩
      · omega
      · omega
    · exact finish_later start kind other _ (later.note (by simp [finishCall, own]))

theorem dispatch_later (env : Env) (completion : Completion) (start : World) :
    DispatchKept env anyManners completion (Later kind start)
      (UnlessUndefined (Later kind start)) where
  threw _ _ later _ := later
  exited _ later _ := later
  undefined _ _ never := absurd rfl never
  call call _ := call_later env .nested call start
  update _ _ _ _ _ _ _ later := later.note rfl
  completed _ _ _ _ later := later.note rfl
  startReceived stream _ _ _ _ later := later.setState stream _ (fun _ => id) fun _ => id
  initMetadataReceived stream _ _ _ _ later := later.setState stream _ (fun _ => id) fun _ => id
  finishResponded stream _ _ _ _ later := later.setState stream _ (fun _ => id) fun _ _ => rfl
  confirms _ _ _ _ _ _ _ later := later.allocate .confirm
  reads _ _ _ _ _ _ _ later _ := later.put _ _

theorem event_later (runtime : Runtime) (unary : Bool) (completion : Completion) (start : World) :
    Keeps (Later kind start) (UnlessUndefined (Later kind start))
      (processEvent runtime unary completion) := by
  intro world later
  refine event_keeps (dispatch_later runtime.toEnv completion start) (any_manners_allow completion)
    (fun _ => later) (fun _ => ?_) fun _ later => later.note rfl
  refine deliver_rule unary completion world (Later kind start) ((later.take _ _).note rfl) ?_
  exact fun stream received after later _ =>
    (later.setState stream ({ · with updateResponse := received.message }) (fun _ => id)
      fun _ => id).note rfl

theorem move_later (env : Env) (start : World) (move : Move) :
    Keeps (Later kind start) (UnlessUndefined (Later kind start)) (Move.run env move) := by
  cases move with
  | call origin call => exact call_later env origin call start
  | event unary completion => exact event_later (grpc env) unary completion start
  | collect unary tag =>
      intro world later
      refine wp_collect (grpc env) unary tag (fun _ => later) fun _ => ?_
      exact keeps_only_if (fun _ after later => later.note rfl) _ ((later.take _ _).note rfl)
  | shutdown unary => exact fun world later => later.shutdown _

theorem moves_later {env : Env} (moves : Moves env before after) (kind : StreamKind) :
    Later kind before after :=
  moves_keep (move_later env before) (fun _ threw => threw fun same => Halt.noConfusion same) moves
    (Later.refl kind before)

theorem finished_of_level (high : 2 ≤ level kind world) : isFinished world kind = true := by
  unfold isFinished
  cases ended : (world.state kind).finishResponded with
  | true => rfl
  | false =>
      have below : level kind world ≤ 1 := by
        simp only [level, ended, Bool.false_eq_true, ↓reduceIte]
        split <;> omega
      omega

theorem Later.finished (later : Later kind before after) (was : isFinished before kind = true) :
    isFinished after kind = true := by
  have progress := later.progress
  have full : level kind before = 2 := by
    simp only [level, show (before.state kind).finishResponded = true from was, ↓reduceIte]
  exact finished_of_level (by omega)

/-- Two calls are enough. -/
theorem Later.twice (later : Later kind before after)
    (twice : finishCalls kind before + 2 ≤ finishCalls kind after) :
    isFinished after kind = true := by
  have progress := later.progress
  exact finished_of_level (by omega)

/-! ## No tag of another subscription -/

theorem finish_none_stale (other : StreamKind) :
    Keeps (NoneStale kind) (fun _ => NoneStale kind) (finish other) := by
  intro world current
  apply finish_rule other
  · exact fun _ => current
  · intro _ _
    exact (current.note _).setState other _ fun _ => rfl
  · intro _ queue _
    exact (current.putOwn queue other .finish).setState other _ fun _ => rfl
  · exact fun _ _ => current

theorem call_none_stale (env : Env) (origin : Origin) (call : ApiCall) :
    Keeps (NoneStale kind) (fun _ => NoneStale kind) (apiCall env origin call) := by
  intro world current
  have called := current.note (.called call world.unaryShut)
  apply api_call_rule env origin call
  · exact fun _ _ => called.allocate origin
  · exact fun _ _ _ _ => (called.note _).allocate .confirm
  · exact fun other _ => finish_none_stale other _ called

theorem dispatch_none_stale (env : Env) (completion : Completion) :
    DispatchKept env anyManners completion (NoneStale kind) (fun _ => NoneStale kind) where
  threw _ _ current := current
  exited _ current := current
  undefined _ current := current
  call call _ := call_none_stale env .nested call
  update _ _ _ _ _ _ _ current := current
  completed _ _ _ _ current := current
  startReceived stream _ _ _ _ current := current.setState stream _ fun _ => rfl
  initMetadataReceived stream _ _ _ _ current := current.setState stream _ fun _ => rfl
  finishResponded stream _ _ _ _ current := current.setState stream _ fun _ => rfl
  confirms _ _ _ _ _ _ _ current := current.allocate .confirm
  reads stream _ _ _ _ queue _ current _ := current.putOwn queue stream .read

theorem move_none_stale (env : Env) (move : Move) :
    Keeps (NoneStale kind) (fun _ => NoneStale kind) (Move.run env move) := by
  have taken : ∀ queue tag world, NoneStale kind world → NoneStale kind (world.take queue tag) :=
    fun queue tag world current => current.aside ((Aside.refl kind world).take queue tag)
  cases move with
  | call origin call => exact call_none_stale env origin call
  | event unary completion =>
      intro world current
      refine event_keeps (dispatch_none_stale env completion) (any_manners_allow completion) current
        (fun _ => ?_) fun _ current => current
      refine deliver_rule unary completion world (NoneStale kind) (taken _ _ world current) ?_
      exact fun stream received after current _ =>
        current.setState stream ({ · with updateResponse := received.message }) fun _ => rfl
  | collect unary tag =>
      intro world current
      refine wp_collect (grpc env) unary tag current fun _ => ?_
      exact keeps_only_if (fun _ _ current => current) _ (taken _ _ world current)
  | shutdown unary =>
      exact fun world current => current.aside ((Aside.refl kind world).shutdown _)

/-! ## Definedness -/

/-- Every client of the manager follows the protocol, and no tag outlived its
subscription. -/
def Sound (world : World) : Prop := ∀ kind, Protocol kind world ∧ NoneStale kind world

/-- A call of `Finish` always returns. -/
theorem finish_returns (env : Env) (origin : Origin) (kind : StreamKind)
    (protocol : Protocol kind world) :
    wp (apiCall env origin (.finish kind)) (fun _ _ => True) (fun _ _ => False) world := by
  simp only [apiCall, wp_bind, wp_modify]
  have called : Protocol kind (world.note (.called (.finish kind) world.unaryShut)) :=
    protocol.aside ((Aside.refl kind world).note fun _ => rfl)
  exact wp_then (finish_own kind _ called) fun _ _ _ => trivial

theorem call_defined (env : Env) (origin : Origin) (call : ApiCall)
    (protocols : ∀ kind, Protocol kind world) :
    wp (apiCall env origin call) (fun _ _ => True) (fun _ _ => False) world := by
  cases call with
  | request client => exact trivial
  | confirm other arguments => exact trivial
  | finish other => exact finish_returns env origin other (protocols other)

/-- The calls of a callback leave every client in the protocol, and return. -/
theorem nested_call_defined (env : Env) (call : ApiCall) :
    Keeps (fun world => ∀ kind, Protocol kind world) Defined (apiCall env .nested call) := by
  intro world protocols
  refine wp_mono (wp_and (call_defined env .nested call protocols)
    (wp_forall fun kind => call_protocol env .nested call world (protocols kind))) ?_ ?_
  · exact fun _ _ both => both.2
  · exact fun _ _ both => both.1.elim

/-- A message is read again through the reader it came from. -/
theorem protocols_keep_reader (env : Env)
    (subscribed : (world.streams kind).callback.isSome = true) :
    KeepsReader env kind
      (fun after => (∀ kind, Protocol kind after) ∧ Frame world after) where
  noted _ _ after both :=
    ⟨fun kind => (both.1 kind).aside ((Aside.refl kind after).note fun _ => rfl), both.2.note _⟩
  called call after both := wp_mono
    (wp_and (nested_call_defined env call after both.1)
      (api_call_frame env world .nested call after both.2))
    (fun _ _ kept => kept) fun _ _ stopped => stopped.1
  confirmed after both :=
    ⟨fun kind => (both.1 kind).aside ((Aside.refl kind after).allocate .confirm), both.2.allocate _⟩
  reader after both missing := by
    rw [← both.2.callbacks kind] at subscribed
    rw [(both.1 kind).placed.reading subscribed] at missing
    cases missing

theorem pending_stream_defined (env : Env) (unary : Bool) (received : StreamCompletion kind)
    (sound : Sound world)
    (pends : Tag.stream kind received.subscription received.slot ∈
      world.pending (world.queueOf unary)) :
    wp (dispatchStream env kind received) (fun _ _ => True) Defined
      (world.deliver unary (.stream kind received)) := by
  have current := (sound kind).2 _ _ _ pends
  have framed := deliver_frame unary (.stream kind received) world
  rw [current] at pends
  have subscribed := ((sound kind).1.placed.tags _ _ pends).2
  rw [← framed.callbacks kind] at subscribed
  refine dispatch_stream_defined (protocols_keep_reader env subscribed) received
    (current.trans (framed.subscriptions kind).symm) fun slot => ⟨fun other => ?_, Frame.refl _⟩
  refine (sound other).1.aside (deliver_aside unary _ world ?_)
  rintro again same
  cases same
  rw [slot]
  exact Slot.noConfusion

theorem dispatch_unary_defined (env : Env) (completion : UnaryCompletion)
    (protocols : ∀ kind, Protocol kind world) :
    wp (dispatchUnary env completion) (fun _ _ => True) Defined world := by
  refine wp_then (dispatch_unary_rule (any_manners_allow (.unary completion)) Halt.noConfusion
    (fun _ => Halt.noConfusion) (fun status kind => ?_) (fun call _ => nested_call_defined env call)
    fun _ _ _ => Halt.noConfusion) fun _ _ _ => trivial
  exact (protocols kind).aside ((Aside.refl kind world).note fun _ => rfl)

/-- No move reaches for a reader that is not there. -/
theorem move_defined (env : Env) (move : Move) (sound : Sound world) :
    wp (Move.run env move) (fun _ _ => True) Defined world := by
  cases move with
  | call origin call =>
      exact wp_mono (call_defined env origin call fun kind => (sound kind).1)
        (fun _ _ _ => trivial) fun _ _ never => never.elim
  | event unary completion =>
      change wp (processEvent (grpc env) unary completion) _ _ world
      rw [processEvent, wp_bind]
      refine wp_async_next (grpc env) unary completion Halt.noConfusion fun admitted => ?_
      have pends := admitted_pending admitted
      rw [wp_bind]
      have dispatched : wp (dispatch env completion) (fun _ _ => True) Defined
          (world.deliver unary completion) := by
        cases completion with
        | stream kind received => exact pending_stream_defined env unary received sound pends
        | unary completion =>
            refine dispatch_unary_defined env completion fun kind => ?_
            exact (sound kind).1.aside (deliver_aside unary _ world fun _ => Completion.noConfusion)
      apply wp_then dispatched
      intro _ after _
      rw [wp_only_if]
      split <;> trivial
  | collect unary tag =>
      refine wp_collect (grpc env) unary tag Halt.noConfusion fun _ => ?_
      rw [wp_only_if]
      split <;> trivial
  | shutdown unary => exact trivial

theorem moves_sound {env : Env} (moves : Moves env before after) (sound : Sound before) :
    Sound after := by
  intro kind
  have protocol := moves_keep (move_protocol env) (fun _ protocol => protocol) moves (sound kind).1
  have current := moves_keep (move_none_stale env) (fun _ current => current) moves (sound kind).2
  exact ⟨protocol, current⟩

/-! ## The protocol of one client -/

/-- What the callers of `Finish` may rely on. -/
structure FinishOrdered (env : Env) (kind : StreamKind) (world : World) : Prop where
  ordered : SafeTrace (finishTrace kind (world.state kind).subscription world.log)
  returns : ∀ origin,
    wp (apiCall env origin (.finish kind)) (fun _ _ => True) (fun _ _ => False) world
  called : ∀ after, Moves env world after → (world.state kind).finishCalled = true →
    (after.state kind).finishCalled = true
  responded : ∀ after, Moves env world after → (world.state kind).finishResponded = true →
    (after.state kind).finishResponded = true
  twice : ∀ after, Moves env world after → finishCalls kind world + 2 ≤ finishCalls kind after →
    isFinished after kind = true

/-- And nothing that may happen next reaches for a null reader. -/
structure FinishSafe (env : Env) (kind : StreamKind) (world : World) : Prop
    extends FinishOrdered env kind world where
  defined : ∀ move,
    wp (Move.run env move) (fun _ _ => True) (fun reason _ => reason ≠ .undefined) world

theorem Protocol.ordered (env : Env) (protocol : Protocol kind world) :
    FinishOrdered env kind world where
  ordered := protocol_safe protocol
  returns origin := finish_returns env origin kind protocol
  called _ later := (moves_later later kind).called
  responded _ later := (moves_later later kind).finished
  twice _ later := (moves_later later kind).twice

/-- The manager keeps to the order through its recoveries and reconnections. -/
theorem reached_finish_ordered {env : Env} {connection : IVIConnection}
    {callbacks : IVIStreamCallbacks} {actions : List Action} {replies : List Reply}
    (reached : Reached (grpc env) connection callbacks actions replies world) (kind : StreamKind) :
    FinishOrdered env kind world :=
  Protocol.ordered env (reached_protocol reached kind)

theorem finish_protocol_safe (env : Env) (callbacks : IVIStreamCallbacks)
    (connection : IVIConnection) (first world : World)
    (constructed : construct env callbacks (World.before connection) = .returned () first)
    (moves : Moves env first world) (kind : StreamKind) : FinishSafe env kind world := by
  have start : Sound first := by
    intro kind
    have built := wp_returned (construct_protocol env callbacks connection kind) constructed
    exact built
  have sound := moves_sound moves start
  exact ⟨Protocol.ordered env (sound kind).1, fun move => move_defined env move sound⟩

/-- A client of item updates, and the same after a first `Finish`. -/
def newItems : World := (construct defaultEnv itemCallbacks (World.before newConnection)).world

def endedItems : World := (apiCall defaultEnv .direct (.finish .item) newItems).world

theorem ended_items_finish_safe : FinishSafe defaultEnv .item endedItems := by
  have built : construct defaultEnv itemCallbacks (World.before newConnection) =
      .returned () newItems := Outcome.eq_returned (by decide +kernel)
  have finished : Move.run defaultEnv (.call .direct (.finish .item)) newItems =
      .returned () endedItems := Outcome.eq_returned (by decide +kernel)
  exact finish_protocol_safe defaultEnv itemCallbacks newConnection newItems endedItems built
    (.single ⟨_, .inl finished⟩) .item

end IviSdk.FinishMoves
