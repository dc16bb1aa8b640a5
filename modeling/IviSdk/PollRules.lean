import IviSdk.CallbackRules

/-!
Rules for `Poll<Unary>`. A pass is a loop over the answers of a queue; a round
of `Finish` settles every stream client and nothing unsettles one, which is why
`Shutdown` of the stream queue finds all of them settled. A property that
survives one event, `Finish` and such a `Shutdown` survives `Poll<Unary>`.
-/

namespace IviSdk.PollRules

open Checks CompletionQueues Streams ManagerWorld Interaction StreamClients ClientManager
open CallbackRules

variable {kept : World → Prop} {abrupt : Halt → World → Prop} {manners : Manners}

/-! ## A pass over a queue -/

theorem wp_async_next {normal : Unit → World → Prop} {world : World} (runtime : Runtime)
    (unary : Bool) (completion : Completion)
    (waits : abrupt .waiting world)
    (answers :
      runtime.admits (world.queues (world.queueOf unary)) (.gotEvent completion.tag) = true →
      normal () (world.deliver unary completion)) :
    wp (asyncNext runtime unary completion) normal abrupt world := by
  unfold asyncNext wp
  by_cases admitted :
      runtime.admits (world.queues (world.queueOf unary)) (.gotEvent completion.tag) = true
  · simp only [admitted, ↓reduceIte]
    exact answers admitted
  · simp only [admitted, Bool.false_eq_true, ↓reduceIte]
    exact waits

theorem wp_async_next_admitted {normal : Unit → World → Prop} {world : World} {runtime : Runtime}
    {unary : Bool} {completion : Completion}
    (admitted : runtime.admits (world.queues (world.queueOf unary))
      (.gotEvent completion.tag) = true) :
    wp (asyncNext runtime unary completion) normal abrupt world ↔
      normal () (world.deliver unary completion) := by
  simp [asyncNext, wp, admitted]

/-- A queue with gRPC's rules hands out tags that pend on it. -/
theorem admitted_pending {env : Env} {unary : Bool} {completion : Completion} {world : World}
    (admitted : (grpc env).admits (world.queues (world.queueOf unary))
      (.gotEvent completion.tag) = true) :
    completion.tag ∈ world.pending (world.queueOf unary) :=
  (grpc_event_iff _ _).mp admitted

/-- A tag that does not pend is not handed out. -/
theorem absent_event {env : Env} {unary : Bool} {completion : Completion} {world : World}
    {normal : Unit → World → Prop}
    (absent : completion.tag ∉ world.pending (world.queueOf unary))
    (waits : abrupt .waiting world) :
    wp (processEvent (grpc env) unary completion) normal abrupt world := by
  rw [processEvent, wp_bind]
  refine wp_async_next (grpc env) unary completion waits fun admitted => ?_
  exact absurd (admitted_pending admitted) absent

theorem wp_async_next_last {normal : NextStatus → World → Prop} {world : World}
    (runtime : Runtime) (unary : Bool) (last : Option NextStatus)
    (waits : abrupt .waiting world)
    (answers : ∀ status, runtime.admits (world.queues (world.queueOf unary)) status.answer = true →
      normal status world) :
    wp (asyncNextLast runtime unary last) normal abrupt world := by
  unfold asyncNextLast wp
  cases last with
  | none => exact waits
  | some status =>
      by_cases admitted :
          runtime.admits (world.queues (world.queueOf unary)) status.answer = true
      · simp only [admitted, ↓reduceIte]
        exact answers status admitted
      · simp only [admitted, Bool.false_eq_true, ↓reduceIte]
        exact waits

theorem async_next_last_tells (runtime : Runtime) (unary : Bool) (last : Option NextStatus)
    (world : World) :
    wp (asyncNextLast runtime unary last) (fun status after => last = some status ∧ after = world)
      (fun _ _ => True) world := by
  unfold asyncNextLast wp
  cases last with
  | none => trivial
  | some status =>
      by_cases admitted :
          runtime.admits (world.queues (world.queueOf unary)) status.answer = true
      · simp only [admitted, ↓reduceIte, and_self]
      · simp only [admitted, Bool.false_eq_true, ↓reduceIte]

theorem wp_collect {normal : Unit → World → Prop} {world : World} (runtime : Runtime)
    (unary : Bool) (tag : Tag) (waits : abrupt .waiting world)
    (answers : runtime.admits (world.queues (world.queueOf unary)) (.gotEvent tag) = true →
      wp (onlyIf unary (note (.deleted tag))) normal abrupt
        ((world.take (world.queueOf unary) tag).note (.collected unary tag))) :
    wp (collect runtime unary tag) normal abrupt world := by
  rw [collect, wp_bind]
  unfold asyncNextTag wp
  by_cases admitted : runtime.admits (world.queues (world.queueOf unary)) (.gotEvent tag) = true
  · simp only [admitted, ↓reduceIte]
    exact answers admitted
  · simp only [admitted, Bool.false_eq_true, ↓reduceIte]
    exact waits

/-- The loop of a pass, for a property that may depend on `callShutdown`. -/
theorem process_events_rule (runtime : Runtime) (unary : Bool) (kept : Bool → World → Prop)
    (events : List Completion)
    (step : ∀ completion ∈ events, ∀ callShutdown world, kept callShutdown world →
      wp (processEvent runtime unary completion)
        (fun _ => kept (callShutdown || !completion.ok)) abrupt world)
    (callShutdown : Bool) (world : World) (holds : kept callShutdown world) :
    wp (processEvents runtime unary events callShutdown) kept abrupt world := by
  induction events generalizing callShutdown world with
  | nil => exact holds
  | cons completion rest ih =>
      change wp (processEvent runtime unary completion >>= fun _ =>
        processEvents runtime unary rest (callShutdown || !completion.ok)) kept abrupt world
      rw [wp_bind]
      apply wp_then (step completion List.mem_cons_self callShutdown world holds)
      intro _ after holds
      exact ih (fun one member => step one (List.mem_cons_of_mem completion member)) _ after holds

/-- `callShutdown` tells whether a pass was handed a failed completion. -/
theorem process_events_saw (runtime : Runtime) (unary : Bool) (events : List Completion)
    (callShutdown : Bool) (world : World) :
    wp (processEvents runtime unary events callShutdown)
      (fun saw _ => saw = true ↔
        callShutdown = true ∨ ∃ completion ∈ events, completion.ok = false)
      (fun _ _ => True) world := by
  induction events generalizing callShutdown world with
  | nil => simp [processEvents]
  | cons completion rest ih =>
      simp only [processEvents, wp_bind]
      apply wp_partial (wp_true _ world)
      intro _ after _
      apply wp_partial (ih (callShutdown || !completion.ok) after)
      intro saw _ exact
      rw [exact]
      simp [or_assoc]

theorem process_queue_rule (runtime : Runtime) (unary : Bool) (kept : Bool → World → Prop)
    (pass : Pass)
    (waits : ∀ callShutdown world, kept callShutdown world → abrupt .waiting world)
    (step : ∀ completion ∈ pass.events, ∀ callShutdown world, kept callShutdown world →
      wp (processEvent runtime unary completion)
        (fun _ => kept (callShutdown || !completion.ok)) abrupt world)
    (world : World) (holds : kept false world) :
    wp (processQueue runtime unary pass)
      (fun polled after => kept polled.callShutdown after ∧
        runtime.admits (after.queues (after.queueOf unary)) polled.nextStatus.answer = true)
      abrupt world := by
  rw [processQueue, wp_bind]
  apply wp_then (process_events_rule runtime unary kept pass.events step false world holds)
  intro callShutdown after holds
  rw [wp_bind]
  exact wp_async_next_last runtime unary pass.last (waits callShutdown after holds)
    fun status admitted => ⟨holds, admitted⟩

/-- What every event of a pass keeps, the pass keeps. -/
theorem process_queue_lifts {runtime : Runtime} {unary : Bool} {pass : Pass}
    (waits : ∀ world, kept world → abrupt .waiting world)
    (event : ∀ completion ∈ pass.events,
      Keeps kept abrupt (processEvent runtime unary completion)) :
    Keeps kept abrupt (processQueue runtime unary pass) := by
  intro world holds
  exact wp_then (process_queue_rule runtime unary (fun _ => kept) pass (fun _ => waits)
    (fun completion member _ => event completion member) world holds) fun _ _ polled => polled.1

/-! ## Finish -/

/-- `Finish` was called on the stream client, or need not be. -/
def Settled (kind : StreamKind) (world : World) : Prop :=
  (world.state kind).finishCalled = true ∨ (world.state kind).finishResponded = true

theorem settled_set_state (kind other : StreamKind) (world : World)
    (change : StreamState kind → StreamState kind)
    (called : (world.state kind).finishCalled = true →
      (change (world.state kind)).finishCalled = true)
    (responded : (world.state kind).finishResponded = true →
      (change (world.state kind)).finishResponded = true)
    (settled : Settled other world) : Settled other (world.setState kind change) := by
  by_cases same : other = kind
  · subst other
    unfold Settled
    rw [set_state_same]
    exact settled.imp called responded
  · unfold Settled World.state
    rwa [set_state_other world kind change other same]

theorem finish_keeps_settled (kind other : StreamKind) :
    Keeps (Settled other) (fun _ => Settled other) (finish kind) := by
  intro world settled
  apply finish_rule kind
  · exact fun _ => settled
  · intro _ _
    exact settled_set_state kind other _ _ id (fun _ => rfl) settled
  · intro _ _ _
    exact settled_set_state kind other _ _ (fun _ => rfl) id settled
  · exact fun _ _ => settled

theorem finish_settles (kind : StreamKind) (world : World) :
    wp (finish kind) (fun _ => Settled kind) (fun _ _ => True) world := by
  apply finish_rule kind
  · exact .inr
  · intro _ _
    exact .inr (by rw [set_state_same])
  · intro _ _ _
    exact .inl (by rw [set_state_same])
  · exact fun _ _ => trivial

/-- What `Finish` does for its client, a round of it does for all of them. -/
theorem finish_stream_rule {base : World → Prop} {reached : StreamKind → World → Prop}
    (base_kept : ∀ kind, Keeps base (fun _ _ => True) (finish kind))
    (reached_kept : ∀ kind other, Keeps (reached other) (fun _ _ => True) (finish kind))
    (reaches : ∀ kind world, base world →
      wp (finish kind) (fun _ => reached kind) (fun _ _ => True) world)
    (world : World) (holds : base world) :
    wp finishStream (fun _ after => ∀ kind, reached kind after) (fun _ _ => True) world := by
  refine wp_each (fun done after => base after ∧ ∀ kind ∈ done, reached kind after) StreamKind.all
    world ⟨holds, by simp⟩ ?_ fun after both kind => both.2 kind (mem_all kind)
  rintro earlier kind later _ before ⟨holds, done⟩
  have kept : wp (finish kind) (fun _ after => ∀ other, reached other before → reached other after)
      (fun _ _ => True) before := by
    have each : ∀ other, wp (finish kind) (fun _ after => reached other before → reached other after)
        (fun _ _ => True) before := fun other => wp_imp (reached_kept kind other before)
    exact wp_partial (wp_forall each) fun _ _ all => all
  apply wp_partial (wp_and (wp_and (base_kept kind before holds) (reaches kind before holds)) kept)
  rintro _ after ⟨⟨holds, now⟩, kept⟩
  refine ⟨holds, fun other member => ?_⟩
  rcases List.mem_append.mp member with old | new
  · exact kept other (done other old)
  · rw [List.mem_singleton.mp new]
    exact now

theorem finish_stream_settles (world : World) :
    wp finishStream (fun _ after => ∀ kind, Settled kind after) (fun _ _ => True) world :=
  finish_stream_rule (fun kind world _ => wp_true (finish kind) world)
    (fun kind other => keeps_weaken (finish_keeps_settled kind other) fun _ _ _ => trivial)
    (fun kind world _ => finish_settles kind world) world trivial

/-! ## `Poll<Unary>` -/

def AllSettled (world : World) : Prop := ∀ kind, Settled kind world

theorem call_keeps_settled (env : Env) (origin : Origin) (call : ApiCall) :
    Keeps AllSettled (fun _ _ => True) (apiCall env origin call) := by
  intro world settled
  apply api_call_rule env origin call
  · exact fun _ _ => settled
  · exact fun _ _ _ _ => settled
  · intro kind _
    have kept := wp_forall fun other => finish_keeps_settled kind other
      (world.note (.called call world.unaryShut)) (settled other)
    exact wp_partial kept fun _ _ all => all

theorem settled_dispatch (env : Env) (manners : Manners) (completion : Completion) :
    DispatchKept env manners completion AllSettled (fun _ _ => True) where
  threw _ _ _ := trivial
  exited _ _ := trivial
  undefined _ _ := trivial
  call call _ := call_keeps_settled env .nested call
  update _ _ _ _ _ _ _ settled := settled
  completed _ _ _ _ settled := settled
  startReceived kind _ _ _ _ settled other :=
    settled_set_state kind other _ _ id id (settled other)
  initMetadataReceived kind _ _ _ _ settled other :=
    settled_set_state kind other _ _ id id (settled other)
  finishResponded kind _ _ _ _ settled other :=
    settled_set_state kind other _ _ id (fun _ => rfl) (settled other)
  confirms _ _ _ _ _ _ _ settled := settled
  reads _ _ _ _ _ _ _ settled _ := settled

theorem deliver_announces (unary : Bool) (completion : Completion) (world : World) :
    Announced completion (world.deliver unary completion) := by
  refine ⟨unary, ?_⟩
  unfold World.deliver World.fillBuffer
  split
  · split
    · simp [World.streamShut, World.unaryShut]
    · simp [World.streamShut, World.unaryShut]
  · simp [World.streamShut, World.unaryShut]

/-- A property of the world's stream clients, queues and log that the delivery of
a tag keeps when each of its parts does. -/
theorem deliver_rule (unary : Bool) (completion : Completion) (world : World)
    (kept : World → Prop)
    (taken : kept ((world.take (world.queueOf unary) completion.tag).note
      (.delivered unary completion world.streamShut world.unaryShut)))
    (filled : ∀ kind (received : StreamCompletion kind) after, kept after →
      received.subscription = (after.state kind).subscription →
      kept ((after.setState kind ({ · with updateResponse := received.message })).note
        (.update kind received.subscription (.received received.message)))) :
    kept (world.deliver unary completion) := by
  unfold World.deliver World.fillBuffer
  split
  · next kind received =>
      split
      · next current => exact filled kind received _ taken current.2.2
      · exact taken
  · exact taken

/-- One event, for a property that its delivery establishes and its tag keeps. -/
theorem event_keeps {runtime : Runtime} {unary : Bool} {completion : Completion} {world : World}
    (rules : DispatchKept runtime.toEnv manners completion kept abrupt)
    (polite : manners.Allows completion) (waits : abrupt .waiting world)
    (delivered : runtime.admits (world.queues (world.queueOf unary)) (.gotEvent completion.tag) =
      true → kept (world.deliver unary completion))
    (deleted : ∀ after, kept after → kept (after.note (.deleted completion.tag))) :
    wp (processEvent runtime unary completion) (fun _ => kept) abrupt world := by
  rw [processEvent, wp_bind]
  refine wp_async_next runtime unary completion waits fun admitted => ?_
  rw [wp_bind]
  apply wp_then (dispatch_keeps rules polite (deliver_announces unary completion world)
    (delivered admitted))
  exact fun _ => keeps_only_if fun _ after holds => deleted after holds

theorem settled_process_event (runtime : Runtime) (unary : Bool) (completion : Completion) :
    Keeps AllSettled (fun _ _ => True) (processEvent runtime unary completion) := by
  intro world settled
  refine event_keeps (settled_dispatch runtime.toEnv anyManners completion)
    (any_manners_allow completion) trivial ?_ fun _ settled => settled
  exact fun _ => deliver_rule unary completion world AllSettled settled
    fun kind received after settled _ other =>
      settled_set_state kind other after ({ · with updateResponse := received.message }) id id
        (settled other)

/-- A property that survives everything `Poll<Unary>` is made of. -/
structure QueueKept (runtime : Runtime) (unary : Bool) (manners : Manners)
    (kept : World → Prop) (abrupt : Halt → World → Prop) : Prop where
  waiting : ∀ world, kept world → abrupt .waiting world
  unfinished : ∀ world, kept world → abrupt .unfinished world
  event : ∀ completion, manners.Allows completion →
    Keeps kept abrupt (processEvent runtime unary completion)
  finish : unary = false → ∀ kind, Keeps kept abrupt (finish kind)
  shutdown : ∀ world, kept world → (unary = false → AllSettled world) →
    kept (world.shutdown (world.queueOf unary))
  draining : ∀ world, kept world → kept (world.note (.draining unary))
  finishAgain : ∀ world, kept world → kept (world.note .finishAgain)
  verdict : ∀ graceful world, kept world → kept (world.note (.verdict unary graceful))

theorem QueueKept.weaken {runtime : Runtime} {unary : Bool} {abrupt' : Halt → World → Prop}
    (rules : QueueKept runtime unary manners kept abrupt)
    (stops : ∀ reason world, abrupt reason world → abrupt' reason world) :
    QueueKept runtime unary manners kept abrupt' :=
  { rules with
    waiting := fun world holds => stops _ _ (rules.waiting world holds)
    unfinished := fun world holds => stops _ _ (rules.unfinished world holds)
    event := fun completion allowed => keeps_weaken (rules.event completion allowed) stops
    finish := fun stream kind => keeps_weaken (rules.finish stream kind) stops }

/-- Rules for any callback are rules for polite ones. -/
theorem QueueKept.restrict {runtime : Runtime} {unary : Bool}
    (rules : QueueKept runtime unary anyManners kept abrupt) (manners : Manners) :
    QueueKept runtime unary manners kept abrupt :=
  { rules with event := fun completion _ => rules.event completion (any_manners_allow completion) }

/-- The same for a property that survives while a base property holds. -/
structure QueueKeptOver (runtime : Runtime) (unary : Bool) (manners : Manners)
    (base kept : World → Prop) (abrupt : Halt → World → Prop) : Prop where
  waiting : ∀ world, base world → kept world → abrupt .waiting world
  unfinished : ∀ world, base world → kept world → abrupt .unfinished world
  event : ∀ completion, manners.Allows completion → ∀ world, base world → kept world →
    wp (processEvent runtime unary completion) (fun _ => kept) abrupt world
  finish : unary = false → ∀ kind world, base world → kept world →
    wp (finish kind) (fun _ => kept) abrupt world
  shutdown : ∀ world, base world → kept world → (unary = false → AllSettled world) →
    kept (world.shutdown (world.queueOf unary))
  draining : ∀ world, kept world → kept (world.note (.draining unary))
  finishAgain : ∀ world, kept world → kept (world.note .finishAgain)
  verdict : ∀ graceful world, kept world → kept (world.note (.verdict unary graceful))

theorem QueueKept.over {runtime : Runtime} {unary : Bool} {more : World → Prop}
    {abrupt' : Halt → World → Prop} (rules : QueueKept runtime unary manners kept abrupt)
    (rest : QueueKeptOver runtime unary manners kept more abrupt') :
    QueueKept runtime unary manners (fun world => kept world ∧ more world)
      (fun reason world => abrupt reason world ∧ abrupt' reason world) where
  waiting world both := ⟨rules.waiting world both.1, rest.waiting world both.1 both.2⟩
  unfinished world both := ⟨rules.unfinished world both.1, rest.unfinished world both.1 both.2⟩
  event completion allowed world both :=
    wp_and (rules.event completion allowed world both.1)
      (rest.event completion allowed world both.1 both.2)
  finish stream kind world both :=
    wp_and (rules.finish stream kind world both.1) (rest.finish stream kind world both.1 both.2)
  shutdown world both settled :=
    ⟨rules.shutdown world both.1 settled, rest.shutdown world both.1 both.2 settled⟩
  draining world both := ⟨rules.draining world both.1, rest.draining world both.2⟩
  finishAgain world both := ⟨rules.finishAgain world both.1, rest.finishAgain world both.2⟩
  verdict graceful world both :=
    ⟨rules.verdict graceful world both.1, rest.verdict graceful world both.2⟩

def Pass.Allowed (manners : Manners) (pass : Pass) : Prop :=
  ∀ completion ∈ pass.events, manners.Allows completion

section Poll
variable {runtime : Runtime} {unary : Bool}
  (rules : QueueKept runtime unary manners kept abrupt)
include rules

theorem process_queue_keeps {pass : Pass} (allowed : Pass.Allowed manners pass) :
    Keeps kept abrupt (processQueue runtime unary pass) := by
  apply process_queue_lifts rules.waiting
  exact fun completion member => rules.event completion (allowed completion member)

theorem finish_stream_keeps (stream : unary = false) : Keeps kept abrupt finishStream :=
  keeps_each fun kind _ => rules.finish stream kind

theorem drain_keeps {passes : List Pass} (allowed : ∀ pass ∈ passes, Pass.Allowed manners pass)
    (nextStatus : NextStatus) (pollCount : Nat) :
    Keeps kept abrupt (drain runtime unary passes nextStatus pollCount) := by
  -- The induction is over the passes the loop is given; the property does not see
  -- the counter.
  induction passes generalizing nextStatus pollCount with
  | nil =>
      refine keeps_read fun world holds => ?_
      rw [wp_ite]
      split
      · exact rules.unfinished world holds
      · exact holds
  | cons pass rest ih =>
      have later := ih fun one member => allowed one (List.mem_cons_of_mem pass member)
      refine keeps_read fun world holds => ?_
      rw [wp_ite]
      split
      · rw [wp_bind, wp_note, wp_bind]
        apply wp_then (process_queue_keeps rules (allowed pass List.mem_cons_self) _
          (rules.draining world holds))
        intro drained after holds
        -- Only the stream instantiation counts, and finishes once more at half time.
        cases side : unary with
        | true =>
            subst side
            exact later drained.nextStatus pollCount after holds
        | false =>
            subst side
            simp only [Bool.false_eq_true, ↓reduceIte]
            refine keeps_bind (keeps_only_if fun _ => ?_)
              (fun _ => later drained.nextStatus (pollCount + 1)) after holds
            exact keeps_bind (fun world holds => rules.finishAgain world holds)
              fun _ => finish_stream_keeps rules rfl
      · exact holds

/-- `Shutdown` is called after a round of `Finish`, and the pass in between
undoes nothing of it. -/
theorem recover_keeps {passes : List Pass}
    (allowed : ∀ pass ∈ passes, Pass.Allowed manners pass) :
    Keeps kept abrupt (recover runtime unary passes) := by
  intro world holds
  unfold recover
  rw [wp_bind]
  have finished : wp (onlyIf (!unary) finishStream)
      (fun _ after => kept after ∧ (unary = false → AllSettled after)) abrupt world := by
    rw [wp_only_if]
    split
    · next stream =>
        rw [Bool.not_eq_true'] at stream
        exact wp_mono (wp_and (finish_stream_keeps rules stream world holds)
          (finish_stream_settles world)) (fun _ _ both => ⟨both.1, fun _ => both.2⟩)
          fun _ _ both => both.1
    · next other => exact ⟨holds, fun stream => absurd (by simp [stream]) other⟩
  apply wp_then finished
  rintro _ world ⟨holds, settled⟩
  cases passes with
  | nil => exact rules.unfinished world holds
  | cons pass rest =>
      simp only [wp_bind, shutdownQueue, wp_modify]
      -- The pass between `Finish` and `Shutdown` leaves every client settled.
      have stays : wp (processQueue runtime unary pass)
          (fun _ after => unary = false → AllSettled after) (fun _ _ => True) world :=
        wp_imp fun stream => process_queue_lifts (fun _ _ => trivial)
          (fun completion _ => settled_process_event runtime unary completion) world
            (settled stream)
      refine wp_mono (wp_and (process_queue_keeps rules (allowed pass List.mem_cons_self) world
        holds) stays) ?_ fun _ _ stopped => stopped.1
      rintro polled after ⟨holds, settled⟩
      apply wp_then (drain_keeps rules
        (fun one member => allowed one (List.mem_cons_of_mem pass member)) polled.nextStatus 0 _
        (rules.shutdown after holds settled))
      intro pollCount last holds
      exact rules.verdict _ last holds

theorem poll_queue_keeps {passes : List Pass}
    (allowed : ∀ pass ∈ passes, Pass.Allowed manners pass) :
    Keeps kept abrupt (pollQueue runtime unary passes) := by
  cases passes with
  | nil => exact keeps_stop rules.unfinished
  | cons pass rest =>
      have later := fun one member => allowed one (List.mem_cons_of_mem pass member)
      exact keeps_bind (process_queue_keeps rules (allowed pass List.mem_cons_self))
        fun polled => keeps_bind (keeps_only_if fun _ => recover_keeps rules later)
          fun _ => keeps_pure polled.callShutdown

end Poll

end IviSdk.PollRules
