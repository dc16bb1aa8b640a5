import IviSdk.QueueWiring

/-!
The life of an asynchronous request: its tag is started, its callback is invoked,
its tag is deleted. Recovery gives the connection a new unary queue, and a request
on the old one would be lost, so the loop after `Shutdown` must not end before
the queue is drained. For the unary queue it never does: its passes are not
counted, so only the answer `SHUTDOWN` ends it.
-/

namespace IviSdk.RequestLedger

open Checks CompletionQueues Streams ManagerWorld Interaction StreamClients ClientManager
open CallbackRules PollRules ManagerRuns QueueWiring

inductive Step where
  | issued
  | invoked
  | freed
  deriving DecidableEq

def stepOf (tag : Tag) : Event → Option Step
  | .started _ _ other => if other = tag then some .issued else none
  | .completed other _ => if other = tag then some .invoked else none
  | .deleted other => if other = tag then some .freed else none
  | _ => none

/-- What happened to a tag so far, in order. -/
def history (tag : Tag) : List Event → List Step := observed (stepOf tag)

/-- A request the application makes between two actions. -/
def request (id : Nat) : Tag := .unary .direct id

/-- A life that was lived in full. -/
def fullLife : List Step := [.issued, .invoked, .freed]

/-- No request is answered twice, deleted twice, or deleted before it was answered. -/
def Orderly (world : World) : Prop := ∀ id, history (request id) world.log <+: fullLife

/-- The request waits on the unary queue the connection has now. -/
def OnQueue (id : Nat) (world : World) : Prop :=
  request id ∈ world.pending world.connection.unaryQueue

/-- Where a request stands that is not being dispatched. -/
inductive Account (id : Nat) (world : World) : Prop where
  | unissued (nothing : history (request id) world.log = []) (absent : ¬ OnQueue id world)
  | waiting (issued : history (request id) world.log = [.issued]) (present : OnQueue id world)
  | settled (all : history (request id) world.log = fullLife) (absent : ¬ OnQueue id world)

/-- Where every request stands, with the tag in hand and what happened to it. -/
structure Ledger (held : Option (Tag × List Step)) (world : World) : Prop where
  others : ∀ id, (∀ steps, held ≠ some (request id, steps)) → Account id world
  inHand : ∀ id steps, held = some (request id, steps) →
    history (request id) world.log = steps ∧ ¬ OnQueue id world
  fresh : ∀ id, world.next ≤ id → history (request id) world.log = []

variable {world before after : World} {held : Option (Tag × List Step)}

/-! ## Histories -/

/-- An event that concerns no request. -/
def Foreign (event : Event) : Prop := ∀ id, stepOf (request id) event = none

theorem history_foreign {event : Event} (foreign : Foreign event) (id : Nat) (log : List Event) :
    history (request id) (event :: log) = history (request id) log :=
  observed_none (foreign id) log

/-! ## What leaves requests alone -/

/-- Nothing happened to any request. -/
structure Unaffected (before after : World) : Prop where
  histories : ∀ id, history (request id) after.log = history (request id) before.log
  queued : ∀ id, OnQueue id after ↔ OnQueue id before
  grows : before.next ≤ after.next

namespace Unaffected

theorem refl (world : World) : Unaffected world world :=
  ⟨fun _ => rfl, fun _ => Iff.rfl, Nat.le_refl _⟩

theorem trans {middle : World} (first : Unaffected before middle)
    (second : Unaffected middle after) : Unaffected before after where
  histories id := (second.histories id).trans (first.histories id)
  queued id := (second.queued id).trans (first.queued id)
  grows := Nat.le_trans first.grows second.grows

theorem note (same : Unaffected before world) {event : Event} (foreign : Foreign event) :
    Unaffected before (world.note event) :=
  same.trans ⟨fun id => history_foreign foreign id world.log, fun _ => Iff.rfl, Nat.le_refl _⟩

theorem setState (same : Unaffected before world) (kind : StreamKind)
    (change : StreamState kind → StreamState kind) :
    Unaffected before (world.setState kind change) :=
  same.trans ⟨fun _ => rfl, fun _ => Iff.rfl, Nat.le_refl _⟩

theorem shutdown (same : Unaffected before world) (queue : QueueId) :
    Unaffected before (world.shutdown queue) := by
  refine same.trans ⟨fun id => history_foreign (fun _ => rfl) id world.log, ?_, Nat.le_refl _⟩
  intro id
  unfold OnQueue
  rw [shutdown_pending]
  exact Iff.rfl

theorem putStream (same : Unaffected before world) {queue : QueueId}
    (elsewhere : queue ≠ world.connection.unaryQueue) (kind : StreamKind) (subscription : Nat)
    (slot : Slot) : Unaffected before (world.put queue (.stream kind subscription slot)) := by
  refine same.trans ⟨fun id => history_foreign (fun _ => rfl) id world.log, ?_, Nat.le_refl _⟩
  intro id
  unfold OnQueue
  rw [put_connection, put_pending, if_neg elsewhere.symm]

theorem putReader (same : Unaffected before world) (wired : Wired world) {kind : StreamKind}
    {queue : QueueId} (reader : (world.state kind).updateReader = some queue) (slot : Slot) :
    Unaffected before (world.put queue (world.tagOf kind slot)) := by
  refine same.putStream ?_ kind _ slot
  rw [wired.readers kind queue trivial reader]
  exact wired.distinct

theorem takeStream (same : Unaffected before world) (elsewhere : world.connection.streamQueue ≠
    world.connection.unaryQueue) (tag : Tag) :
    Unaffected before (world.take world.connection.streamQueue tag) := by
  refine same.trans ⟨fun _ => rfl, ?_, Nat.le_refl _⟩
  intro id
  unfold OnQueue
  rw [take_connection, take_pending, if_neg elsewhere.symm]

/-- Calls from callbacks and confirmations are no requests of the application. -/
theorem allocate (same : Unaffected before world) {origin : Origin} (other : origin ≠ .direct) :
    Unaffected before (allocate origin world) := by
  have differs : ∀ id number, request id ≠ .unary origin number := by
    intro id number equal
    cases equal
    exact other rfl
  refine same.trans ⟨?_, ?_, Nat.le_succ _⟩
  · intro id
    refine history_foreign (fun id => ?_) id world.log
    simp [stepOf, (differs id world.next).symm]
  · intro id
    unfold OnQueue
    rw [allocate_connection, allocate_pending, if_pos rfl, List.mem_cons]
    exact or_iff_right (differs id world.next)

end Unaffected

theorem Ledger.transport (ledger : Ledger held before) (same : Unaffected before after) :
    Ledger held after := by
  constructor
  · intro id free
    cases ledger.others id free with
    | unissued nothing absent =>
        exact .unissued ((same.histories id).trans nothing) fun present =>
          absent ((same.queued id).mp present)
    | waiting issued present =>
        exact .waiting ((same.histories id).trans issued) ((same.queued id).mpr present)
    | settled all absent =>
        exact .settled ((same.histories id).trans all) fun present =>
          absent ((same.queued id).mp present)
  · intro id steps one
    obtain ⟨sofar, absent⟩ := ledger.inHand id steps one
    exact ⟨(same.histories id).trans sofar, fun present => absent ((same.queued id).mp present)⟩
  · intro id unknown
    exact (same.histories id).trans (ledger.fresh id (Nat.le_trans same.grows unknown))

/-- The accounts, and what is in hand, show orderly lives. -/
theorem Ledger.orderly (ledger : Ledger held world)
    (early : ∀ tag steps, held = some (tag, steps) → steps <+: fullLife) : Orderly world := by
  intro id
  by_cases one : ∃ steps, held = some (request id, steps)
  · obtain ⟨steps, one⟩ := one
    rw [(ledger.inHand id steps one).1]
    exact early _ steps one
  · cases ledger.others id (fun steps same => one ⟨steps, same⟩) with
    | unissued nothing _ =>
        rw [nothing]
        exact List.nil_prefix
    | waiting issued _ =>
        rw [issued]
        exact ⟨[.invoked, .freed], rfl⟩
    | settled all _ => exact ⟨[], (List.append_nil _).trans all⟩

theorem Ledger.orderly_idle (ledger : Ledger none world) : Orderly world :=
  ledger.orderly fun _ _ one => nomatch one

/-! ## The steps of a life -/

theorem Ledger.request (ledger : Ledger none world) : Ledger none (allocate .direct world) := by
  have steps : ∀ id, history (RequestLedger.request id) (allocate .direct world).log =
      history (RequestLedger.request id) world.log ++
        if id = world.next then [.issued] else [] := by
    intro id
    rw [allocate_log, history, observed_cons]
    by_cases same : id = world.next
    · simp [stepOf, RequestLedger.request, same]
    · simp [stepOf, RequestLedger.request, same, Ne.symm same]
  have queued : ∀ id, OnQueue id (allocate .direct world) ↔ id = world.next ∨ OnQueue id world := by
    intro id
    unfold OnQueue
    rw [allocate_connection, allocate_pending, if_pos rfl, List.mem_cons]
    simp [RequestLedger.request]
  constructor
  · intro id free
    -- The number is new, so nothing was known of this request.
    by_cases same : id = world.next
    · refine .waiting ?_ ((queued id).mpr (.inl same))
      rw [steps, if_pos same, ledger.fresh id (Nat.le_of_eq same.symm)]
      rfl
    · have unchanged := steps id
      rw [if_neg same, List.append_nil] at unchanged
      have stays := (queued id).trans (or_iff_right same)
      cases ledger.others id free with
      | unissued nothing absent =>
          exact .unissued (unchanged.trans nothing) fun present => absent (stays.mp present)
      | waiting issued present => exact .waiting (unchanged.trans issued) (stays.mpr present)
      | settled all absent =>
          exact .settled (unchanged.trans all) fun present => absent (stays.mp present)
  · intro id steps one
    cases one
  · intro id unknown
    have later : id ≠ world.next := Nat.ne_of_gt unknown
    rw [steps, if_neg later, List.append_nil]
    exact ledger.fresh id (Nat.le_of_lt unknown)

/-- A tag that was handed out is off the queue. -/
theorem take_queued (wired : Wired world) (tag : Tag) (id : Nat) :
    OnQueue id (world.take world.connection.unaryQueue tag) ↔
      request id ≠ tag ∧ OnQueue id world := by
  unfold OnQueue
  rw [take_connection, take_pending, if_pos rfl, List.Nodup.mem_erase_iff wired.unaryOnce]

theorem Ledger.deliver (ledger : Ledger none world) (wired : Wired world)
    (completion : UnaryCompletion)
    (pending : (Completion.unary completion).tag ∈ world.pending world.connection.unaryQueue) :
    Ledger (some ((Completion.unary completion).tag, [.issued]))
      (world.deliver true (.unary completion)) := by
  have same : ∀ id,
      history (RequestLedger.request id) (world.deliver true (.unary completion)).log =
      history (RequestLedger.request id) world.log :=
    fun id => history_foreign (fun _ => rfl) id world.log
  have queued := take_queued wired (Completion.unary completion).tag
  constructor
  · intro id free
    have differs : RequestLedger.request id ≠ (Completion.unary completion).tag := by
      intro equal
      exact free [.issued] (by rw [equal])
    have stays := (queued id).trans (and_iff_right differs)
    cases ledger.others id (fun _ never => nomatch never) with
    | unissued nothing absent =>
        exact .unissued ((same id).trans nothing) fun present => absent (stays.mp present)
    | waiting issued present => exact .waiting ((same id).trans issued) (stays.mpr present)
    | settled all absent =>
        exact .settled ((same id).trans all) fun present => absent (stays.mp present)
  · intro id steps one
    rw [Option.some.injEq, Prod.mk.injEq] at one
    obtain ⟨held, rfl⟩ := one
    -- It was on the queue, so of the three accounts only `waiting` is possible.
    have present : OnQueue id world := by
      unfold OnQueue
      rw [← held]
      exact pending
    refine ⟨?_, fun still => ((queued id).mp still).1 held.symm⟩
    cases ledger.others id (fun _ never => nomatch never) with
    | unissued _ absent => exact absurd present absent
    | waiting issued _ => exact (same id).trans issued
    | settled _ absent => exact absurd present absent
  · intro id unknown
    exact (same id).trans (ledger.fresh id unknown)

/-- An event of the tag in hand moves its life on by a step. -/
theorem Ledger.advance {tag : Tag} {steps : List Step} (ledger : Ledger (some (tag, steps)) world)
    (event : Event) (step : Step) (own : stepOf tag event = some step)
    (only : ∀ other, other ≠ tag → stepOf other event = none)
    (known : ∀ id, tag = RequestLedger.request id → id < world.next) :
    Ledger (some (tag, steps ++ [step])) (world.note event) := by
  have same : ∀ id, RequestLedger.request id ≠ tag →
      history (RequestLedger.request id) (world.note event).log =
        history (RequestLedger.request id) world.log := by
    intro id differs
    exact observed_none (only _ differs) world.log
  constructor
  · intro id free
    have differs : RequestLedger.request id ≠ tag := fun equal => free _ (by rw [equal])
    have account := ledger.others id fun later one => differs (by
      rw [Option.some.injEq, Prod.mk.injEq] at one
      exact one.1.symm)
    cases account with
    | unissued nothing absent => exact .unissued ((same id differs).trans nothing) absent
    | waiting issued present => exact .waiting ((same id differs).trans issued) present
    | settled all absent => exact .settled ((same id differs).trans all) absent
  · intro id later one
    rw [Option.some.injEq, Prod.mk.injEq] at one
    obtain ⟨rfl, rfl⟩ := one
    obtain ⟨sofar, absent⟩ := ledger.inHand id steps rfl
    refine ⟨?_, absent⟩
    rw [← sofar]
    exact observed_some own world.log
  · intro id unknown
    have differs : RequestLedger.request id ≠ tag := by
      intro equal
      exact absurd (known id equal.symm) (Nat.not_lt.mpr unknown)
    exact (same id differs).trans (ledger.fresh id unknown)

/-- A life in hand that is complete needs no hand any more. -/
theorem Ledger.release {tag : Tag} (ledger : Ledger (some (tag, fullLife)) world) :
    Ledger none world := by
  refine ⟨?_, (fun _ _ never => nomatch never), ledger.fresh⟩
  intro id _
  by_cases one : tag = RequestLedger.request id
  · obtain ⟨all, absent⟩ := ledger.inHand id fullLife (by rw [one])
    exact .settled all absent
  · refine ledger.others id fun steps same => one ?_
    rw [Option.some.injEq, Prod.mk.injEq] at same
    exact same.1

/-! ## Dispatching a tag -/

/-- How a run may be left: not by an exception, and with orderly lives. -/
def Left (reason : Halt) (world : World) : Prop := reason ≠ .threw ∧ Orderly world

theorem call_unaffected (env : Env) (call : ApiCall) (polite : goodManners.mayCall call)
    (origin : Origin) (other : origin ≠ .direct) (same : Unaffected before world) :
    wp (apiCall env origin call) (fun _ => Unaffected before) (fun _ _ => False) world := by
  have called : Unaffected before (world.note (.called call world.unaryShut)) :=
    same.note fun _ => rfl
  apply api_call_rule env origin call
  · exact fun _ _ => called.allocate other
  · exact fun _ _ _ _ => (called.note fun _ => rfl).allocate (by decide)
  · rintro kind rfl
    exact polite.elim

theorem dispatch_stream_unaffected (env : Env) {kind : StreamKind}
    (received : StreamCompletion kind) (before : World) :
    DispatchKeptOver env goodManners (.stream kind received)
      (fun world => Wired world ∧ Heard (.stream kind received) world) (Unaffected before)
      (fun reason => fun after => reason ≠ .threw ∧ Unaffected before after) where
  threw never := never.elim False.elim False.elim
  exited _ _ same := ⟨Halt.noConfusion, same⟩
  undefined _ _ same := ⟨Halt.noConfusion, same⟩
  call call polite _ _ same :=
    wp_mono (call_unaffected env call polite .nested (by decide) same) (fun _ _ same => same)
      fun _ _ never => never.elim
  update _ _ _ _ _ _ _ same := same.note fun _ => rfl
  completed _ never := by cases never
  startReceived kind _ _ _ _ same := same.setState kind _
  initMetadataReceived kind _ _ _ _ same := same.setState kind _
  finishResponded kind _ _ _ _ same := same.setState kind _
  confirms _ _ _ _ _ _ _ _ same := same.allocate (by decide)
  reads _ _ _ _ _ _ _ base same reader := same.putReader base.1 reader .read

/-- The tag of a stream call does nothing to the requests. -/
theorem stream_event_unaffected (env : Env) (completion : Completion)
    (polite : goodManners.Allows completion) (before : World) (wired : Wired world)
    (same : Unaffected before world) :
    wp (processEvent (grpc env) false completion) (fun _ => Unaffected before)
      (fun reason after => reason ≠ .threw ∧ Unaffected before after) world := by
  cases completion with
  | unary received =>
      exact unary_tag_on_stream wired ⟨Halt.noConfusion, same⟩
  | stream kind received =>
      refine event_over_wired polite (fun _ same => ⟨Halt.noConfusion, same⟩) ?_
        (dispatch_stream_unaffected env received before) ?_ (fun _ _ same => same) world wired same
      · intro world wired same _
        refine deliver_rule false (.stream kind received) world (Unaffected before)
          ((same.takeStream wired.distinct _).note fun _ => rfl) ?_
        intro other message after same _
        exact (same.setState other _).note fun _ => rfl
      · intro never
        cases never

/-- A unary call is answered and its tag deleted. -/
theorem unary_event_ledger (env : Env) (completion : Completion)
    (polite : goodManners.Allows completion) (wired : Wired world) (ledger : Ledger none world) :
    wp (processEvent (grpc env) true completion) (fun _ => Ledger none) Left world := by
  cases completion with
  | stream kind received =>
      exact stream_tag_on_unary wired ⟨Halt.noConfusion, ledger.orderly_idle⟩
  | unary received =>
      let tag := (Completion.unary received).tag
      let InHand := fun steps world =>
        (∀ id, tag = request id → id < world.next) ∧ Ledger (some (tag, steps)) world
      refine @event_rule_wired env true (.unary received) (Ledger none) (InHand [.issued])
        (InHand [.issued, .invoked]) Left (fun _ ledger => ⟨Halt.noConfusion, ledger.orderly_idle⟩)
        ?_ ?_ ?_ (fun never => by cases never) world wired ledger
      · intro before wired ledger pending
        refine ⟨?_, ledger.deliver wired received pending⟩
        intro id same
        obtain ⟨origin, number, own, earlier⟩ := wired.unaryOwned _ pending
        cases own.symm.trans same
        exact earlier
      · rintro world wired _ _ ⟨known, ledger⟩
        -- A process that exits in between leaves a life that is not lived to the end.
        have partway : ∀ steps after, steps <+: fullLife → Ledger (some (tag, steps)) after →
            Left .exited after := by
          intro steps after early ledger
          refine ⟨Halt.noConfusion, ledger.orderly ?_⟩
          intro other sofar one
          cases one
          exact early
        refine dispatch_unary_rule polite (partway _ _ ⟨[.invoked, .freed], rfl⟩ ledger)
          (fun never => never.elim) ?_ ?_ fun never => never.elim
        · intro status
          refine ⟨known, ledger.advance _ .invoked (by simp [stepOf, tag, Completion.tag]) ?_ known⟩
          intro other differs
          have unlike : Tag.unary received.origin received.id ≠ other := differs.symm
          simp [stepOf, unlike]
        · rintro call polite world ⟨known, ledger⟩
          refine wp_mono (call_unaffected (grpc env).toEnv call polite .nested (by decide)
            (Unaffected.refl world)) ?_ fun _ _ never => never.elim
          intro _ after same
          exact ⟨fun id equal => Nat.lt_of_lt_of_le (known id equal) same.grows,
            ledger.transport same⟩
      · rintro _ world _ ⟨known, ledger⟩
        refine (ledger.advance (.deleted tag) .freed (by simp [stepOf]) ?_ known).release
        intro other differs
        simp [stepOf, Ne.symm differs]

/-! ## Polling -/

theorem queue_ledger (env : Env) :
    QueueKeptOver (grpc env) true goodManners Wired (Ledger none) Left where
  waiting _ _ ledger := ⟨Halt.noConfusion, ledger.orderly_idle⟩
  unfinished _ _ ledger := ⟨Halt.noConfusion, ledger.orderly_idle⟩
  event completion polite _ wired ledger := unary_event_ledger env completion polite wired ledger
  finish never := by cases never
  shutdown world _ ledger _ := ledger.transport ((Unaffected.refl world).shutdown _)
  draining world ledger := ledger.transport ((Unaffected.refl world).note fun _ => rfl)
  finishAgain world ledger := ledger.transport ((Unaffected.refl world).note fun _ => rfl)
  verdict _ world ledger := ledger.transport ((Unaffected.refl world).note fun _ => rfl)

theorem finish_unaffected (kind : StreamKind) (wired : Wired world)
    (same : Unaffected before world) :
    wp (finish kind) (fun _ => Unaffected before)
      (fun reason after => reason ≠ .threw ∧ Unaffected before after) world := by
  apply finish_rule kind
  · exact fun _ => same
  · intro _ _
    have told : Unaffected before
        (world.note (.tryCancel kind (world.state kind).subscription)) :=
      same.note fun _ => rfl
    exact told.setState kind _
  · intro _ queue reader
    exact (same.putReader wired reader .finish).setState kind _
  · exact fun _ _ => ⟨Halt.noConfusion, same⟩

theorem queue_unaffected (env : Env) (before : World) :
    QueueKeptOver (grpc env) false goodManners Wired (Unaffected before)
      (fun reason after => reason ≠ .threw ∧ Unaffected before after) where
  waiting _ _ same := ⟨Halt.noConfusion, same⟩
  unfinished _ _ same := ⟨Halt.noConfusion, same⟩
  event completion polite _ wired same :=
    stream_event_unaffected env completion polite before wired same
  finish _ kind _ wired same := finish_unaffected kind wired same
  shutdown _ _ same _ := same.shutdown _
  draining _ same := same.note fun _ => rfl
  finishAgain _ same := same.note fun _ => rfl
  verdict _ _ same := same.note fun _ => rfl

/-- `SHUTDOWN` is the only answer that ends the loop, since the unary passes are
not counted: nothing is left on the queue then. -/
theorem drain_empties (env : Env) (enough : 0 < env.configuration.errorLoopMax)
    (passes : List Pass) (nextStatus : NextStatus) (world : World)
    (drained : nextStatus = .shutdown → world.pending world.connection.unaryQueue = []) :
    wp (drain (grpc env) true passes nextStatus 0)
      (fun _ after => after.pending after.connection.unaryQueue = []) (fun _ _ => True) world := by
  -- The counter stays at zero, so only the status can end the loop.
  have ends : ∀ status after, ¬ ((status ≠ NextStatus.shutdown ∨
      isStreamFinished after = false) ∧ 0 < (grpc env).configuration.errorLoopMax) →
      status = .shutdown := by
    intro status after left
    by_cases shut : status = .shutdown
    · exact shut
    · exact absurd ⟨.inl shut, enough⟩ left
  induction passes generalizing nextStatus world with
  | nil =>
      rw [drain, wp_bind, wp_read, wp_ite]
      split
      · trivial
      · next left => exact drained (ends nextStatus world left)
  | cons pass rest ih =>
      rw [drain, wp_bind, wp_read, wp_ite]
      split
      · rw [wp_bind, wp_note, wp_bind]
        apply wp_partial (process_queue_rule (grpc env) true (fun _ _ => True) pass
          (fun _ _ _ => trivial) (fun _ _ _ _ _ => wp_true _ _) _ trivial)
        rintro polled after ⟨_, admitted⟩
        refine ih polled.nextStatus after fun shut => ?_
        rw [shut] at admitted
        exact ((grpc_shutdown_iff _).mp admitted).2
      · next left => exact drained (ends nextStatus world left)

theorem poll_queue_empties (env : Env) (enough : 0 < env.configuration.errorLoopMax)
    (passes : List Pass) (world : World) :
    wp (pollQueue (grpc env) true passes)
      (fun failed after => failed = true → after.pending after.connection.unaryQueue = [])
      (fun _ _ => True) world := by
  cases passes with
  | nil => trivial
  | cons pass rest =>
      rw [pollQueue, wp_bind]
      apply wp_partial (wp_true _ world)
      intro polled world _
      rw [wp_bind, wp_only_if]
      split
      · unfold recover
        rw [wp_bind, wp_only_if, if_neg (by decide)]
        cases rest with
        | nil => trivial
        | cons pass rest =>
            rw [wp_bind]
            apply wp_partial (process_queue_rule (grpc env) true (fun _ _ => True) pass
              (fun _ _ _ => trivial) (fun _ _ _ _ _ => wp_true _ _) _ trivial)
            rintro last after ⟨_, admitted⟩
            rw [wp_bind, shutdownQueue, wp_modify, wp_bind]
            -- If the pass before `Shutdown` already reported it, the queue was empty then.
            refine wp_partial (drain_empties env enough rest last.nextStatus _ fun shut => ?_) ?_
            · rw [shut] at admitted
              have empty := ((grpc_shutdown_iff _).mp admitted).2
              exact (shutdown_pending _ _ _).trans empty
            · intro pollCount done empty _
              exact empty
      · next fine =>
          intro failed
          exact absurd failed fine

/-- No request is on the unary queue. -/
def Idle (world : World) : Prop := ∀ id, ¬ OnQueue id world

theorem Ledger.renewUnary (ledger : Ledger none world) (idle : Idle world) :
    Ledger none (renewUnary world) := by
  have absent : ∀ id, ¬ OnQueue id (QueueWiring.renewUnary world) := by
    intro id present
    change RequestLedger.request id ∈ (World.setQueue _ world.next {}).pending world.next at present
    rw [new_queue_pending, if_pos rfl] at present
    cases present
  refine ⟨?_, (fun _ _ never => nomatch never), fun id unknown =>
    ledger.fresh id (Nat.le_of_succ_le unknown)⟩
  intro id free
  cases ledger.others id free with
  | unissued nothing _ => exact .unissued nothing (absent id)
  | waiting _ present => exact absurd present (idle id)
  | settled all _ => exact .settled all (absent id)

theorem Unaffected.renewStream (wired : Wired world) : Unaffected world (renewStream world) := by
  refine ⟨fun _ => rfl, ?_, Nat.le_succ _⟩
  intro id
  change RequestLedger.request id ∈ (World.setQueue _ world.next {}).pending
    world.connection.unaryQueue ↔ _
  rw [new_queue_pending, if_neg (Nat.ne_of_lt wired.unaryKnown)]
  exact Iff.rfl

/-- Building a client concerns no request. -/
theorem build_ledger : BuildKept (Ledger none) Left where
  exited _ ledger := ⟨Halt.noConfusion, ledger.orderly_idle⟩
  counted _ _ ledger := ledger.transport ⟨fun _ => rfl, fun _ => Iff.rfl, Nat.le_succ _⟩
  client _ _ _ ledger := ledger.transport ⟨fun _ => rfl, fun _ => Iff.rfl, Nat.le_succ _⟩
  state kind change world ledger := ledger.transport ((Unaffected.refl world).setState kind change)
  told _ _ _ world ledger := ledger.transport ((Unaffected.refl world).note fun _ => rfl)
  issued _ _ world ledger := ledger.transport ((Unaffected.refl world).note fun _ => rfl)
  starts kind subscription slot world distinct ledger :=
    ledger.transport ((Unaffected.refl world).putStream distinct kind subscription slot)

/-! ## Runs -/

/-- `Poll` answers every request of a unary queue before it replaces the queue. -/
theorem poll_ledger (env : Env) (enough : 0 < env.configuration.errorLoopMax)
    (channelState : ChannelState) {unaryPasses streamPasses : List Pass}
    (unary : PassesAllowed goodManners unaryPasses)
    (stream : PassesAllowed goodManners streamPasses) (wired : Wired world)
    (ledger : Ledger none world) :
    wp (poll (grpc env) channelState unaryPasses streamPasses) (fun _ => Ledger none) Left
      world := by
  rw [poll, wp_bind]
  have checked : wp (checked (check env.build env.configuration.autoconfirmStreamUpdates))
      (fun _ after => after = world) Left world := by
    refine check_keeps ?_ _ _ world rfl
    rintro _ rfl
    exact ⟨Halt.noConfusion, ledger.orderly_idle⟩
  apply wp_then checked
  rintro _ _ rfl
  rw [wp_bind]
  -- The unary queue is polled first; if it failed, it is empty from here on.
  have unaryRules := ((queue_wired env true).restrict goodManners).over (queue_ledger env)
  refine wp_mono (wp_and (poll_queue_keeps unaryRules unary _ ⟨wired, ledger⟩)
    (poll_queue_empties env enough unaryPasses _)) ?_ fun _ _ stopped => stopped.1.2
  rintro unaryShutdown middle ⟨⟨wired, ledger⟩, emptied⟩
  rw [wp_bind]
  have streamRules := ((queue_wired env false).restrict goodManners).over
    (queue_unaffected env middle)
  refine wp_mono (poll_queue_keeps streamRules stream _ ⟨wired, Unaffected.refl middle⟩) ?_ ?_
  · rintro streamShutdown last ⟨wired, same⟩
    have ledger := ledger.transport same
    -- The pass over the stream queue put no request back.
    have idle : unaryShutdown = true → Idle last := by
      intro failed id present
      have before := (same.queued id).mp present
      unfold OnQueue at before
      rw [emptied failed] at before
      cases before
    rw [wp_ite]
    split
    · rw [wp_ite]
      split
      · exact ledger
      · rw [wp_bind]
        have rebuilt : wp (onlyIf unaryShutdown (reinitializeUnary env))
            (fun _ after => Wired after ∧ Ledger none after) Left last := by
          rw [wp_only_if]
          split
          · next failed =>
              exact wp_mono (wp_and (reinitialize_unary_wired env last wired)
                (reinitialize_unary_keeps build_ledger wired.renewUnary.distinct
                  (ledger.renewUnary (idle failed)))) (fun _ _ both => both)
                fun _ _ stopped => stopped.2
          · exact ⟨wired, ledger⟩
        apply wp_then rebuilt
        rintro _ world ⟨wired, ledger⟩
        rw [wp_bind, wp_only_if]
        split
        · exact reinitialize_stream_keeps build_ledger wired.renewStream.distinct
            (ledger.transport (.renewStream wired))
        · exact ledger
    · exact ledger
  · rintro reason after ⟨_, calm, same⟩
    exact ⟨calm, (ledger.transport same).orderly_idle⟩

theorem act_ledger (env : Env) (enough : 0 < env.configuration.errorLoopMax) (action : Action)
    (polite : PoliteUse action) (wired : Wired world) (ledger : Ledger none world) :
    wp (act (grpc env) action) (fun _ => Ledger none) Left world := by
  obtain ⟨simple, allowed⟩ := polite
  cases action with
  | poll channelState unaryPasses streamPasses =>
      rw [act, wp_bind]
      exact poll_ledger env enough channelState allowed.1 allowed.2 wired ledger
  | call call =>
      rw [act, wp_bind]
      have called : Ledger none (world.note (.called call world.unaryShut)) :=
        ledger.transport ((Unaffected.refl world).note fun _ => rfl)
      cases call with
      | request client =>
          simp only [apiCall, wp_bind, wp_modify, wp_call_unary_async]
          exact called.request
      | confirm kind arguments =>
          refine wp_mono (call_unaffected _ (.confirm kind arguments) trivial .confirm
            (by decide) (Unaffected.refl world)) ?_ fun _ _ never => never.elim
          intro _ after same
          exact ledger.transport same
      | finish kind => exact allowed.elim
  | pollUnary passes | pollStream passes | reinitializeUnary | reinitializeStream =>
      exact simple.elim

theorem before_ledger (connection : IVIConnection) : Ledger none (World.before connection) := by
  refine ⟨?_, (fun _ _ never => nomatch never), fun _ _ => rfl⟩
  intro id _
  refine .unissued rfl fun present => ?_
  cases present

theorem reached_ledger {env : Env} (enough : 0 < env.configuration.errorLoopMax)
    {connection : IVIConnection} (distinct : connection.streamQueue ≠ connection.unaryQueue)
    {callbacks : IVIStreamCallbacks} {actions : List Action} {replies : List Reply}
    (polite : ∀ action ∈ actions, PoliteUse action)
    (reached : Reached (grpc env) connection callbacks actions replies world) :
    Wired world ∧ Ledger none world := by
  obtain ⟨first, constructed, ran⟩ := reached.ran
  have wired := wp_returned (construct_wired env callbacks connection distinct) constructed
  have ledger := wp_returned (construct_builds build_ledger distinct (before_ledger connection))
    constructed
  refine run_rule PoliteUse (fun _ world => Wired world ∧ Ledger none world) ?_ actions polite
    ⟨wired, ledger⟩ ran
  rintro action _ world reply after allowed ⟨wired, ledger⟩ resumed
  have wires := act_keeps (actions_wired env) (any_action_allowed action) world wired
  have acted := act_ledger env enough action allowed wired ledger
  rcases resume_rule resumed with returned | ⟨_, threw⟩
  · have wired := wp_returned wires returned
    have ledger := wp_returned acted returned
    exact ⟨wired, ledger⟩
  · exact absurd rfl (wp_stopped acted threw).1

/-- For every run of polls and requests: while an action runs and however it ends,
each request has lived a part of its life in order; and when `Poll` returns true
each request issued so far was answered and deleted, or waits on the unary queue
the connection has then. -/
theorem requests_answered_once (env : Env) (enough : 2 ≤ env.configuration.errorLoopMax)
    (connection : IVIConnection) (distinct : connection.streamQueue ≠ connection.unaryQueue)
    (callbacks : IVIStreamCallbacks) (actions : List Action)
    (polite : ∀ action ∈ actions, PoliteUse action) (replies : List Reply) (world : World)
    (reached : Reached (grpc env) connection callbacks actions replies world) (action : Action)
    (next : PoliteUse action) :
    (∀ id, history (request id) (act (grpc env) action world).world.log <+:
      [.issued, .invoked, .freed]) ∧
    ∀ after, act (grpc env) action world = .returned (.polled true) after →
      ∀ id, .issued ∈ history (request id) after.log →
        history (request id) after.log = [.issued, .invoked, .freed] ∨
        (history (request id) after.log = [.issued] ∧
          request id ∈ after.pending after.connection.unaryQueue) := by
  obtain ⟨wired, ledger⟩ := reached_ledger (Nat.lt_of_lt_of_le Nat.two_pos enough) distinct
    polite reached
  have acted := act_ledger env (Nat.lt_of_lt_of_le Nat.two_pos enough) action next wired ledger
  constructor
  · have orderly : Orderly (act (grpc env) action world).world :=
      wp_world (wp_mono acted (fun _ _ ledger => ledger.orderly_idle) fun _ _ left => left.2)
    exact orderly
  · intro after returned id issued
    have ledger := wp_returned acted returned
    cases ledger.others id (fun _ never => nomatch never) with
    | unissued nothing _ =>
        rw [nothing] at issued
        cases issued
    | waiting issued present => exact .inr ⟨issued, present⟩
    | settled all _ => exact .inl all

/-- Two requests, the first of which fails and brings the recovery about. -/
def failedRequest : Action :=
  .poll .other [{ events := [.unary { origin := .direct, id := 11, ok := false }] },
    { events := [.unary { origin := .direct, id := 12, ok := true }] },
    { last := some .shutdown }] [{}]

/-- What a request of the application does to the world. -/
def requested (client : UnaryClient) (world : World) : World :=
  allocate .direct (world.note (.called (.request client) world.unaryShut))

theorem requests_reached {runtime : Runtime} {connection : IVIConnection}
    {callbacks : IVIStreamCallbacks} {first : World}
    (constructed : construct runtime.toEnv callbacks (World.before connection) =
      .returned () first) (one other : UnaryClient) :
    Reached runtime connection callbacks [.call (.request one), .call (.request other)]
      [.done, .done] (requested other (requested one first)) :=
  ⟨first, constructed, rfl⟩

/-- Both are answered before the queue is replaced. -/
theorem failed_request_answered : 2 ≤ defaultEnv.configuration.errorLoopMax ∧
    newConnection.streamQueue ≠ newConnection.unaryQueue ∧
    ∃ world after, Reached (grpc defaultEnv) newConnection (fun _ => none)
        [.call (.request .payment), .call (.request .order)] [.done, .done] world ∧
      act (grpc defaultEnv) failedRequest world = .returned (.polled true) after ∧
      (history (request 11) after.log = [.issued, .invoked, .freed] ∨
        (history (request 11) after.log = [.issued] ∧
          request 11 ∈ after.pending after.connection.unaryQueue)) := by
  have enough : 2 ≤ defaultEnv.configuration.errorLoopMax := by decide
  have calls : ∀ action ∈ [Action.call (.request .payment), .call (.request .order)],
      PoliteUse action := by
    simp [PoliteUse, PollsAndCalls, ActionAllowed, goodManners]
  have polls : PoliteUse failedRequest := by
    simp [failedRequest, PoliteUse, PollsAndCalls, ActionAllowed, PassesAllowed, Pass.Allowed,
      Manners.Allows]
  have reached := @requests_reached (grpc defaultEnv) newConnection (fun _ => none) _
    (Outcome.eq_returned (by decide +kernel)) .payment .order
  have answered := (requests_answered_once defaultEnv enough newConnection
    new_connection_distinct _ _ calls _ _ reached failedRequest polls).2 _
    (Outcome.eq_returned (by decide +kernel)) 11 (by decide +kernel)
  exact ⟨enough, new_connection_distinct, _, _, reached, Outcome.eq_returned (by decide +kernel),
    answered⟩

end IviSdk.RequestLedger
