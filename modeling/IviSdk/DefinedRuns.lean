import IviSdk.QueueWiring

/-!
What C++ leaves undefined does not happen while the connection has two queues: no
tag of a stream state that was replaced comes back, and no reader is asked that is
not there. This holds for callbacks that make requests, `Confirm` and `Finish` and
that may throw, and for any order of polls and reinitialisations between them. A
callback that polls or reinitialises the manager it is called from is left out.
-/

namespace IviSdk.DefinedRuns

open Checks CompletionQueues Streams ManagerWorld Interaction StreamClients ClientManager
open CallbackRules PollRules ManagerRuns QueueWiring

variable {kind : StreamKind} {world : World}

/-- The program did not run into undefined behaviour. -/
def Defined (reason : Halt) (_ : World) : Prop := reason ≠ .undefined

/-! ## A message -/

/-- What lets a client handle a message: its reader stays while the callback calls
and the message is confirmed. -/
structure KeepsReader (env : Env) (kind : StreamKind) (kept : World → Prop) : Prop where
  noted : ∀ value subscription world, kept world →
    kept (world.note (.update kind subscription value))
  called : ∀ call, Keeps kept Defined (apiCall env .nested call)
  confirmed : ∀ world, kept world → kept (allocate .confirm world)
  reader : ∀ world, kept world → (world.state kind).updateReader ≠ none

section Messages
variable {env : Env} {kept : World → Prop} (keeps : KeepsReader env kind kept)
include keeps

theorem process_next_defined (received : StreamCompletion kind) (holds : kept world) :
    wp (processNext env kind received) (fun _ _ => True) Defined world := by
  have polite : anyManners.Follows received.context received.reaction :=
    any_manners_allow (.stream kind received)
  cases ok : received.ok with
  | false =>
      simp only [processNext, ok, Bool.not_false, ↓reduceIte, wp_bind, wp_update]
      exact log_stream_failure_keeps polite (fun _ _ _ => Halt.noConfusion) _ trivial
  | true =>
      refine @process_message_rule kept Defined env anyManners kind received world (fun _ => True)
        ok polite keeps.noted ?_ ?_ ?_ ?_ (fun _ _ _ _ _ => trivial) holds
      · exact fun call _ => keeps.called call
      · exact fun _ _ _ => Halt.noConfusion
      · -- The read comes back through the reader that started it.
        exact fun after holds missing => absurd missing (keeps.reader after holds)
      · exact fun _ _ after holds => keeps.confirmed after holds

/-- Only a read needs the reader; the other tags set a flag. -/
theorem dispatch_stream_defined (received : StreamCompletion kind)
    (current : received.subscription = (world.state kind).subscription)
    (holds : received.slot = .read → kept world) :
    wp (dispatchStream env kind received) (fun _ _ => True) Defined world := by
  have fails : ∀ after, wp (onlyIf (!received.ok) (logStreamFailure env received.context))
      (fun _ _ => True) Defined after := fun after =>
    keeps_only_if (fun _ => log_stream_failure_keeps (any_manners_allow (.stream kind received))
      fun _ _ _ => Halt.noConfusion) after trivial
  simp only [dispatchStream, wp_bind, wp_read, wp_ite, wp_stop]
  rw [if_neg (fun stale => stale current)]
  cases slot : received.slot with
  | start => exact fails _
  | initMetadata => exact fails _
  | finish => exact fails _
  | read => exact process_next_defined keeps received (holds slot)

end Messages

/-! ## Calls -/

/-- Initial metadata came through a reader, so `Finish` finds it. -/
theorem finish_finds_reader (kind : StreamKind) (wired : Wired world) :
    wp (finish kind) (fun _ _ => True) (fun _ _ => False) world := by
  apply finish_rule kind
  · exact fun _ => trivial
  · exact fun _ _ => trivial
  · exact fun _ _ _ => trivial
  · intro asking missing
    have reader := wired.metadata kind trivial asking.metadata
    rw [missing] at reader
    cases reader

theorem call_returns (env : Env) (origin : Origin) (call : ApiCall) (wired : Wired world) :
    wp (apiCall env origin call) (fun _ _ => True) (fun _ _ => False) world := by
  apply api_call_rule env origin call
  · exact fun _ _ => trivial
  · exact fun _ _ _ _ => trivial
  · exact fun kind _ => finish_finds_reader kind (wired.note _)

/-- The calls of a callback return and leave the tag in hand its reader. -/
theorem nested_call_returns (env : Env) (completion : Completion) (call : ApiCall) :
    Keeps (fun world => Wired world ∧ Heard completion world) Defined
      (apiCall env .nested call) := by
  intro world both
  refine wp_mono (wp_and (call_wired_heard env completion call world both)
    (call_returns env .nested call both.1)) ?_ ?_
  · exact fun _ _ kept => kept.1
  · exact fun _ _ never => never.2.elim

/-! ## A tag comes back -/

theorem wired_keeps_reader (env : Env) (received : StreamCompletion kind) :
    KeepsReader env kind
      (fun world => Wired world ∧ Heard (.stream kind received) world) where
  noted _ _ _ both := ⟨both.1.note _, both.2⟩
  called := nested_call_returns env _
  confirmed _ both := ⟨both.1.allocate _, both.2⟩
  reader world both missing := by
    have reader := both.2 kind received rfl
    rw [missing] at reader
    cases reader

/-- The stream the completion belongs to is the one the client has now. -/
def Current (completion : Completion) (world : World) : Prop :=
  ∀ kind received, completion = .stream kind received →
    received.subscription = (world.state kind).subscription

/-- The stream queue holds tags of current subscriptions only. -/
theorem delivered_current {unary : Bool} {completion : Completion} (wired : Wired world)
    (pends : completion.tag ∈ world.pending (world.queueOf unary)) :
    Current completion (world.deliver unary completion) := by
  rintro kind received rfl
  rw [(deliver_frame unary (.stream kind received) world).subscriptions kind]
  cases unary with
  | true =>
      obtain ⟨origin, id, own, _⟩ := wired.unaryOwned _ pends
      cases own
  | false =>
      obtain ⟨other, slot, _, own, _⟩ := wired.streamOwned _ pends
      simp only [Completion.tag, World.tagOf, Tag.stream.injEq] at own
      obtain ⟨rfl, same, _⟩ := own
      exact same

theorem dispatch_defined (env : Env) {completion : Completion} (wired : Wired world)
    (heard : Heard completion world) (current : Current completion world) :
    wp (dispatch env completion) (fun _ _ => True) Defined world := by
  cases completion with
  | stream kind received =>
      exact dispatch_stream_defined (wired_keeps_reader env received) received
        (current kind received rfl) fun _ => ⟨wired, heard⟩
  | unary completion =>
      refine wp_then (dispatch_unary_rule (any_manners_allow (.unary completion))
        Halt.noConfusion (fun _ => Halt.noConfusion) (fun _ => ⟨wired.note _, heard⟩)
        (fun call _ => nested_call_returns env _ call) fun _ _ _ => Halt.noConfusion)
        fun _ _ _ => trivial

theorem event_defined (env : Env) (unary : Bool) (completion : Completion) (wired : Wired world) :
    wp (processEvent (grpc env) unary completion) (fun _ _ => True) Defined world := by
  refine @event_rule_wired env unary completion (fun _ => True) (Current completion)
    (fun _ => True) Defined (fun _ _ => Halt.noConfusion) ?_ ?_ (fun _ _ _ _ => trivial)
    (fun _ _ _ => trivial) world wired trivial
  · exact fun world wired _ pends => delivered_current wired pends
  · exact fun world wired heard _ current => dispatch_defined env wired heard current

/-! ## Runs -/

theorem queue_defined (env : Env) (unary : Bool) :
    QueueKeptOver (grpc env) unary anyManners Wired (fun _ => True) Defined where
  waiting _ _ _ := Halt.noConfusion
  unfinished _ _ _ := Halt.noConfusion
  event completion _ _ wired _ := event_defined env unary completion wired
  finish _ kind _ wired _ :=
    wp_mono (finish_finds_reader kind wired) (fun _ _ _ => trivial) fun _ _ never => never.elim
  shutdown _ _ _ _ := trivial
  draining _ _ := trivial
  finishAgain _ _ := trivial
  verdict _ _ _ := trivial

theorem building_defined : BuildKept (fun _ => True) Defined where
  exited _ _ := Halt.noConfusion
  counted _ _ _ := trivial
  client _ _ _ _ := trivial
  state _ _ _ _ := trivial
  told _ _ _ _ _ := trivial
  issued _ _ _ _ := trivial
  starts _ _ _ _ _ _ := trivial

theorem actions_defined (env : Env) :
    ActionsKeptOver (grpc env) anyManners Wired (fun _ => True) Defined where
  queue unary := queue_defined env unary
  call call _ _ wired _ :=
    wp_mono (call_returns env .direct call wired) (fun _ _ _ => trivial) fun _ _ never =>
      never.elim
  reinitializeUnary _ wired _ :=
    reinitialize_unary_keeps building_defined wired.renewUnary.distinct trivial
  reinitializeStream _ wired _ :=
    reinitialize_stream_keeps building_defined wired.renewStream.distinct trivial
  exited _ _ := Halt.noConfusion
  resumes _ _ := trivial

theorem destroy_defined (env : Env) (collection : Collection) (wired : Wired world) :
    wp (destroy (grpc env) collection) (fun _ _ => True) Defined world := by
  refine destroy_over_wired (fun _ _ => Halt.noConfusion) ?_ (fun _ _ _ _ _ => trivial) ?_ wired
    trivial
  · intro unary tag _ _ _ _
    rw [wp_only_if]
    split <;> trivial
  · exact fun kind _ wired _ =>
      wp_mono (finish_finds_reader kind wired) (fun _ _ _ => trivial) fun _ _ never => never.elim

theorem never_undefined {Value : Type} {program : Manager Value}
    (defined : wp program (fun _ _ => True) Defined world) (after : World) :
    program world ≠ .stopped .undefined after :=
  fun ran => wp_stopped defined ran rfl

/-- Whatever an application does between two polls with a manager whose connection
has two queues, and whatever its callbacks request, confirm and finish, the
constructor, every further action and the destructor are free of undefined
behaviour. -/
theorem manager_never_undefined (env : Env) (connection : IVIConnection)
    (distinct : connection.streamQueue ≠ connection.unaryQueue) (callbacks : IVIStreamCallbacks) :
    (∀ after, construct env callbacks (World.before connection) ≠ .stopped .undefined after) ∧
    ∀ actions replies world, Reached (grpc env) connection callbacks actions replies world →
      (∀ action after, act (grpc env) action world ≠ .stopped .undefined after) ∧
      ∀ collection after, destroy (grpc env) collection world ≠ .stopped .undefined after := by
  constructor
  · exact never_undefined (construct_builds building_defined distinct trivial)
  · intro actions replies world reached
    have wired := reached_wired distinct reached
    constructor
    · intro action
      exact never_undefined (act_over_wired (actions_defined env) (any_action_allowed action) wired
        trivial)
    · exact fun collection => never_undefined (destroy_defined env collection wired)

/-! ### A callback that finishes its own stream -/

/-- The call is open, and the callback of its first message finishes it and throws. -/
def finishesAndThrows : Action :=
  .pollStream [{ events := [.stream .item { subscription := 7, slot := .initMetadata, ok := true },
    .stream .item { subscription := 7, slot := .read, ok := true,
                    reaction := { calls := [.finish .item], throws := true } }] }]

def thrownOut : World :=
  (act (grpc defaultEnv) finishesAndThrows
    (construct defaultEnv itemCallbacks (World.before newConnection)).world).world

/-- The destructor is handed the two tags that are left. -/
def lastTags : Collection :=
  ⟨[], some .shutdown, [.stream .item 7 .start, .stream .item 7 .finish], some .shutdown⟩

theorem finishing_callback_never_undefined :
    newConnection.streamQueue ≠ newConnection.unaryQueue ∧
    Reached (grpc defaultEnv) newConnection itemCallbacks [finishesAndThrows] [.threw] thrownOut ∧
    (∀ after, act (grpc defaultEnv) (.poll .other [{}] [{}]) thrownOut ≠
      .stopped .undefined after) ∧
    (destroy (grpc defaultEnv) lastTags thrownOut).value? = some (.shutdown, .shutdown) ∧
    ∀ after, destroy (grpc defaultEnv) lastTags thrownOut ≠ .stopped .undefined after := by
  have reached : Reached (grpc defaultEnv) newConnection itemCallbacks [finishesAndThrows]
      [.threw] thrownOut :=
    @reached_after_one (grpc defaultEnv) _ _ _ _ (by decide +kernel) (by decide +kernel)
  have defined := (manager_never_undefined defaultEnv newConnection new_connection_distinct
    itemCallbacks).2 _ _ thrownOut reached
  exact ⟨new_connection_distinct, reached, defined.1 _, by decide +kernel, defined.2 _⟩

end IviSdk.DefinedRuns
