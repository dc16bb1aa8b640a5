import IviSdk.PairedPrograms
import IviSdk.ManagerRuns

/-!
Two managers side by side that hold the same clients, queues and pending tags.
Their logs may differ in what a chosen view leaves out. Everything but the
treatment of a completed operation agrees with itself on such worlds, so two
builds or two configurations are compared by comparing one event, and the
comparison carries over to `Poll`, to reinitialisation and to whole runs.
-/

namespace IviSdk.PairedRuns

open Checks CompletionQueues Streams ManagerWorld Interaction StreamClients ClientManager
open CallbackRules ManagerRuns PairedPrograms

variable {Seen Value : Type} {view : Event → Option Seen}

/-- The same world, but for events the view leaves out. -/
structure Alike (view : Event → Option Seen) (world twin : World) : Prop where
  connection : twin.connection = world.connection
  queues : twin.queues = world.queues
  streams : twin.streams = world.streams
  stubs : twin.stubs = world.stubs
  next : twin.next = world.next
  shown : observed view twin.log = observed view world.log

namespace Alike

variable {world twin : World} (alike : Alike view world twin)
include alike

theorem state (kind : StreamKind) : twin.state kind = world.state kind := by
  rw [World.state, World.state, alike.streams]

theorem unaryShut : twin.unaryShut = world.unaryShut := by
  rw [World.unaryShut, World.unaryShut, alike.queues, alike.connection]

theorem streamShut : twin.streamShut = world.streamShut := by
  rw [World.streamShut, World.streamShut, alike.queues, alike.connection]

theorem queueOf (unary : Bool) : twin.queueOf unary = world.queueOf unary := by
  rw [World.queueOf, World.queueOf, alike.connection]

theorem note {event twinEvent : Event} (same : view twinEvent = view event) :
    Alike view (world.note event) (twin.note twinEvent) where
  connection := alike.connection
  queues := alike.queues
  streams := alike.streams
  stubs := alike.stubs
  next := alike.next
  shown := by rw [note_log, note_log, observed_cons, observed_cons, same, alike.shown]

theorem noteLeft {event : Event} (hidden : view event = none) :
    Alike view (world.note event) twin :=
  { alike with shown := by rw [note_log, observed_none hidden, alike.shown] }

theorem noteRight {event : Event} (hidden : view event = none) :
    Alike view world (twin.note event) :=
  { alike with shown := by rw [note_log, observed_none hidden, alike.shown] }

theorem setQueue (queue : QueueId) {value twinValue : CompletionQueue Tag}
    (same : twinValue = value) :
    Alike view (world.setQueue queue value) (twin.setQueue queue twinValue) :=
  { alike with queues := by rw [World.setQueue, World.setQueue, alike.queues, same] }

theorem setClient (kind : StreamKind) {client twinClient : StreamClient kind}
    (same : twinClient = client) :
    Alike view (world.setClient kind client) (twin.setClient kind twinClient) :=
  { alike with streams := by rw [World.setClient, World.setClient, alike.streams, same] }

theorem setState (kind : StreamKind) (change : StreamState kind → StreamState kind) :
    Alike view (world.setState kind change) (twin.setState kind change) :=
  alike.setClient kind (by rw [alike.streams])

theorem put (queue : QueueId) (tag : Tag) :
    Alike view (world.put queue tag) (twin.put queue tag) :=
  (alike.setQueue queue (by rw [alike.queues])).note (by rw [alike.queues])

theorem take (queue : QueueId) (tag : Tag) :
    Alike view (world.take queue tag) (twin.take queue tag) :=
  alike.setQueue queue (by rw [alike.queues])

theorem shutdown (queue : QueueId) : Alike view (world.shutdown queue) (twin.shutdown queue) :=
  (alike.setQueue queue (by rw [alike.queues])).note rfl

theorem counted (next : Nat) :
    Alike view ({ world with next := next } : World) ({ twin with next := next } : World) :=
  { alike with next := rfl }

theorem allocate (origin : Origin) :
    Alike view (CallbackRules.allocate origin world) (CallbackRules.allocate origin twin) := by
  have same : CallbackRules.allocate origin twin =
      ({ twin with next := world.next + 1 } : World).put world.connection.unaryQueue
        (.unary origin world.next) := by
    unfold CallbackRules.allocate
    rw [alike.next]
    congr 1
    exact congrArg IVIConnection.unaryQueue alike.connection
  rw [same]
  exact (alike.counted (world.next + 1)).put _ _

end Alike

theorem alike_refl (view : Event → Option Seen) (world : World) : Alike view world world :=
  ⟨rfl, rfl, rfl, rfl, rfl, rfl⟩

/-- A view that shows everything makes the worlds equal. -/
theorem alike_eq {world twin : World} (alike : Alike some world twin) : twin = world := by
  have every : ∀ log : List Event, observed some log = log.reverse := by
    intro log
    rw [observed, List.filterMap_some]
  have log := alike.shown
  rw [every, every, List.reverse_inj] at log
  cases world
  cases twin
  obtain ⟨connection, queues, streams, stubs, next, _⟩ := alike
  dsimp only at connection queues streams stubs next log
  rw [connection, queues, streams, stubs, next, log]

/-! ## Programs that agree with themselves -/

section Programs

theorem checked_agrees {related : World → World → Prop} (result : Checked Value) :
    Agree related (checked result) (checked result) := by
  cases result with
  | ok value => exact agree_pure value
  | error stopped =>
      cases stopped with
      | exited => exact agree_stop Halt.exited
      | threw exception => exact agree_stop Halt.threw

theorem note_agrees {event twinEvent : Event} (same : view twinEvent = view event) :
    Agree (Alike view) (note event) (note twinEvent) :=
  agree_modify fun _ _ alike => alike.note same

theorem fresh_agrees : Agree (Alike view) fresh fresh := by
  intro world twin alike
  change Matches _ (.returned world.next { world with next := world.next + 1 })
    (.returned twin.next { twin with next := twin.next + 1 })
  rw [alike.next]
  exact .returned _ (alike.counted _)

theorem set_state_agrees (kind : StreamKind) (change : StreamState kind → StreamState kind) :
    Agree (Alike view) (setState kind change) (setState kind change) :=
  agree_modify fun _ _ alike => alike.setState kind change

theorem update_agrees (kind : StreamKind) (value : Update kind) :
    Agree (Alike view) (update kind value) (update kind value) :=
  agree_modify fun _ _ alike => alike.note (by rw [alike.state])

theorem through_reader_agrees (kind : StreamKind) (slot : Slot) :
    Agree (Alike view) (throughReader kind slot) (throughReader kind slot) := by
  intro world twin alike
  unfold throughReader World.tagOf
  rw [alike.state kind]
  split
  · exact .returned () (alike.put _ _)
  · exact .stopped Halt.undefined alike

theorem call_unary_async_agrees (origin : Origin) :
    Agree (Alike view) (callUnaryAsync origin) (callUnaryAsync origin) := by
  intro world twin alike
  exact .returned () (alike.allocate origin)

theorem finish_agrees (kind : StreamKind) :
    Agree (Alike view) (finish kind) (finish kind) := by
  refine agree_read fun world twin alike => ?_
  rw [alike.state kind]
  refine agree_ite Iff.rfl (agree_pure ()) (agree_ite Iff.rfl ?_ ?_) world twin alike
  · exact agree_bind (note_agrees rfl) fun _ => set_state_agrees kind _
  · exact agree_bind (through_reader_agrees kind .finish) fun _ => set_state_agrees kind _

theorem finish_stream_agrees : Agree (Alike view) finishStream finishStream :=
  agree_each fun kind _ => finish_agrees kind

theorem read_next_agrees (kind : StreamKind) :
    Agree (Alike view) (readNext kind) (readNext kind) :=
  agree_bind (update_agrees kind .issued) fun _ => through_reader_agrees kind .read

theorem shutdown_queue_agrees (unary : Bool) :
    Agree (Alike view) (shutdownQueue unary) (shutdownQueue unary) :=
  agree_modify fun world twin alike => by
    rw [alike.queueOf unary]
    exact alike.shutdown _

theorem new_queue_agrees : Agree (Alike view) newQueue newQueue :=
  agree_bind fresh_agrees fun queue =>
    agree_bind (agree_modify fun _ _ alike => alike.setQueue queue rfl) fun _ => agree_pure queue

theorem is_finished_alike {world twin : World} (alike : Alike view world twin) :
    isStreamFinished twin = isStreamFinished world := by
  have same : isFinished twin = isFinished world := by
    funext kind
    rw [isFinished, isFinished, alike.state]
  rw [isStreamFinished, isStreamFinished, same]

end Programs

/-! ## Two settings of the SDK -/

/-- Settings under which everything but the treatment of a completed operation is
the same. -/
structure Counterparts (view : Event → Option Seen) (env twin : Env) :
    Prop where
  environmentId : twin.configuration.environmentId = env.configuration.environmentId
  errorLoopMax : twin.configuration.errorLoopMax = env.configuration.errorLoopMax
  clientChecks : Agree (Alike view) (checked (clientChecks env))
    (checked (clientChecks twin))

section Settings
variable {env twin : Env} (settings : Counterparts view env twin)
include settings

theorem confirm_agrees (kind : StreamKind) (arguments : ConfirmArguments kind) :
    Agree (Alike view) (confirm env kind arguments) (confirm twin kind arguments) := by
  unfold confirm
  rw [settings.environmentId]
  exact agree_bind (update_agrees kind _) fun _ => call_unary_async_agrees .confirm

theorem api_call_agrees (origin : Origin) (call : ApiCall) :
    Agree (Alike view) (apiCall env origin call) (apiCall twin origin call) := by
  refine agree_bind (agree_modify fun _ _ alike => alike.note (by rw [alike.unaryShut])) fun _ => ?_
  cases call with
  | request client => exact call_unary_async_agrees origin
  | confirm kind arguments => exact confirm_agrees settings kind arguments
  | finish kind => exact finish_agrees kind

theorem react_agrees (reaction : Reaction) :
    Agree (Alike view) (react env reaction) (react twin reaction) :=
  agree_bind (agree_each fun call _ => api_call_agrees settings .nested call) fun _ =>
    agree_only_if fun _ => agree_stop Halt.threw

theorem subscribe_agrees (kind : StreamKind) :
    Agree (Alike view) (subscribe env kind) (subscribe twin kind) := by
  refine agree_read fun world twinWorld alike => ?_
  rw [settings.environmentId, alike.state kind, alike.connection]
  refine agree_bind (set_state_agrees kind _) (fun _ => ?_) world twinWorld alike
  refine agree_bind (note_agrees rfl) fun _ => ?_
  refine agree_bind (through_reader_agrees kind .start) fun _ => ?_
  exact agree_bind (through_reader_agrees kind .initMetadata) fun _ => read_next_agrees kind

theorem construct_stream_agrees (kind : StreamKind) (callback : Option CallbackId) :
    Agree (Alike view) (constructStream env kind callback)
      (constructStream twin kind callback) := by
  refine agree_bind settings.clientChecks fun _ => agree_bind fresh_agrees fun subscription => ?_
  refine agree_bind (agree_modify fun _ _ alike => alike.setClient kind rfl) fun _ => ?_
  exact agree_ite Iff.rfl (subscribe_agrees settings kind) (set_state_agrees kind _)

theorem on_callback_agrees (kind : StreamKind) (reaction : Reaction) :
    Agree (Alike view) (onCallback env kind reaction) (onCallback twin kind reaction) := by
  refine agree_read fun world twinWorld alike => ?_
  rw [alike.state kind]
  refine agree_bind (update_agrees kind _) (fun _ => ?_) world twinWorld alike
  exact agree_bind (react_agrees settings reaction) fun _ => update_agrees kind .returned

theorem send_confirm_agrees (kind : StreamKind) :
    Agree (Alike view) (sendConfirm env kind) (sendConfirm twin kind) := by
  refine agree_read fun world twinWorld alike => ?_
  rw [alike.state kind]
  exact confirm_agrees settings kind _ world twinWorld alike

theorem dispatch_unary_agrees (completion : UnaryCompletion)
    (passed : Agree (Alike view) (checked (passedStatus env completion))
      (checked (passedStatus twin completion))) :
    Agree (Alike view) (dispatchUnary env completion) (dispatchUnary twin completion) :=
  agree_bind passed fun _ => agree_bind (note_agrees rfl) fun _ =>
    agree_only_if fun _ => react_agrees settings completion.reaction

theorem reinitialize_unary_client_agrees (client : UnaryClient) :
    Agree (Alike view) (reinitializeUnaryClient env client)
      (reinitializeUnaryClient twin client) := by
  refine agree_bind settings.clientChecks fun _ => agree_bind fresh_agrees fun stub => ?_
  refine agree_modify fun world twinWorld alike => ?_
  exact { alike with stubs := by rw [alike.stubs] }

theorem reinitialize_unary_agrees :
    Agree (Alike view) (reinitializeUnary env) (reinitializeUnary twin) := by
  refine agree_bind new_queue_agrees fun queue => agree_bind (agree_modify ?_) fun _ =>
    agree_each fun client _ => reinitialize_unary_client_agrees settings client
  intro world twinWorld alike
  exact { alike with connection := by rw [alike.connection] }

theorem reinitialize_stream_agrees :
    Agree (Alike view) (reinitializeStream env) (reinitializeStream twin) := by
  refine agree_bind new_queue_agrees fun queue => agree_bind (agree_modify ?_) fun _ =>
    agree_each fun kind _ => agree_read fun world twinWorld alike => ?_
  · intro world twinWorld alike
    exact { alike with connection := by rw [alike.connection] }
  · rw [alike.streams]
    exact construct_stream_agrees settings kind _ world twinWorld alike

theorem construct_agrees (sanity : Agree (Alike view) (sanityCheck env) (sanityCheck twin))
    (callbacks : IVIStreamCallbacks) :
    Agree (Alike view) (construct env callbacks) (construct twin callbacks) := by
  refine agree_bind (agree_each fun client _ => reinitialize_unary_client_agrees settings client)
    fun _ => ?_
  refine agree_bind (agree_each fun kind _ => construct_stream_agrees settings kind _) fun _ => ?_
  exact sanity

end Settings

/-! ## One event -/

/-- The same completion, with another run of the callback. -/
def withReaction (reaction : Reaction) : Completion → Completion
  | .stream kind completion => .stream kind { completion with reaction := reaction }
  | .unary completion => .unary { completion with reaction := reaction }

def reactionOf : Completion → Reaction
  | .stream _ completion => completion.reaction
  | .unary completion => completion.reaction

theorem with_own_reaction (completion : Completion) :
    withReaction (reactionOf completion) completion = completion := by
  cases completion <;> rfl

section Events
variable {world twinWorld : World} (alike : Alike view world twinWorld)
include alike

theorem fill_buffer_alike (completion : Completion) (reaction : Reaction) :
    Alike view (world.fillBuffer completion)
      (twinWorld.fillBuffer (withReaction reaction completion)) := by
  cases completion with
  | unary completion => exact alike
  | stream kind completion =>
      unfold World.fillBuffer withReaction
      dsimp only
      rw [alike.state kind]
      split
      · exact (alike.setState kind _).note rfl
      · exact alike

theorem deliver_alike (unary : Bool) (completion : Completion) (reaction : Reaction)
    (shown : ∀ streamShut unaryShut,
      view (.delivered unary (withReaction reaction completion) streamShut unaryShut) =
        view (.delivered unary completion streamShut unaryShut)) :
    Alike view (world.deliver unary completion)
      (twinWorld.deliver unary (withReaction reaction completion)) := by
  have tag : (withReaction reaction completion).tag = completion.tag := by
    cases completion <;> rfl
  unfold World.deliver
  rw [tag, alike.queueOf unary, alike.streamShut, alike.unaryShut]
  exact fill_buffer_alike ((alike.take _ _).note (shown _ _)) completion reaction

variable {env twin : Env} {kind : StreamKind} {completion : StreamCompletion kind}

theorem dispatch_stream_matches (reaction : Reaction)
    (logs : completion.ok = false → Agree (Alike view) (logStreamFailure env completion.context)
      (logStreamFailure twin completion.context))
    (message : completion.slot = .read → completion.ok = true →
      completion.subscription = (world.state kind).subscription →
      Matches (Alike view) (processNext env kind completion world)
        (processNext twin kind { completion with reaction := reaction } twinWorld)) :
    Matches (Alike view) (dispatchStream env kind completion world)
      (dispatchStream twin kind { completion with reaction := reaction } twinWorld) := by
  have flagged : ∀ change : StreamState kind → StreamState kind, Agree (Alike view)
      (setState kind change >>= fun _ =>
        onlyIf (!completion.ok) (logStreamFailure env completion.context))
      (setState kind change >>= fun _ =>
        onlyIf (!completion.ok) (logStreamFailure twin completion.context)) :=
    fun change => agree_bind (set_state_agrees kind change) fun _ =>
      agree_only_if fun failed => logs (by simpa using failed)
  change Matches (Alike view)
    ((if completion.subscription ≠ (world.state kind).subscription then stop .undefined
      else _ : Manager Unit) world)
    ((if completion.subscription ≠ (twinWorld.state kind).subscription then stop .undefined
      else _ : Manager Unit) twinWorld)
  rw [alike.state kind]
  by_cases stale : completion.subscription ≠ (world.state kind).subscription
  · rw [if_pos stale, if_pos stale]
    exact .stopped Halt.undefined alike
  · rw [if_neg stale, if_neg stale]
    cases slot : completion.slot with
    | start => exact flagged _ world twinWorld alike
    | initMetadata => exact flagged _ world twinWorld alike
    | finish => exact flagged _ world twinWorld alike
    | read =>
        by_cases ok : completion.ok = true
        · have handled := message slot ok (Decidable.not_not.mp stale)
          rw [slot] at handled
          exact handled
        · rw [Bool.not_eq_true] at ok
          simp only [processNext, ok, Bool.not_false, ↓reduceIte]
          exact agree_bind (update_agrees kind .failed) (fun _ => logs ok) world twinWorld alike

end Events

/-- The two runtimes get the tag alike and then differ at most in `(*cb)(ok)`. -/
theorem event_agrees {runtime twin : Runtime} (admits : twin.admits = runtime.admits)
    (unary : Bool) (completion : Completion) (reaction : Reaction)
    (shown : ∀ streamShut unaryShut,
      view (.delivered unary (withReaction reaction completion) streamShut unaryShut) =
        view (.delivered unary completion streamShut unaryShut))
    (dispatches : ∀ before twinAfter : World, Alike view (before.deliver unary completion) twinAfter →
      Matches (Alike view) (dispatch runtime.toEnv completion (before.deliver unary completion))
        (dispatch twin.toEnv (withReaction reaction completion) twinAfter)) :
    Agree (Alike view) (processEvent runtime unary completion)
      (processEvent twin unary (withReaction reaction completion)) := by
  have tag : (withReaction reaction completion).tag = completion.tag := by
    cases completion <;> rfl
  intro world twinWorld alike
  have handed : Matches (Alike view) (asyncNext runtime unary completion world)
      (asyncNext twin unary (withReaction reaction completion) twinWorld) := by
    unfold asyncNext
    rw [admits, alike.queueOf unary, alike.queues, tag]
    split
    · exact .returned () (deliver_alike alike unary completion reaction shown)
    · exact .stopped Halt.waiting alike
  refine handed.bind fun _ after twinAfter ran alike => ?_
  have delivered : after = world.deliver unary completion := by
    unfold asyncNext at ran
    split at ran
    · cases ran
      rfl
    · cases ran
  subst delivered
  refine (dispatches world twinAfter alike).bind fun _ last twinLast _ alike => ?_
  rw [tag]
  exact agree_only_if (fun _ => note_agrees rfl) last twinLast alike

/-! ## Polling -/

/-- Two runtimes whose queues hand out the same tags and whose events agree, when
what a callback does is translated from the first to the second. -/
structure EventsAgree (view : Event → Option Seen)
    (allowed : Completion → Prop) (translate : Completion → Completion)
    (runtime twin : Runtime) : Prop where
  settings : Counterparts view runtime.toEnv twin.toEnv
  admits : twin.admits = runtime.admits
  ok : ∀ completion, (translate completion).ok = completion.ok
  event : ∀ unary completion, allowed completion →
    Agree (Alike view) (processEvent runtime unary completion)
      (processEvent twin unary (translate completion))

def translatePass (translate : Completion → Completion) (pass : Pass) : Pass :=
  { pass with events := pass.events.map translate }

def PassesMeet (allowed : Completion → Prop) (passes : List Pass) : Prop :=
  ∀ pass ∈ passes, ∀ completion ∈ pass.events, allowed completion

theorem PassesMeet.tail {allowed : Completion → Prop} {pass : Pass} {passes : List Pass}
    (meets : PassesMeet allowed (pass :: passes)) : PassesMeet allowed passes :=
  fun one member => meets one (List.mem_cons_of_mem pass member)

section Polling
variable {allowed : Completion → Prop} {translate : Completion → Completion}
  {runtime twin : Runtime} (rules : EventsAgree view allowed translate runtime twin)
include rules

theorem process_events_agrees (unary : Bool) (events : List Completion)
    (meets : ∀ completion ∈ events, allowed completion) (callShutdown : Bool) :
    Agree (Alike view) (processEvents runtime unary events callShutdown)
      (processEvents twin unary (events.map translate) callShutdown) := by
  induction events generalizing callShutdown with
  | nil => exact agree_pure callShutdown
  | cons completion rest ih =>
      have later := ih fun one member => meets one (List.mem_cons_of_mem completion member)
      refine agree_bind (rules.event unary completion (meets completion List.mem_cons_self))
        fun _ => ?_
      rw [rules.ok completion]
      exact later (callShutdown || !completion.ok)

theorem async_next_last_agrees (unary : Bool) (last : Option NextStatus) :
    Agree (Alike view) (asyncNextLast runtime unary last)
      (asyncNextLast twin unary last) := by
  intro world twinWorld alike
  unfold asyncNextLast
  rw [rules.admits, alike.queueOf unary, alike.queues]
  cases last with
  | none => exact .stopped Halt.waiting alike
  | some status =>
      dsimp only
      split
      · exact .returned status alike
      · exact .stopped Halt.waiting alike

theorem process_queue_agrees (unary : Bool) (pass : Pass)
    (meets : ∀ completion ∈ pass.events, allowed completion) :
    Agree (Alike view) (processQueue runtime unary pass)
      (processQueue twin unary (translatePass translate pass)) :=
  agree_bind (process_events_agrees rules unary pass.events meets false) fun callShutdown =>
    agree_bind (async_next_last_agrees rules unary pass.last) fun nextStatus =>
      agree_pure (PassResult.mk callShutdown nextStatus)

/-- The loop after `Shutdown` has the same bound and the same condition. -/
theorem drain_agrees (unary : Bool) (passes : List Pass) (meets : PassesMeet allowed passes)
    (nextStatus : NextStatus) (pollCount : Nat) :
    Agree (Alike view) (drain runtime unary passes nextStatus pollCount)
      (drain twin unary (passes.map (translatePass translate)) nextStatus pollCount) := by
  induction passes generalizing nextStatus pollCount with
  | nil =>
      refine agree_read fun world twinWorld alike => ?_
      rw [rules.settings.errorLoopMax, is_finished_alike alike]
      exact agree_ite Iff.rfl (agree_stop Halt.unfinished) (agree_pure pollCount) world twinWorld
        alike
  | cons pass rest ih =>
      have later := ih meets.tail
      refine agree_read fun world twinWorld alike => ?_
      rw [rules.settings.errorLoopMax, is_finished_alike alike]
      refine agree_ite Iff.rfl ?_ (agree_pure pollCount) world twinWorld alike
      refine agree_bind (note_agrees rfl) fun _ => ?_
      refine agree_bind (process_queue_agrees rules unary pass (meets pass List.mem_cons_self))
        fun drained => ?_
      refine agree_ite Iff.rfl (later drained.nextStatus pollCount) ?_
      refine agree_bind (agree_only_if fun _ => ?_) fun _ =>
        later drained.nextStatus (pollCount + 1)
      exact agree_bind (note_agrees rfl) fun _ => finish_stream_agrees

theorem recover_agrees (unary : Bool) (passes : List Pass) (meets : PassesMeet allowed passes) :
    Agree (Alike view) (recover runtime unary passes)
      (recover twin unary (passes.map (translatePass translate))) := by
  refine agree_bind (agree_only_if fun _ => finish_stream_agrees) fun _ => ?_
  cases passes with
  | nil => exact agree_stop Halt.unfinished
  | cons pass rest =>
      refine agree_bind (process_queue_agrees rules unary pass (meets pass List.mem_cons_self))
        fun polled => agree_bind (shutdown_queue_agrees unary) fun _ => ?_
      refine agree_bind (drain_agrees rules unary rest meets.tail polled.nextStatus 0)
        fun pollCount => ?_
      rw [rules.settings.errorLoopMax]
      exact note_agrees rfl

theorem poll_queue_agrees (unary : Bool) (passes : List Pass) (meets : PassesMeet allowed passes) :
    Agree (Alike view) (pollQueue runtime unary passes)
      (pollQueue twin unary (passes.map (translatePass translate))) := by
  cases passes with
  | nil => exact agree_stop Halt.unfinished
  | cons pass rest =>
      refine agree_bind (process_queue_agrees rules unary pass (meets pass List.mem_cons_self))
        fun polled => ?_
      exact agree_bind (agree_only_if fun _ => recover_agrees rules unary rest meets.tail)
        fun _ => agree_pure polled.callShutdown

end Polling

/-! ## Actions and runs -/

/-- `Poll` behind its check. -/
def pollQueues (runtime : Runtime) (channelState : ChannelState)
    (unaryPasses streamPasses : List Pass) : Manager Bool := do
  let unaryShutdown ← pollQueue runtime true unaryPasses
  let streamShutdown ← pollQueue runtime false streamPasses
  if unaryShutdown || streamShutdown then
    if channelState = .shutdown then pure false
    else do
      onlyIf unaryShutdown (reinitializeUnary runtime.toEnv)
      onlyIf streamShutdown (reinitializeStream runtime.toEnv)
      pure true
  else pure true

theorem poll_eq (runtime : Runtime) (channelState : ChannelState)
    (unaryPasses streamPasses : List Pass) :
    poll runtime channelState unaryPasses streamPasses =
      (checked (check runtime.build runtime.configuration.autoconfirmStreamUpdates) >>= fun _ =>
        pollQueues runtime channelState unaryPasses streamPasses) := rfl

/-- An action in which `Poll` is whatever the application polls with. -/
def actWith (pollWith : ChannelState → List Pass → List Pass → Manager Bool)
    (runtime : Runtime) : Action → Manager Reply
  | .poll channelState unaryPasses streamPasses => do
      let result ← pollWith channelState unaryPasses streamPasses
      pure (.polled result)
  | action => act runtime action

/-- `run` with another action. -/
def runWith (act : Action → Manager Reply) :
    List Action → List Reply → World → Option (List Reply × World)
  | [], replies, world => some (replies, world)
  | action :: rest, replies, world =>
      match resume (act action world) with
      | some (reply, after) => runWith act rest (reply :: replies) after
      | none => none

theorem act_with_poll (runtime : Runtime) : actWith (poll runtime) runtime = act runtime := by
  funext action
  cases action <;> rfl

theorem run_with_act (runtime : Runtime) (actions : List Action) (replies : List Reply)
    (world : World) : runWith (act runtime) actions replies world =
      run runtime actions replies world := by
  induction actions generalizing replies world with
  | nil => rfl
  | cons action rest ih =>
      unfold runWith run
      cases resume (act runtime action world) with
      | none => rfl
      | some next => exact ih (next.1 :: replies) next.2

def translateAction (translate : Completion → Completion) : Action → Action
  | .poll channelState unaryPasses streamPasses =>
      .poll channelState (unaryPasses.map (translatePass translate))
        (streamPasses.map (translatePass translate))
  | .pollUnary passes => .pollUnary (passes.map (translatePass translate))
  | .pollStream passes => .pollStream (passes.map (translatePass translate))
  | action => action

def ActionMeets (allowed : Completion → Prop) : Action → Prop
  | .poll _ unaryPasses streamPasses =>
      PassesMeet allowed unaryPasses ∧ PassesMeet allowed streamPasses
  | .pollUnary passes | .pollStream passes => PassesMeet allowed passes
  | _ => True

section Actions
variable {allowed : Completion → Prop} {translate : Completion → Completion}
  {runtime twin : Runtime} (rules : EventsAgree view allowed translate runtime twin)
include rules

theorem poll_queues_agrees (channelState : ChannelState) {unaryPasses streamPasses : List Pass}
    (unaryMeets : PassesMeet allowed unaryPasses) (streamMeets : PassesMeet allowed streamPasses) :
    Agree (Alike view) (pollQueues runtime channelState unaryPasses streamPasses)
      (pollQueues twin channelState (unaryPasses.map (translatePass translate))
        (streamPasses.map (translatePass translate))) := by
  refine agree_bind (poll_queue_agrees rules true unaryPasses unaryMeets) fun unaryShutdown => ?_
  refine agree_bind (poll_queue_agrees rules false streamPasses streamMeets)
    fun streamShutdown => ?_
  refine agree_ite Iff.rfl (agree_ite Iff.rfl (agree_pure false) ?_) (agree_pure true)
  refine agree_bind (agree_only_if fun _ => reinitialize_unary_agrees rules.settings) fun _ => ?_
  exact agree_bind (agree_only_if fun _ => reinitialize_stream_agrees rules.settings)
    fun _ => agree_pure true

theorem act_agrees {pollWith twinPollWith : ChannelState → List Pass → List Pass → Manager Bool}
    (polls : ∀ channelState unaryPasses streamPasses, PassesMeet allowed unaryPasses →
      PassesMeet allowed streamPasses →
      Agree (Alike view) (pollWith channelState unaryPasses streamPasses)
        (twinPollWith channelState (unaryPasses.map (translatePass translate))
          (streamPasses.map (translatePass translate))))
    (action : Action) (meets : ActionMeets allowed action) :
    Agree (Alike view) (actWith pollWith runtime action)
      (actWith twinPollWith twin (translateAction translate action)) := by
  cases action with
  | call call =>
      exact agree_bind (api_call_agrees rules.settings .direct call) fun _ =>
        agree_pure Reply.done
  | poll channelState unaryPasses streamPasses =>
      exact agree_bind (polls channelState _ _ meets.1 meets.2) fun _ => agree_pure _
  | pollUnary passes =>
      exact agree_bind (poll_queue_agrees rules true passes meets) fun _ => agree_pure _
  | pollStream passes =>
      exact agree_bind (poll_queue_agrees rules false passes meets) fun _ => agree_pure _
  | reinitializeUnary =>
      exact agree_bind (reinitialize_unary_agrees rules.settings) fun _ => agree_pure Reply.done
  | reinitializeStream =>
      exact agree_bind (reinitialize_stream_agrees rules.settings) fun _ => agree_pure Reply.done

end Actions

/-- The same replies, in like worlds. -/
def SameReplies (view : Event → Option Seen) (result twin : List Reply × World) : Prop :=
  twin.1 = result.1 ∧ Alike view result.2 twin.2

theorem same_replies_eq {result twin : List Reply × World} (same : SameReplies some result twin) :
    twin = result :=
  Prod.ext same.1 (alike_eq same.2)

/-- Two runs come back with the same replies, or neither comes back. -/
theorem runs_agree {actOne twinAct : Action → Manager Reply} {translate : Action → Action}
    {allowed : Action → Prop}
    (step : ∀ action, allowed action →
      Agree (Alike view) (actOne action) (twinAct (translate action)))
    (actions : List Action) (every : ∀ action ∈ actions, allowed action) (replies : List Reply)
    {world twin : World} (alike : Alike view world twin) :
    Option.Rel (SameReplies view) (runWith actOne actions replies world)
      (runWith twinAct (actions.map translate) replies twin) := by
  -- Over the actions; both worlds and the replies so far vary.
  induction actions generalizing replies world twin with
  | nil => exact .some ⟨rfl, alike⟩
  | cons action rest ih =>
      have ended := step action (every action List.mem_cons_self) world twin alike
      have others := fun one member => every one (List.mem_cons_of_mem action member)
      unfold runWith
      rw [List.map_cons]
      dsimp only
      generalize actOne action world = outcome at ended
      generalize twinAct (translate action) twin = other at ended
      cases ended with
      | returned reply ends => exact ih others (reply :: replies) ends
      | stopped reason ends =>
          cases reason with
          | threw => exact ih others (.threw :: replies) ends
          | exited => exact .none
          | waiting => exact .none
          | unfinished => exact .none
          | undefined => exact .none

end IviSdk.PairedRuns
