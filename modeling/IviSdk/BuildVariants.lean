import IviSdk.PairedRuns
import IviSdk.LoggedFailures

/-!
The two build options of `ivi-util.h`, over whole runs of a manager. The logging
level makes no difference while what a failure line would quote can be read. The
option to exit on a failed check only decides whether a manager with a bad
configuration, or one polled without automatic confirmation, goes on. The checks of
the requests themselves are not part of a run (`FailedChecks` has them).
-/

namespace IviSdk.BuildVariants

open Checks Results UnaryCalls CompletionQueues Streams ManagerWorld Interaction StreamClients
open ClientManager ManagerRuns CallOutcomes LoggedFailures PairedPrograms PairedRuns

/-! ## Builds with the same events -/

/-- Two builds of one configuration that treat these completions the same. -/
structure SameEvents (allowed : Completion → Prop) (env twin : Env) : Prop where
  configuration : twin.configuration = env.configuration
  checks : clientChecks twin = clientChecks env
  logs : ∀ kind (completion : StreamCompletion kind), allowed (.stream kind completion) →
    completion.ok = false →
    logFailure twin.build completion.context = logFailure env.build completion.context
  passed : ∀ completion, allowed (.unary completion) →
    passedStatus twin completion = passedStatus env completion

section SameEvents
variable {allowed : Completion → Prop} {env twin : Env} (same : SameEvents allowed env twin)
include same

theorem SameEvents.counterparts : Counterparts some env twin where
  environmentId := by rw [same.configuration]
  errorLoopMax := by rw [same.configuration]
  clientChecks := by
    rw [same.checks]
    exact checked_agrees _

theorem SameEvents.event (unary : Bool) (completion : Completion) (fits : allowed completion) :
    Agree (Alike some) (processEvent (grpc env) unary completion)
      (processEvent (grpc twin) unary completion) := by
  have settings := same.counterparts
  have agrees := @event_agrees _ some (grpc env) (grpc twin) rfl unary completion
    (reactionOf completion)
  rw [with_own_reaction] at agrees
  refine agrees (fun _ _ => rfl) fun before twinAfter alike => ?_
  cases completion with
  | unary completion =>
      refine dispatch_unary_agrees settings completion ?_ _ _ alike
      rw [same.passed completion fits]
      exact checked_agrees _
  | stream kind completion =>
      refine dispatch_stream_matches alike completion.reaction ?_ ?_
      · intro failed
        change Agree _ (checked (logFailure env.build completion.context))
          (checked (logFailure twin.build completion.context))
        rw [same.logs kind completion fits failed]
        exact checked_agrees _
      · intro _ ok _
        have message : Agree (Alike some) (processNext env kind completion)
            (processNext twin kind completion) := by
          simp only [processNext, ok, Bool.not_true, Bool.false_eq_true, ↓reduceIte]
          rw [same.configuration]
          refine agree_bind (on_callback_agrees settings kind completion.reaction) fun _ => ?_
          exact agree_bind (agree_only_if fun _ => send_confirm_agrees settings kind) fun _ =>
            read_next_agrees kind
        exact message _ _ alike

theorem SameEvents.rules : EventsAgree some allowed id (grpc env) (grpc twin) where
  settings := same.counterparts
  admits := rfl
  ok _ := rfl
  event := same.event

end SameEvents

/-! ## Two runs -/

theorem translate_no_pass (passes : List Pass) : passes.map (translatePass id) = passes := by
  have each : translatePass id = id := by
    funext pass
    rw [translatePass, List.map_id]
    rfl
  rw [each, List.map_id]

theorem translate_nothing (action : Action) : translateAction id action = action := by
  cases action <;> simp only [translateAction, translate_no_pass]

section Runs
variable {allowed : Completion → Prop} {env twin : Env}

theorem SameEvents.builds (same : SameEvents allowed env twin)
    (callbacks : IVIStreamCallbacks) : construct twin callbacks = construct env callbacks := by
  funext world
  have ended := construct_agrees same.counterparts (agree_pure ()) callbacks world world
    (alike_refl some world)
  exact ended.eq fun _ _ alike => alike_eq alike

/-- The runs of two such builds are the same, if the check of `Poll` is. -/
theorem SameEvents.runs (same : SameEvents allowed env twin) (actions : List Action)
    (fits : ∀ action ∈ actions, ActionMeets allowed action)
    (checks : ∀ channelState unaryPasses streamPasses,
      Action.poll channelState unaryPasses streamPasses ∈ actions →
      check twin.build twin.configuration.autoconfirmStreamUpdates =
        check env.build env.configuration.autoconfirmStreamUpdates)
    (replies : List Reply) (world : World) :
    run (grpc twin) actions replies world = run (grpc env) actions replies world := by
  have rules := same.rules
  have step : ∀ action, action ∈ actions →
      Agree (Alike some) (act (grpc env) action) (act (grpc twin) (id action)) := by
    intro action member
    have agrees := act_agrees rules (fun channelState _ _ => poll_queues_agrees rules channelState)
      action (fits action member)
    rw [translate_nothing] at agrees
    cases action with
    | poll channelState unaryPasses streamPasses =>
        have behind := poll_queues_agrees rules channelState (fits _ member).1 (fits _ member).2
        rw [translate_no_pass, translate_no_pass] at behind
        have polled : Agree (Alike some)
            (poll (grpc env) channelState unaryPasses streamPasses)
            (poll (grpc twin) channelState unaryPasses streamPasses) := by
          have checked : Agree (Alike some)
              (checked (check env.build env.configuration.autoconfirmStreamUpdates))
              (checked (check twin.build twin.configuration.autoconfirmStreamUpdates)) := by
            rw [checks channelState unaryPasses streamPasses member]
            exact checked_agrees _
          exact agree_bind checked fun _ => behind
        exact agree_bind polled fun _ => agree_pure _
    | call call => exact agrees
    | pollUnary passes => exact agrees
    | pollStream passes => exact agrees
    | reinitializeUnary => exact agrees
    | reinitializeStream => exact agrees
  have ended := runs_agree step actions (fun _ member => member) replies (alike_refl some world)
  rw [List.map_id, run_with_act, run_with_act] at ended
  generalize run (grpc env) actions replies world = one at ended
  generalize run (grpc twin) actions replies world = other at ended
  cases ended with
  | none => rfl
  | some same => rw [same_replies_eq same]

end Runs

/-! ## The logging level -/

/-- What a log line would quote of this failure can be read, or the result is read
from the same place. -/
def Readable : Completion → Prop
  | .stream _ completion => completion.ok = false → HttpCodeParses completion.context
  | .unary completion => (completion.ok && completion.status.ok) = false →
      TrailerHarmless completion.context completion.status

theorem passed_status_eq (env : Env) (completion : UnaryCompletion) :
    passedStatus env completion =
      if (completion.ok && completion.status.ok) = true then
        if completion.parserExits then .error .exited else .ok .success
      else failedOutcome env.build completion.context completion.status := by
  unfold passedStatus checkOkUnaryAsync failedOutcome
  cases completion.ok with
  | false => cases logFailure env.build completion.context <;> rfl
  | true =>
      cases completion.status.ok with
      | false => cases logFailure env.build completion.context <;> rfl
      | true => rfl

theorem logging_same_events (env : Env) (level : Nat) :
    SameEvents Readable env (withLogging env level) where
  configuration := rfl
  checks := rfl
  logs kind completion readable failed := by
    rw [log_failure_parses _ _ (readable failed), log_failure_parses _ _ (readable failed)]
  passed completion readable := by
    rw [passed_status_eq, passed_status_eq]
    by_cases succeeded : (completion.ok && completion.status.ok) = true
    · rw [if_pos succeeded, if_pos succeeded]
    · rw [if_neg succeeded, if_neg succeeded]
      have harmless := readable (Bool.not_eq_true _ ▸ succeeded)
      rw [failed_outcome_harmless harmless, failed_outcome_harmless harmless]

/-- While every failure can be read, a manager in a build with any logging level
makes the same construction and the same runs: the same replies, callbacks,
operations and states. -/
theorem logging_level_irrelevant (env : Env) (level : Nat) (callbacks : IVIStreamCallbacks)
    (actions : List Action) (readable : ∀ action ∈ actions, ActionMeets Readable action) :
    construct (withLogging env level) callbacks = construct env callbacks ∧
    run (grpc (withLogging env level)) actions [] = run (grpc env) actions [] := by
  have same := logging_same_events env level
  refine ⟨same.builds callbacks, ?_⟩
  funext world
  exact same.runs actions readable (fun _ _ _ _ => rfl) [] world

/-- A reply whose status code the SDK does not name. -/
def lostReply : UnaryCompletion where
  origin := .direct
  id := 5
  ok := true
  context := unknownCodeContext
  status := ⟨99, "lost"⟩

def replyArrives : Action := .pollUnary [{ events := [.unary lostReply] }]

theorem lost_reply_in_quiet_build :
    (∀ action ∈ [replyArrives], ActionMeets Readable action) ∧
    construct (withLogging defaultEnv 0) (fun _ => none) = construct defaultEnv (fun _ => none) ∧
    run (grpc (withLogging defaultEnv 0)) [replyArrives] [] =
      run (grpc defaultEnv) [replyArrives] [] := by
  have readable : ∀ action ∈ [replyArrives], ActionMeets Readable action := by
    have harmless : TrailerHarmless lostReply.context lostReply.status := .inl unknown_code_parses
    simp [replyArrives, ActionMeets, PassesMeet, Readable, harmless]
  exact ⟨readable, logging_level_irrelevant defaultEnv 0 (fun _ => none) [replyArrives] readable⟩

/-! ## Exit on a failed check -/

/-- The same library with `IVI_ENABLE_EXIT_ON_FAIL_CHECK` set or not. -/
def withExit (env : Env) (exits : Bool) : Env :=
  { env with build := { env.build with enableExitOnFailCheck := exits } }

/-- What the constructors of the clients check. -/
structure WellConfigured (configuration : IVIConfiguration) : Prop where
  host : configuration.host ≠ ""
  apiKey : configuration.apiKey ≠ ""
  environmentId : configuration.environmentId ≠ ""

theorem well_configured_iff (env : Env) :
    clientChecks (withExit env true) = .ok () ↔ WellConfigured env.configuration := by
  have checks : ∀ text : String, check (withExit env true).build (text != "") = .ok () ↔
      text ≠ "" := by
    intro text
    by_cases empty : text = ""
    · simp [check, exitFailure, withExit, empty]
    · simp [check, empty]
  constructor
  · intro passed
    obtain ⟨_, host, passed⟩ := ok_of_bind passed
    obtain ⟨_, apiKey, environmentId⟩ := ok_of_bind passed
    exact ⟨(checks _).mp host, (checks _).mp apiKey, (checks _).mp environmentId⟩
  · intro configured
    unfold clientChecks
    change (check _ (env.configuration.host != "") >>= fun _ =>
      check _ (env.configuration.apiKey != "") >>= fun _ =>
        check _ (env.configuration.environmentId != "")) = _
    rw [(checks _).mpr configured.host, (checks _).mpr configured.apiKey,
      (checks _).mpr configured.environmentId]
    rfl

/-- A build that logs a failed check passes all of them. -/
theorem logging_checks_pass (env : Env) : clientChecks (withExit env false) = .ok () := by
  have passes : ∀ expr, check (withExit env false).build expr = .ok () := by
    intro expr
    cases expr <;> rfl
  unfold clientChecks
  rw [passes, passes, passes]
  rfl

def IsPoll : Action → Prop
  | .poll .. => True
  | _ => False

/-- Every action of a run that came back came back. -/
theorem run_acts {runtime : Runtime} {actions : List Action} {replies later : List Reply}
    {world after : World} (ran : run runtime actions replies world = some (later, after))
    {action : Action} (member : action ∈ actions) :
    ∃ before back, resume (act runtime action before) = some back := by
  induction actions generalizing replies world with
  | nil => cases member
  | cons one rest ih =>
      simp only [run] at ran
      split at ran
      · next reply middle resumed =>
          rcases List.mem_cons.mp member with rfl | member
          · exact ⟨world, _, resumed⟩
          · exact ih ran member
      · cases ran

/-- No check fails in a response parser. -/
def ParserPasses : Completion → Prop
  | .stream _ _ => True
  | .unary completion => completion.parserExits = false

theorem exit_same_events (env : Env) (configured : WellConfigured env.configuration) :
    SameEvents ParserPasses (withExit env true) (withExit env false) where
  configuration := rfl
  checks := by rw [logging_checks_pass, (well_configured_iff env).mpr configured]
  logs _ _ _ _ := rfl
  passed _ _ := rfl

/-- Where no response parser fails a check, nor does a request before it is made, a
build that exits on a failed check reaches what the build that only logs it reaches,
with a configuration whose fields are given, and with automatic confirmation or
without `Poll`. -/
theorem exit_build_reaches_iff (env : Env) (connection : IVIConnection)
    (callbacks : IVIStreamCallbacks) (actions : List Action)
    (passes : ∀ action ∈ actions, ActionMeets ParserPasses action) (replies : List Reply)
    (world : World) :
    Reached (grpc (withExit env true)) connection callbacks actions replies world ↔
      WellConfigured env.configuration ∧
      (env.configuration.autoconfirmStreamUpdates = true ∨ ∀ action ∈ actions, ¬ IsPoll action) ∧
      Reached (grpc (withExit env false)) connection callbacks actions replies world := by
  have same : ∀ configured : WellConfigured env.configuration,
      (env.configuration.autoconfirmStreamUpdates = true ∨ ∀ action ∈ actions, ¬ IsPoll action) →
      (Reached (grpc (withExit env true)) connection callbacks actions replies world ↔
        Reached (grpc (withExit env false)) connection callbacks actions replies world) := by
    intro configured polls
    have events := exit_same_events env configured
    have runs := events.runs actions passes ?_ []
    · constructor
      · rintro ⟨first, built, ran⟩
        exact ⟨first, (congrFun (events.builds callbacks) _).trans built, (runs first).trans ran⟩
      · rintro ⟨first, built, ran⟩
        exact ⟨first, (congrFun (events.builds callbacks) _).symm.trans built,
          (runs first).symm.trans ran⟩
    · intro channelState unaryPasses streamPasses member
      have auto := polls.resolve_right fun never => never _ member trivial
      change check _ env.configuration.autoconfirmStreamUpdates =
        check _ env.configuration.autoconfirmStreamUpdates
      rw [auto]
      rfl
  constructor
  · intro reached
    obtain ⟨first, built, ran⟩ := reached
    have configured : WellConfigured env.configuration := by
      refine (well_configured_iff env).mp ?_
      -- The first client built runs the checks.
      obtain ⟨_, _, clients, _⟩ := returned_of_bind built
      obtain ⟨_, _, client, _⟩ := returned_of_bind clients
      obtain ⟨_, _, passed, _⟩ := returned_of_bind client
      rcases client_checks_cases (withExit env true) with fine | failed
      · exact fine
      · change checked (clientChecks (withExit env true)) _ = _ at passed
        rw [failed] at passed
        cases passed
    have polls : env.configuration.autoconfirmStreamUpdates = true ∨
        ∀ action ∈ actions, ¬ IsPoll action := by
      cases auto : env.configuration.autoconfirmStreamUpdates with
      | true => exact .inl rfl
      | false =>
          refine .inr fun action member isPoll => ?_
          obtain ⟨before, back, resumed⟩ := run_acts ran member
          cases action with
          | poll channelState unaryPasses streamPasses =>
              have exits : act (grpc (withExit env true))
                  (.poll channelState unaryPasses streamPasses) before = .stopped .exited before := by
                simp [act, poll_eq, bind, checked, check, exitFailure, grpc, withExit, auto, stop]
              rw [exits] at resumed
              cases resumed
          | call _ | pollUnary _ | pollStream _ | reinitializeUnary | reinitializeStream =>
              exact isPoll
    exact ⟨configured, polls, (same configured polls).mp ⟨first, built, ran⟩⟩
  · rintro ⟨configured, polls, reached⟩
    exact (same configured polls).mpr reached

/-- An order is requested, and the next poll is handed its answer. -/
def orderAnswered : List Action :=
  [.call (.request .order),
    .poll .other [{ events := [.unary { origin := .direct, id := 11, ok := true }] }] [{}]]

theorem order_answered_in_exit_build :
    (∀ action ∈ orderAnswered, ActionMeets ParserPasses action) ∧
    ∃ world, Reached (grpc (withExit defaultEnv true)) newConnection itemCallbacks orderAnswered
      [.polled true, .done] world := by
  have passes : ∀ action ∈ orderAnswered, ActionMeets ParserPasses action := by
    simp [orderAnswered, ActionMeets, PassesMeet, ParserPasses]
  obtain ⟨world, reached⟩ :=
    @reached_of_replies (grpc (withExit defaultEnv false)) newConnection itemCallbacks
      orderAnswered [.polled true, .done] (by decide +kernel) (by decide +kernel)
  refine ⟨passes, world, ?_⟩
  exact (exit_build_reaches_iff defaultEnv newConnection itemCallbacks orderAnswered passes
    [.polled true, .done] world).mpr ⟨⟨by decide, by decide, by decide⟩, .inl rfl, reached⟩

end IviSdk.BuildVariants
