import IviSdk.CallOutcomes

/-!
Two builds of the SDK that differ in their logging level, on one failed call.
From level 3 up every failure is logged with its HTTP code, so the trailer is
parsed before the status code is looked at. A trailer that does not parse then
throws, also where the status code alone would have decided the result.
-/

namespace IviSdk.LoggedFailures

open CText Checks Models Results UnaryCalls EntryPoints CallOutcomes

variable {Struct Answer : Type}

/-- The same library built with another logging level. -/
def withLogging (env : Env) (level : Nat) : Env :=
  { env with build := { env.build with loggingLevel := level } }

/-- What both call templates do with a failed call: log it, then translate it. -/
def failedOutcome (build : Build) (context : ClientContext) (status : Status) :
    Checked IVIResultStatus := do
  logFailure build context
  translateGrpcError context status

/-! ## Failed calls of either kind -/

theorem failed_outcome_not_success {build : Build} {context : ClientContext} {status : Status}
    {translated : IVIResultStatus}
    (outcome : failedOutcome build context status = .ok translated) : translated ≠ .success := by
  obtain ⟨_, _, outcome⟩ := ok_of_bind outcome
  exact translate_grpc_error_not_success context status translated outcome

theorem finish_failed (env : Env) (json : JsonUtil Struct) (op : Operation) (build : Build)
    (context : ClientContext) (status : Status) :
    ((failedOutcome build context status).map fun translated =>
        (op.plan env json).finish (.ofStatus translated)) =
      (failedOutcome build context status).map fun translated =>
        (.ofStatus translated : IVIResultT op.Payload) := by
  cases outcome : failedOutcome build context status with
  | error stop => rfl
  | ok translated =>
      have failed := failed_outcome_not_success outcome
      exact congrArg Except.ok (finish_failure env json op translated failed)

section Templates
variable {Request Response Payload : Type} [Messages.EnvironmentScoped Request]
  [Inhabited Payload]

theorem rejected_receive (env : Env) (request : Request)
    (call : Request → Messages.RpcCall Struct) (parser : ResponseParser Response Payload)
    (reply : ServerReply Response) (rejected : reply.status.ok = false) :
    (callUnary env request call parser).receive reply =
      (failedOutcome env.build reply.context reply.status).map IVIResultT.ofStatus := by
  simp only [callUnary, rejected, Bool.false_eq_true, ↓reduceIte, failedOutcome, failureResult]
  cases logFailure env.build reply.context with
  | error stop => rfl
  | ok done => cases translateGrpcError reply.context reply.status <;> rfl

theorem rejected_complete (env : Env) (request : Request)
    (call : Request → Messages.RpcCall Struct) (parser : ResponseParser Response Payload)
    (callback : Callback (IVIResultT Payload) Answer)
    (started : AsyncCall Struct Response Answer)
    (made : callUnaryAsync env request call parser callback = .ok started) (ok : Bool)
    (reply : ServerReply Response) (rejected : (ok && reply.status.ok) = false) :
    started.complete ok reply =
      ((failedOutcome env.build reply.context reply.status).map IVIResultT.ofStatus).bind
        (invoke callback) := by
  obtain ⟨_, _, made⟩ := ok_of_bind made
  cases made
  have logs : checkOkUnaryAsync env.build ok reply.context reply.status =
      (logFailure env.build reply.context).map fun _ => false := by
    unfold checkOkUnaryAsync
    cases ok with
    | false => cases logFailure env.build reply.context <;> rfl
    | true =>
        simp only [Bool.true_and] at rejected
        rw [rejected]
        cases logFailure env.build reply.context <;> rfl
  dsimp only
  rw [logs]
  unfold failedOutcome failureResult
  cases logFailure env.build reply.context with
  | error stop => rfl
  | ok done => cases translateGrpcError reply.context reply.status <;> rfl

end Templates

section Operations
variable {env : Env} {json : JsonUtil Struct} {op : Operation}

theorem failed_call_receives {call : Call Struct (op.Response Struct) (IVIResultT op.Payload)}
    (made : op.sync env json = .ok call) (reply : ServerReply (op.Response Struct))
    (rejected : reply.status.ok = false) :
    call.receive reply =
      (failedOutcome env.build reply.context reply.status).map IVIResultT.ofStatus := by
  rw [sync_plan] at made
  obtain ⟨request, _, made⟩ := ok_of_bind made
  cases made
  rw [← finish_failed env json op]
  dsimp only
  rw [rejected_receive env request _ _ reply rejected]
  cases failedOutcome env.build reply.context reply.status <;> rfl

/-- The build that goes on after a failed check calls a missing callback too. -/
theorem failed_call_completes {callback : Callback (IVIResultT op.Payload) Answer}
    {started : AsyncCall Struct (op.Response Struct) Answer}
    (made : op.async env json callback = .ok started) (ok : Bool)
    (reply : ServerReply (op.Response Struct)) (rejected : (ok && reply.status.ok) = false) :
    started.complete ok reply =
      ((failedOutcome env.build reply.context reply.status).map IVIResultT.ofStatus).bind
        (invoke callback) := by
  obtain ⟨wrapped, finishes, same⟩ := async_wrapped env json op callback
  rw [same] at made
  obtain ⟨request, _, made⟩ := ok_of_bind made
  rw [rejected_complete env request _ _ _ started made ok reply rejected,
    ← finish_failed env json op]
  cases failedOutcome env.build reply.context reply.status with
  | error stop => rfl
  | ok translated => exact finishes (.ofStatus translated)

end Operations

/-! ## One failure in two builds -/

/-- The trailer parses, or the HTTP code decides anyway. -/
def TrailerHarmless (context : ClientContext) (status : Status) : Prop :=
  HttpCodeParses context ∨ grpcErrorCases.lookup status.errorCode = none

theorem log_failure_quiet {build : Build} (quiet : build.loggingLevel < 3)
    (context : ClientContext) : logFailure build context = .ok () := by
  unfold logFailure
  rw [if_neg (by omega)]

theorem try_get_http_code_throws {context : ClientContext} (broken : ¬ HttpCodeParses context) :
    ∃ problem, tryGetHttpCode context = .error (.threw (.conversion problem)) := by
  unfold tryGetHttpCode
  cases found : findHttpCode context with
  | none =>
      refine absurd (fun value present => ?_) broken
      rw [found] at present
      cases present
  | some value =>
      dsimp only
      cases parsed : stoi (cString value.memory) with
      | error problem => exact ⟨problem, rfl⟩
      | ok code =>
          refine absurd (fun other present => ?_) broken
          rw [found, Option.some.injEq] at present
          exact ⟨code, present ▸ parsed⟩

theorem failed_outcome_quiet {build : Build} (quiet : build.loggingLevel < 3)
    (context : ClientContext) (status : Status) :
    failedOutcome build context status = translateGrpcError context status := by
  rw [failedOutcome, log_failure_quiet quiet]
  rfl

theorem failed_outcome_harmless {context : ClientContext} {status : Status}
    (harmless : TrailerHarmless context status) (build : Build) :
    failedOutcome build context status = translateGrpcError context status := by
  by_cases parses : HttpCodeParses context
  · rw [failedOutcome, log_failure_parses build context parses]
    rfl
  · have falls := harmless.resolve_left parses
    obtain ⟨problem, thrown⟩ := try_get_http_code_throws parses
    -- The log line throws what the translation would have thrown.
    have translated : translateGrpcError context status = .error (.threw (.conversion problem)) := by
      simp only [translateGrpcError, falls, translateHttpError, thrown, bind, Except.bind]
    by_cases quiet : build.loggingLevel < 3
    · exact failed_outcome_quiet quiet context status
    · rw [failedOutcome, logFailure, if_pos (by omega), thrown, translated]
      rfl

/-- A trailer that is not harmless throws from the log line. -/
theorem failed_outcome_loud {build : Build} (loud : 3 ≤ build.loggingLevel)
    {context : ClientContext} (broken : ¬ HttpCodeParses context) (status : Status) :
    ∃ stop, failedOutcome build context status = .error stop := by
  obtain ⟨problem, thrown⟩ := try_get_http_code_throws broken
  refine ⟨.threw (.conversion problem), ?_⟩
  rw [failedOutcome, logFailure, if_pos loud, thrown]
  rfl

theorem translated_by_code {status : Status} {translated : IVIResultStatus}
    (named : grpcErrorCases.lookup status.errorCode = some translated) (context : ClientContext) :
    translateGrpcError context status = .ok translated := by
  rw [translateGrpcError, named]

theorem named_rejected {status : Status} {translated : IVIResultStatus}
    (named : grpcErrorCases.lookup status.errorCode = some translated) : status.ok = false := by
  unfold Status.ok
  rw [beq_eq_false_iff_ne]
  intro zero
  rw [zero, show grpcErrorCases.lookup 0 = none from by decide] at named
  cases named

/-- One failure comes out the same in a build that logs failures and in one that
does not, and is decided by the status code alone where that is named. -/
structure LoggingIrrelevant (env : Env) (json : JsonUtil Struct) (context : ClientContext)
    (status : Status) : Prop where
  sync : ∀ (op : Operation) (quiet loud : Nat), quiet < 3 → 3 ≤ loud → status.ok = false →
    ∀ quietCall loudCall, op.sync (withLogging env quiet) json = .ok quietCall →
    op.sync (withLogging env loud) json = .ok loudCall →
    ∀ response, quietCall.receive ⟨context, status, response⟩ =
      loudCall.receive ⟨context, status, response⟩
  async : ∀ (op : Operation) (quiet loud : Nat) (ok : Bool), quiet < 3 → 3 ≤ loud →
    (ok && status.ok) = false →
    ∀ (Answer : Type) (callback : Callback (IVIResultT op.Payload) Answer) quietCall loudCall,
    op.async (withLogging env quiet) json callback = .ok quietCall →
    op.async (withLogging env loud) json callback = .ok loudCall →
    ∀ response, quietCall.complete ok ⟨context, status, response⟩ =
      loudCall.complete ok ⟨context, status, response⟩
  named : ∀ (op : Operation) (level : Nat) translated,
    grpcErrorCases.lookup status.errorCode = some translated →
    ∀ call, op.sync (withLogging env level) json = .ok call →
    ∀ response, call.receive ⟨context, status, response⟩ = .ok (.ofStatus translated)
  namedAsync : ∀ (op : Operation) (level : Nat) (ok : Bool) translated,
    grpcErrorCases.lookup status.errorCode = some translated →
    ∀ (Answer : Type) (callback : Callback (IVIResultT op.Payload) Answer) call,
    op.async (withLogging env level) json callback = .ok call →
    ∀ response, call.complete ok ⟨context, status, response⟩ =
      invoke callback (.ofStatus translated)

theorem logging_irrelevant_iff (env : Env) (json : JsonUtil Struct) (context : ClientContext)
    (status : Status) :
    LoggingIrrelevant env json context status ↔ TrailerHarmless context status := by
  constructor
  · intro irrelevant
    by_cases parses : HttpCodeParses context
    · exact .inl parses
    · right
      cases named : grpcErrorCases.lookup status.errorCode with
      | none => rfl
      | some translated =>
          -- Any call will do: the build that logs throws where a result was due.
          let reply : ServerReply Messages.ItemStartedResponse := ⟨context, status, {}⟩
          have told := irrelevant.named (.burnItem "") 3 translated named _ rfl reply.response
          obtain ⟨stop, thrown⟩ := @failed_outcome_loud (withLogging env 3).build (Nat.le_refl 3)
            context parses status
          have receives := @failed_call_receives Struct (withLogging env 3) json (.burnItem "") _
            rfl reply (named_rejected named)
          have clash := told.symm.trans receives
          rw [show failedOutcome _ reply.context reply.status = _ from thrown] at clash
          cases clash
  · intro harmless
    have outcome := failed_outcome_harmless harmless
    constructor
    · intro op quiet loud _ _ rejected quietCall loudCall quietMade loudMade response
      rw [failed_call_receives quietMade _ rejected, failed_call_receives loudMade _ rejected,
        outcome, outcome]
    · intro op quiet loud ok _ _ rejected Answer callback quietCall loudCall quietMade loudMade
        response
      rw [failed_call_completes quietMade ok _ rejected,
        failed_call_completes loudMade ok _ rejected, outcome, outcome]
    · intro op level translated named call made response
      rw [failed_call_receives made _ (named_rejected named), outcome,
        translated_by_code named]
      rfl
    · intro op level ok translated named Answer callback call made response
      have rejected : (ok && status.ok) = false := by
        rw [named_rejected named, Bool.and_false]
      rw [failed_call_completes made ok _ rejected, outcome, translated_by_code named]
      rfl

/-- A trailer that is not a number: the letter x and a NUL. -/
def brokenTrailer : ClientContext where
  serverTrailingMetadata := [(httpCodeKey, ⟨[120, 0], 1⟩)]

/-- NOT_FOUND with such a trailer is a result in the quiet build and an exception
in the build that logs. -/
theorem logging_changes_outcome :
    ¬ ∀ (context : ClientContext) (status : Status),
      LoggingIrrelevant defaultEnv noStructs context status := by
  intro irrelevant
  let reply : ServerReply Messages.ItemStartedResponse := ⟨brokenTrailer, ⟨5, "no such item"⟩, {}⟩
  have same := (irrelevant brokenTrailer ⟨5, "no such item"⟩).sync (.burnItem "sword") 2 3
    (by decide) (by decide) (by decide) _ _ rfl rfl reply.response
  have found : findHttpCode brokenTrailer = some ⟨[120, 0], 1⟩ := by
    simp [findHttpCode, brokenTrailer]
  have thrown : tryGetHttpCode brokenTrailer =
      .error (.threw (.conversion .invalidArgument)) := by
    rw [tryGetHttpCode, found]
    rfl
  have quiet := @failed_call_receives Unit (withLogging defaultEnv 2) noStructs
    (.burnItem "sword") _ rfl reply (by decide)
  have loud := @failed_call_receives Unit (withLogging defaultEnv 3) noStructs
    (.burnItem "sword") _ rfl reply (by decide)
  have clash := quiet.symm.trans (same.trans loud)
  have told : failedOutcome (withLogging defaultEnv 2).build reply.context reply.status =
      .ok .notFound := (failed_outcome_quiet (by decide) _ _).trans (translated_by_code rfl _)
  have threw : failedOutcome (withLogging defaultEnv 3).build reply.context reply.status =
      .error (.threw (.conversion .invalidArgument)) := by
    rw [failedOutcome, logFailure, if_pos (by decide), thrown]
    rfl
  rw [told, threw] at clash
  cases clash

end IviSdk.LoggedFailures
