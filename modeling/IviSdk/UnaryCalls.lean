import IviSdk.Results
import IviSdk.Messages

/-!
The two call templates of `IVIClientT`. A synchronous call hands one request to
the stub and then turns what the server answered into an `IVIResultT`; an
asynchronous one also hands over its request at once, and the heap-allocated
`AsyncCallback` does the rest when its tag completes. Both are given by the RPC
that was handed over and by the function that consumes the answer.
-/

namespace IviSdk.UnaryCalls

open Checks Results Messages

variable {Struct Request Response Payload Answer : Type}

/-- Everything a finished RPC leaves for the client to read. -/
structure ServerReply (Response : Type) where
  context : ClientContext
  status : Status
  response : Response

structure Call (Struct Response Answer : Type) where
  handed : RpcCall Struct
  receive : ServerReply Response → Checked Answer

structure AsyncCall (Struct Response Answer : Type) where
  handed : RpcCall Struct
  complete : (ok : Bool) → ServerReply Response → Checked Answer

/-- A parser may run one of the SDK's own checks. -/
abbrev ResponseParser (Response Payload : Type) := Response → Checked Payload

/-- The `nullptr` parser of a call without payload: `MakeSuccessResult` has an
overload for `IVIResult` that ignores it. -/
def nullParser : ResponseParser Response Unit := fun _ => .ok ()

def makeSuccessResult (parser : ResponseParser Response Payload) (response : Response) :
    Checked (IVIResultT Payload) := do
  let payload ← parser response
  .ok ⟨.success, payload⟩

/-- The result both templates build once the call counts as failed. -/
def failureResult [Inhabited Payload] (reply : ServerReply Response) :
    Checked (IVIResultT Payload) := do
  let status ← translateGrpcError reply.context reply.status
  .ok (.ofStatus status)

def callUnary [EnvironmentScoped Request] [Inhabited Payload] (env : Env)
    (request : Request) (call : Request → RpcCall Struct)
    (parser : ResponseParser Response Payload) : Call Struct Response (IVIResultT Payload) where
  handed := call (setEnvironmentId env.configuration.environmentId request)
  receive reply :=
    if reply.status.ok then makeSuccessResult parser reply.response
    else do
      logFailure env.build reply.context
      failureResult reply

def checkOkUnaryAsync (build : Build) (ok : Bool) (context : ClientContext) (status : Status) :
    Checked Bool :=
  if !ok then do
    logFailure build context
    .ok false
  else if !status.ok then do
    logFailure build context
    .ok false
  else .ok true

/-- `std::function` holding a callback, or empty. -/
abbrev Callback (Argument Answer : Type) := Option (Argument → Checked Answer)

def invoke {Argument : Type} (callback : Callback Argument Answer) (argument : Argument) :
    Checked Answer :=
  match callback with
  | some function => function argument
  | none => .error (.threw .badFunctionCall)

def callUnaryAsync [EnvironmentScoped Request] [Inhabited Payload] (env : Env)
    (request : Request) (call : Request → RpcCall Struct)
    (parser : ResponseParser Response Payload)
    (callback : Callback (IVIResultT Payload) Answer) :
    Checked (AsyncCall Struct Response Answer) := do
  check env.build callback.isSome
  .ok {
    handed := call (setEnvironmentId env.configuration.environmentId request)
    complete := fun ok reply => do
      if ← checkOkUnaryAsync env.build ok reply.context reply.status then
        invoke callback (← makeSuccessResult parser reply.response)
      else
        invoke callback (← failureResult reply) }

/-! ## What a finished call tells its caller -/

section Outcomes
variable [EnvironmentScoped Request] [Inhabited Payload]

theorem call_unary_accepts (env : Env) (request : Request) (call : Request → RpcCall Struct)
    (parser : ResponseParser Response Payload) (reply : ServerReply Response)
    (accepted : reply.status.ok = true) :
    (callUnary env request call parser).receive reply =
      makeSuccessResult parser reply.response := by
  simp [callUnary, accepted]

theorem call_unary_rejects (env : Env) (request : Request) (call : Request → RpcCall Struct)
    (parser : ResponseParser Response Payload) (reply : ServerReply Response)
    (rejected : reply.status.ok = false) (parses : HttpCodeParses reply.context) :
    (callUnary env request call parser).receive reply = failureResult reply := by
  simp [callUnary, rejected, log_failure_parses env.build reply.context parses, bind, Except.bind]

/-- The tag of an asynchronous call runs the synchronous treatment of the same
reply and hands its result to the callback. Only `ok = false` can differ. -/
theorem async_complete_ok (env : Env) (request : Request) (call : Request → RpcCall Struct)
    (parser : ResponseParser Response Payload)
    (callback : IVIResultT Payload → Checked Answer) :
    ∃ started, callUnaryAsync env request call parser (some callback) = .ok started ∧
      started.handed = (callUnary env request call parser).handed ∧
      ∀ reply, started.complete true reply =
        ((callUnary env request call parser).receive reply).bind callback := by
  refine ⟨_, rfl, rfl, ?_⟩
  intro reply
  cases accepted : reply.status.ok with
  | true =>
      simp only [checkOkUnaryAsync, callUnary, accepted, Bool.not_true, Bool.false_eq_true,
        ↓reduceIte]
      rfl
  | false =>
      simp only [checkOkUnaryAsync, callUnary, accepted, Bool.not_true, Bool.not_false,
        Bool.false_eq_true, ↓reduceIte]
      cases logged : logFailure env.build reply.context with
      | error stop => rfl
      | ok done =>
          simp only [bind, Except.bind, Bool.false_eq_true, ↓reduceIte]
          rfl

theorem async_complete_failed (env : Env) (request : Request) (call : Request → RpcCall Struct)
    (parser : ResponseParser Response Payload)
    (callback : IVIResultT Payload → Checked Answer) :
    ∃ started, callUnaryAsync env request call parser (some callback) = .ok started ∧
      ∀ reply, HttpCodeParses reply.context →
        started.complete false reply = (failureResult reply).bind callback := by
  refine ⟨_, rfl, ?_⟩
  intro reply parses
  simp only [checkOkUnaryAsync, log_failure_parses env.build reply.context parses, bind,
    Except.bind, Bool.not_false, Bool.false_eq_true, ↓reduceIte]
  rfl

end Outcomes

end IviSdk.UnaryCalls
