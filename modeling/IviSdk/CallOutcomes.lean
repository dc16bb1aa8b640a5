import IviSdk.EntryPoints

/-!
What the caller of an operation is told. A result says success exactly when the
call succeeded, with `GetItemType` failing besides on an empty list, and the
synchronous and the asynchronous entry point of one operation cannot be told
apart by the request or by the result.
-/

namespace IviSdk.CallOutcomes

open Checks Enums Messages Models Results UnaryCalls ServiceClients EntryPoints

variable {Struct Answer Response Payload : Type}

/-- The response is a list and the operation asked for its first element, but
there is none. -/
def Operation.lacksElement : (op : Operation) → op.Response Struct → Bool
  | .getItemType _ => fun response => response.itemTypes.isEmpty
  | _ => fun _ => false

/-- The payload an operation reads out of a successful response. -/
def Operation.parser (env : Env) (json : JsonUtil Struct) (op : Operation) :
    ResponseParser (op.Response Struct) op.Payload := fun response =>
  ((op.plan env json).parser response).map fun parsed =>
    ((op.plan env json).finish ⟨.success, parsed⟩).payload

/-- `answer` is what the caller gets for each response the server may have
sent, `succeeded` whether the call succeeded. -/
structure Reported (env : Env) (json : JsonUtil Struct) (op : Operation) (succeeded : Bool)
    (answer : op.Response Struct → Checked (IVIResultT op.Payload)) : Prop where
  exact : ∀ response result, answer response = .ok result →
    (result.succeeded = true ↔
      succeeded = true ∧ Operation.lacksElement op response = false)
  accepted : succeeded = true → ∀ response, Operation.lacksElement op response = false →
    answer response =
      (Operation.parser env json op response).map fun payload => ⟨.success, payload⟩
  missing : succeeded = true → ∀ response, Operation.lacksElement op response = true →
    answer response = .ok ⟨.notFound, default⟩
  /-- A failure carries a failing status and the value-initialised payload, and
  is the same for every response: the parser was not run. -/
  rejected : succeeded = false →
    ∃ status, status ≠ .success ∧ ∀ response, answer response = .ok ⟨status, default⟩

theorem finish_failure (env : Env) (json : JsonUtil Struct) (op : Operation)
    (status : IVIResultStatus) (failed : status ≠ .success) :
    (op.plan env json).finish ⟨status, default⟩ = ⟨status, default⟩ := by
  cases op with
  | getItemType type =>
      change parseItemTypeListToElement ⟨status, default⟩ = ⟨status, default⟩
      simp only [parseItemTypeListToElement, IVIResultT.succeeded, beq_iff_eq, failed, ↓reduceIte]
      rfl
  | _ => rfl

theorem mapM_ok_nil_iff {α β : Type} (f : α → Checked β) (items : List α) (parsed : List β)
    (result : items.mapM f = .ok parsed) : parsed = [] ↔ items = [] := by
  cases items with
  | nil =>
      cases result
      simp
  | cons item rest =>
      rw [List.mapM_cons] at result
      obtain ⟨value, _, result⟩ := ok_of_bind result
      obtain ⟨values, _, result⟩ := ok_of_bind result
      cases result
      simp

theorem finish_success (env : Env) (json : JsonUtil Struct) (op : Operation)
    (response : op.Response Struct) (present : Operation.lacksElement op response = false)
    (parsed : (op.plan env json).Parsed)
    (read : (op.plan env json).parser response = .ok parsed) :
    ((op.plan env json).finish ⟨.success, parsed⟩).status = .success := by
  cases op with
  | getItemType type =>
      have filled : response.itemTypes ≠ [] := by
        intro empty
        simp [Operation.lacksElement, empty] at present
      change parseItemTypes env.build json response = .ok parsed at read
      change (parseItemTypeListToElement ⟨.success, parsed⟩).status = .success
      cases parsed with
      | nil => exact absurd ((mapM_ok_nil_iff _ _ _ read).mp rfl) filled
      | cons front rest => rfl
  | _ => rfl

theorem finish_missing (env : Env) (json : JsonUtil Struct) (op : Operation)
    (response : op.Response Struct) (missing : Operation.lacksElement op response = true) :
    ((op.plan env json).parser response).map (fun parsed =>
      (op.plan env json).finish ⟨.success, parsed⟩) = .ok ⟨.notFound, default⟩ := by
  cases op with
  | getItemType type =>
      have empty : response.itemTypes = [] := by
        simpa [Operation.lacksElement] using missing
      change (parseItemTypes env.build json response).map
        (fun parsed => parseItemTypeListToElement ⟨.success, parsed⟩) = .ok ⟨.notFound, default⟩
      simp only [parseItemTypes, empty, List.mapM_nil]
      rfl
  | _ => simp [Operation.lacksElement] at missing

theorem reported_of_treatment (env : Env) (json : JsonUtil Struct) (op : Operation)
    (succeeded : Bool) (context : ClientContext) (status : Status)
    (parses : HttpCodeParses context)
    (answer : op.Response Struct → Checked (IVIResultT op.Payload))
    (success : succeeded = true → ∀ response, answer response =
      (makeSuccessResult (op.plan env json).parser response).map (op.plan env json).finish)
    (failure : succeeded = false → ∀ response, answer response =
      (failureResult ⟨context, status, response⟩).map (op.plan env json).finish) :
    Reported env json op succeeded answer := by
  -- `finish` runs on whatever the parser made of the response.
  have chained : ∀ response, (makeSuccessResult (op.plan env json).parser response).map
      (op.plan env json).finish = ((op.plan env json).parser response).map fun parsed =>
        (op.plan env json).finish ⟨.success, parsed⟩ := by
    intro response
    unfold makeSuccessResult
    cases (op.plan env json).parser response <;> rfl
  have accepted : succeeded = true → ∀ response, Operation.lacksElement op response = false →
      answer response =
        (Operation.parser env json op response).map fun payload => ⟨.success, payload⟩ := by
    intro yes response present
    rw [success yes, chained, Operation.parser]
    cases read : (op.plan env json).parser response with
    | error stop => rfl
    | ok parsed =>
        have marked := finish_success env json op response present parsed read
        have split : (op.plan env json).finish ⟨.success, parsed⟩ =
            ⟨.success, ((op.plan env json).finish ⟨.success, parsed⟩).payload⟩ :=
          congrArg (fun status => (⟨status, _⟩ : IVIResultT op.Payload)) marked
        exact congrArg Except.ok split
  have missing : succeeded = true → ∀ response, Operation.lacksElement op response = true →
      answer response = .ok ⟨.notFound, default⟩ := by
    intro yes response lacking
    rw [success yes, chained, finish_missing env json op response lacking]
  have rejected : succeeded = false →
      ∃ status, status ≠ .success ∧ ∀ response, answer response = .ok ⟨status, default⟩ := by
    intro no
    obtain ⟨translated, result, failed⟩ := translate_grpc_error_parses context status parses
    refine ⟨translated, failed, fun response => ?_⟩
    rw [failure no, ← finish_failure env json op translated failed]
    simp [failureResult, result, IVIResultT.ofStatus, bind, Except.bind, Except.map]
  refine ⟨?_, accepted, missing, rejected⟩
  -- What a result says of itself is read off the three cases.
  intro response result told
  cases outcome : succeeded with
  | false =>
      obtain ⟨translated, failed, same⟩ := rejected outcome
      rw [same response, Except.ok.injEq] at told
      simp [← told, IVIResultT.succeeded, failed]
  | true =>
      cases lacking : Operation.lacksElement op response with
      | true =>
          rw [missing outcome response lacking, Except.ok.injEq] at told
          simp [← told, IVIResultT.succeeded]
      | false =>
          rw [accepted outcome response lacking] at told
          cases read : Operation.parser env json op response with
          | error stop => simp [read, Except.map] at told
          | ok payload =>
              simp only [read, Except.map, Except.ok.injEq] at told
              simp [← told, IVIResultT.succeeded]

theorem map_bind {First Second Third : Type} (result : Checked First) (f : First → Second)
    (callback : Second → Checked Third) :
    (result.map f).bind callback = result.bind fun value => callback (f value) := by
  cases result <;> rfl

/-- For every operation and every reply whose `httpcode`, if any, is an `int`:
the synchronous result says success iff the status is ok, and the asynchronous
callback is passed a result that says success iff `ok` and the status is ok. -/
theorem success_iff_call_succeeded (env : Env) (json : JsonUtil Struct) (op : Operation)
    (context : ClientContext) (status : Status) (parses : HttpCodeParses context) :
    (∀ call, op.sync env json = .ok call →
      Reported env json op status.ok fun response => call.receive ⟨context, status, response⟩) ∧
    (∀ (callback : IVIResultT op.Payload → Checked Answer) started,
      op.async env json (some callback) = .ok started → ∀ ok,
        ∃ passed : op.Response Struct → Checked (IVIResultT op.Payload),
          (∀ response, started.complete ok ⟨context, status, response⟩ =
            (passed response).bind callback) ∧
          Reported env json op (ok && status.ok) passed) := by
  constructor
  · intro call made
    -- A request that cannot be made leaves no call to speak of.
    rw [sync_plan] at made
    obtain ⟨request, _, made⟩ := ok_of_bind made
    cases made
    apply reported_of_treatment env json op status.ok context status parses
    · intro accepted response
      exact congrArg (Except.map _) (call_unary_accepts env request _ _ _ accepted)
    · intro rejected response
      exact congrArg (Except.map _) (call_unary_rejects env request _ _ _ rejected parses)
  · intro callback started made ok
    rw [async_plan] at made
    obtain ⟨request, _, made⟩ := ok_of_bind made
    -- The tag goes by `ok` first, and by the status only if that is true.
    cases ok with
    | true =>
        obtain ⟨tag, created, _, completes⟩ := async_complete_ok env request
          (op.plan env json).call (op.plan env json).parser
          fun result => callback ((op.plan env json).finish result)
        rw [created, Except.ok.injEq] at made
        subst made
        refine ⟨fun response => ((callUnary env request (op.plan env json).call
          (op.plan env json).parser).receive ⟨context, status, response⟩).map
            (op.plan env json).finish, ?_, ?_⟩
        · intro response
          rw [completes, map_bind]
        · apply reported_of_treatment env json op _ context status parses
          · intro accepted response
            rw [call_unary_accepts env request _ _ _ (by simpa using accepted)]
          · intro rejected response
            rw [call_unary_rejects env request _ _ _ (by simpa using rejected) parses]
    | false =>
        obtain ⟨tag, created, completes⟩ := async_complete_failed env request
          (op.plan env json).call (op.plan env json).parser
          fun result => callback ((op.plan env json).finish result)
        rw [created, Except.ok.injEq] at made
        subst made
        refine ⟨fun response => (failureResult ⟨context, status, response⟩).map
          (op.plan env json).finish, ?_, ?_⟩
        · intro response
          rw [completes _ parses, map_bind]
        · apply reported_of_treatment env json op _ context status parses
          · intro accepted
            simp at accepted
          · intro _ response
            rfl

/-- A reply with a status code the SDK does not name and an HTTP code it does. -/
def unknownCodeContext : ClientContext where
  serverTrailingMetadata := [(httpCodeKey, ⟨[52, 48, 52, 0], 3⟩)]

theorem unknown_code_parses : HttpCodeParses unknownCodeContext := by
  intro value found
  have shown : findHttpCode unknownCodeContext = some ⟨[52, 48, 52, 0], 3⟩ := by
    simp [findHttpCode, unknownCodeContext]
  rw [shown, Option.some.injEq] at found
  subst found
  exact ⟨404, rfl⟩

theorem unknown_code_reported_as_failure :
    HttpCodeParses unknownCodeContext ∧
    ∀ call, (Operation.burnItem "sword").sync defaultEnv noStructs = .ok call →
      Reported defaultEnv noStructs (.burnItem "sword") false fun response =>
        call.receive ⟨unknownCodeContext, ⟨99, "lost"⟩, response⟩ :=
  ⟨unknown_code_parses, (@success_iff_call_succeeded Unit Unit defaultEnv noStructs
    (.burnItem "sword") unknownCodeContext ⟨99, "lost"⟩ unknown_code_parses).1⟩

/-! ## Entry points of one operation -/

/-- Two entry points given one callback: either the same check stops both before
anything is handed over, or they hand over the same RPC for the configured
environment and the tag passes on what the synchronous call returns. -/
def SameOutcome (env : Env) (callback : IVIResultT Payload → Checked Answer) :
    Checked (Call Struct Response (IVIResultT Payload)) →
      Checked (AsyncCall Struct Response Answer) → Prop
  | .ok call, .ok started =>
      started.handed = call.handed ∧
      call.handed.environmentId = env.configuration.environmentId ∧
      ∀ reply, started.complete true reply = (call.receive reply).bind callback
  | .error stop, .error asyncStop => stop = asyncStop
  | _, _ => False

def TellsFirst {Element : Type} [Inhabited Element] (list : IVIResultT (List Element))
    (element : IVIResultT Element) : Prop :=
  if list.status = .success then
    match list.payload with
    | front :: _ => element = ⟨.success, front⟩
    | [] => element = ⟨.notFound, default⟩
  else element = ⟨list.status, default⟩

theorem element_tells_first (result : IVIResultT (List IVIItemType)) :
    TellsFirst result (parseItemTypeListToElement result) := by
  obtain ⟨status, payload⟩ := result
  by_cases succeeded : status = .success
  · subst status
    cases payload with
    | nil => rfl
    | cons front rest => rfl
  · simp only [TellsFirst, succeeded, ↓reduceIte, parseItemTypeListToElement,
      IVIResultT.succeeded, beq_iff_eq]
    rfl

theorem plan_same_outcome (env : Env) (plan : Plan Struct Response Payload)
    (callback : IVIResultT Payload → Checked Answer) :
    SameOutcome env callback (plan.sync env) (plan.async env callback) := by
  unfold Plan.sync Plan.async
  cases plan.make with
  | error stop => rfl
  | ok request =>
      obtain ⟨started, created, handed, completes⟩ := async_complete_ok env request
        plan.call plan.parser fun result => callback (plan.finish result)
      simp only [bind, Except.bind, created]
      refine ⟨handed, plan.carriesId _ request, fun reply => ?_⟩
      rw [completes, map_bind]

theorem make_update_one (env : Env) (json : JsonUtil Struct) (gameInventoryId : String)
    (metadata : IVIMetadata) :
    makeUpdateItemMetadataRequest env.build json gameInventoryId metadata =
      makeUpdateItemMetadataListRequest env.build json [⟨gameInventoryId, metadata⟩] := by
  unfold makeUpdateItemMetadataRequest makeUpdateItemMetadataListRequest
  rw [List.mapM_cons, List.mapM_nil]
  simp only [IVIMetadataUpdate.toProto]
  cases metadata.toProto env.build json <;> rfl

structure OverloadsAgree (Answer : Type) (env : Env) (json : JsonUtil Struct) : Prop where
  updateItemMetadata : ∀ id metadata,
    IVIItemClient.updateItemMetadata env json id metadata =
      IVIItemClient.updateItemMetadataList env json [⟨id, metadata⟩]
  updateItemMetadataAsync : ∀ id metadata (callback : Callback (IVIResultT Unit) Answer),
    IVIItemClientAsync.updateItemMetadata env json id metadata callback =
      IVIItemClientAsync.updateItemMetadataList env json [⟨id, metadata⟩] callback
  getItem : ∀ id, IVIItemClient.getItem env json id = IVIItemClient.getItem env json id false
  getItemAsync : ∀ id (callback : Callback (IVIResultT IVIItem) Answer),
    IVIItemClientAsync.getItemNoHistory env json id callback =
      IVIItemClientAsync.getItem env json id false callback
  getItemTypes : IVIItemTypeClient.getAllItemTypes env json =
    IVIItemTypeClient.getItemTypes env json []
  getItemTypesAsync : ∀ callback : Callback (IVIResultT (List IVIItemType)) Answer,
    IVIItemTypeClientAsync.getAllItemTypes env json callback =
      IVIItemTypeClientAsync.getItemTypes env json [] callback
  getItemType : ∀ id, ∃ list element,
    IVIItemTypeClient.getItemTypes env json [id] = .ok list ∧
    IVIItemTypeClient.getItemType env json id = .ok element ∧
    element.handed = list.handed ∧
    ∀ reply, match list.receive reply with
      | .ok result => ∃ told, element.receive reply = .ok told ∧ TellsFirst result told
      | .error stop => element.receive reply = .error stop
  getItemTypeAsync : ∀ id (callback : IVIResultT IVIItemType → Checked Answer), ∃ list element,
    IVIItemTypeClientAsync.getItemTypes env json [id] (some Except.ok) = .ok list ∧
    IVIItemTypeClientAsync.getItemType env json id (some callback) = .ok element ∧
    element.handed = list.handed ∧
    ∀ ok reply, match list.complete ok reply with
      | .ok result => ∃ told, element.complete ok reply = callback told ∧ TellsFirst result told
      | .error stop => element.complete ok reply = .error stop

theorem async_recorded {Request : Type} [EnvironmentScoped Request] [Inhabited Payload]
    (env : Env) (request : Request) (call : Request → RpcCall Struct)
    (parser : ResponseParser Response Payload) (callback : IVIResultT Payload → Checked Answer) :
    ∃ recorded started, callUnaryAsync env request call parser (some Except.ok) = .ok recorded ∧
      callUnaryAsync env request call parser (some callback) = .ok started ∧
      started.handed = recorded.handed ∧
      ∀ ok reply, started.complete ok reply = (recorded.complete ok reply).bind callback := by
  refine ⟨_, _, rfl, rfl, rfl, ?_⟩
  intro ok reply
  simp only [bind, Except.bind]
  cases checkOkUnaryAsync env.build ok reply.context reply.status with
  | error stop => rfl
  | ok accepted =>
      cases accepted with
      | true => cases makeSuccessResult parser reply.response <;> rfl
      | false => cases (failureResult reply : Checked (IVIResultT Payload)) <;> rfl

theorem overloads_agree (env : Env) (json : JsonUtil Struct) :
    OverloadsAgree Answer env json where
  updateItemMetadata id metadata := by
    unfold IVIItemClient.updateItemMetadata IVIItemClient.updateItemMetadataList
    rw [make_update_one]
  updateItemMetadataAsync id metadata callback := by
    unfold IVIItemClientAsync.updateItemMetadata IVIItemClientAsync.updateItemMetadataList
    rw [make_update_one]
  getItem _ := rfl
  getItemAsync _ _ := rfl
  getItemTypes := rfl
  getItemTypesAsync _ := rfl
  getItemType id := by
    refine ⟨_, _, rfl, rfl, rfl, fun reply => ?_⟩
    simp only [bind, Except.bind]
    split
    · next result received => exact ⟨_, by rw [received], element_tells_first result⟩
    · next stop received => rw [received]
  getItemTypeAsync id callback := by
    obtain ⟨list, element, recorded, started, handed, completes⟩ :=
      async_recorded env (makeGetItemTypesRequest [id]) RpcCall.getItemTypes
        (parseItemTypes env.build json) fun result => callback (parseItemTypeListToElement result)
    refine ⟨list, element, recorded, started, handed, fun ok reply => ?_⟩
    rw [completes]
    cases list.complete ok reply with
    | error stop => rfl
    | ok result => exact ⟨_, rfl, element_tells_first result⟩

/-- Every operation's two entry points agree, and so do its overloads. -/
theorem entry_points_agree (env : Env) (json : JsonUtil Struct) :
    (∀ (op : Operation) (callback : IVIResultT op.Payload → Checked Answer),
      SameOutcome env callback (op.sync env json) (op.async env json (some callback))) ∧
    OverloadsAgree Answer env json := by
  refine ⟨fun op callback => ?_, overloads_agree env json⟩
  rw [sync_plan, async_plan]
  exact plan_same_outcome env (op.plan env json) callback

end IviSdk.CallOutcomes
