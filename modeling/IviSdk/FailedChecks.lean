import IviSdk.ModelRoundTrips
import IviSdk.CallOutcomes

/-!
What becomes of an operation when one of the SDK's checks fails. The checks are
the only thing that can stop a request from being made, and they stop it in one
of the two builds only: there the process exits and the stub is handed nothing.
In the other build a failed check is a line in the log, the request is made from
whatever the failed parse left, and a token of an unknown provider is passed on.
-/

namespace IviSdk.FailedChecks

open Checks Enums Messages Models Results UnaryCalls ServiceClients EntryPoints
open ModelRoundTrips CallOutcomes

variable {Struct Answer Value Result : Type}

/-! ## Code that a failed check stops -/

/-- The process exits if the build says so and the check fails, and otherwise the
code runs to its end. -/
structure StopsWhen (build : Build) (failing : Prop) (result : Checked Value) : Prop where
  exits : build.enableExitOnFailCheck = true → failing → result = .error .exited
  goesOn : ¬ (build.enableExitOnFailCheck = true ∧ failing) → ∃ value, result = .ok value

namespace StopsWhen

variable {build : Build} {failing : Prop} {result : Checked Value}

theorem ok_iff (law : StopsWhen build failing result) :
    (∃ value, result = .ok value) ↔ ¬ (build.enableExitOnFailCheck = true ∧ failing) := by
  constructor
  · rintro ⟨value, finished⟩ ⟨exit, fails⟩
    rw [law.exits exit fails] at finished
    cases finished
  · exact law.goesOn

theorem congr {other : Prop} (same : failing ↔ other) (law : StopsWhen build failing result) :
    StopsWhen build other result where
  exits exit fails := law.exits exit (same.mpr fails)
  goesOn fine := law.goesOn fun both => fine ⟨both.1, same.mp both.2⟩

theorem done (value : Value) : StopsWhen build False (.ok value : Checked Value) where
  exits _ never := never.elim
  goesOn _ := ⟨value, rfl⟩

theorem of_check (expr : Bool) : StopsWhen build (expr = false) (check build expr) where
  exits exit fails := by simp [check, exitFailure, exit, fails]
  goesOn fine := by
    cases expr with
    | true => exact ⟨(), rfl⟩
    | false =>
        have off : build.enableExitOnFailCheck = false := by simpa using fine
        exact ⟨(), by simp [check, exitFailure, off]⟩

theorem bind {later : Prop} {next : Value → Checked Result}
    (law : StopsWhen build failing result) (rest : ∀ value, StopsWhen build later (next value)) :
    StopsWhen build (failing ∨ later) (result >>= next) where
  exits exit fails := by
    by_cases first : failing
    · rw [law.exits exit first]
      rfl
    · obtain ⟨value, finished⟩ := law.goesOn fun both => first both.2
      rw [finished]
      exact (rest value).exits exit (fails.resolve_left first)
  goesOn fine := by
    obtain ⟨value, finished⟩ := law.goesOn fun both => fine ⟨both.1, .inl both.2⟩
    rw [finished]
    exact (rest value).goesOn fun both => fine ⟨both.1, .inr both.2⟩

/-- Straight-line code after the check. -/
theorem map (law : StopsWhen build failing result) (f : Value → Result) :
    StopsWhen build failing (result >>= fun value => .ok (f value)) :=
  (law.bind fun value => done (f value)).congr (or_iff_left not_false)

/-- One bad entry of a list is enough, whatever its place. -/
theorem mapM {Item : Type} {fails : Item → Prop} {body : Item → Checked Result}
    (step : ∀ item, StopsWhen build (fails item) (body item)) (items : List Item) :
    StopsWhen build (∃ item ∈ items, fails item) (items.mapM body) := by
  induction items with
  | nil => exact (done []).congr (by simp)
  | cons item rest ih =>
      rw [List.mapM_cons]
      have both := (step item).bind fun first => ih.map (first :: ·)
      exact both.congr (by simp)

end StopsWhen

/-! ## The preconditions of the operations -/

/-- A text that goes through the JSON parser and is refused by it. -/
def Unparsable (json : JsonUtil Struct) (text : String) : Prop :=
  text ≠ "" ∧ (json.jsonStringToMessage text).1 = false

/-- The precondition an operation checks before it makes its request fails. -/
def Operation.CheckFails (json : JsonUtil Struct) : Operation → Prop
  | .issueItem _ _ _ _ _ _ metadata _ _ _ => Unparsable json metadata.properties
  | .updateItemMetadata _ metadata => Unparsable json metadata.properties
  | .updateItemMetadataList updates =>
      ∃ update ∈ updates, Unparsable json update.metadata.properties
  | .createItemType _ _ _ _ _ _ _ _ _ metadata => Unparsable json metadata.properties
  | .updateItemTypeMetadata _ metadata => Unparsable json metadata.properties
  | .createPrimaryOrder _ _ _ _ _ purchasedItems metadata _ =>
      Unparsable json metadata ∨
        ∃ item ∈ purchasedItems, Unparsable json item.metadata.properties
  | .getToken id _ => id ≠ braintree
  | _ => False

section Converters
variable (build : Build) (json : JsonUtil Struct)

theorem text_stops (text : String) :
    StopsWhen build (Unparsable json text) (jsonStringToGoogleStruct build json text) := by
  unfold jsonStringToGoogleStruct
  by_cases empty : text = ""
  · simp only [empty, bne_self_eq_false, Bool.false_eq_true, ↓reduceIte]
    exact (StopsWhen.done _).congr (by simp [Unparsable])
  · rw [if_pos (by simp [empty])]
    have checked := @StopsWhen.of_check build (json.jsonStringToMessage text).1
    exact (checked.map fun _ => (json.jsonStringToMessage text).2).congr (by
      simp [Unparsable, empty])

theorem metadata_stops (metadata : IVIMetadata) :
    StopsWhen build (Unparsable json metadata.properties) (metadata.toProto build json) :=
  (text_stops build json metadata.properties).map _

theorem metadata_update_stops (update : IVIMetadataUpdate) :
    StopsWhen build (Unparsable json update.metadata.properties) (update.toProto build json) :=
  (metadata_stops build json update.metadata).map _

theorem purchased_items_stops (purchasedItems : IVIPurchasedItems) :
    StopsWhen build (Unparsable json purchasedItems.metadata.properties)
      (purchasedItems.toProto build json) :=
  (metadata_stops build json purchasedItems.metadata).map _

theorem optional_struct_stops (text : String) :
    StopsWhen build (Unparsable json text) (optionalStruct build json text) := by
  unfold optionalStruct
  by_cases empty : text = ""
  · simp only [empty, bne_self_eq_false, Bool.false_eq_true, ↓reduceIte]
    exact (StopsWhen.done _).congr (by simp [Unparsable])
  · rw [if_pos (by simp [empty])]
    have parsed := (text_stops build json text).map some
    cases result : jsonStringToGoogleStruct build json text with
    | ok value => rwa [result] at parsed
    | error stop => rwa [result] at parsed

theorem create_order_request_eq (storeId buyerPlayerId subTotal : String)
    (address : IVIOrderAddress) (paymentProviderId : PaymentProviderId)
    (purchasedItems : List IVIPurchasedItems) (metadata requestIp : String) :
    makeCreateOrderRequest build json storeId buyerPlayerId subTotal address paymentProviderId
        purchasedItems metadata requestIp =
      (optionalStruct build json metadata >>= fun metadata =>
        purchasedItems.mapM (·.toProto build json) >>= fun purchasedItems =>
        .ok { storeId := storeId
              buyerPlayerId := buyerPlayerId
              subTotal := subTotal
              address := some address.toProto
              paymentProviderId := eCastToWire paymentProviderId
              metadata := metadata
              requestIp := requestIp
              purchasedItems := some { purchasedItems := purchasedItems } }) := by
  unfold makeCreateOrderRequest optionalStruct
  cases metadata != "" <;> rfl

end Converters

/-! ## Operations -/

section Operations
variable (env : Env) (json : JsonUtil Struct)

theorem make_stops (op : Operation) :
    StopsWhen env.build (Operation.CheckFails json op) (op.plan env json).make := by
  cases op with
  | issueItem inventory player name type paid currency metadata store order ip =>
      exact (metadata_stops env.build json metadata).map _
  | updateItemMetadata inventory metadata =>
      exact (metadata_stops env.build json metadata).map _
  | updateItemMetadataList updates =>
      exact (StopsWhen.mapM (metadata_update_stops env.build json) updates).map _
  | createItemType type token category supply span burnable transferable sellable agreements
      metadata =>
      exact (metadata_stops env.build json metadata).map _
  | updateItemTypeMetadata type metadata =>
      exact (metadata_stops env.build json metadata).map _
  | createPrimaryOrder store buyer total address provider items metadata ip =>
      have made := create_order_request_eq env.build json store buyer total address provider items
        metadata ip
      change StopsWhen _ _ (makeCreateOrderRequest _ _ _ _ _ _ _ _ _ _)
      rw [made]
      exact (optional_struct_stops env.build json metadata).bind fun _ =>
        (StopsWhen.mapM (purchased_items_stops env.build json) items).map _
  | getToken id player =>
      have checked := @StopsWhen.of_check env.build (id == braintree)
      exact (checked.map _).congr (by simp [Operation.CheckFails])
  | _ => exact StopsWhen.done _

theorem sync_stops (op : Operation) :
    StopsWhen env.build (Operation.CheckFails json op) (op.sync env json) := by
  rw [sync_plan]
  exact (make_stops env json op).map _

theorem async_stops (op : Operation) (callback : IVIResultT op.Payload → Checked Answer) :
    StopsWhen env.build (Operation.CheckFails json op) (op.async env json (some callback)) := by
  rw [async_plan]
  have started : ∀ request, StopsWhen env.build False
      (callUnaryAsync env request (op.plan env json).call (op.plan env json).parser
        (some fun result => callback ((op.plan env json).finish result))) :=
    fun request => StopsWhen.done _
  exact ((make_stops env json op).bind started).congr (or_iff_left not_false)

/-- Also a call without a callback gets no further than the check. -/
theorem async_exits (op : Operation) (callback : Callback (IVIResultT op.Payload) Answer)
    (exit : env.build.enableExitOnFailCheck = true) (fails : Operation.CheckFails json op) :
    op.async env json callback = .error .exited := by
  obtain ⟨wrapped, _, same⟩ := async_wrapped env json op callback
  rw [same, (make_stops env json op).exits exit fails]
  rfl

end Operations

/-! ## Tokens -/

section Success
variable {Request Response Payload : Type} [EnvironmentScoped Request] [Inhabited Payload]

theorem failure_not_success (reply : ServerReply Response) (result : IVIResultT Payload)
    (failed : failureResult reply = .ok result) : result.status ≠ .success := by
  unfold failureResult at failed
  obtain ⟨status, translated, failed⟩ := ok_of_bind failed
  cases failed
  exact translate_grpc_error_not_success _ _ status translated

/-- A result that says success was made by the parser. -/
theorem received_success (env : Env) (request : Request) (call : Request → RpcCall Struct)
    (parser : ResponseParser Response Payload) (reply : ServerReply Response)
    (result : IVIResultT Payload)
    (received : (callUnary env request call parser).receive reply = .ok result)
    (success : result.status = .success) : makeSuccessResult parser reply.response = .ok result := by
  cases accepted : reply.status.ok with
  | true => rwa [call_unary_accepts env request call parser reply accepted] at received
  | false =>
      simp only [callUnary, accepted, Bool.false_eq_true, ↓reduceIte] at received
      obtain ⟨_, _, received⟩ := ok_of_bind received
      exact absurd success (failure_not_success reply result received)

/-- The same for what a callback is passed. -/
theorem completed_success (env : Env) (request : Request) (call : Request → RpcCall Struct)
    (parser : ResponseParser Response Payload)
    (started : AsyncCall Struct Response (IVIResultT Payload))
    (made : callUnaryAsync env request call parser (some Except.ok) = .ok started) (ok : Bool)
    (reply : ServerReply Response) (result : IVIResultT Payload)
    (completed : started.complete ok reply = .ok result)
    (success : result.status = .success) : makeSuccessResult parser reply.response = .ok result := by
  change Except.ok _ = Except.ok started at made
  rw [Except.ok.injEq] at made
  subst made
  dsimp only at completed
  obtain ⟨accepted, _, completed⟩ := ok_of_bind completed
  cases accepted with
  | true =>
      obtain ⟨value, parsed, completed⟩ := ok_of_bind completed
      cases completed
      exact parsed
  | false =>
      obtain ⟨value, failed, completed⟩ := ok_of_bind completed
      cases completed
      exact absurd success (failure_not_success reply _ failed)

end Success

theorem token_of_success {build : Build} (exit : build.enableExitOnFailCheck = true)
    (token : Token) (result : IVIResultT IVIToken)
    (parsed : makeSuccessResult (IVIToken.fromProto build) token = .ok result) :
    ∃ text, token = .braintree text := by
  cases token with
  | braintree text => exact ⟨text, rfl⟩
  | notSet =>
      simp [makeSuccessResult, IVIToken.fromProto, exitFailure, exit, bind, Except.bind] at parsed
  | other providerCase =>
      simp [makeSuccessResult, IVIToken.fromProto, exitFailure, exit, bind, Except.bind] at parsed

/-- What an unsupported provider's token becomes when the process goes on. -/
def unsupportedToken : IVIToken where
  braintreeToken := "UNSUPPORTED"
  paymentProviderId := eCast intMaxSentinel

theorem unsupported_token {build : Build} (off : build.enableExitOnFailCheck = false)
    (token : Token) (unknown : ∀ text, token ≠ .braintree text) :
    IVIToken.fromProto build token = .ok unsupportedToken := by
  cases token with
  | braintree text => exact absurd rfl (unknown text)
  | notSet => simp [IVIToken.fromProto, exitFailure, off, bind, Except.bind, unsupportedToken]
  | other providerCase =>
      simp [IVIToken.fromProto, exitFailure, off, bind, Except.bind, unsupportedToken]

theorem unsupported_received {env : Env} (off : env.build.enableExitOnFailCheck = false)
    (request : CreateTokenRequest) (reply : ServerReply Token) (accepted : reply.status.ok = true)
    (unknown : ∀ text, reply.response ≠ .braintree text) :
    (callUnary env request (@RpcCall.generateClientToken Struct)
      (IVIToken.fromProto env.build)).receive reply = .ok ⟨.success, unsupportedToken⟩ := by
  rw [call_unary_accepts env request _ _ reply accepted]
  simp only [makeSuccessResult, unsupported_token off _ unknown]
  rfl

theorem unsupported_completed {env : Env} (off : env.build.enableExitOnFailCheck = false)
    (request : CreateTokenRequest) (started : AsyncCall Struct Token (IVIResultT IVIToken))
    (made : callUnaryAsync env request .generateClientToken (IVIToken.fromProto env.build)
      (some Except.ok) = .ok started)
    (reply : ServerReply Token) (accepted : reply.status.ok = true)
    (unknown : ∀ text, reply.response ≠ .braintree text) :
    started.complete true reply = .ok ⟨.success, unsupportedToken⟩ := by
  obtain ⟨other, same, _, completes⟩ := async_complete_ok env request
    (@RpcCall.generateClientToken Struct) (IVIToken.fromProto env.build) Except.ok
  rw [made, Except.ok.injEq] at same
  rw [same, completes, unsupported_received off request reply accepted unknown]
  rfl

theorem get_token_sync {env : Env} {json : JsonUtil Struct} {id : PaymentProviderId}
    {player : String} {call : Call Struct Token (IVIResultT IVIToken)}
    (made : (Operation.getToken id player).sync env json = .ok call) :
    ∃ request : CreateTokenRequest,
      call = callUnary env request .generateClientToken (IVIToken.fromProto env.build) := by
  change (makeCreateTokenRequest env.build id player >>= fun request => .ok
    (callUnary env request .generateClientToken (IVIToken.fromProto env.build))) = .ok call at made
  obtain ⟨request, _, made⟩ := ok_of_bind made
  cases made
  exact ⟨request, rfl⟩

theorem get_token_async {env : Env} {json : JsonUtil Struct} {id : PaymentProviderId}
    {player : String} {started : AsyncCall Struct Token (IVIResultT IVIToken)}
    (made : (Operation.getToken id player).async env json (some Except.ok) = .ok started) :
    ∃ request : CreateTokenRequest, callUnaryAsync env request .generateClientToken
      (IVIToken.fromProto env.build) (some Except.ok) = .ok started := by
  change (makeCreateTokenRequest env.build id player >>= fun request => callUnaryAsync env request
    .generateClientToken (IVIToken.fromProto env.build) (some Except.ok)) = .ok started at made
  obtain ⟨request, _, made⟩ := ok_of_bind made
  exact ⟨request, made⟩

/-! ## What a failed check stops -/

/-- What the checks of the operations do under one build. -/
structure ChecksStop (Answer : Type) (env : Env) (json : JsonUtil Struct) : Prop where
  /-- A call exists, and with it a request at the stub, unless a check fails in
  the build that exits. -/
  sync : ∀ op, (∃ call, op.sync env json = .ok call) ↔
    ¬ (env.build.enableExitOnFailCheck = true ∧ Operation.CheckFails json op)
  async : ∀ op (callback : IVIResultT op.Payload → Checked Answer),
    (∃ started, op.async env json (some callback) = .ok started) ↔
      ¬ (env.build.enableExitOnFailCheck = true ∧ Operation.CheckFails json op)
  exits : env.build.enableExitOnFailCheck = true → ∀ op, Operation.CheckFails json op →
    op.sync env json = .error .exited ∧
    ∀ callback : Callback (IVIResultT op.Payload) Answer,
      op.async env json callback = .error .exited
  /-- No success without a Braintree token in the build that exits. -/
  tokens : env.build.enableExitOnFailCheck = true → ∀ id player call reply result,
    (Operation.getToken id player).sync env json = .ok call →
    Call.receive call reply = .ok result → result.status = .success →
    ∃ text, reply.response = Token.braintree text
  tokensAsync : env.build.enableExitOnFailCheck = true → ∀ id player started ok reply result,
    (Operation.getToken id player).async env json (some Except.ok) = .ok started →
    AsyncCall.complete started ok reply = .ok result → result.status = .success →
    ∃ text, reply.response = Token.braintree text
  /-- The build that goes on passes an unsupported token on as a success. -/
  unsupported : env.build.enableExitOnFailCheck = false → ∀ id player call reply,
    (Operation.getToken id player).sync env json = .ok call → reply.status.ok = true →
    (∀ text, reply.response ≠ Token.braintree text) →
    Call.receive call reply = .ok ⟨.success, unsupportedToken⟩
  unsupportedAsync : env.build.enableExitOnFailCheck = false → ∀ id player started reply,
    (Operation.getToken id player).async env json (some Except.ok) = .ok started →
    reply.status.ok = true → (∀ text, reply.response ≠ Token.braintree text) →
    AsyncCall.complete started true reply = .ok ⟨.success, unsupportedToken⟩

/-- In the build that exits a failed check leaves no request and no success; in
the one that goes on every operation hands its request over. -/
theorem failed_checks_stop (env : Env) (json : JsonUtil Struct) :
    ChecksStop Answer env json where
  sync op := (sync_stops env json op).ok_iff
  async op callback := (async_stops env json op callback).ok_iff
  exits exit op fails :=
    ⟨(sync_stops env json op).exits exit fails,
      fun callback => async_exits env json op callback exit fails⟩
  tokens exit id player call reply result made received success := by
    obtain ⟨request, same⟩ := get_token_sync made
    rw [same] at received
    exact token_of_success exit _ result
      (received_success env request _ _ reply result received success)
  tokensAsync exit id player started ok reply result made completed success := by
    obtain ⟨request, same⟩ := get_token_async made
    exact token_of_success exit _ result
      (completed_success env request _ _ started same ok reply result completed success)
  unsupported off id player call reply made accepted unknown := by
    obtain ⟨request, same⟩ := get_token_sync made
    rw [same]
    exact unsupported_received off request reply accepted unknown
  unsupportedAsync off id player started reply made accepted unknown := by
    obtain ⟨request, same⟩ := get_token_async made
    exact unsupported_completed off request started same reply accepted unknown

/-- The build that logs a failed check and goes on. -/
def loggingEnv : Env := { defaultEnv with build := { enableExitOnFailCheck := false } }

/-- There a text that is not JSON does not keep the request from the stub. -/
theorem failed_check_hands_over :
    ¬ ∀ (env : Env) (op : Operation), Operation.CheckFails flagStructs op →
      ¬ ∃ call, op.sync env flagStructs = .ok call := by
  intro stops
  refine stops loggingEnv (.updateItemMetadata "sword" { (default : IVIMetadata) with
    properties := "shiny" }) ⟨by decide, by decide⟩ ⟨_, rfl⟩

end IviSdk.FailedChecks
