import IviSdk.ServiceClients

/-!
The operations of the five unary services as one type, and what a caller of any
of them can rely on. Every entry point comes down to a plan: one checked
request, one RPC, one parser and, for `GetItemType`, a last step from the list
to its first element. The hand-written synchronous and asynchronous functions
are shown equal to the two readings of the same plan.
-/

namespace IviSdk.EntryPoints

open Checks Enums Messages Models Results UnaryCalls ServiceClients

variable {Struct Answer : Type}

inductive Operation where
  | issueItem (gameInventoryId playerId itemName gameItemTypeId amountPaid currency : String)
      (metadata : IVIMetadata) (storeId orderId requestIp : String)
  | transferItem (gameInventoryId sourcePlayerId destPlayerId storeId : String)
  | burnItem (gameInventoryId : String)
  | getItem (gameInventoryId : String) (history : Bool)
  | getItemNoHistory (gameInventoryId : String)
  | getItems (createdTimestamp : Int64) (pageSize : Int32) (sortOrder : SortOrder)
      (finalized : Finalized)
  | updateItemMetadata (gameInventoryId : String) (metadata : IVIMetadata)
  | updateItemMetadataList (updates : List IVIMetadataUpdate)
  | getItemType (gameItemTypeId : String)
  | getItemTypes (gameItemTypeIds : List String)
  | getAllItemTypes
  | createItemType (gameItemTypeId tokenName category : String) (maxSupply issueTimeSpan : Int32)
      (burnable transferable sellable : Bool) (agreementIds : List String)
      (metadata : IVIMetadata)
  | freezeItemType (gameItemTypeId : String)
  | updateItemTypeMetadata (gameItemTypeId : String) (metadata : IVIMetadata)
  | linkPlayer (playerId email displayName requestIp : String)
  | getPlayer (playerId : String)
  | getPlayers (createdTimestamp : Int64) (pageSize : Int32) (sortOrder : SortOrder)
  | getOrder (orderId : String)
  | createPrimaryOrder (storeId buyerPlayerId subTotal : String) (address : IVIOrderAddress)
      (paymentProviderId : PaymentProviderId) (purchasedItems : List IVIPurchasedItems)
      (metadata requestIp : String)
  | finalizeBraintreeOrder (orderId clientToken paymentNonce fraudSessionId : String)
  | finalizeBitpayOrder (orderId invoiceId fraudSessionId : String)
  | getToken (id : PaymentProviderId) (playerId : String)

def Operation.Response (Struct : Type) : Operation → Type
  | .issueItem .. | .transferItem .. | .burnItem .. => ItemStartedResponse
  | .getItem .. | .getItemNoHistory .. => Item Struct
  | .getItems .. => Items Struct
  | .updateItemMetadata .. | .updateItemMetadataList .. => UpdateItemMetadataResponse
  | .getItemType .. | .getItemTypes .. | .getAllItemTypes => ItemTypes Struct
  | .createItemType .. => CreateItemAsyncResponse
  | .freezeItemType .. => FreezeItemTypeAsyncResponse
  | .updateItemTypeMetadata .. => ProtobufEmpty
  | .linkPlayer .. => LinkPlayerAsyncResponse
  | .getPlayer .. => Messages.IVIPlayer
  | .getPlayers .. => IVIPlayers
  | .getOrder .. | .createPrimaryOrder .. => Order Struct
  | .finalizeBraintreeOrder .. | .finalizeBitpayOrder .. => FinalizeOrderAsyncResponse
  | .getToken .. => Token

def Operation.Payload : Operation → Type
  | .issueItem .. | .transferItem .. | .burnItem .. => IVIItemStateChange
  | .getItem .. | .getItemNoHistory .. => IVIItem
  | .getItems .. => List IVIItem
  | .updateItemMetadata .. | .updateItemMetadataList .. | .updateItemTypeMetadata .. => Unit
  | .getItemType .. => IVIItemType
  | .getItemTypes .. | .getAllItemTypes => List IVIItemType
  | .createItemType .. | .freezeItemType .. => IVIItemTypeStateChange
  | .linkPlayer .. => IVIPlayerStateChange
  | .getPlayer .. => Models.IVIPlayer
  | .getPlayers .. => List Models.IVIPlayer
  | .getOrder .. | .createPrimaryOrder .. => IVIOrder
  | .finalizeBraintreeOrder .. | .finalizeBitpayOrder .. => IVIFinalizeOrderResponse
  | .getToken .. => IVIToken

instance : (op : Operation) → Inhabited op.Payload
  | .issueItem .. | .transferItem .. | .burnItem .. =>
      inferInstanceAs (Inhabited IVIItemStateChange)
  | .getItem .. | .getItemNoHistory .. => inferInstanceAs (Inhabited IVIItem)
  | .getItems .. => inferInstanceAs (Inhabited (List IVIItem))
  | .updateItemMetadata .. | .updateItemMetadataList .. | .updateItemTypeMetadata .. =>
      inferInstanceAs (Inhabited Unit)
  | .getItemType .. => inferInstanceAs (Inhabited IVIItemType)
  | .getItemTypes .. | .getAllItemTypes => inferInstanceAs (Inhabited (List IVIItemType))
  | .createItemType .. | .freezeItemType .. => inferInstanceAs (Inhabited IVIItemTypeStateChange)
  | .linkPlayer .. => inferInstanceAs (Inhabited IVIPlayerStateChange)
  | .getPlayer .. => inferInstanceAs (Inhabited Models.IVIPlayer)
  | .getPlayers .. => inferInstanceAs (Inhabited (List Models.IVIPlayer))
  | .getOrder .. | .createPrimaryOrder .. => inferInstanceAs (Inhabited IVIOrder)
  | .finalizeBraintreeOrder .. | .finalizeBitpayOrder .. =>
      inferInstanceAs (Inhabited IVIFinalizeOrderResponse)
  | .getToken .. => inferInstanceAs (Inhabited IVIToken)

/-- The synchronous client's entry point. -/
def Operation.sync (env : Env) (json : JsonUtil Struct) :
    (op : Operation) → Checked (Call Struct (op.Response Struct) (IVIResultT op.Payload))
  | .issueItem inventory player name type paid currency metadata store order ip =>
      IVIItemClient.issueItem env json inventory player name type paid currency metadata store
        order ip
  | .transferItem inventory source dest store =>
      IVIItemClient.transferItem env inventory source dest store
  | .burnItem inventory => IVIItemClient.burnItem env inventory
  | .getItem inventory history => IVIItemClient.getItem env json inventory history
  | .getItemNoHistory inventory => IVIItemClient.getItem env json inventory
  | .getItems created size order finalized =>
      IVIItemClient.getItems env json created size order finalized
  | .updateItemMetadata inventory metadata =>
      IVIItemClient.updateItemMetadata env json inventory metadata
  | .updateItemMetadataList updates => IVIItemClient.updateItemMetadataList env json updates
  | .getItemType type => IVIItemTypeClient.getItemType env json type
  | .getItemTypes types => IVIItemTypeClient.getItemTypes env json types
  | .getAllItemTypes => IVIItemTypeClient.getAllItemTypes env json
  | .createItemType type token category supply span burnable transferable sellable agreements
      metadata =>
      IVIItemTypeClient.createItemType env json type token category supply span burnable
        transferable sellable agreements metadata
  | .freezeItemType type => IVIItemTypeClient.freezeItemType env type
  | .updateItemTypeMetadata type metadata =>
      IVIItemTypeClient.updateItemTypeMetadata env json type metadata
  | .linkPlayer player email name ip => IVIPlayerClient.linkPlayer env player email name ip
  | .getPlayer player => IVIPlayerClient.getPlayer env player
  | .getPlayers created size order => IVIPlayerClient.getPlayers env created size order
  | .getOrder order => IVIOrderClient.getOrder env json order
  | .createPrimaryOrder store buyer total address provider items metadata ip =>
      IVIOrderClient.createPrimaryOrder env json store buyer total address provider items
        metadata ip
  | .finalizeBraintreeOrder order token nonce fraud =>
      IVIOrderClient.finalizeBraintreeOrder env order token nonce fraud
  | .finalizeBitpayOrder order invoice fraud =>
      IVIOrderClient.finalizeBitpayOrder env order invoice fraud
  | .getToken id player => IVIPaymentClient.getToken env id player

/-- The asynchronous client's entry point. -/
def Operation.async (env : Env) (json : JsonUtil Struct) :
    (op : Operation) → Callback (IVIResultT op.Payload) Answer →
      Checked (AsyncCall Struct (op.Response Struct) Answer)
  | .issueItem inventory player name type paid currency metadata store order ip =>
      IVIItemClientAsync.issueItem env json inventory player name type paid currency metadata
        store order ip
  | .transferItem inventory source dest store =>
      IVIItemClientAsync.transferItem env inventory source dest store
  | .burnItem inventory => IVIItemClientAsync.burnItem env inventory
  | .getItem inventory history => IVIItemClientAsync.getItem env json inventory history
  | .getItemNoHistory inventory => IVIItemClientAsync.getItemNoHistory env json inventory
  | .getItems created size order finalized =>
      IVIItemClientAsync.getItems env json created size order finalized
  | .updateItemMetadata inventory metadata =>
      IVIItemClientAsync.updateItemMetadata env json inventory metadata
  | .updateItemMetadataList updates => IVIItemClientAsync.updateItemMetadataList env json updates
  | .getItemType type => IVIItemTypeClientAsync.getItemType env json type
  | .getItemTypes types => IVIItemTypeClientAsync.getItemTypes env json types
  | .getAllItemTypes => IVIItemTypeClientAsync.getAllItemTypes env json
  | .createItemType type token category supply span burnable transferable sellable agreements
      metadata =>
      IVIItemTypeClientAsync.createItemType env json type token category supply span burnable
        transferable sellable agreements metadata
  | .freezeItemType type => IVIItemTypeClientAsync.freezeItemType env type
  | .updateItemTypeMetadata type metadata =>
      IVIItemTypeClientAsync.updateItemTypeMetadata env json type metadata
  | .linkPlayer player email name ip => IVIPlayerClientAsync.linkPlayer env player email name ip
  | .getPlayer player => IVIPlayerClientAsync.getPlayer env player
  | .getPlayers created size order => IVIPlayerClientAsync.getPlayers env created size order
  | .getOrder order => IVIOrderClientAsync.getOrder env json order
  | .createPrimaryOrder store buyer total address provider items metadata ip =>
      IVIOrderClientAsync.createPrimaryOrder env json store buyer total address provider items
        metadata ip
  | .finalizeBraintreeOrder order token nonce fraud =>
      IVIOrderClientAsync.finalizeBraintreeOrder env order token nonce fraud
  | .finalizeBitpayOrder order invoice fraud =>
      IVIOrderClientAsync.finalizeBitpayOrder env order invoice fraud
  | .getToken id player => IVIPaymentClientAsync.getToken env id player

/-! ## Plans -/

/-- What an operation is for, apart from how it is called. The last field says
that the environment id set on the request is the one the server sees. -/
structure Plan (Struct Response Payload : Type) where
  Request : Type
  Parsed : Type
  [requestScoped : EnvironmentScoped Request]
  [parsedInhabited : Inhabited Parsed]
  make : Checked Request
  call : Request → RpcCall Struct
  parser : ResponseParser Response Parsed
  finish : IVIResultT Parsed → IVIResultT Payload
  carriesId : ∀ id request, (call (setEnvironmentId id request)).environmentId = id

attribute [instance] Plan.requestScoped Plan.parsedInhabited

def Plan.sync {Response Payload : Type} (env : Env) (plan : Plan Struct Response Payload) :
    Checked (Call Struct Response (IVIResultT Payload)) := do
  let request ← plan.make
  let call := callUnary env request plan.call plan.parser
  .ok { handed := call.handed, receive := fun reply => (call.receive reply).map plan.finish }

def Plan.async {Response Payload : Type} (env : Env) (plan : Plan Struct Response Payload)
    (callback : IVIResultT Payload → Checked Answer) :
    Checked (AsyncCall Struct Response Answer) := do
  let request ← plan.make
  callUnaryAsync env request plan.call plan.parser
    (some fun result => callback (plan.finish result))

/-- The plan of an operation that passes its parsed payload on unchanged. -/
def plain {Request Response Payload : Type} [EnvironmentScoped Request] [Inhabited Payload]
    (make : Checked Request) (call : Request → RpcCall Struct)
    (parser : ResponseParser Response Payload)
    (carriesId : ∀ id request, (call (setEnvironmentId id request)).environmentId = id) :
    Plan Struct Response Payload where
  Request := Request
  Parsed := Payload
  make := make
  call := call
  parser := parser
  finish := id
  carriesId := carriesId

def Operation.plan (env : Env) (json : JsonUtil Struct) :
    (op : Operation) → Plan Struct (op.Response Struct) op.Payload
  | .issueItem inventory player name type paid currency metadata store order ip =>
      plain (makeIssueItemRequest env.build json inventory player name type paid currency
        metadata store order ip) .issueItem (itemStateUpdateResponseParser inventory)
        (fun _ _ => rfl)
  | .transferItem inventory source dest store =>
      plain (.ok (makeTransferItemRequest inventory source dest store)) .transferItem
        (itemStateUpdateResponseParser inventory) (fun _ _ => rfl)
  | .burnItem inventory =>
      plain (.ok (makeBurnItemRequest inventory)) .burnItem
        (itemStateUpdateResponseParser inventory) (fun _ _ => rfl)
  | .getItem inventory history =>
      plain (.ok (makeGetItemRequest inventory history)) .getItem
        (IVIItem.fromProto env.build json) (fun _ _ => rfl)
  | .getItemNoHistory inventory =>
      plain (.ok (makeGetItemRequest inventory false)) .getItem
        (IVIItem.fromProto env.build json) (fun _ _ => rfl)
  | .getItems created size order finalized =>
      plain (.ok (makeGetItemsRequest created size order finalized)) .getItems
        (parseItems env.build json) (fun _ _ => rfl)
  | .updateItemMetadata inventory metadata =>
      plain (makeUpdateItemMetadataRequest env.build json inventory metadata)
        .updateItemMetadata nullParser (fun _ _ => rfl)
  | .updateItemMetadataList updates =>
      plain (makeUpdateItemMetadataListRequest env.build json updates)
        .updateItemMetadata nullParser (fun _ _ => rfl)
  | .getItemType type =>
      { Request := GetItemTypesRequest
        Parsed := List IVIItemType
        make := .ok (makeGetItemTypesRequest [type])
        call := .getItemTypes
        parser := parseItemTypes env.build json
        finish := parseItemTypeListToElement
        carriesId := fun _ _ => rfl }
  | .getItemTypes types =>
      plain (.ok (makeGetItemTypesRequest types)) .getItemTypes
        (parseItemTypes env.build json) (fun _ _ => rfl)
  | .getAllItemTypes =>
      plain (.ok (makeGetItemTypesRequest [])) .getItemTypes
        (parseItemTypes env.build json) (fun _ _ => rfl)
  | .createItemType type token category supply span burnable transferable sellable agreements
      metadata =>
      plain (makeCreateItemTypeRequest env.build json type token category supply span burnable
        transferable sellable agreements metadata) .createItemType parseItemTypeStateUpdate
        (fun _ _ => rfl)
  | .freezeItemType type =>
      plain (.ok (makeFreezeItemTypeRequest type)) .freezeItemType
        (freezeItemTypeAsyncResponseParser type) (fun _ _ => rfl)
  | .updateItemTypeMetadata type metadata =>
      plain (makeUpdateItemTypeMetadataPayload env.build json type metadata)
        .updateItemTypeMetadata nullParser (fun _ _ => rfl)
  | .linkPlayer player email name ip =>
      plain (.ok (makeLinkPlayerRequest player email name ip)) .linkPlayer
        (linkPlayerAsyncResponseParser player) (fun _ _ => rfl)
  | .getPlayer player =>
      plain (.ok (makeGetPlayerRequest player)) .getPlayer parsePlayer (fun _ _ => rfl)
  | .getPlayers created size order =>
      plain (.ok (makeGetPlayersRequest created size order)) .getPlayers parseIVIPlayers
        (fun _ _ => rfl)
  | .getOrder order =>
      plain (.ok (makeGetOrderRequest order)) .getOrder (IVIOrder.fromProto env.build json)
        (fun _ _ => rfl)
  | .createPrimaryOrder store buyer total address provider items metadata ip =>
      plain (makeCreateOrderRequest env.build json store buyer total address provider items
        metadata ip) .createOrder (IVIOrder.fromProto env.build json) (fun _ _ => rfl)
  | .finalizeBraintreeOrder order token nonce fraud =>
      plain (.ok (makeFinalizeOrderRequest order fraud
        (makePaymentRequestProtoBraintree token nonce))) .finalizeOrder
        parseFinalizeOrderResponse (fun _ _ => rfl)
  | .finalizeBitpayOrder order invoice fraud =>
      plain (.ok (makeFinalizeOrderRequest order fraud (makePaymentRequestProtoBitpay invoice)))
        .finalizeOrder parseFinalizeOrderResponse (fun _ _ => rfl)
  | .getToken id player =>
      plain (makeCreateTokenRequest env.build id player) .generateClientToken
        (IVIToken.fromProto env.build) (fun _ _ => rfl)

theorem plain_sync {Request Response Payload : Type} [EnvironmentScoped Request]
    [Inhabited Payload] (env : Env) (make : Checked Request) (call : Request → RpcCall Struct)
    (parser : ResponseParser Response Payload)
    (carriesId : ∀ id request, (call (setEnvironmentId id request)).environmentId = id) :
    (plain make call parser carriesId).sync env =
      make.bind fun request => .ok (callUnary env request call parser) := by
  cases make with
  | error stop => rfl
  | ok request =>
      simp only [plain, Plan.sync, Except.map_id, id_eq, bind, Except.bind]
      rfl

/-- The synchronous functions read the operation's plan. -/
theorem sync_plan (env : Env) (json : JsonUtil Struct) (op : Operation) :
    op.sync env json = (op.plan env json).sync env := by
  cases op with
  | getItemType type =>
      simp only [Operation.sync, Operation.plan, IVIItemTypeClient.getItemType,
        IVIItemTypeClient.getItemTypes, Plan.sync, bind, Except.bind]
      rfl
  | _ =>
      refine Eq.trans ?_ (plain_sync env _ _ _ _).symm
      rfl

/-- The asynchronous functions read the same plan. -/
theorem async_plan (env : Env) (json : JsonUtil Struct) (op : Operation)
    (callback : IVIResultT op.Payload → Checked Answer) :
    op.async env json (some callback) = (op.plan env json).async env callback := by
  cases op <;> rfl

/-- The same without saying whether there is a callback: the template's callback
does with a result what the application's does with the finished one. -/
theorem async_wrapped (env : Env) (json : JsonUtil Struct) (op : Operation)
    (callback : Callback (IVIResultT op.Payload) Answer) :
    ∃ wrapped : Callback (IVIResultT (op.plan env json).Parsed) Answer,
      (∀ result, invoke wrapped result = invoke callback ((op.plan env json).finish result)) ∧
      op.async env json callback = (op.plan env json).make >>= fun request =>
        callUnaryAsync env request (op.plan env json).call (op.plan env json).parser wrapped := by
  cases op with
  | getItemType type =>
      refine ⟨some fun result => invoke callback (parseItemTypeListToElement result), ?_, rfl⟩
      intro result
      rfl
  | _ => exact ⟨callback, fun _ => rfl, rfl⟩

end IviSdk.EntryPoints
