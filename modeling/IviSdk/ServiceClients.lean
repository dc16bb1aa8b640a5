import IviSdk.Models
import IviSdk.UnaryCalls

/-!
The item, item type, player, order and payment clients of `ivi-client.cpp`,
synchronous and asynchronous. Each operation makes its request, possibly
failing one of the SDK's checks, and passes it with an RPC and a parser to a
call template.
-/

namespace IviSdk.ServiceClients

open Checks Enums Messages Models Results UnaryCalls

variable {Struct Answer : Type}

/-! ## Items -/

def makeIssueItemRequest (build : Build) (json : JsonUtil Struct)
    (gameInventoryId playerId itemName gameItemTypeId amountPaid currency : String)
    (metadata : IVIMetadata) (storeId orderId requestIp : String) :
    Checked (IssueItemRequest Struct) := do
  let metadata ← metadata.toProto build json
  .ok { gameInventoryId := gameInventoryId
        playerId := playerId
        itemName := itemName
        gameItemTypeId := gameItemTypeId
        amountPaid := amountPaid
        currency := currency
        metadata := some metadata
        storeId := storeId
        orderId := orderId
        requestIp := requestIp }

/-- `ItemStateUpdateResponseParserT`, the parser of three responses. -/
def itemStateUpdateResponseParser (gameInventoryId : String) :
    ResponseParser ItemStartedResponse IVIItemStateChange := fun response =>
  .ok { gameInventoryId := gameInventoryId
        trackingId := response.trackingId
        itemState := eCast response.itemState }

def IVIItemClient.issueItem (env : Env) (json : JsonUtil Struct)
    (gameInventoryId playerId itemName gameItemTypeId amountPaid currency : String)
    (metadata : IVIMetadata) (storeId orderId requestIp : String) :
    Checked (Call Struct IssueItemStartedResponse (IVIResultT IVIItemStateChange)) := do
  let request ← makeIssueItemRequest env.build json gameInventoryId playerId itemName
    gameItemTypeId amountPaid currency metadata storeId orderId requestIp
  .ok (callUnary env request .issueItem (itemStateUpdateResponseParser gameInventoryId))

def IVIItemClientAsync.issueItem (env : Env) (json : JsonUtil Struct)
    (gameInventoryId playerId itemName gameItemTypeId amountPaid currency : String)
    (metadata : IVIMetadata) (storeId orderId requestIp : String)
    (callback : Callback (IVIResultT IVIItemStateChange) Answer) :
    Checked (AsyncCall Struct IssueItemStartedResponse Answer) := do
  let request ← makeIssueItemRequest env.build json gameInventoryId playerId itemName
    gameItemTypeId amountPaid currency metadata storeId orderId requestIp
  callUnaryAsync env request .issueItem (itemStateUpdateResponseParser gameInventoryId) callback

def makeTransferItemRequest (gameInventoryId sourcePlayerId destPlayerId storeId : String) :
    TransferItemRequest where
  gameItemInventoryId := gameInventoryId
  sourcePlayerId := sourcePlayerId
  destinationPlayerId := destPlayerId
  storeId := storeId

def IVIItemClient.transferItem (env : Env)
    (gameInventoryId sourcePlayerId destPlayerId storeId : String) :
    Checked (Call Struct TransferItemStartedResponse (IVIResultT IVIItemStateChange)) :=
  .ok (callUnary env (makeTransferItemRequest gameInventoryId sourcePlayerId destPlayerId storeId)
    .transferItem (itemStateUpdateResponseParser gameInventoryId))

def IVIItemClientAsync.transferItem (env : Env)
    (gameInventoryId sourcePlayerId destPlayerId storeId : String)
    (callback : Callback (IVIResultT IVIItemStateChange) Answer) :
    Checked (AsyncCall Struct TransferItemStartedResponse Answer) :=
  callUnaryAsync env (makeTransferItemRequest gameInventoryId sourcePlayerId destPlayerId storeId)
    .transferItem (itemStateUpdateResponseParser gameInventoryId) callback

def makeBurnItemRequest (gameInventoryId : String) : BurnItemRequest where
  gameItemInventoryId := gameInventoryId

def IVIItemClient.burnItem (env : Env) (gameInventoryId : String) :
    Checked (Call Struct BurnItemStartedResponse (IVIResultT IVIItemStateChange)) :=
  .ok (callUnary env (makeBurnItemRequest gameInventoryId) .burnItem
    (itemStateUpdateResponseParser gameInventoryId))

def IVIItemClientAsync.burnItem (env : Env) (gameInventoryId : String)
    (callback : Callback (IVIResultT IVIItemStateChange) Answer) :
    Checked (AsyncCall Struct BurnItemStartedResponse Answer) :=
  callUnaryAsync env (makeBurnItemRequest gameInventoryId) .burnItem
    (itemStateUpdateResponseParser gameInventoryId) callback

def makeGetItemRequest (gameInventoryId : String) (history : Bool) : GetItemRequest where
  gameInventoryId := gameInventoryId
  history := history

/-- `history` has the default argument `false`. -/
def IVIItemClient.getItem (env : Env) (json : JsonUtil Struct) (gameInventoryId : String)
    (history : Bool := false) : Checked (Call Struct (Item Struct) (IVIResultT IVIItem)) :=
  .ok (callUnary env (makeGetItemRequest gameInventoryId history) .getItem
    (IVIItem.fromProto env.build json))

def IVIItemClientAsync.getItem (env : Env) (json : JsonUtil Struct) (gameInventoryId : String)
    (history : Bool) (callback : Callback (IVIResultT IVIItem) Answer) :
    Checked (AsyncCall Struct (Item Struct) Answer) :=
  callUnaryAsync env (makeGetItemRequest gameInventoryId history) .getItem
    (IVIItem.fromProto env.build json) callback

/-- The overload of `GetItem` without a history argument. -/
def IVIItemClientAsync.getItemNoHistory (env : Env) (json : JsonUtil Struct)
    (gameInventoryId : String) (callback : Callback (IVIResultT IVIItem) Answer) :
    Checked (AsyncCall Struct (Item Struct) Answer) :=
  IVIItemClientAsync.getItem env json gameInventoryId false callback

def makeGetItemsRequest (createdTimestamp : Int64) (pageSize : Int32) (sortOrder : SortOrder)
    (finalized : Finalized) : GetItemsRequest where
  createdTimestamp := createdTimestamp
  pageSize := pageSize
  sortOrder := eCastToWire sortOrder
  finalized := eCastToWire finalized

def parseItems (build : Build) (json : JsonUtil Struct) :
    ResponseParser (Items Struct) (List IVIItem) := fun response =>
  response.items.mapM (IVIItem.fromProto build json)

def IVIItemClient.getItems (env : Env) (json : JsonUtil Struct) (createdTimestamp : Int64)
    (pageSize : Int32) (sortOrder : SortOrder) (finalized : Finalized) :
    Checked (Call Struct (Items Struct) (IVIResultT (List IVIItem))) :=
  .ok (callUnary env (makeGetItemsRequest createdTimestamp pageSize sortOrder finalized) .getItems
    (parseItems env.build json))

def IVIItemClientAsync.getItems (env : Env) (json : JsonUtil Struct) (createdTimestamp : Int64)
    (pageSize : Int32) (sortOrder : SortOrder) (finalized : Finalized)
    (callback : Callback (IVIResultT (List IVIItem)) Answer) :
    Checked (AsyncCall Struct (Items Struct) Answer) :=
  callUnaryAsync env (makeGetItemsRequest createdTimestamp pageSize sortOrder finalized) .getItems
    (parseItems env.build json) callback

/-- The overload for one item: `add_update_items` on an empty request. -/
def makeUpdateItemMetadataRequest (build : Build) (json : JsonUtil Struct)
    (gameInventoryId : String) (metadata : IVIMetadata) :
    Checked (UpdateItemMetadataRequest Struct) := do
  let metadata ← metadata.toProto build json
  .ok { updateItems := [{ gameInventoryId := gameInventoryId, metadata := some metadata }] }

/-- The overload for a list of updates. -/
def makeUpdateItemMetadataListRequest (build : Build) (json : JsonUtil Struct)
    (updates : List IVIMetadataUpdate) : Checked (UpdateItemMetadataRequest Struct) := do
  let updateItems ← updates.mapM (·.toProto build json)
  .ok { updateItems := updateItems }

/-- The private overload both public ones end in. -/
def IVIItemClient.updateItemMetadataRequest (env : Env)
    (updateRequest : UpdateItemMetadataRequest Struct) :
    Call Struct UpdateItemMetadataResponse (IVIResultT Unit) :=
  callUnary env updateRequest .updateItemMetadata nullParser

def IVIItemClient.updateItemMetadata (env : Env) (json : JsonUtil Struct)
    (gameInventoryId : String) (metadata : IVIMetadata) :
    Checked (Call Struct UpdateItemMetadataResponse (IVIResultT Unit)) := do
  let request ← makeUpdateItemMetadataRequest env.build json gameInventoryId metadata
  .ok (IVIItemClient.updateItemMetadataRequest env request)

def IVIItemClient.updateItemMetadataList (env : Env) (json : JsonUtil Struct)
    (updates : List IVIMetadataUpdate) :
    Checked (Call Struct UpdateItemMetadataResponse (IVIResultT Unit)) := do
  let request ← makeUpdateItemMetadataListRequest env.build json updates
  .ok (IVIItemClient.updateItemMetadataRequest env request)

def IVIItemClientAsync.updateItemMetadataRequest (env : Env)
    (updateRequest : UpdateItemMetadataRequest Struct)
    (callback : Callback (IVIResultT Unit) Answer) :
    Checked (AsyncCall Struct UpdateItemMetadataResponse Answer) :=
  callUnaryAsync env updateRequest .updateItemMetadata nullParser callback

def IVIItemClientAsync.updateItemMetadata (env : Env) (json : JsonUtil Struct)
    (gameInventoryId : String) (metadata : IVIMetadata)
    (callback : Callback (IVIResultT Unit) Answer) :
    Checked (AsyncCall Struct UpdateItemMetadataResponse Answer) := do
  let request ← makeUpdateItemMetadataRequest env.build json gameInventoryId metadata
  IVIItemClientAsync.updateItemMetadataRequest env request callback

def IVIItemClientAsync.updateItemMetadataList (env : Env) (json : JsonUtil Struct)
    (updates : List IVIMetadataUpdate) (callback : Callback (IVIResultT Unit) Answer) :
    Checked (AsyncCall Struct UpdateItemMetadataResponse Answer) := do
  let request ← makeUpdateItemMetadataListRequest env.build json updates
  IVIItemClientAsync.updateItemMetadataRequest env request callback

/-! ## Item types -/

/-- A successful empty list is the one failure the server did not report. -/
def parseItemTypeListToElement (result : IVIResultT (List IVIItemType)) :
    IVIResultT IVIItemType :=
  if result.succeeded then
    match result.payload with
    | front :: _ => ⟨result.status, front⟩
    | [] => .ofStatus .notFound
  else .ofStatus result.status

def makeGetItemTypesRequest (gameItemTypeIds : List String) : GetItemTypesRequest where
  gameItemTypeIds := gameItemTypeIds

def parseItemTypes (build : Build) (json : JsonUtil Struct) :
    ResponseParser (ItemTypes Struct) (List IVIItemType) := fun response =>
  response.itemTypes.mapM (IVIItemType.fromProto build json)

def IVIItemTypeClient.getItemTypes (env : Env) (json : JsonUtil Struct)
    (gameItemTypeIds : List String) :
    Checked (Call Struct (ItemTypes Struct) (IVIResultT (List IVIItemType))) :=
  .ok (callUnary env (makeGetItemTypesRequest gameItemTypeIds) .getItemTypes
    (parseItemTypes env.build json))

def IVIItemTypeClientAsync.getItemTypes (env : Env) (json : JsonUtil Struct)
    (gameItemTypeIds : List String) (callback : Callback (IVIResultT (List IVIItemType)) Answer) :
    Checked (AsyncCall Struct (ItemTypes Struct) Answer) :=
  callUnaryAsync env (makeGetItemTypesRequest gameItemTypeIds) .getItemTypes
    (parseItemTypes env.build json) callback

/-- The overload of `GetItemTypes` without arguments. -/
def IVIItemTypeClient.getAllItemTypes (env : Env) (json : JsonUtil Struct) :
    Checked (Call Struct (ItemTypes Struct) (IVIResultT (List IVIItemType))) :=
  IVIItemTypeClient.getItemTypes env json []

def IVIItemTypeClientAsync.getAllItemTypes (env : Env) (json : JsonUtil Struct)
    (callback : Callback (IVIResultT (List IVIItemType)) Answer) :
    Checked (AsyncCall Struct (ItemTypes Struct) Answer) :=
  IVIItemTypeClientAsync.getItemTypes env json [] callback

def IVIItemTypeClient.getItemType (env : Env) (json : JsonUtil Struct) (gameItemTypeId : String) :
    Checked (Call Struct (ItemTypes Struct) (IVIResultT IVIItemType)) := do
  let call ← IVIItemTypeClient.getItemTypes env json [gameItemTypeId]
  .ok { handed := call.handed
        receive := fun reply => do
          let result ← call.receive reply
          .ok (parseItemTypeListToElement result) }

/-- The application's callback is wrapped in a lambda, so the check of the call
template sees a callback even when the application gave none. -/
def IVIItemTypeClientAsync.getItemType (env : Env) (json : JsonUtil Struct)
    (gameItemTypeId : String) (callback : Callback (IVIResultT IVIItemType) Answer) :
    Checked (AsyncCall Struct (ItemTypes Struct) Answer) :=
  IVIItemTypeClientAsync.getItemTypes env json [gameItemTypeId]
    (some fun result => invoke callback (parseItemTypeListToElement result))

def makeCreateItemTypeRequest (build : Build) (json : JsonUtil Struct)
    (gameItemTypeId tokenName category : String) (maxSupply issueTimeSpan : Int32)
    (burnable transferable sellable : Bool) (agreementIds : List String)
    (metadata : IVIMetadata) : Checked (CreateItemTypeRequest Struct) := do
  let metadata ← metadata.toProto build json
  .ok { gameItemTypeId := gameItemTypeId
        tokenName := tokenName
        category := category
        maxSupply := maxSupply
        issueTimeSpan := issueTimeSpan
        burnable := burnable
        transferable := transferable
        sellable := sellable
        agreementIds := agreementIds
        metadata := some metadata }

def parseItemTypeStateUpdate :
    ResponseParser CreateItemAsyncResponse IVIItemTypeStateChange := fun response =>
  .ok { gameItemTypeId := response.gameItemTypeId
        trackingId := response.trackingId
        itemTypeState := eCast response.itemTypeState }

def IVIItemTypeClient.createItemType (env : Env) (json : JsonUtil Struct)
    (gameItemTypeId tokenName category : String) (maxSupply issueTimeSpan : Int32)
    (burnable transferable sellable : Bool) (agreementIds : List String)
    (metadata : IVIMetadata) :
    Checked (Call Struct CreateItemAsyncResponse (IVIResultT IVIItemTypeStateChange)) := do
  let request ← makeCreateItemTypeRequest env.build json gameItemTypeId tokenName category
    maxSupply issueTimeSpan burnable transferable sellable agreementIds metadata
  .ok (callUnary env request .createItemType parseItemTypeStateUpdate)

def IVIItemTypeClientAsync.createItemType (env : Env) (json : JsonUtil Struct)
    (gameItemTypeId tokenName category : String) (maxSupply issueTimeSpan : Int32)
    (burnable transferable sellable : Bool) (agreementIds : List String)
    (metadata : IVIMetadata) (callback : Callback (IVIResultT IVIItemTypeStateChange) Answer) :
    Checked (AsyncCall Struct CreateItemAsyncResponse Answer) := do
  let request ← makeCreateItemTypeRequest env.build json gameItemTypeId tokenName category
    maxSupply issueTimeSpan burnable transferable sellable agreementIds metadata
  callUnaryAsync env request .createItemType parseItemTypeStateUpdate callback

def makeFreezeItemTypeRequest (gameItemTypeId : String) : FreezeItemTypeRequest where
  gameItemTypeId := gameItemTypeId

def freezeItemTypeAsyncResponseParser (gameInventoryId : String) :
    ResponseParser FreezeItemTypeAsyncResponse IVIItemTypeStateChange := fun response =>
  .ok { gameItemTypeId := gameInventoryId
        trackingId := response.trackingId
        itemTypeState := eCast response.itemTypeState }

def IVIItemTypeClient.freezeItemType (env : Env) (gameItemTypeId : String) :
    Checked (Call Struct FreezeItemTypeAsyncResponse (IVIResultT IVIItemTypeStateChange)) :=
  .ok (callUnary env (makeFreezeItemTypeRequest gameItemTypeId) .freezeItemType
    (freezeItemTypeAsyncResponseParser gameItemTypeId))

def IVIItemTypeClientAsync.freezeItemType (env : Env) (gameItemTypeId : String)
    (callback : Callback (IVIResultT IVIItemTypeStateChange) Answer) :
    Checked (AsyncCall Struct FreezeItemTypeAsyncResponse Answer) :=
  callUnaryAsync env (makeFreezeItemTypeRequest gameItemTypeId) .freezeItemType
    (freezeItemTypeAsyncResponseParser gameItemTypeId) callback

def makeUpdateItemTypeMetadataPayload (build : Build) (json : JsonUtil Struct)
    (gameItemTypeId : String) (metadata : IVIMetadata) :
    Checked (UpdateItemTypeMetadataPayload Struct) := do
  let metadata ← metadata.toProto build json
  .ok { gameItemTypeId := gameItemTypeId, metadata := some metadata }

def IVIItemTypeClient.updateItemTypeMetadata (env : Env) (json : JsonUtil Struct)
    (gameItemTypeId : String) (metadata : IVIMetadata) :
    Checked (Call Struct ProtobufEmpty (IVIResultT Unit)) := do
  let request ← makeUpdateItemTypeMetadataPayload env.build json gameItemTypeId metadata
  .ok (callUnary env request .updateItemTypeMetadata nullParser)

def IVIItemTypeClientAsync.updateItemTypeMetadata (env : Env) (json : JsonUtil Struct)
    (gameItemTypeId : String) (metadata : IVIMetadata)
    (callback : Callback (IVIResultT Unit) Answer) :
    Checked (AsyncCall Struct ProtobufEmpty Answer) := do
  let request ← makeUpdateItemTypeMetadataPayload env.build json gameItemTypeId metadata
  callUnaryAsync env request .updateItemTypeMetadata nullParser callback

/-! ## Players -/

def makeLinkPlayerRequest (playerId email displayName requestIp : String) :
    LinkPlayerRequest where
  playerId := playerId
  email := email
  displayName := displayName
  requestIp := requestIp

def linkPlayerAsyncResponseParser (playerId : String) :
    ResponseParser LinkPlayerAsyncResponse IVIPlayerStateChange := fun response =>
  .ok { playerId := playerId
        trackingId := response.trackingId
        playerState := eCast response.playerState }

def IVIPlayerClient.linkPlayer (env : Env) (playerId email displayName requestIp : String) :
    Checked (Call Struct LinkPlayerAsyncResponse (IVIResultT IVIPlayerStateChange)) :=
  .ok (callUnary env (makeLinkPlayerRequest playerId email displayName requestIp) .linkPlayer
    (linkPlayerAsyncResponseParser playerId))

def IVIPlayerClientAsync.linkPlayer (env : Env) (playerId email displayName requestIp : String)
    (callback : Callback (IVIResultT IVIPlayerStateChange) Answer) :
    Checked (AsyncCall Struct LinkPlayerAsyncResponse Answer) :=
  callUnaryAsync env (makeLinkPlayerRequest playerId email displayName requestIp) .linkPlayer
    (linkPlayerAsyncResponseParser playerId) callback

def makeGetPlayerRequest (playerId : String) : GetPlayerRequest where
  playerId := playerId

/-- `&IVIPlayer::FromProto` as a parser. -/
def parsePlayer : ResponseParser Messages.IVIPlayer Models.IVIPlayer := fun response =>
  .ok (Models.IVIPlayer.fromProto response)

def IVIPlayerClient.getPlayer (env : Env) (playerId : String) :
    Checked (Call Struct Messages.IVIPlayer (IVIResultT Models.IVIPlayer)) :=
  .ok (callUnary env (makeGetPlayerRequest playerId) .getPlayer parsePlayer)

def IVIPlayerClientAsync.getPlayer (env : Env) (playerId : String)
    (callback : Callback (IVIResultT Models.IVIPlayer) Answer) :
    Checked (AsyncCall Struct Messages.IVIPlayer Answer) :=
  callUnaryAsync env (makeGetPlayerRequest playerId) .getPlayer parsePlayer callback

def makeGetPlayersRequest (createdTimestamp : Int64) (pageSize : Int32) (sortOrder : SortOrder) :
    GetPlayersRequest where
  createdTimestamp := createdTimestamp
  pageSize := pageSize
  sortOrder := eCastToWire sortOrder

def parseIVIPlayers : ResponseParser IVIPlayers (List Models.IVIPlayer) := fun response =>
  .ok (response.iviPlayers.map Models.IVIPlayer.fromProto)

def IVIPlayerClient.getPlayers (env : Env) (createdTimestamp : Int64) (pageSize : Int32)
    (sortOrder : SortOrder) :
    Checked (Call Struct IVIPlayers (IVIResultT (List Models.IVIPlayer))) :=
  .ok (callUnary env (makeGetPlayersRequest createdTimestamp pageSize sortOrder) .getPlayers
    parseIVIPlayers)

def IVIPlayerClientAsync.getPlayers (env : Env) (createdTimestamp : Int64) (pageSize : Int32)
    (sortOrder : SortOrder) (callback : Callback (IVIResultT (List Models.IVIPlayer)) Answer) :
    Checked (AsyncCall Struct IVIPlayers Answer) :=
  callUnaryAsync env (makeGetPlayersRequest createdTimestamp pageSize sortOrder) .getPlayers
    parseIVIPlayers callback

/-! ## Orders -/

def makeGetOrderRequest (orderId : String) : GetOrderRequest where
  orderId := orderId

def IVIOrderClient.getOrder (env : Env) (json : JsonUtil Struct) (orderId : String) :
    Checked (Call Struct (Order Struct) (IVIResultT IVIOrder)) :=
  .ok (callUnary env (makeGetOrderRequest orderId) .getOrder (IVIOrder.fromProto env.build json))

def IVIOrderClientAsync.getOrder (env : Env) (json : JsonUtil Struct) (orderId : String)
    (callback : Callback (IVIResultT IVIOrder) Answer) :
    Checked (AsyncCall Struct (Order Struct) Answer) :=
  callUnaryAsync env (makeGetOrderRequest orderId) .getOrder (IVIOrder.fromProto env.build json)
    callback

def makeCreateOrderRequest (build : Build) (json : JsonUtil Struct)
    (storeId buyerPlayerId subTotal : String) (address : IVIOrderAddress)
    (paymentProviderId : PaymentProviderId) (purchasedItems : List IVIPurchasedItems)
    (metadata requestIp : String) : Checked (CreateOrderRequest Struct) := do
  let metadata ← if metadata != "" then
      (jsonStringToGoogleStruct build json metadata).map some
    else .ok none
  let purchasedItems ← purchasedItems.mapM (·.toProto build json)
  .ok { storeId := storeId
        buyerPlayerId := buyerPlayerId
        subTotal := subTotal
        address := some address.toProto
        paymentProviderId := eCastToWire paymentProviderId
        metadata := metadata
        requestIp := requestIp
        purchasedItems := some { purchasedItems := purchasedItems } }

def IVIOrderClient.createPrimaryOrder (env : Env) (json : JsonUtil Struct)
    (storeId buyerPlayerId subTotal : String) (address : IVIOrderAddress)
    (paymentProviderId : PaymentProviderId) (purchasedItems : List IVIPurchasedItems)
    (metadata requestIp : String) :
    Checked (Call Struct (Order Struct) (IVIResultT IVIOrder)) := do
  let request ← makeCreateOrderRequest env.build json storeId buyerPlayerId subTotal address
    paymentProviderId purchasedItems metadata requestIp
  .ok (callUnary env request .createOrder (IVIOrder.fromProto env.build json))

def IVIOrderClientAsync.createPrimaryOrder (env : Env) (json : JsonUtil Struct)
    (storeId buyerPlayerId subTotal : String) (address : IVIOrderAddress)
    (paymentProviderId : PaymentProviderId) (purchasedItems : List IVIPurchasedItems)
    (metadata requestIp : String) (callback : Callback (IVIResultT IVIOrder) Answer) :
    Checked (AsyncCall Struct (Order Struct) Answer) := do
  let request ← makeCreateOrderRequest env.build json storeId buyerPlayerId subTotal address
    paymentProviderId purchasedItems metadata requestIp
  callUnaryAsync env request .createOrder (IVIOrder.fromProto env.build json) callback

def makeFinalizeOrderRequest (orderId fraudSessionId : String)
    (paymentRequest : PaymentRequestProto) : FinalizeOrderRequest where
  orderId := orderId
  fraudSessionId := fraudSessionId
  paymentRequestData := some paymentRequest

def makePaymentRequestProtoBraintree (clientToken paymentNonce : String) : PaymentRequestProto :=
  .braintree clientToken paymentNonce

def makePaymentRequestProtoBitpay (invoiceId : String) : PaymentRequestProto :=
  .bitpay invoiceId

/-- `&IVIFinalizeOrderResponse::FromProto` as a parser. -/
def parseFinalizeOrderResponse :
    ResponseParser FinalizeOrderAsyncResponse IVIFinalizeOrderResponse := fun response =>
  .ok (IVIFinalizeOrderResponse.fromProto response)

def IVIOrderClient.finalizeOrder (env : Env) (orderId fraudSessionId : String)
    (paymentData : PaymentRequestProto) :
    Checked (Call Struct FinalizeOrderAsyncResponse (IVIResultT IVIFinalizeOrderResponse)) :=
  .ok (callUnary env (makeFinalizeOrderRequest orderId fraudSessionId paymentData) .finalizeOrder
    parseFinalizeOrderResponse)

def IVIOrderClient.finalizeBraintreeOrder (env : Env)
    (orderId clientToken paymentNonce fraudSessionId : String) :
    Checked (Call Struct FinalizeOrderAsyncResponse (IVIResultT IVIFinalizeOrderResponse)) :=
  IVIOrderClient.finalizeOrder env orderId fraudSessionId
    (makePaymentRequestProtoBraintree clientToken paymentNonce)

def IVIOrderClient.finalizeBitpayOrder (env : Env) (orderId invoiceId fraudSessionId : String) :
    Checked (Call Struct FinalizeOrderAsyncResponse (IVIResultT IVIFinalizeOrderResponse)) :=
  IVIOrderClient.finalizeOrder env orderId fraudSessionId
    (makePaymentRequestProtoBitpay invoiceId)

def IVIOrderClientAsync.finalizeOrder (env : Env) (orderId fraudSessionId : String)
    (paymentData : PaymentRequestProto)
    (callback : Callback (IVIResultT IVIFinalizeOrderResponse) Answer) :
    Checked (AsyncCall Struct FinalizeOrderAsyncResponse Answer) :=
  callUnaryAsync env (makeFinalizeOrderRequest orderId fraudSessionId paymentData) .finalizeOrder
    parseFinalizeOrderResponse callback

def IVIOrderClientAsync.finalizeBraintreeOrder (env : Env)
    (orderId clientToken paymentNonce fraudSessionId : String)
    (callback : Callback (IVIResultT IVIFinalizeOrderResponse) Answer) :
    Checked (AsyncCall Struct FinalizeOrderAsyncResponse Answer) :=
  IVIOrderClientAsync.finalizeOrder env orderId fraudSessionId
    (makePaymentRequestProtoBraintree clientToken paymentNonce) callback

def IVIOrderClientAsync.finalizeBitpayOrder (env : Env)
    (orderId invoiceId fraudSessionId : String)
    (callback : Callback (IVIResultT IVIFinalizeOrderResponse) Answer) :
    Checked (AsyncCall Struct FinalizeOrderAsyncResponse Answer) :=
  IVIOrderClientAsync.finalizeOrder env orderId fraudSessionId
    (makePaymentRequestProtoBitpay invoiceId) callback

/-! ## Payments -/

/-- A provider other than Braintree fails a check before the request exists;
with the exit disabled the request is made for Braintree all the same. -/
def makeCreateTokenRequest (build : Build) (id : PaymentProviderId) (playerId : String) :
    Checked CreateTokenRequest := do
  check build (id == Enums.braintree)
  .ok { provider := .braintree playerId }

def IVIPaymentClient.getToken (env : Env) (id : PaymentProviderId) (playerId : String) :
    Checked (Call Struct Token (IVIResultT IVIToken)) := do
  let request ← makeCreateTokenRequest env.build id playerId
  .ok (callUnary env request .generateClientToken (IVIToken.fromProto env.build))

def IVIPaymentClientAsync.getToken (env : Env) (id : PaymentProviderId) (playerId : String)
    (callback : Callback (IVIResultT IVIToken) Answer) :
    Checked (AsyncCall Struct Token Answer) := do
  let request ← makeCreateTokenRequest env.build id playerId
  callUnaryAsync env request .generateClientToken (IVIToken.fromProto env.build) callback

end IviSdk.ServiceClients
