import IviSdk.Checks
import IviSdk.Messages

/-!
`ivi-model.cpp`: the SDK's own data types and their converters from and to
protobuf. The two JSON functions of `google::protobuf::util` are a parameter;
each reports a status next to the value it leaves behind. A converter that
runs one of the SDK's checks is `Checked`, every other one is a plain function.
-/

namespace IviSdk.Models

open Checks Enums Messages

variable {Struct : Type}

/-- `MessageToJsonString` and `JsonStringToMessage` at `Struct`, and the
default-constructed `Struct`. The parser leaves some value even when its
status is not ok. -/
structure JsonUtil (Struct : Type) where
  emptyStruct : Struct
  messageToJsonString : Struct → Bool × String
  jsonStringToMessage : String → Bool × Struct

/-- `JsonUtil` for programs in which no message carries a struct. -/
def noStructs : JsonUtil Unit where
  emptyStruct := ()
  messageToJsonString _ := (true, "{}")
  jsonStringToMessage _ := (true, ())

def googleStructToJsonString (build : Build) (json : JsonUtil Struct)
    (protoStruct : Struct) : Checked String := do
  let (ok, jsonString) := json.messageToJsonString protoStruct
  check build ok
  .ok jsonString

def jsonStringToGoogleStruct (build : Build) (json : JsonUtil Struct)
    (jsonString : String) : Checked Struct :=
  if jsonString != "" then do
    let (ok, protoStruct) := json.jsonStringToMessage jsonString
    check build ok
    .ok protoStruct
  else .ok json.emptyStruct

structure IVIMetadata where
  name : String
  description : String
  image : String
  properties : String
  deriving DecidableEq, Inhabited

def IVIMetadata.fromProto (build : Build) (json : JsonUtil Struct)
    (metadata : Metadata Struct) : Checked IVIMetadata := do
  let properties ← googleStructToJsonString build json
    (metadata.properties.getD json.emptyStruct)
  .ok { name := metadata.name
        description := metadata.description
        image := metadata.image
        properties := properties }

def IVIMetadata.toProto (build : Build) (json : JsonUtil Struct)
    (metadata : IVIMetadata) : Checked (Metadata Struct) := do
  let properties ← jsonStringToGoogleStruct build json metadata.properties
  .ok { name := metadata.name
        description := metadata.description
        image := metadata.image
        properties := some properties }

structure IVIMetadataUpdate where
  gameInventoryId : String
  metadata : IVIMetadata
  deriving DecidableEq, Inhabited

def IVIMetadataUpdate.toProto (build : Build) (json : JsonUtil Struct)
    (update : IVIMetadataUpdate) : Checked (UpdateItemMetadata Struct) := do
  let metadata ← update.metadata.toProto build json
  .ok { gameInventoryId := update.gameInventoryId
        metadata := some metadata }

structure IVIItem where
  gameInventoryId : String
  gameItemTypeId : String
  dgoodsId : Int64
  itemName : String
  playerId : String
  ownerSidechainAccount : String
  serialNumber : Int32
  currencyBase : String
  metadataUri : String
  trackingId : String
  metadata : IVIMetadata
  createdTimestamp : Int64
  updatedTimestamp : Int64
  itemState : ItemState
  deriving DecidableEq, Inhabited

def IVIItem.fromProto (build : Build) (json : JsonUtil Struct)
    (item : Item Struct) : Checked IVIItem := do
  let metadata ← IVIMetadata.fromProto build json (item.metadata.getD default)
  .ok { gameInventoryId := item.gameInventoryId
        gameItemTypeId := item.gameItemTypeId
        dgoodsId := item.dgoodsId
        itemName := item.itemName
        playerId := item.playerId
        ownerSidechainAccount := item.ownerSidechainAccount
        serialNumber := item.serialNumber
        currencyBase := item.currencyBase
        metadataUri := item.metadataUri
        trackingId := item.trackingId
        metadata := metadata
        createdTimestamp := item.createdTimestamp
        updatedTimestamp := item.updatedTimestamp
        itemState := eCast item.itemState }

def IVIItem.toProto (build : Build) (json : JsonUtil Struct)
    (item : IVIItem) : Checked (Item Struct) := do
  let metadata ← item.metadata.toProto build json
  .ok { gameInventoryId := item.gameInventoryId
        gameItemTypeId := item.gameItemTypeId
        dgoodsId := item.dgoodsId
        itemName := item.itemName
        playerId := item.playerId
        ownerSidechainAccount := item.ownerSidechainAccount
        serialNumber := item.serialNumber
        currencyBase := item.currencyBase
        metadataUri := item.metadataUri
        trackingId := item.trackingId
        metadata := some metadata
        createdTimestamp := item.createdTimestamp
        updatedTimestamp := item.updatedTimestamp
        itemState := eCastToWire item.itemState }

structure IVIItemType where
  gameItemTypeId : String
  maxSupply : Int32
  currentSupply : Int32
  issuedSupply : Int32
  issuer : String
  issueTimeSpan : Int32
  category : String
  tokenName : String
  baseUri : String
  agreementIds : List String
  trackingId : String
  metadata : IVIMetadata
  createdTimestamp : Int64
  updatedTimestamp : Int64
  itemTypeState : ItemTypeState
  fungible : Bool
  burnable : Bool
  transferable : Bool
  finalized : Bool
  sellable : Bool
  deriving DecidableEq, Inhabited

def IVIItemType.fromProto (build : Build) (json : JsonUtil Struct)
    (itemType : ItemType Struct) : Checked IVIItemType := do
  let metadata ← IVIMetadata.fromProto build json (itemType.metadata.getD default)
  .ok { gameItemTypeId := itemType.gameItemTypeId
        maxSupply := itemType.maxSupply
        currentSupply := itemType.currentSupply
        issuedSupply := itemType.issuedSupply
        issuer := itemType.issuer
        issueTimeSpan := itemType.issueTimeSpan
        category := itemType.category
        tokenName := itemType.tokenName
        baseUri := itemType.baseUri
        agreementIds := itemType.agreementIds
        trackingId := itemType.trackingId
        metadata := metadata
        createdTimestamp := itemType.createdTimestamp
        updatedTimestamp := itemType.updatedTimestamp
        itemTypeState := eCast itemType.itemTypeState
        fungible := itemType.fungible
        burnable := itemType.burnable
        transferable := itemType.transferable
        finalized := itemType.finalized
        sellable := itemType.sellable }

def IVIItemType.toProto (build : Build) (json : JsonUtil Struct)
    (itemType : IVIItemType) : Checked (ItemType Struct) := do
  let metadata ← itemType.metadata.toProto build json
  .ok { gameItemTypeId := itemType.gameItemTypeId
        maxSupply := itemType.maxSupply
        currentSupply := itemType.currentSupply
        issuedSupply := itemType.issuedSupply
        issuer := itemType.issuer
        issueTimeSpan := itemType.issueTimeSpan
        category := itemType.category
        tokenName := itemType.tokenName
        baseUri := itemType.baseUri
        agreementIds := itemType.agreementIds
        trackingId := itemType.trackingId
        metadata := some metadata
        createdTimestamp := itemType.createdTimestamp
        updatedTimestamp := itemType.updatedTimestamp
        itemTypeState := eCastToWire itemType.itemTypeState
        fungible := itemType.fungible
        burnable := itemType.burnable
        transferable := itemType.transferable
        finalized := itemType.finalized
        sellable := itemType.sellable }

structure IVIOrderAddress where
  firstName : String
  lastName : String
  addressLine1 : String
  addressLine2 : String
  city : String
  state : String
  postalCode : String
  countryName : String
  countryIsoAlpha2 : String
  deriving DecidableEq, Inhabited

def IVIOrderAddress.fromProto (address : Address) : IVIOrderAddress where
  firstName := address.firstName
  lastName := address.lastName
  addressLine1 := address.addressLine1
  addressLine2 := address.addressLine2
  city := address.city
  state := address.state
  postalCode := address.postalCode
  countryName := address.countryName
  countryIsoAlpha2 := address.countryIsoAlpha2

def IVIOrderAddress.toProto (address : IVIOrderAddress) : Address where
  firstName := address.firstName
  lastName := address.lastName
  addressLine1 := address.addressLine1
  addressLine2 := address.addressLine2
  city := address.city
  state := address.state
  postalCode := address.postalCode
  countryName := address.countryName
  countryIsoAlpha2 := address.countryIsoAlpha2

structure IVIPurchasedItems where
  gameInventoryIds : List String
  itemName : String
  gameItemTypeId : String
  amountPaid : String
  currency : String
  metadata : IVIMetadata
  deriving DecidableEq, Inhabited

def IVIPurchasedItems.fromProto (build : Build) (json : JsonUtil Struct)
    (purchasedItems : ItemTypeOrder Struct) : Checked IVIPurchasedItems := do
  let metadata ← IVIMetadata.fromProto build json (purchasedItems.metadata.getD default)
  .ok { gameInventoryIds := purchasedItems.gameInventoryIds
        itemName := purchasedItems.itemName
        gameItemTypeId := purchasedItems.gameItemTypeId
        amountPaid := purchasedItems.amountPaid
        currency := purchasedItems.currency
        metadata := metadata }

def IVIPurchasedItems.toProto (build : Build) (json : JsonUtil Struct)
    (purchasedItems : IVIPurchasedItems) : Checked (ItemTypeOrder Struct) := do
  let metadata ← purchasedItems.metadata.toProto build json
  .ok { gameInventoryIds := purchasedItems.gameInventoryIds
        itemName := purchasedItems.itemName
        gameItemTypeId := purchasedItems.gameItemTypeId
        amountPaid := purchasedItems.amountPaid
        currency := purchasedItems.currency
        metadata := some metadata }

structure IVIOrder where
  orderId : String
  storeId : String
  buyerPlayerId : String
  tax : String
  total : String
  address : IVIOrderAddress
  metadata : String
  createdBy : String
  requestIp : String
  environmentId : String
  createdTimestamp : Int64
  bitpayInvoice : String
  paymentProviderId : PaymentProviderId
  orderStatus : OrderState
  deriving DecidableEq, Inhabited

/-- `has_payment_provider_data() && payment_provider_data().has_bitpay()`, with
the data it guards. -/
def bitpayOf (order : Order Struct) : Option (BitpayOrderData Struct) :=
  match order.paymentProviderData with
  | some (.bitpay data) => some data
  | _ => none

def IVIOrder.fromProto (build : Build) (json : JsonUtil Struct)
    (order : Order Struct) : Checked IVIOrder := do
  let metadata ← match order.metadata with
    | some value => googleStructToJsonString build json value
    | none => .ok ""
  let bitpayInvoice ← match bitpayOf order with
    | some data => googleStructToJsonString build json (data.invoice.getD json.emptyStruct)
    | none => .ok ""
  .ok { orderId := order.orderId
        storeId := order.storeId
        buyerPlayerId := order.buyerPlayerId
        tax := order.tax
        total := order.total
        address := IVIOrderAddress.fromProto (order.address.getD {})
        metadata := metadata
        createdBy := order.createdBy
        requestIp := order.requestIp
        environmentId := order.environmentId
        createdTimestamp := order.createdTimestamp
        bitpayInvoice := bitpayInvoice
        paymentProviderId := eCast order.paymentProviderId
        orderStatus := eCast order.orderStatus }

/-- Metadata and invoice are only set when their text is not empty. -/
def IVIOrder.toProto (build : Build) (json : JsonUtil Struct)
    (order : IVIOrder) : Checked (Order Struct) := do
  let metadata ← if order.metadata != "" then
      (jsonStringToGoogleStruct build json order.metadata).map some
    else .ok none
  let paymentProviderData ← if order.bitpayInvoice != "" then
      (jsonStringToGoogleStruct build json order.bitpayInvoice).map
        fun invoice => some (.bitpay { invoice := some invoice })
    else .ok none
  .ok { orderId := order.orderId
        storeId := order.storeId
        buyerPlayerId := order.buyerPlayerId
        tax := order.tax
        total := order.total
        address := some order.address.toProto
        paymentProviderId := eCastToWire order.paymentProviderId
        metadata := metadata
        createdBy := order.createdBy
        requestIp := order.requestIp
        environmentId := order.environmentId
        orderStatus := eCastToWire order.orderStatus
        createdTimestamp := order.createdTimestamp
        paymentProviderData := paymentProviderData }

structure IVIFinalizeOrderResponse where
  paymentInstrumentType : String
  transactionId : String
  processorResponse : String
  fraudScore : Int32
  omniScore : String
  orderStatus : OrderState
  success : Bool
  scoreIsValid : Bool
  deriving DecidableEq, Inhabited

def IVIFinalizeOrderResponse.fromProto (response : FinalizeOrderAsyncResponse) :
    IVIFinalizeOrderResponse where
  paymentInstrumentType := response.paymentInstrumentType
  transactionId := response.transactionId
  processorResponse := response.processorResponse
  fraudScore := (response.fraudScore.map FraudResult.fraudScore).getD 2147483647
  omniScore := (response.fraudScore.map FraudResult.fraudOmniscore).getD ""
  orderStatus := eCast response.orderStatus
  success := response.success
  scoreIsValid := response.fraudScore.isSome

structure IVIItemStateChange where
  gameInventoryId : String
  trackingId : String
  itemState : ItemState
  deriving DecidableEq, Inhabited

structure IVIItemTypeStateChange where
  gameItemTypeId : String
  trackingId : String
  itemTypeState : ItemTypeState
  deriving DecidableEq, Inhabited

structure IVIPlayer where
  playerId : String
  email : String
  displayName : String
  sidechainAccountName : String
  trackingId : String
  createdTimestamp : Int64
  playerState : PlayerState
  deriving DecidableEq, Inhabited

def IVIPlayer.fromProto (player : Messages.IVIPlayer) : IVIPlayer where
  playerId := player.playerId
  email := player.email
  displayName := player.displayName
  sidechainAccountName := player.sidechainAccountName
  trackingId := player.trackingId
  createdTimestamp := player.createdTimestamp
  playerState := eCast player.playerState

def IVIPlayer.toProto (player : IVIPlayer) : Messages.IVIPlayer where
  playerId := player.playerId
  email := player.email
  displayName := player.displayName
  sidechainAccountName := player.sidechainAccountName
  trackingId := player.trackingId
  playerState := eCastToWire player.playerState
  createdTimestamp := player.createdTimestamp

structure IVIToken where
  braintreeToken : String
  paymentProviderId : PaymentProviderId
  deriving DecidableEq, Inhabited

/-- An unsupported provider exits, or, with the exit disabled, is handed on as
a token with the text `UNSUPPORTED`. -/
def IVIToken.fromProto (build : Build) (token : Token) : Checked IVIToken :=
  match token with
  | .braintree value =>
      .ok { braintreeToken := value, paymentProviderId := Enums.braintree }
  | .notSet | .other _ => do
      exitFailure build
      .ok { braintreeToken := "UNSUPPORTED", paymentProviderId := eCast intMaxSentinel }

structure IVIPlayerStatusUpdate where
  playerId : String
  trackingId : String
  playerState : PlayerState
  deriving DecidableEq, Inhabited

abbrev IVIPlayerStateChange := IVIPlayerStatusUpdate

def IVIPlayerStatusUpdate.fromProto (psu : PlayerStatusUpdate) : IVIPlayerStatusUpdate where
  playerId := psu.playerId
  trackingId := psu.trackingId
  playerState := eCast psu.playerState

structure IVIItemStatusUpdate where
  gameInventoryId : String
  gameItemTypeId : String
  playerId : String
  metadataUri : String
  trackingId : String
  dgoodsId : Int64
  serialNumber : Int32
  itemState : ItemState
  deriving DecidableEq, Inhabited

def IVIItemStatusUpdate.fromProto (isu : ItemStatusUpdate) : IVIItemStatusUpdate where
  gameInventoryId := isu.gameInventoryId
  gameItemTypeId := isu.gameItemTypeId
  playerId := isu.playerId
  metadataUri := isu.metadataUri
  trackingId := isu.trackingId
  dgoodsId := isu.dgoodsId
  serialNumber := isu.serialNumber
  itemState := eCast isu.itemState

structure IVIItemTypeStatusUpdate where
  gameItemTypeId : String
  baseUri : String
  trackingId : String
  currentSupply : Int32
  issuedSupply : Int32
  issueTimeSpan : Int32
  itemTypeState : ItemTypeState
  deriving DecidableEq, Inhabited

def IVIItemTypeStatusUpdate.fromProto (itsu : ItemTypeStatusUpdate) :
    IVIItemTypeStatusUpdate where
  gameItemTypeId := itsu.gameItemTypeId
  baseUri := itsu.baseUri
  trackingId := itsu.trackingId
  currentSupply := itsu.currentSupply
  issuedSupply := itsu.issuedSupply
  issueTimeSpan := itsu.issueTimeSpan
  itemTypeState := eCast itsu.itemTypeState

structure IVIOrderStatusUpdate where
  orderId : String
  orderState : OrderState
  deriving DecidableEq, Inhabited

def IVIOrderStatusUpdate.fromProto (osu : OrderStatusUpdate) : IVIOrderStatusUpdate where
  orderId := osu.orderId
  orderState := eCast osu.orderState

end IviSdk.Models
