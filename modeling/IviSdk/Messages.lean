import IviSdk.Enums

/-!
The protobuf messages the SDK reads and writes, with the fields it touches.
`google::protobuf::Struct` is left as a parameter `Struct`. A message-typed
field is optional, its absence being observable through `has_…`; a `oneof` is
an inductive type whose first constructor is the unset case.
-/

namespace IviSdk.Messages

open Enums

variable {Struct : Type}

/-! ## Shared definitions -/

structure Metadata (Struct : Type) where
  name : String := ""
  description : String := ""
  image : String := ""
  properties : Option Struct := none

instance : Inhabited (Metadata Struct) := ⟨{}⟩

/-- `google::protobuf::Empty`, and responses whose fields are never read. -/
structure ProtobufEmpty where
  deriving DecidableEq, Inhabited

/-! ## Items -/

structure Item (Struct : Type) where
  gameInventoryId : String := ""
  gameItemTypeId : String := ""
  dgoodsId : Int64 := 0
  itemName : String := ""
  playerId : String := ""
  ownerSidechainAccount : String := ""
  serialNumber : Int32 := 0
  currencyBase : String := ""
  metadataUri : String := ""
  trackingId : String := ""
  metadata : Option (Metadata Struct) := none
  createdTimestamp : Int64 := 0
  updatedTimestamp : Int64 := 0
  itemState : WireEnum .itemState := default

structure Items (Struct : Type) where
  items : List (Item Struct) := []

structure IssueItemRequest (Struct : Type) where
  environmentId : String := ""
  gameInventoryId : String := ""
  playerId : String := ""
  itemName : String := ""
  gameItemTypeId : String := ""
  amountPaid : String := ""
  currency : String := ""
  metadata : Option (Metadata Struct) := none
  storeId : String := ""
  orderId : String := ""
  requestIp : String := ""

structure TransferItemRequest where
  environmentId : String := ""
  gameItemInventoryId : String := ""
  sourcePlayerId : String := ""
  destinationPlayerId : String := ""
  storeId : String := ""
  deriving DecidableEq

structure BurnItemRequest where
  environmentId : String := ""
  gameItemInventoryId : String := ""
  deriving DecidableEq

/-- `IssueItemStartedResponse`, `TransferItemStartedResponse` and
`BurnItemStartedResponse` are read through one parser template. -/
structure ItemStartedResponse where
  trackingId : String := ""
  itemState : WireEnum .itemState := default
  deriving DecidableEq

abbrev IssueItemStartedResponse := ItemStartedResponse
abbrev TransferItemStartedResponse := ItemStartedResponse
abbrev BurnItemStartedResponse := ItemStartedResponse

structure GetItemRequest where
  environmentId : String := ""
  gameInventoryId : String := ""
  history : Bool := false
  deriving DecidableEq

structure GetItemsRequest where
  environmentId : String := ""
  createdTimestamp : Int64 := 0
  pageSize : Int32 := 0
  sortOrder : WireEnum .sortOrder := default
  finalized : WireEnum .finalized := default
  deriving DecidableEq

structure UpdateItemMetadata (Struct : Type) where
  gameInventoryId : String := ""
  metadata : Option (Metadata Struct) := none

structure UpdateItemMetadataRequest (Struct : Type) where
  environmentId : String := ""
  updateItems : List (UpdateItemMetadata Struct) := []

abbrev UpdateItemMetadataResponse := ProtobufEmpty

/-! ## Item types -/

structure ItemType (Struct : Type) where
  gameItemTypeId : String := ""
  maxSupply : Int32 := 0
  currentSupply : Int32 := 0
  issuedSupply : Int32 := 0
  issuer : String := ""
  issueTimeSpan : Int32 := 0
  category : String := ""
  tokenName : String := ""
  baseUri : String := ""
  agreementIds : List String := []
  trackingId : String := ""
  metadata : Option (Metadata Struct) := none
  createdTimestamp : Int64 := 0
  updatedTimestamp : Int64 := 0
  itemTypeState : WireEnum .itemTypeState := default
  fungible : Bool := false
  burnable : Bool := false
  transferable : Bool := false
  finalized : Bool := false
  sellable : Bool := false

structure ItemTypes (Struct : Type) where
  itemTypes : List (ItemType Struct) := []

structure GetItemTypesRequest where
  environmentId : String := ""
  gameItemTypeIds : List String := []
  deriving DecidableEq

structure CreateItemTypeRequest (Struct : Type) where
  environmentId : String := ""
  gameItemTypeId : String := ""
  tokenName : String := ""
  category : String := ""
  maxSupply : Int32 := 0
  issueTimeSpan : Int32 := 0
  burnable : Bool := false
  transferable : Bool := false
  sellable : Bool := false
  agreementIds : List String := []
  metadata : Option (Metadata Struct) := none

structure CreateItemAsyncResponse where
  gameItemTypeId : String := ""
  trackingId : String := ""
  itemTypeState : WireEnum .itemTypeState := default
  deriving DecidableEq

structure FreezeItemTypeRequest where
  environmentId : String := ""
  gameItemTypeId : String := ""
  deriving DecidableEq

structure FreezeItemTypeAsyncResponse where
  trackingId : String := ""
  itemTypeState : WireEnum .itemTypeState := default
  deriving DecidableEq

structure UpdateItemTypeMetadataPayload (Struct : Type) where
  environmentId : String := ""
  gameItemTypeId : String := ""
  metadata : Option (Metadata Struct) := none

/-! ## Players -/

structure IVIPlayer where
  playerId : String := ""
  email : String := ""
  displayName : String := ""
  sidechainAccountName : String := ""
  trackingId : String := ""
  createdTimestamp : Int64 := 0
  playerState : WireEnum .playerState := default
  deriving DecidableEq

structure IVIPlayers where
  iviPlayers : List IVIPlayer := []
  deriving DecidableEq

structure LinkPlayerRequest where
  environmentId : String := ""
  playerId : String := ""
  email : String := ""
  displayName : String := ""
  requestIp : String := ""
  deriving DecidableEq

structure LinkPlayerAsyncResponse where
  trackingId : String := ""
  playerState : WireEnum .playerState := default
  deriving DecidableEq

structure GetPlayerRequest where
  environmentId : String := ""
  playerId : String := ""
  deriving DecidableEq

structure GetPlayersRequest where
  environmentId : String := ""
  createdTimestamp : Int64 := 0
  pageSize : Int32 := 0
  sortOrder : WireEnum .sortOrder := default
  deriving DecidableEq

/-! ## Orders -/

structure Address where
  firstName : String := ""
  lastName : String := ""
  addressLine1 : String := ""
  addressLine2 : String := ""
  city : String := ""
  state : String := ""
  postalCode : String := ""
  countryName : String := ""
  countryIsoAlpha2 : String := ""
  deriving DecidableEq

structure ItemTypeOrder (Struct : Type) where
  gameInventoryIds : List String := []
  itemName : String := ""
  gameItemTypeId : String := ""
  amountPaid : String := ""
  currency : String := ""
  metadata : Option (Metadata Struct) := none

structure PurchasedItems (Struct : Type) where
  purchasedItems : List (ItemTypeOrder Struct) := []

structure BitpayOrderData (Struct : Type) where
  invoice : Option Struct := none

/-- The `oneof` of an order's payment provider data. -/
inductive PaymentProviderData (Struct : Type) where
  | notSet
  | bitpay (data : BitpayOrderData Struct)
  | other

structure Order (Struct : Type) where
  orderId : String := ""
  storeId : String := ""
  buyerPlayerId : String := ""
  tax : String := ""
  total : String := ""
  address : Option Address := none
  metadata : Option Struct := none
  createdBy : String := ""
  requestIp : String := ""
  environmentId : String := ""
  createdTimestamp : Int64 := 0
  paymentProviderData : Option (PaymentProviderData Struct) := none
  paymentProviderId : WireEnum .paymentProviderId := default
  orderStatus : WireEnum .orderState := default

structure GetOrderRequest where
  environmentId : String := ""
  orderId : String := ""
  deriving DecidableEq

structure CreateOrderRequest (Struct : Type) where
  environmentId : String := ""
  storeId : String := ""
  buyerPlayerId : String := ""
  subTotal : String := ""
  address : Option Address := none
  paymentProviderId : WireEnum .paymentProviderId := default
  metadata : Option Struct := none
  requestIp : String := ""
  purchasedItems : Option (PurchasedItems Struct) := none

/-- The `oneof` of a finalize request's payment data. -/
inductive PaymentRequestProto where
  | notSet
  | braintree (clientToken paymentNonce : String)
  | bitpay (invoiceId : String)
  deriving DecidableEq

structure FinalizeOrderRequest where
  environmentId : String := ""
  orderId : String := ""
  fraudSessionId : String := ""
  paymentRequestData : Option PaymentRequestProto := none
  deriving DecidableEq

structure FraudResult where
  fraudScore : Int32 := 0
  fraudOmniscore : String := ""
  deriving DecidableEq

structure FinalizeOrderAsyncResponse where
  paymentInstrumentType : String := ""
  transactionId : String := ""
  processorResponse : String := ""
  fraudScore : Option FraudResult := none
  orderStatus : WireEnum .orderState := default
  success : Bool := false
  deriving DecidableEq

/-! ## Payment tokens -/

/-- The `oneof` of a token request. -/
inductive TokenRequestProvider where
  | notSet
  | braintree (playerId : String)
  deriving DecidableEq

structure CreateTokenRequest where
  environmentId : String := ""
  provider : TokenRequestProvider := .notSet
  deriving DecidableEq

/-- The `oneof` of a token; `other` is a provider this SDK does not know. -/
inductive Token where
  | notSet
  | braintree (token : String)
  | other (providerCase : Nat)
  deriving DecidableEq

/-! ## Streams -/

structure Subscribe where
  environmentId : String := ""
  deriving DecidableEq

structure ItemStatusUpdate where
  gameInventoryId : String := ""
  gameItemTypeId : String := ""
  playerId : String := ""
  metadataUri : String := ""
  trackingId : String := ""
  dgoodsId : Int64 := 0
  serialNumber : Int32 := 0
  itemState : WireEnum .itemState := default
  deriving DecidableEq, Inhabited

structure ItemStatusConfirmRequest where
  environmentId : String := ""
  gameInventoryId : String := ""
  trackingId : String := ""
  itemState : WireEnum .itemState := default
  deriving DecidableEq

structure ItemTypeStatusUpdate where
  gameItemTypeId : String := ""
  baseUri : String := ""
  trackingId : String := ""
  currentSupply : Int32 := 0
  issuedSupply : Int32 := 0
  issueTimeSpan : Int32 := 0
  itemTypeState : WireEnum .itemTypeState := default
  deriving DecidableEq, Inhabited

structure ItemTypeStatusConfirmRequest where
  environmentId : String := ""
  gameItemTypeId : String := ""
  trackingId : String := ""
  itemTypeState : WireEnum .itemTypeState := default
  deriving DecidableEq

structure OrderStatusUpdate where
  orderId : String := ""
  orderState : WireEnum .orderState := default
  deriving DecidableEq, Inhabited

structure OrderStatusConfirmRequest where
  environmentId : String := ""
  orderId : String := ""
  orderState : WireEnum .orderState := default
  deriving DecidableEq

structure PlayerStatusUpdate where
  playerId : String := ""
  trackingId : String := ""
  playerState : WireEnum .playerState := default
  deriving DecidableEq, Inhabited

structure PlayerStatusConfirmRequest where
  environmentId : String := ""
  playerId : String := ""
  trackingId : String := ""
  playerState : WireEnum .playerState := default
  deriving DecidableEq

/-! ## Handing a request to a stub -/

/-- One RPC of the five unary services together with the request handed to the
stub. `Stub::X` and `Stub::AsyncX` start the same RPC. -/
inductive RpcCall (Struct : Type) where
  | issueItem (request : IssueItemRequest Struct)
  | transferItem (request : TransferItemRequest)
  | burnItem (request : BurnItemRequest)
  | getItem (request : GetItemRequest)
  | getItems (request : GetItemsRequest)
  | updateItemMetadata (request : UpdateItemMetadataRequest Struct)
  | getItemTypes (request : GetItemTypesRequest)
  | createItemType (request : CreateItemTypeRequest Struct)
  | freezeItemType (request : FreezeItemTypeRequest)
  | updateItemTypeMetadata (request : UpdateItemTypeMetadataPayload Struct)
  | linkPlayer (request : LinkPlayerRequest)
  | getPlayer (request : GetPlayerRequest)
  | getPlayers (request : GetPlayersRequest)
  | getOrder (request : GetOrderRequest)
  | createOrder (request : CreateOrderRequest Struct)
  | finalizeOrder (request : FinalizeOrderRequest)
  | generateClientToken (request : CreateTokenRequest)

def RpcCall.environmentId : RpcCall Struct → String
  | .issueItem request => request.environmentId
  | .transferItem request => request.environmentId
  | .burnItem request => request.environmentId
  | .getItem request => request.environmentId
  | .getItems request => request.environmentId
  | .updateItemMetadata request => request.environmentId
  | .getItemTypes request => request.environmentId
  | .createItemType request => request.environmentId
  | .freezeItemType request => request.environmentId
  | .updateItemTypeMetadata request => request.environmentId
  | .linkPlayer request => request.environmentId
  | .getPlayer request => request.environmentId
  | .getPlayers request => request.environmentId
  | .getOrder request => request.environmentId
  | .createOrder request => request.environmentId
  | .finalizeOrder request => request.environmentId
  | .generateClientToken request => request.environmentId

/-- `request.set_environment_id`, which the call templates apply to every
request type. -/
class EnvironmentScoped (Request : Type) where
  setEnvironmentId : String → Request → Request

export EnvironmentScoped (setEnvironmentId)

instance : EnvironmentScoped (IssueItemRequest Struct) :=
  ⟨fun id request => { request with environmentId := id }⟩
instance : EnvironmentScoped TransferItemRequest :=
  ⟨fun id request => { request with environmentId := id }⟩
instance : EnvironmentScoped BurnItemRequest :=
  ⟨fun id request => { request with environmentId := id }⟩
instance : EnvironmentScoped GetItemRequest :=
  ⟨fun id request => { request with environmentId := id }⟩
instance : EnvironmentScoped GetItemsRequest :=
  ⟨fun id request => { request with environmentId := id }⟩
instance : EnvironmentScoped (UpdateItemMetadataRequest Struct) :=
  ⟨fun id request => { request with environmentId := id }⟩
instance : EnvironmentScoped GetItemTypesRequest :=
  ⟨fun id request => { request with environmentId := id }⟩
instance : EnvironmentScoped (CreateItemTypeRequest Struct) :=
  ⟨fun id request => { request with environmentId := id }⟩
instance : EnvironmentScoped FreezeItemTypeRequest :=
  ⟨fun id request => { request with environmentId := id }⟩
instance : EnvironmentScoped (UpdateItemTypeMetadataPayload Struct) :=
  ⟨fun id request => { request with environmentId := id }⟩
instance : EnvironmentScoped LinkPlayerRequest :=
  ⟨fun id request => { request with environmentId := id }⟩
instance : EnvironmentScoped GetPlayerRequest :=
  ⟨fun id request => { request with environmentId := id }⟩
instance : EnvironmentScoped GetPlayersRequest :=
  ⟨fun id request => { request with environmentId := id }⟩
instance : EnvironmentScoped GetOrderRequest :=
  ⟨fun id request => { request with environmentId := id }⟩
instance : EnvironmentScoped (CreateOrderRequest Struct) :=
  ⟨fun id request => { request with environmentId := id }⟩
instance : EnvironmentScoped FinalizeOrderRequest :=
  ⟨fun id request => { request with environmentId := id }⟩
instance : EnvironmentScoped CreateTokenRequest :=
  ⟨fun id request => { request with environmentId := id }⟩
instance : EnvironmentScoped ItemStatusConfirmRequest :=
  ⟨fun id request => { request with environmentId := id }⟩
instance : EnvironmentScoped ItemTypeStatusConfirmRequest :=
  ⟨fun id request => { request with environmentId := id }⟩
instance : EnvironmentScoped OrderStatusConfirmRequest :=
  ⟨fun id request => { request with environmentId := id }⟩
instance : EnvironmentScoped PlayerStatusConfirmRequest :=
  ⟨fun id request => { request with environmentId := id }⟩

end IviSdk.Messages
