import IviSdk.FailedChecks

/-!
What a request carries. The arguments of an operation are read back from the
RPC its request was handed over with, each from the field it was put into. A
JSON text is sent as the object it parses to, so that object is the argument;
no metadata text stands for the empty object, and the metadata of an order for
an object that may be missing.
-/

namespace IviSdk.RequestContents

open Checks Enums Messages Models Results UnaryCalls ServiceClients EntryPoints
open ModelRoundTrips CallOutcomes FailedChecks

variable {Struct Answer Value Wire Argument : Type}

/-! ## Arguments -/

/-- The object a text is sent as. -/
def structOf (json : JsonUtil Struct) (text : String) : Struct :=
  if text = "" then json.emptyStruct else (json.jsonStringToMessage text).2

/-- The object of a text that is sent only when it is not empty. -/
def structOf? (json : JsonUtil Struct) (text : String) : Option Struct :=
  if text = "" then none else some (json.jsonStringToMessage text).2

structure MetadataArgument (Struct : Type) where
  name : String
  description : String
  image : String
  properties : Struct

structure UpdateArgument (Struct : Type) where
  gameInventoryId : String
  metadata : MetadataArgument Struct

structure PurchasedArgument (Struct : Type) where
  gameInventoryIds : List String
  itemName : String
  gameItemTypeId : String
  amountPaid : String
  currency : String
  metadata : MetadataArgument Struct

def metadataArgument (json : JsonUtil Struct) (metadata : IVIMetadata) :
    MetadataArgument Struct where
  name := metadata.name
  description := metadata.description
  image := metadata.image
  properties := structOf json metadata.properties

def updateArgument (json : JsonUtil Struct) (update : IVIMetadataUpdate) :
    UpdateArgument Struct where
  gameInventoryId := update.gameInventoryId
  metadata := metadataArgument json update.metadata

def purchasedArgument (json : JsonUtil Struct) (purchased : IVIPurchasedItems) :
    PurchasedArgument Struct where
  gameInventoryIds := purchased.gameInventoryIds
  itemName := purchased.itemName
  gameItemTypeId := purchased.gameItemTypeId
  amountPaid := purchased.amountPaid
  currency := purchased.currency
  metadata := metadataArgument json purchased.metadata

/-- An operation with its arguments. Overloads that only leave an argument out
are the overload that has it. -/
inductive Arguments (Struct : Type) where
  | issueItem (gameInventoryId playerId itemName gameItemTypeId amountPaid currency : String)
      (metadata : MetadataArgument Struct) (storeId orderId requestIp : String)
  | transferItem (gameInventoryId sourcePlayerId destPlayerId storeId : String)
  | burnItem (gameInventoryId : String)
  | getItem (gameInventoryId : String) (history : Bool)
  | getItems (createdTimestamp : Int64) (pageSize : Int32) (sortOrder : SortOrder)
      (finalized : Finalized)
  | updateItemMetadata (updates : List (UpdateArgument Struct))
  | getItemTypes (gameItemTypeIds : List String)
  | createItemType (gameItemTypeId tokenName category : String) (maxSupply issueTimeSpan : Int32)
      (burnable transferable sellable : Bool) (agreementIds : List String)
      (metadata : MetadataArgument Struct)
  | freezeItemType (gameItemTypeId : String)
  | updateItemTypeMetadata (gameItemTypeId : String) (metadata : MetadataArgument Struct)
  | linkPlayer (playerId email displayName requestIp : String)
  | getPlayer (playerId : String)
  | getPlayers (createdTimestamp : Int64) (pageSize : Int32) (sortOrder : SortOrder)
  | getOrder (orderId : String)
  | createPrimaryOrder (storeId buyerPlayerId subTotal : String) (address : IVIOrderAddress)
      (paymentProviderId : PaymentProviderId) (purchasedItems : List (PurchasedArgument Struct))
      (metadata : Option Struct) (requestIp : String)
  | finalizeBraintreeOrder (orderId clientToken paymentNonce fraudSessionId : String)
  | finalizeBitpayOrder (orderId invoiceId fraudSessionId : String)
  | getToken (id : PaymentProviderId) (playerId : String)

def Operation.arguments (json : JsonUtil Struct) : Operation → Arguments Struct
  | .issueItem inventory player name type paid currency metadata store order ip =>
      .issueItem inventory player name type paid currency (metadataArgument json metadata) store
        order ip
  | .transferItem inventory source dest store => .transferItem inventory source dest store
  | .burnItem inventory => .burnItem inventory
  | .getItem inventory history => .getItem inventory history
  | .getItemNoHistory inventory => .getItem inventory false
  | .getItems created size order finalized => .getItems created size order finalized
  | .updateItemMetadata inventory metadata =>
      .updateItemMetadata [⟨inventory, metadataArgument json metadata⟩]
  | .updateItemMetadataList updates => .updateItemMetadata (updates.map (updateArgument json))
  | .getItemType type => .getItemTypes [type]
  | .getItemTypes types => .getItemTypes types
  | .getAllItemTypes => .getItemTypes []
  | .createItemType type token category supply span burnable transferable sellable agreements
      metadata =>
      .createItemType type token category supply span burnable transferable sellable agreements
        (metadataArgument json metadata)
  | .freezeItemType type => .freezeItemType type
  | .updateItemTypeMetadata type metadata =>
      .updateItemTypeMetadata type (metadataArgument json metadata)
  | .linkPlayer player email name ip => .linkPlayer player email name ip
  | .getPlayer player => .getPlayer player
  | .getPlayers created size order => .getPlayers created size order
  | .getOrder order => .getOrder order
  | .createPrimaryOrder store buyer total address provider items metadata ip =>
      .createPrimaryOrder store buyer total address provider (items.map (purchasedArgument json))
        (structOf? json metadata) ip
  | .finalizeBraintreeOrder order token nonce fraud =>
      .finalizeBraintreeOrder order token nonce fraud
  | .finalizeBitpayOrder order invoice fraud => .finalizeBitpayOrder order invoice fraud
  | .getToken id player => .getToken id player

/-- Every operation but a token for another provider than Braintree. -/
def Operation.Supported : Operation → Prop
  | .getToken id _ => id = braintree
  | _ => True

/-! ## Reading a request -/

def readMetadata (metadata : Metadata Struct) : Option (MetadataArgument Struct) :=
  metadata.properties.map fun properties =>
    ⟨metadata.name, metadata.description, metadata.image, properties⟩

def readUpdate (update : UpdateItemMetadata Struct) : Option (UpdateArgument Struct) :=
  (update.metadata.bind readMetadata).map fun metadata => ⟨update.gameInventoryId, metadata⟩

def readPurchased (purchased : ItemTypeOrder Struct) : Option (PurchasedArgument Struct) :=
  (purchased.metadata.bind readMetadata).map fun metadata =>
    { gameInventoryIds := purchased.gameInventoryIds
      itemName := purchased.itemName
      gameItemTypeId := purchased.gameItemTypeId
      amountPaid := purchased.amountPaid
      currency := purchased.currency
      metadata := metadata }

def readCreateOrder (request : CreateOrderRequest Struct) : Option (Arguments Struct) := do
  let address ← request.address
  let purchased ← request.purchasedItems
  let items ← purchased.purchasedItems.mapM readPurchased
  some (.createPrimaryOrder request.storeId request.buyerPlayerId request.subTotal
    (IVIOrderAddress.fromProto address) (eCast request.paymentProviderId) items request.metadata
    request.requestIp)

def readFinalizeOrder (request : FinalizeOrderRequest) : Option (Arguments Struct) :=
  match request.paymentRequestData with
  | some (.braintree clientToken paymentNonce) =>
      some (.finalizeBraintreeOrder request.orderId clientToken paymentNonce
        request.fraudSessionId)
  | some (.bitpay invoiceId) =>
      some (.finalizeBitpayOrder request.orderId invoiceId request.fraudSessionId)
  | _ => none

/-- The operation a request was made for, with its arguments. -/
def readArguments : RpcCall Struct → Option (Arguments Struct)
  | .issueItem request =>
      (request.metadata.bind readMetadata).map fun metadata =>
        .issueItem request.gameInventoryId request.playerId request.itemName
          request.gameItemTypeId request.amountPaid request.currency metadata request.storeId
          request.orderId request.requestIp
  | .transferItem request =>
      some (.transferItem request.gameItemInventoryId request.sourcePlayerId
        request.destinationPlayerId request.storeId)
  | .burnItem request => some (.burnItem request.gameItemInventoryId)
  | .getItem request => some (.getItem request.gameInventoryId request.history)
  | .getItems request =>
      some (.getItems request.createdTimestamp request.pageSize (eCast request.sortOrder)
        (eCast request.finalized))
  | .updateItemMetadata request =>
      (request.updateItems.mapM readUpdate).map .updateItemMetadata
  | .getItemTypes request => some (.getItemTypes request.gameItemTypeIds)
  | .createItemType request =>
      (request.metadata.bind readMetadata).map fun metadata =>
        .createItemType request.gameItemTypeId request.tokenName request.category
          request.maxSupply request.issueTimeSpan request.burnable request.transferable
          request.sellable request.agreementIds metadata
  | .freezeItemType request => some (.freezeItemType request.gameItemTypeId)
  | .updateItemTypeMetadata request =>
      (request.metadata.bind readMetadata).map (.updateItemTypeMetadata request.gameItemTypeId)
  | .linkPlayer request =>
      some (.linkPlayer request.playerId request.email request.displayName request.requestIp)
  | .getPlayer request => some (.getPlayer request.playerId)
  | .getPlayers request =>
      some (.getPlayers request.createdTimestamp request.pageSize (eCast request.sortOrder))
  | .getOrder request => some (.getOrder request.orderId)
  | .createOrder request => readCreateOrder request
  | .finalizeOrder request => readFinalizeOrder request
  | .generateClientToken request =>
      match request.provider with
      | .braintree playerId => some (.getToken braintree playerId)
      | .notSet => none

/-! ## Values in messages -/

/-- What was put into a message is what is read from it. -/
def Carries (make : Value → Checked Wire) (read : Wire → Option Argument)
    (argument : Value → Argument) : Prop :=
  ∀ value wire, make value = .ok wire → read wire = some (argument value)

/-- A repeated field keeps every entry, in its place. -/
theorem Carries.mapM {make : Value → Checked Wire} {read : Wire → Option Argument}
    {argument : Value → Argument} (carried : Carries make read argument) :
    Carries (List.mapM make) (List.mapM read) (List.map argument) := by
  intro values
  induction values with
  | nil =>
      intro wires made
      cases made
      rfl
  | cons value rest ih =>
      intro wires made
      simp only [List.mapM_cons] at made
      obtain ⟨wire, first, made⟩ := ok_of_bind made
      obtain ⟨others, tail, made⟩ := ok_of_bind made
      cases made
      simp only [List.mapM_cons, carried value wire first, ih others tail, List.map_cons]
      rfl

section Values
variable {build : Build} {json : JsonUtil Struct}

theorem text_sent {text : String} {protoStruct : Struct}
    (made : jsonStringToGoogleStruct build json text = .ok protoStruct) :
    protoStruct = structOf json text := by
  unfold jsonStringToGoogleStruct at made
  unfold structOf
  by_cases empty : text = ""
  · simp only [empty, bne_self_eq_false, Bool.false_eq_true, ↓reduceIte,
      Except.ok.injEq] at made ⊢
    exact made.symm
  · rw [if_pos (by simp [empty])] at made
    rw [if_neg empty]
    obtain ⟨_, _, made⟩ := ok_of_bind made
    cases made
    rfl

theorem optional_text_sent {text : String} {field : Option Struct}
    (made : optionalStruct build json text = .ok field) : field = structOf? json text := by
  unfold optionalStruct at made
  unfold structOf?
  by_cases empty : text = ""
  · simp only [empty, bne_self_eq_false, Bool.false_eq_true, ↓reduceIte,
      Except.ok.injEq] at made ⊢
    exact made.symm
  · rw [if_pos (by simp [empty])] at made
    rw [if_neg empty]
    cases parsed : jsonStringToGoogleStruct build json text with
    | error stop => simp [parsed, Except.map] at made
    | ok protoStruct =>
        have sent := text_sent parsed
        rw [structOf, if_neg empty] at sent
        simp only [parsed, Except.map, Except.ok.injEq] at made
        rw [← made, sent]

theorem metadata_carried :
    Carries (IVIMetadata.toProto build json) readMetadata (metadataArgument json) := by
  intro metadata message made
  obtain ⟨properties, parsed, made⟩ := ok_of_bind made
  cases made
  rw [text_sent parsed]
  rfl

theorem update_carried :
    Carries (IVIMetadataUpdate.toProto build json) readUpdate (updateArgument json) := by
  intro update message made
  obtain ⟨metadata, nested, made⟩ := ok_of_bind made
  cases made
  simp only [readUpdate, Option.bind_some, metadata_carried _ _ nested]
  rfl

theorem purchased_carried :
    Carries (IVIPurchasedItems.toProto build json) readPurchased (purchasedArgument json) := by
  intro purchased message made
  obtain ⟨metadata, nested, made⟩ := ok_of_bind made
  cases made
  simp only [readPurchased, Option.bind_some, metadata_carried _ _ nested]
  rfl

end Values

/-! ## Arguments in requests -/

section Requests
variable {env : Env} {json : JsonUtil Struct}

theorem updates_carried (id : String) {updates : List IVIMetadataUpdate}
    {request : UpdateItemMetadataRequest Struct}
    (made : makeUpdateItemMetadataListRequest env.build json updates = .ok request) :
    readArguments (.updateItemMetadata (setEnvironmentId id request)) =
      some (.updateItemMetadata (updates.map (updateArgument json))) := by
  obtain ⟨items, converted, made⟩ := ok_of_bind made
  cases made
  simp only [readArguments, setEnvironmentId, Carries.mapM update_carried _ _ converted]
  rfl

theorem create_order_carried (id storeId buyerPlayerId subTotal : String)
    (address : IVIOrderAddress) (paymentProviderId : PaymentProviderId)
    (purchasedItems : List IVIPurchasedItems) (metadata requestIp : String)
    {request : CreateOrderRequest Struct}
    (made : makeCreateOrderRequest env.build json storeId buyerPlayerId subTotal address
      paymentProviderId purchasedItems metadata requestIp = .ok request) :
    readArguments (.createOrder (setEnvironmentId id request)) =
      some (.createPrimaryOrder storeId buyerPlayerId subTotal address paymentProviderId
        (purchasedItems.map (purchasedArgument json)) (structOf? json metadata) requestIp) := by
  rw [create_order_request_eq] at made
  obtain ⟨field, sent, made⟩ := ok_of_bind made
  obtain ⟨items, converted, made⟩ := ok_of_bind made
  cases made
  have read := Carries.mapM purchased_carried _ _ converted
  simp only [readArguments, readCreateOrder, setEnvironmentId, bind, Option.bind_some, read,
    optional_text_sent sent, e_cast_to_wire]
  rfl

theorem request_carries (op : Operation) (supported : Operation.Supported op) (id : String)
    (request : (op.plan env json).Request) (made : (op.plan env json).make = .ok request) :
    readArguments ((op.plan env json).call (setEnvironmentId id request)) =
      some (Operation.arguments json op) := by
  cases op with
  | issueItem =>
      obtain ⟨metadata, nested, made⟩ := ok_of_bind made
      cases made
      exact congrArg (Option.map _) (metadata_carried _ _ nested)
  | updateItemMetadata inventory metadata =>
      have list := (make_update_one env json inventory metadata).symm.trans made
      exact updates_carried id list
  | updateItemMetadataList updates => exact updates_carried id made
  | createItemType =>
      obtain ⟨metadata, nested, made⟩ := ok_of_bind made
      cases made
      exact congrArg (Option.map _) (metadata_carried _ _ nested)
  | updateItemTypeMetadata =>
      obtain ⟨metadata, nested, made⟩ := ok_of_bind made
      cases made
      exact congrArg (Option.map _) (metadata_carried _ _ nested)
  | createPrimaryOrder store buyer total address provider items metadata ip =>
      exact create_order_carried id store buyer total address provider items metadata ip made
  | getToken provider player =>
      obtain ⟨_, _, made⟩ := ok_of_bind made
      cases made
      cases supported
      rfl
  | getItems created size order finalized =>
      cases made
      change some (Arguments.getItems created size (eCast (eCastToWire order))
        (eCast (eCastToWire finalized))) = _
      rw [e_cast_to_wire, e_cast_to_wire]
      rfl
  | getPlayers created size order =>
      cases made
      change some (Arguments.getPlayers created size (eCast (eCastToWire order))) = _
      rw [e_cast_to_wire]
      rfl
  | _ =>
      cases made
      rfl

/-- The stub is handed the RPC by one of the operation's entry points, with or
without a callback. -/
inductive Hands (env : Env) (json : JsonUtil Struct) (op : Operation) (rpc : RpcCall Struct) :
    Prop where
  | sync (call : Call Struct (op.Response Struct) (IVIResultT op.Payload))
      (made : op.sync env json = .ok call) (handed : call.handed = rpc)
  | async {Answer : Type} (callback : Callback (IVIResultT op.Payload) Answer)
      (started : AsyncCall Struct (op.Response Struct) Answer)
      (made : op.async env json callback = .ok started) (handed : started.handed = rpc)

theorem hands_request {op : Operation} {rpc : RpcCall Struct} (hands : Hands env json op rpc) :
    ∃ request, (op.plan env json).make = .ok request ∧
      rpc = (op.plan env json).call
        (setEnvironmentId env.configuration.environmentId request) := by
  cases hands with
  | sync call made handed =>
      rw [sync_plan] at made
      obtain ⟨request, prepared, made⟩ := ok_of_bind made
      cases made
      exact ⟨request, prepared, handed.symm⟩
  | async callback started made handed =>
      obtain ⟨wrapped, _, same⟩ := async_wrapped env json op callback
      rw [same] at made
      obtain ⟨request, prepared, made⟩ := ok_of_bind made
      obtain ⟨_, _, made⟩ := ok_of_bind made
      cases made
      exact ⟨request, prepared, handed.symm⟩

theorem hands_carry {op : Operation} {rpc : RpcCall Struct} (supported : Operation.Supported op)
    (hands : Hands env json op rpc) : readArguments rpc = some (Operation.arguments json op) := by
  obtain ⟨request, prepared, same⟩ := hands_request hands
  rw [same]
  exact request_carries op supported _ request prepared

/-- In the build that exits nothing is handed over once a check failed. -/
theorem hands_checked {op : Operation} {rpc : RpcCall Struct} (hands : Hands env json op rpc)
    (exit : env.build.enableExitOnFailCheck = true) : ¬ Operation.CheckFails json op := by
  intro fails
  obtain ⟨request, prepared, _⟩ := hands_request hands
  rw [(make_stops env json op).exits exit fails] at prepared
  cases prepared

end Requests

/-! ## Every argument is carried -/

/-- What the requests of one build and one JSON library say. -/
structure RequestsTell (env : Env) (json : JsonUtil Struct) : Prop where
  recovered : ∀ op rpc, Operation.Supported op → Hands env json op rpc →
    readArguments rpc = some (Operation.arguments json op)
  /-- Different arguments, different requests, also across operations. -/
  distinct : ∀ first second firstRpc secondRpc,
    Operation.Supported first → Operation.Supported second →
    Hands env json first firstRpc → Hands env json second secondRpc →
    Operation.arguments json first ≠ Operation.arguments json second → firstRpc ≠ secondRpc
  /-- The objects compared are those of texts that parse, unless the build lets a
  text that does not parse pass. -/
  parsed : env.build.enableExitOnFailCheck = true → ∀ op rpc, Hands env json op rpc →
    ¬ Operation.CheckFails json op

theorem requests_tell (env : Env) (json : JsonUtil Struct) : RequestsTell env json where
  recovered _ _ supported hands := hands_carry supported hands
  distinct first second firstRpc secondRpc firstSupported secondSupported firstHands secondHands
      differ same := by
    have firstRead := hands_carry firstSupported firstHands
    have secondRead := hands_carry secondSupported secondHands
    rw [same, secondRead] at firstRead
    exact differ (Option.some.inj firstRead).symm
  parsed exit op rpc hands := hands_checked hands exit

end IviSdk.RequestContents
