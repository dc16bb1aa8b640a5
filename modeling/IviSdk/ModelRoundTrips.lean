import IviSdk.FallibleCodecs
import IviSdk.Models

/-!
The converters of `ivi-model.cpp` against each other. What the SDK decoded, it
encodes without loss. The other way round an SDK value comes back as it was,
but for one thing: a metadata properties text may be empty, is sent as the
empty `Struct` all the same, and comes back as the text of that `Struct`. An
order's two JSON texts are sent only when they are not empty.
-/

namespace IviSdk.ModelRoundTrips

open Checks Enums Messages Models FallibleCodecs

variable {Struct : Type}

/-! ## JSON texts -/

/-- What protobuf promises of its two JSON functions. -/
structure JsonLaws (json : JsonUtil Struct) : Prop where
  prints : ∀ protoStruct, (json.messageToJsonString protoStruct).1 = true
  notEmpty : ∀ protoStruct, (json.messageToJsonString protoStruct).2 ≠ ""
  parsesBack : ∀ protoStruct,
    json.jsonStringToMessage (json.messageToJsonString protoStruct).2 = (true, protoStruct)

/-- Printing the parse of the text gives it back. -/
def Canonical (json : JsonUtil Struct) (text : String) : Prop :=
  ∃ protoStruct, json.jsonStringToMessage text = (true, protoStruct) ∧
    json.messageToJsonString protoStruct = (true, text)

def EmptyOrCanonical (json : JsonUtil Struct) (text : String) : Prop :=
  text = "" ∨ Canonical json text

/-- The text with `emptyText` for an empty one. -/
def filled (emptyText text : String) : String := if text = "" then emptyText else text

/-- How the empty `Struct` prints. -/
def emptyTextOf (json : JsonUtil Struct) : String := (json.messageToJsonString json.emptyStruct).2

theorem filled_eq_iff {emptyText : String} (differs : emptyText ≠ "") (text : String) :
    filled emptyText text = text ↔ text ≠ "" := by
  unfold filled
  by_cases empty : text = ""
  · simp [empty, differs]
  · simp [empty]

section Texts
variable {build : Build} {json : JsonUtil Struct} {text : String} {protoStruct : Struct}

theorem print_ok (laws : JsonLaws json) (protoStruct : Struct) :
    googleStructToJsonString build json protoStruct =
      .ok (json.messageToJsonString protoStruct).2 := by
  unfold googleStructToJsonString
  simp only [laws.prints, check_true]
  rfl

theorem parse_ok (present : text ≠ "")
    (parsed : json.jsonStringToMessage text = (true, protoStruct)) :
    jsonStringToGoogleStruct build json text = .ok protoStruct := by
  unfold jsonStringToGoogleStruct
  rw [if_pos (by simp [present])]
  simp only [parsed, check_true]
  rfl

theorem parse_empty : jsonStringToGoogleStruct build json "" = .ok json.emptyStruct := by
  simp [jsonStringToGoogleStruct]

theorem printed_canonical (laws : JsonLaws json) (protoStruct : Struct) :
    Canonical json (json.messageToJsonString protoStruct).2 := by
  refine ⟨protoStruct, laws.parsesBack protoStruct, ?_⟩
  rw [← laws.prints protoStruct]

theorem Canonical.present (laws : JsonLaws json) (canonical : Canonical json text) :
    text ≠ "" := by
  obtain ⟨protoStruct, _, printed⟩ := canonical
  have some_text := laws.notEmpty protoStruct
  rwa [printed] at some_text

/-- A canonical text survives `JsonStringToGoogleStruct` and its inverse. -/
theorem Canonical.comes_back (laws : JsonLaws json) (canonical : Canonical json text) :
    ∃ protoStruct, jsonStringToGoogleStruct build json text = .ok protoStruct ∧
      googleStructToJsonString build json protoStruct = .ok text := by
  have present := canonical.present laws
  obtain ⟨protoStruct, parsed, printed⟩ := canonical
  refine ⟨protoStruct, parse_ok present parsed, ?_⟩
  rw [print_ok laws, printed]

end Texts

/-- The two JSON functions of the SDK. -/
def textCodec (build : Build) (json : JsonUtil Struct) : Codec Stop String Struct where
  encode := jsonStringToGoogleStruct build json
  decode := googleStructToJsonString build json

section Laws
variable (build : Build) {json : JsonUtil Struct} (laws : JsonLaws json)
include laws

theorem text_normalises :
    (textCodec build json).Normalises (EmptyOrCanonical json) (filled (emptyTextOf json)) := by
  intro text inside
  rcases inside with empty | canonical
  · rw [empty]
    exact ⟨json.emptyStruct, @parse_empty _ build json, print_ok laws json.emptyStruct⟩
  · obtain ⟨protoStruct, encoded, decoded⟩ := canonical.comes_back laws
    refine ⟨protoStruct, encoded, ?_⟩
    rw [filled, if_neg (canonical.present laws)]
    exact decoded

theorem text_settles :
    (textCodec build json).Settles (EmptyOrCanonical json) (filled (emptyTextOf json)) := by
  intro protoStruct
  refine ⟨(json.messageToJsonString protoStruct).2, print_ok laws protoStruct,
    .inr (printed_canonical laws protoStruct), ?_⟩
  rw [filled, if_neg (laws.notEmpty protoStruct)]

end Laws

/-- The JSON functions on two objects, the empty one and one with a flag set. -/
def flagStructs : JsonUtil Bool where
  emptyStruct := false
  messageToJsonString
    | false => (true, "{}")
    | true => (true, "\x7b\"rare\":true\x7d")
  jsonStringToMessage text :=
    if text = "{}" then (true, false)
    else if text = "\x7b\"rare\":true\x7d" then (true, true)
    else (false, false)

theorem flag_structs_laws : JsonLaws flagStructs where
  prints := by decide
  notEmpty := by decide
  parsesBack := by decide

/-! ## Records -/

def metadataCodec (build : Build) (json : JsonUtil Struct) :
    Codec Stop IVIMetadata (Metadata Struct) where
  encode := IVIMetadata.toProto build json
  decode := IVIMetadata.fromProto build json

def itemCodec (build : Build) (json : JsonUtil Struct) : Codec Stop IVIItem (Item Struct) where
  encode := IVIItem.toProto build json
  decode := IVIItem.fromProto build json

def itemTypeCodec (build : Build) (json : JsonUtil Struct) :
    Codec Stop IVIItemType (ItemType Struct) where
  encode := IVIItemType.toProto build json
  decode := IVIItemType.fromProto build json

def purchasedItemsCodec (build : Build) (json : JsonUtil Struct) :
    Codec Stop IVIPurchasedItems (ItemTypeOrder Struct) where
  encode := IVIPurchasedItems.toProto build json
  decode := IVIPurchasedItems.fromProto build json

def orderCodec (build : Build) (json : JsonUtil Struct) : Codec Stop IVIOrder (Order Struct) where
  encode := IVIOrder.toProto build json
  decode := IVIOrder.fromProto build json

def metadataNesting (build : Build) (json : JsonUtil Struct) :
    Nesting (textCodec build json) (metadataCodec build json) where
  get := IVIMetadata.properties
  set metadata properties := { metadata with properties := properties }
  fetch metadata := metadata.properties.getD json.emptyStruct
  encodes metadata protoStruct encoded := by
    have parsed : jsonStringToGoogleStruct build json metadata.properties = .ok protoStruct :=
      encoded
    refine ⟨_, by simp only [metadataCodec, IVIMetadata.toProto, parsed]; rfl, ?_⟩
    intro properties decoded
    have printed : googleStructToJsonString build json protoStruct = .ok properties := decoded
    simp only [metadataCodec, IVIMetadata.fromProto, Option.getD_some, printed]
    rfl
  decodes metadata properties decoded := by
    have printed : googleStructToJsonString build json
        (metadata.properties.getD json.emptyStruct) = .ok properties := decoded
    exact ⟨_, by simp only [metadataCodec, IVIMetadata.fromProto, printed]; rfl, rfl, rfl⟩

def itemNesting (build : Build) (json : JsonUtil Struct) :
    Nesting (metadataCodec build json) (itemCodec build json) where
  get := IVIItem.metadata
  set item metadata := { item with metadata := metadata }
  fetch item := item.metadata.getD default
  encodes item inner encoded := by
    have parsed : item.metadata.toProto build json = .ok inner := encoded
    refine ⟨_, by simp only [itemCodec, IVIItem.toProto, parsed]; rfl, ?_⟩
    intro metadata decoded
    have printed : IVIMetadata.fromProto build json inner = .ok metadata := decoded
    simp only [itemCodec, IVIItem.fromProto, Option.getD_some, printed, e_cast_to_wire]
    rfl
  decodes item metadata decoded := by
    have printed : IVIMetadata.fromProto build json (item.metadata.getD default) =
        .ok metadata := decoded
    exact ⟨_, by simp only [itemCodec, IVIItem.fromProto, printed]; rfl, rfl, rfl⟩

def itemTypeNesting (build : Build) (json : JsonUtil Struct) :
    Nesting (metadataCodec build json) (itemTypeCodec build json) where
  get := IVIItemType.metadata
  set itemType metadata := { itemType with metadata := metadata }
  fetch itemType := itemType.metadata.getD default
  encodes itemType inner encoded := by
    have parsed : itemType.metadata.toProto build json = .ok inner := encoded
    refine ⟨_, by simp only [itemTypeCodec, IVIItemType.toProto, parsed]; rfl, ?_⟩
    intro metadata decoded
    have printed : IVIMetadata.fromProto build json inner = .ok metadata := decoded
    simp only [itemTypeCodec, IVIItemType.fromProto, Option.getD_some, printed, e_cast_to_wire]
    rfl
  decodes itemType metadata decoded := by
    have printed : IVIMetadata.fromProto build json (itemType.metadata.getD default) =
        .ok metadata := decoded
    exact ⟨_, by simp only [itemTypeCodec, IVIItemType.fromProto, printed]; rfl, rfl, rfl⟩

def purchasedItemsNesting (build : Build) (json : JsonUtil Struct) :
    Nesting (metadataCodec build json) (purchasedItemsCodec build json) where
  get := IVIPurchasedItems.metadata
  set purchasedItems metadata := { purchasedItems with metadata := metadata }
  fetch purchasedItems := purchasedItems.metadata.getD default
  encodes purchasedItems inner encoded := by
    have parsed : purchasedItems.metadata.toProto build json = .ok inner := encoded
    refine ⟨_, by simp only [purchasedItemsCodec, IVIPurchasedItems.toProto, parsed]; rfl, ?_⟩
    intro metadata decoded
    have printed : IVIMetadata.fromProto build json inner = .ok metadata := decoded
    simp only [purchasedItemsCodec, IVIPurchasedItems.fromProto, Option.getD_some, printed]
    rfl
  decodes purchasedItems metadata decoded := by
    have printed : IVIMetadata.fromProto build json (purchasedItems.metadata.getD default) =
        .ok metadata := decoded
    exact ⟨_, by simp only [purchasedItemsCodec, IVIPurchasedItems.fromProto, printed]; rfl,
      rfl, rfl⟩

/-! ## Orders -/

/-- A text that is sent only when it is not empty. -/
def optionalStruct (build : Build) (json : JsonUtil Struct) (text : String) :
    Checked (Option Struct) :=
  if text != "" then (jsonStringToGoogleStruct build json text).map some else .ok none

def optionalText (build : Build) (json : JsonUtil Struct) : Option Struct → Checked String
  | some protoStruct => googleStructToJsonString build json protoStruct
  | none => .ok ""

def optionalCodec (build : Build) (json : JsonUtil Struct) :
    Codec Stop String (Option Struct) where
  encode := optionalStruct build json
  decode := optionalText build json

def bitpayInvoiceOf (json : JsonUtil Struct) (order : Order Struct) : Option Struct :=
  (bitpayOf order).map fun data => data.invoice.getD json.emptyStruct

def bitpayData (invoice : Struct) : PaymentProviderData Struct :=
  .bitpay { invoice := some invoice }

theorem order_to_proto_eq (build : Build) (json : JsonUtil Struct) (order : IVIOrder) :
    order.toProto build json =
      (optionalStruct build json order.metadata).bind fun metadata =>
      (optionalStruct build json order.bitpayInvoice).bind fun invoice =>
        .ok { orderId := order.orderId
              storeId := order.storeId
              buyerPlayerId := order.buyerPlayerId
              tax := order.tax
              total := order.total
              address := some order.address.toProto
              paymentProviderId := eCastToWire order.paymentProviderId
              metadata := metadata
              createdBy := order.createdBy
              requestIp := order.requestIp
              environmentId := order.environmentId
              orderStatus := eCastToWire order.orderStatus
              createdTimestamp := order.createdTimestamp
              paymentProviderData := invoice.map bitpayData } := by
  unfold IVIOrder.toProto optionalStruct
  generalize jsonStringToGoogleStruct build json order.metadata = metadata
  generalize jsonStringToGoogleStruct build json order.bitpayInvoice = invoice
  -- Both texts may be empty, and both parses may stop.
  cases order.metadata != "" <;> cases order.bitpayInvoice != "" <;> cases metadata <;>
    cases invoice <;> rfl

theorem order_from_proto_eq (build : Build) (json : JsonUtil Struct) (order : Order Struct) :
    IVIOrder.fromProto build json order =
      (optionalText build json order.metadata).bind fun metadata =>
      (optionalText build json (bitpayInvoiceOf json order)).bind fun bitpayInvoice =>
        .ok { orderId := order.orderId
              storeId := order.storeId
              buyerPlayerId := order.buyerPlayerId
              tax := order.tax
              total := order.total
              address := IVIOrderAddress.fromProto (order.address.getD {})
              metadata := metadata
              createdBy := order.createdBy
              requestIp := order.requestIp
              environmentId := order.environmentId
              createdTimestamp := order.createdTimestamp
              bitpayInvoice := bitpayInvoice
              paymentProviderId := eCast order.paymentProviderId
              orderStatus := eCast order.orderStatus } := by
  unfold IVIOrder.fromProto bitpayInvoiceOf
  cases order.metadata <;> cases bitpayOf order <;> rfl

theorem address_comes_back (address : IVIOrderAddress) :
    IVIOrderAddress.fromProto address.toProto = address := rfl

def orderTexts (json : JsonUtil Struct) (order : IVIOrder) : Prop :=
  EmptyOrCanonical json order.metadata ∧ EmptyOrCanonical json order.bitpayInvoice

section Orders
variable (build : Build) {json : JsonUtil Struct} (laws : JsonLaws json)
include laws

theorem optional_normalises :
    (optionalCodec build json).Normalises (EmptyOrCanonical json) id := by
  intro text inside
  rcases inside with empty | canonical
  · rw [empty]
    exact ⟨none, rfl, rfl⟩
  · have present := canonical.present laws
    obtain ⟨protoStruct, encoded, decoded⟩ := @Canonical.comes_back _ build _ _ laws canonical
    exact ⟨some protoStruct,
      by simp [optionalCodec, optionalStruct, present, encoded, Except.map], decoded⟩

theorem optional_settles : (optionalCodec build json).Settles (EmptyOrCanonical json) id := by
  intro field
  cases field with
  | none => exact ⟨"", rfl, .inl rfl, rfl⟩
  | some protoStruct =>
      exact ⟨_, print_ok laws protoStruct, .inr (printed_canonical laws protoStruct), rfl⟩

theorem order_normalises : (orderCodec build json).Normalises (orderTexts json) id := by
  rintro order ⟨metadata, invoice⟩
  obtain ⟨field, sent, printed⟩ := optional_normalises build laws order.metadata metadata
  obtain ⟨data, wrapped, unwrapped⟩ := optional_normalises build laws order.bitpayInvoice invoice
  have encoded := order_to_proto_eq build json order
  rw [show optionalStruct build json order.metadata = .ok field from sent,
    show optionalStruct build json order.bitpayInvoice = .ok data from wrapped] at encoded
  refine ⟨_, encoded, (order_from_proto_eq build json _).trans ?_⟩
  -- Provider data is there exactly when the invoice is, and carries it.
  have carried : ∀ data : Option Struct, ∀ order : Order Struct,
      order.paymentProviderData = data.map bitpayData → bitpayInvoiceOf json order = data := by
    intro data order same
    cases data <;> simp_all [bitpayInvoiceOf, bitpayOf, bitpayData]
  rw [carried data _ rfl]
  simp only [show optionalText build json field = .ok order.metadata from printed,
    show optionalText build json data = .ok order.bitpayInvoice from unwrapped,
    Option.getD_some, address_comes_back, e_cast_to_wire]
  rfl

/-- Whatever an order carries, its two texts are empty or printed by protobuf. -/
theorem order_settles : (orderCodec build json).Settles (orderTexts json) id := by
  intro order
  obtain ⟨metadata, printed, inside, _⟩ := optional_settles build laws order.metadata
  obtain ⟨invoice, unwrapped, invoiceInside, _⟩ :=
    optional_settles build laws (bitpayInvoiceOf json order)
  have decoded := order_from_proto_eq build json order
  rw [show optionalText build json order.metadata = .ok metadata from printed,
    show optionalText build json (bitpayInvoiceOf json order) = .ok invoice from unwrapped]
    at decoded
  exact ⟨_, decoded, ⟨inside, invoiceInside⟩, rfl⟩

end Orders

/-! ## The seven model types -/

theorem player_comes_back (player : Models.IVIPlayer) :
    Models.IVIPlayer.fromProto player.toProto = player := by
  simp [Models.IVIPlayer.fromProto, Models.IVIPlayer.toProto]

def IVIMetadata.filled (emptyText : String) (metadata : IVIMetadata) : IVIMetadata :=
  { metadata with properties := ModelRoundTrips.filled emptyText metadata.properties }

theorem metadata_filled_iff {emptyText : String} (differs : emptyText ≠ "")
    (metadata : IVIMetadata) :
    IVIMetadata.filled emptyText metadata = metadata ↔ metadata.properties ≠ "" := by
  rw [← filled_eq_iff differs]
  constructor
  · intro same
    exact congrArg IVIMetadata.properties same
  · intro same
    rw [IVIMetadata.filled, same]

section Types
variable (build : Build) {json : JsonUtil Struct} (laws : JsonLaws json)
include laws

theorem metadata_normalises : (metadataCodec build json).Normalises
    (fun metadata => EmptyOrCanonical json metadata.properties)
    (IVIMetadata.filled (emptyTextOf json)) :=
  (metadataNesting build json).normalises (text_normalises build laws)

theorem metadata_settles : (metadataCodec build json).Settles
    (fun metadata => EmptyOrCanonical json metadata.properties)
    (IVIMetadata.filled (emptyTextOf json)) :=
  (metadataNesting build json).settles (text_settles build laws)

/-- What the SDK decoded it encodes without loss, for every type with both
converters and every message. -/
theorem reencoding_loses_nothing :
    (∀ message : Metadata Struct,
      ((IVIMetadata.fromProto build json message).bind (IVIMetadata.toProto build json)).bind
          (IVIMetadata.fromProto build json) = IVIMetadata.fromProto build json message ∧
        ∃ metadata, IVIMetadata.fromProto build json message = .ok metadata) ∧
    (∀ message : Item Struct,
      ((IVIItem.fromProto build json message).bind (IVIItem.toProto build json)).bind
          (IVIItem.fromProto build json) = IVIItem.fromProto build json message ∧
        ∃ item, IVIItem.fromProto build json message = .ok item) ∧
    (∀ message : ItemType Struct,
      ((IVIItemType.fromProto build json message).bind (IVIItemType.toProto build json)).bind
          (IVIItemType.fromProto build json) = IVIItemType.fromProto build json message ∧
        ∃ itemType, IVIItemType.fromProto build json message = .ok itemType) ∧
    (∀ message : Address,
      IVIOrderAddress.fromProto (IVIOrderAddress.fromProto message).toProto =
        IVIOrderAddress.fromProto message) ∧
    (∀ message : ItemTypeOrder Struct,
      ((IVIPurchasedItems.fromProto build json message).bind
          (IVIPurchasedItems.toProto build json)).bind (IVIPurchasedItems.fromProto build json) =
          IVIPurchasedItems.fromProto build json message ∧
        ∃ purchasedItems, IVIPurchasedItems.fromProto build json message = .ok purchasedItems) ∧
    (∀ message : Order Struct,
      ((IVIOrder.fromProto build json message).bind (IVIOrder.toProto build json)).bind
          (IVIOrder.fromProto build json) = IVIOrder.fromProto build json message ∧
        ∃ order, IVIOrder.fromProto build json message = .ok order) ∧
    (∀ message : Messages.IVIPlayer,
      Models.IVIPlayer.fromProto (Models.IVIPlayer.fromProto message).toProto =
        Models.IVIPlayer.fromProto message) := by
  have metadata := metadata_normalises build laws
  have settled := metadata_settles build laws
  have item := (itemNesting build json).settles settled
  have itemType := (itemTypeNesting build json).settles settled
  have purchased := (purchasedItemsNesting build json).settles settled
  have order := order_settles build laws
  refine ⟨?_, ?_, ?_, ?_, ?_, ?_, ?_⟩
  · exact fun message => ⟨settled.stable metadata message, settled.decodes message⟩
  · intro message
    have law := (itemNesting build json).normalises metadata
    exact ⟨item.stable law message, item.decodes message⟩
  · intro message
    have law := (itemTypeNesting build json).normalises metadata
    exact ⟨itemType.stable law message, itemType.decodes message⟩
  · exact fun message => address_comes_back (IVIOrderAddress.fromProto message)
  · intro message
    have law := (purchasedItemsNesting build json).normalises metadata
    exact ⟨purchased.stable law message, purchased.decodes message⟩
  · exact fun message =>
      ⟨order.stable (order_normalises build laws) message, order.decodes message⟩
  · exact fun message => player_comes_back (Models.IVIPlayer.fromProto message)

/-- What the SDK encoded it decodes again: metadata with the text of the empty
`Struct` for an empty properties text, and everything else as it was. -/
theorem decoding_fills_empty_properties
    (emptyPrints : json.messageToJsonString json.emptyStruct = (true, "{}")) :
    (∀ metadata : IVIMetadata,
      IVIMetadata.filled "{}" metadata = metadata ↔ metadata.properties ≠ "") ∧
    (∀ metadata : IVIMetadata, EmptyOrCanonical json metadata.properties →
      (metadata.toProto build json).bind (IVIMetadata.fromProto build json) =
        .ok (IVIMetadata.filled "{}" metadata)) ∧
    (∀ item : IVIItem, EmptyOrCanonical json item.metadata.properties →
      (item.toProto build json).bind (IVIItem.fromProto build json) =
        .ok { item with metadata := IVIMetadata.filled "{}" item.metadata }) ∧
    (∀ itemType : IVIItemType, EmptyOrCanonical json itemType.metadata.properties →
      (itemType.toProto build json).bind (IVIItemType.fromProto build json) =
        .ok { itemType with metadata := IVIMetadata.filled "{}" itemType.metadata }) ∧
    (∀ address : IVIOrderAddress, IVIOrderAddress.fromProto address.toProto = address) ∧
    (∀ purchasedItems : IVIPurchasedItems,
      EmptyOrCanonical json purchasedItems.metadata.properties →
      (purchasedItems.toProto build json).bind (IVIPurchasedItems.fromProto build json) =
        .ok { purchasedItems with
          metadata := IVIMetadata.filled "{}" purchasedItems.metadata }) ∧
    (∀ order : IVIOrder, EmptyOrCanonical json order.metadata →
      EmptyOrCanonical json order.bitpayInvoice →
      (order.toProto build json).bind (IVIOrder.fromProto build json) = .ok order) ∧
    (∀ player : Models.IVIPlayer, Models.IVIPlayer.fromProto player.toProto = player) := by
  have emptied : emptyTextOf json = "{}" := congrArg Prod.snd emptyPrints
  have metadata := metadata_normalises build laws
  rw [emptied] at metadata
  refine ⟨metadata_filled_iff (by decide), ?_, ?_, ?_, address_comes_back, ?_, ?_,
    player_comes_back⟩
  · exact fun value inside => metadata.comes_back inside
  · exact fun value inside => ((itemNesting build json).normalises metadata).comes_back inside
  · exact fun value inside => ((itemTypeNesting build json).normalises metadata).comes_back inside
  · exact fun value inside =>
      ((purchasedItemsNesting build json).normalises metadata).comes_back inside
  · exact fun value first second => (order_normalises build laws).comes_back ⟨first, second⟩

end Types

/-- The text of the object with the flag. -/
def rareText : String := (flagStructs.messageToJsonString true).2

theorem rare_text_canonical : Canonical flagStructs rareText :=
  printed_canonical flag_structs_laws true

/-- A sword as the server tells of it. -/
def rareSword : Item Bool where
  gameInventoryId := "sword-1"
  gameItemTypeId := "sword"
  serialNumber := 7
  metadata := some { name := "Sword", properties := some true }
  updatedTimestamp := 1600000000

theorem reencoding_flag_structs :
    ((IVIItem.fromProto {} flagStructs rareSword).bind (IVIItem.toProto {} flagStructs)).bind
        (IVIItem.fromProto {} flagStructs) = IVIItem.fromProto {} flagStructs rareSword ∧
      (IVIItem.fromProto {} flagStructs rareSword).map (·.metadata.properties) = .ok rareText :=
  ⟨((reencoding_loses_nothing {} flag_structs_laws).2.1 rareSword).1, rfl⟩

/-- An item whose properties are set, and an order with metadata and no invoice. -/
def rareItem : IVIItem :=
  { (default : IVIItem) with
    gameInventoryId := "sword-1"
    metadata := { (default : IVIMetadata) with name := "Sword", properties := rareText } }

def rareOrder : IVIOrder :=
  { (default : IVIOrder) with orderId := "order-1", metadata := rareText }

theorem decoding_flag_structs :
    (rareItem.toProto {} flagStructs).bind (IVIItem.fromProto {} flagStructs) = .ok rareItem ∧
      (rareOrder.toProto {} flagStructs).bind (IVIOrder.fromProto {} flagStructs) =
        .ok rareOrder ∧
      ((default : IVIMetadata).toProto {} flagStructs).bind
        (IVIMetadata.fromProto {} flagStructs) =
          .ok { (default : IVIMetadata) with properties := "{}" } := by
  have laws := decoding_fills_empty_properties {} flag_structs_laws rfl
  have kept : { rareItem with metadata := IVIMetadata.filled "{}" rareItem.metadata } =
      rareItem := by decide
  have item := laws.2.2.1 rareItem (.inr rare_text_canonical)
  rw [kept] at item
  exact ⟨item, laws.2.2.2.2.2.2.1 rareOrder (.inr rare_text_canonical) (.inl rfl),
    laws.2.1 default (.inl rfl)⟩

/-- An empty properties text does not come back empty. -/
theorem empty_properties_do_not_come_back :
    ¬ ∀ metadata : IVIMetadata, EmptyOrCanonical flagStructs metadata.properties →
      (metadata.toProto {} flagStructs).bind (IVIMetadata.fromProto {} flagStructs) =
        .ok metadata := by
  intro same
  have back := same default (.inl rfl)
  have filled : ((default : IVIMetadata).toProto {} flagStructs).bind
      (IVIMetadata.fromProto {} flagStructs) =
        .ok { (default : IVIMetadata) with properties := "{}" } := rfl
  rw [filled, Except.ok.injEq] at back
  exact absurd (congrArg IVIMetadata.properties back) (by decide)

end IviSdk.ModelRoundTrips
