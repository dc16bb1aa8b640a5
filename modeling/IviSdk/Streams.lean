import IviSdk.Models

/-!
What the four stream clients of `ivi-client.cpp` put in for the parameters of
`IVIStreamClientT`: the message of the stream, the value handed to the
application, and the request that confirms a message.
-/

namespace IviSdk.Streams

open Enums Messages Models

inductive StreamKind where
  | item
  | itemType
  | order
  | player
  deriving DecidableEq

/-- The order in which the manager declares, finishes and rebuilds its clients. -/
def StreamKind.all : List StreamKind := [.item, .itemType, .order, .player]

@[simp] theorem mem_all (kind : StreamKind) : kind ∈ StreamKind.all := by
  cases kind <;> decide

/-- The order visits each client once. -/
theorem all_once {earlier later : List StreamKind} {kind : StreamKind}
    (order : StreamKind.all = earlier ++ kind :: later) : kind ∉ earlier := by
  have once : (earlier ++ kind :: later).Nodup := order ▸ (by decide : StreamKind.all.Nodup)
  intro member
  exact (List.nodup_append.mp once).2.2 kind member kind List.mem_cons_self rfl

def MessageT : StreamKind → Type
  | .item => ItemStatusUpdate
  | .itemType => ItemTypeStatusUpdate
  | .order => OrderStatusUpdate
  | .player => PlayerStatusUpdate

def ParsedMessageT : StreamKind → Type
  | .item => IVIItemStatusUpdate
  | .itemType => IVIItemTypeStatusUpdate
  | .order => IVIOrderStatusUpdate
  | .player => IVIPlayerStatusUpdate

def ConfirmRequestT : StreamKind → Type
  | .item => ItemStatusConfirmRequest
  | .itemType => ItemTypeStatusConfirmRequest
  | .order => OrderStatusConfirmRequest
  | .player => PlayerStatusConfirmRequest

instance : (kind : StreamKind) → Inhabited (MessageT kind)
  | .item => inferInstanceAs (Inhabited ItemStatusUpdate)
  | .itemType => inferInstanceAs (Inhabited ItemTypeStatusUpdate)
  | .order => inferInstanceAs (Inhabited OrderStatusUpdate)
  | .player => inferInstanceAs (Inhabited PlayerStatusUpdate)

instance : (kind : StreamKind) → EnvironmentScoped (ConfirmRequestT kind)
  | .item => inferInstanceAs (EnvironmentScoped ItemStatusConfirmRequest)
  | .itemType => inferInstanceAs (EnvironmentScoped ItemTypeStatusConfirmRequest)
  | .order => inferInstanceAs (EnvironmentScoped OrderStatusConfirmRequest)
  | .player => inferInstanceAs (EnvironmentScoped PlayerStatusConfirmRequest)

def fromProto : (kind : StreamKind) → MessageT kind → ParsedMessageT kind
  | .item => IVIItemStatusUpdate.fromProto
  | .itemType => IVIItemTypeStatusUpdate.fromProto
  | .order => IVIOrderStatusUpdate.fromProto
  | .player => IVIPlayerStatusUpdate.fromProto

/-- The arguments of a stream client's `Confirm`. -/
inductive ConfirmArguments : StreamKind → Type where
  | item (gameInventoryId trackingId : String) (itemState : ItemState) : ConfirmArguments .item
  | itemType (gameItemTypeId trackingId : String) (itemTypeState : ItemTypeState) :
      ConfirmArguments .itemType
  | order (orderId : String) (orderState : OrderState) : ConfirmArguments .order
  | player (playerId trackingId : String) (playerState : PlayerState) : ConfirmArguments .player

/-- The `requestCreator` of `Confirm`. -/
def requestCreator : {kind : StreamKind} → ConfirmArguments kind → ConfirmRequestT kind
  | _, .item gameInventoryId trackingId itemState =>
      ({ gameInventoryId := gameInventoryId
         trackingId := trackingId
         itemState := eCastToWire itemState } : ItemStatusConfirmRequest)
  | _, .itemType gameItemTypeId trackingId itemTypeState =>
      ({ gameItemTypeId := gameItemTypeId
         trackingId := trackingId
         itemTypeState := eCastToWire itemTypeState } : ItemTypeStatusConfirmRequest)
  | _, .order orderId orderState =>
      ({ orderId := orderId
         orderState := eCastToWire orderState } : OrderStatusConfirmRequest)
  | _, .player playerId trackingId playerState =>
      ({ playerId := playerId
         trackingId := trackingId
         playerState := eCastToWire playerState } : PlayerStatusConfirmRequest)

/-- What `sendConfirm` passes to `Confirm` for the message in the buffer. -/
def confirmArguments : (kind : StreamKind) → MessageT kind → ConfirmArguments kind
  | .item => fun (response : ItemStatusUpdate) =>
      .item response.gameInventoryId response.trackingId (eCast response.itemState)
  | .itemType => fun (response : ItemTypeStatusUpdate) =>
      .itemType response.gameItemTypeId response.trackingId (eCast response.itemTypeState)
  | .order => fun (response : OrderStatusUpdate) =>
      .order response.orderId (eCast response.orderState)
  | .player => fun (response : PlayerStatusUpdate) =>
      .player response.playerId response.trackingId (eCast response.playerState)

end IviSdk.Streams
