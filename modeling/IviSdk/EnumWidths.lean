import IviSdk.ModelRoundTrips
import IviSdk.ServiceClients
import IviSdk.UpdateOrder

/-!
State values on their way through the SDK. A proto3 enum field holds any 32-bit
integer, and the SDK keeps its low eight bits. A value survives the trip there
and back exactly when it fits into a `char`, and with it everything the SDK says
about states: what the converters tell apart, and what the automatic
confirmation reports to the server.
-/

namespace IviSdk.EnumWidths

open Checks Enums Messages Models UnaryCalls ServiceClients CompletionQueues Streams ManagerWorld
open Interaction StreamClients ClientManager CallbackRules PollRules UpdateOrder ModelRoundTrips

variable {Struct Message Value : Type} {name : EnumName}

/-- The value can be stored in a `char`. -/
def FitsChar (wire : Int32) : Prop := -128 ≤ wire.toInt ∧ wire.toInt ≤ 127

theorem narrow_widen_iff (wire : Int32) : wire.toInt8.toInt32 = wire ↔ FitsChar wire := by
  rw [← Int32.toInt_inj, Int8.toInt_toInt32, Int32.toInt_toInt8, Int.bmod_eq_iff (by decide)]
  unfold FitsChar
  omega

theorem e_cast_round_trip_iff (wire : WireEnum name) :
    eCastToWire (eCast wire) = wire ↔ FitsChar wire.value := by
  rw [← narrow_widen_iff]
  constructor
  · intro same
    exact congrArg WireEnum.value same
  · intro same
    exact congrArg WireEnum.mk same

/-- Among values that fit, the cast keeps different ones apart. -/
theorem e_cast_apart {one other : WireEnum name} (fits : FitsChar one.value)
    (otherFits : FitsChar other.value) (same : eCast one = eCast other) : one = other := by
  rw [← (e_cast_round_trip_iff one).mpr fits, same]
  exact (e_cast_round_trip_iff other).mpr otherFits

/-! ## Converters and parsers -/

/-- Messages whose states were sent by the server and decode to one SDK state
have one state. -/
def Distinguishes (sent : Int32 → Prop) (read : Message → Checked Value)
    (wire : Message → WireEnum name) (state : Value → SdkEnum name) : Prop :=
  ∀ one other value otherValue, sent (wire one).value → sent (wire other).value →
    read one = .ok value → read other = .ok otherValue → state value = state otherValue →
    wire one = wire other

/-- The decoder takes the state through `ECast`. -/
def CastsState (read : Message → Checked Value) (wire : Message → WireEnum name)
    (state : Value → SdkEnum name) : Prop :=
  ∀ message value, read message = .ok value → state value = eCast (wire message)

theorem CastsState.distinguishes {sent : Int32 → Prop} (fits : ∀ wire, sent wire → FitsChar wire)
    {read : Message → Checked Value} {wire : Message → WireEnum name}
    {state : Value → SdkEnum name} (casts : CastsState read wire state) :
    Distinguishes sent read wire state := by
  intro one other value otherValue arrives otherArrives decoded otherDecoded same
  rw [casts one value decoded, casts other otherValue otherDecoded] at same
  exact e_cast_apart (fits _ arrives) (fits _ otherArrives) same

/-- A decoder that runs a checked step first and then fills in its fields. -/
theorem casts_after {Part : Type} {first : Message → Checked Part}
    {fill : Message → Part → Value} {wire : Message → WireEnum name}
    {state : Value → SdkEnum name}
    (filled : ∀ message part, state (fill message part) = eCast (wire message)) :
    CastsState (fun message => first message >>= fun part => .ok (fill message part)) wire
      state := by
  intro message value decoded
  obtain ⟨part, _, decoded⟩ := ok_of_bind decoded
  cases decoded
  exact filled message part

theorem casts_plain {fill : Message → Value} {wire : Message → WireEnum name}
    {state : Value → SdkEnum name} (filled : ∀ message, state (fill message) = eCast (wire message)) :
    CastsState (fun message => .ok (fill message)) wire state := by
  intro message value decoded
  rw [Except.ok.injEq] at decoded
  rw [← decoded]
  exact filled message

section Casts
variable (build : Build) (json : JsonUtil Struct)

theorem item_casts : CastsState (IVIItem.fromProto build json) Item.itemState IVIItem.itemState :=
  casts_after fun _ _ => rfl

theorem item_type_casts : CastsState (IVIItemType.fromProto build json) ItemType.itemTypeState
    IVIItemType.itemTypeState :=
  casts_after fun _ _ => rfl

/-- The texts of an order are read first, its states do not depend on them. -/
theorem order_fields (order : Order Struct) (value : IVIOrder)
    (decoded : IVIOrder.fromProto build json order = .ok value) :
    value.orderStatus = eCast order.orderStatus ∧
      value.paymentProviderId = eCast order.paymentProviderId := by
  rw [order_from_proto_eq] at decoded
  obtain ⟨metadata, _, decoded⟩ := ok_of_bind decoded
  obtain ⟨bitpayInvoice, _, decoded⟩ := ok_of_bind decoded
  cases decoded
  exact ⟨rfl, rfl⟩

theorem order_status_casts :
    CastsState (IVIOrder.fromProto build json) Order.orderStatus IVIOrder.orderStatus :=
  fun order value decoded => (order_fields build json order value decoded).1

theorem payment_provider_casts : CastsState (IVIOrder.fromProto build json)
    Order.paymentProviderId IVIOrder.paymentProviderId :=
  fun order value decoded => (order_fields build json order value decoded).2

end Casts

/-! ## Stream messages and their confirmations -/

def messageState : (kind : StreamKind) → MessageT kind → Int32
  | .item => fun (message : ItemStatusUpdate) => message.itemState.value
  | .itemType => fun (message : ItemTypeStatusUpdate) => message.itemTypeState.value
  | .order => fun (message : OrderStatusUpdate) => message.orderState.value
  | .player => fun (message : PlayerStatusUpdate) => message.playerState.value

def parsedState : (kind : StreamKind) → ParsedMessageT kind → Int8
  | .item => fun (update : IVIItemStatusUpdate) => update.itemState.value
  | .itemType => fun (update : IVIItemTypeStatusUpdate) => update.itemTypeState.value
  | .order => fun (update : IVIOrderStatusUpdate) => update.orderState.value
  | .player => fun (update : IVIPlayerStatusUpdate) => update.playerState.value

def confirmedState : (kind : StreamKind) → ConfirmRequestT kind → Int32
  | .item => fun (request : ItemStatusConfirmRequest) => request.itemState.value
  | .itemType => fun (request : ItemTypeStatusConfirmRequest) => request.itemTypeState.value
  | .order => fun (request : OrderStatusConfirmRequest) => request.orderState.value
  | .player => fun (request : PlayerStatusConfirmRequest) => request.playerState.value

theorem parsed_state (kind : StreamKind) (message : MessageT kind) :
    parsedState kind (fromProto kind message) = (messageState kind message).toInt8 := by
  cases kind <;> rfl

theorem confirmed_state (env : Env) (kind : StreamKind) (message : MessageT kind) :
    confirmedState kind (confirmation env kind message) =
      (messageState kind message).toInt8.toInt32 := by
  cases kind <;> rfl

section Confirmation
variable {kind : StreamKind} {subscription : Nat} {message : MessageT kind}

/-- The log says that the callback returned and that the message was confirmed
right after. -/
def Confirms (env : Env) (kind : StreamKind) (subscription : Nat) (message : MessageT kind)
    (world : World) : Prop :=
  ∃ earlier later, world.log = later ++
    .update kind subscription (.confirmed (confirmation env kind message)) ::
      .update kind subscription .returned :: earlier

theorem Confirms.grow {env : Env} {world after : World}
    (confirms : Confirms env kind subscription message world)
    (grows : ∃ more, after.log = more ++ world.log) :
    Confirms env kind subscription message after := by
  obtain ⟨earlier, later, log⟩ := confirms
  obtain ⟨more, grown⟩ := grows
  exact ⟨earlier, more ++ later, by rw [grown, log, List.append_assoc]⟩

theorem read_next_grows (kind : StreamKind) (world : World) :
    wp (readNext kind) (fun _ after => ∃ more, after.log = more ++ world.log)
      (fun _ _ => True) world := by
  rw [readNext, wp_bind, wp_update, wp_through_reader]
  split
  · exact ⟨[_, _], rfl⟩
  · trivial

theorem process_next_confirms (env : Env) (received : StreamCompletion kind)
    (auto : env.configuration.autoconfirmStreamUpdates = true) (ok : received.ok = true)
    (world : World) (holds : InBuffer kind subscription received.message world) :
    wp (processNext env kind received)
      (fun _ => Confirms env kind subscription received.message) (fun _ _ => True) world := by
  simp only [processNext, ok, Bool.not_true, Bool.false_eq_true, ↓reduceIte, onCallback, wp_bind,
    wp_read, wp_update]
  have invoked : InBuffer kind subscription received.message
      (world.note (.update kind (world.state kind).subscription
        (.invoked (fromProto kind (world.state kind).updateResponse)))) :=
    ⟨holds.current, holds.buffer⟩
  have polite : anyManners.Follows received.context received.reaction :=
    any_manners_allow (.stream kind received)
  apply wp_partial (react_keeps polite (fun call _ => call_in_buffer env .nested call)
    (fun _ _ _ => trivial) _ invoked)
  intro _ after holds
  simp only [wp_only_if, auto, ↓reduceIte, sendConfirm, confirm, wp_bind, wp_read, wp_update,
    wp_call_unary_async]
  -- The confirmation is built from the buffer, and the read after it only adds to the log.
  have confirmed : Confirms env kind subscription received.message
      (allocate .confirm ((after.note (.update kind (after.state kind).subscription .returned)).note
        (.update kind (after.state kind).subscription
          (.confirmed (confirmation env kind (after.state kind).updateResponse))))) := by
    rw [holds.current, holds.buffer]
    exact ⟨after.log, [_], rfl⟩
  exact wp_partial (read_next_grows kind _) fun _ _ grows => confirmed.grow grows

/-- The delivery of a message to the current subscription fills its buffer. -/
theorem delivered_in_buffer (unary : Bool) (received : StreamCompletion kind)
    (slot : received.slot = .read) (ok : received.ok = true) (world : World)
    (current : received.subscription = (world.state kind).subscription) :
    InBuffer kind received.subscription received.message
      (world.deliver unary (.stream kind received)) := by
  let taken := (world.take (world.queueOf unary) (Completion.stream kind received).tag).note
    (.delivered unary (.stream kind received) world.streamShut world.unaryShut)
  have filled : world.deliver unary (.stream kind received) =
      (taken.setState kind ({ · with updateResponse := received.message })).note
        (.update kind received.subscription (.received received.message)) :=
    if_pos ⟨slot, ok, current⟩
  have same := set_state_same taken kind ({ · with updateResponse := received.message })
  rw [filled]
  constructor
  · exact (congrArg StreamState.subscription same).trans current.symm
  · exact congrArg StreamState.updateResponse same

theorem message_confirmed (runtime : Runtime) (received : StreamCompletion kind)
    (auto : runtime.configuration.autoconfirmStreamUpdates = true)
    (slot : received.slot = .read) (ok : received.ok = true) (world : World)
    (current : received.subscription = (world.state kind).subscription) :
    wp (processEvent runtime false (.stream kind received))
      (fun _ => Confirms runtime.toEnv kind received.subscription received.message)
      (fun _ _ => True) world := by
  rw [processEvent, wp_bind]
  refine wp_async_next runtime false (.stream kind received) trivial fun _ => ?_
  have inBuffer := delivered_in_buffer false received slot ok world current
  have same := inBuffer.current.symm
  simp only [dispatch, dispatchStream, wp_bind, wp_read, wp_ite, slot, wp_only_if,
    Bool.false_eq_true, ↓reduceIte]
  rw [if_neg (fun differs => differs same)]
  exact process_next_confirms runtime.toEnv received auto ok _ inBuffer

end Confirmation

/-! ## What survives -/

/-- No state among those the server sends is mistaken for another one. -/
structure StatesKept (runtime : Runtime) (json : JsonUtil Struct) (sent : Int32 → Prop) :
    Prop where
  cast : ∀ (name : EnumName) (wire : WireEnum name), sent wire.value →
    eCastToWire (eCast wire) = wire
  item : Distinguishes sent (IVIItem.fromProto runtime.build json) Item.itemState
    IVIItem.itemState
  itemType : Distinguishes sent (IVIItemType.fromProto runtime.build json) ItemType.itemTypeState
    IVIItemType.itemTypeState
  order : Distinguishes sent (IVIOrder.fromProto runtime.build json) Order.orderStatus
    IVIOrder.orderStatus
  paymentProvider : Distinguishes sent (IVIOrder.fromProto runtime.build json)
    Order.paymentProviderId IVIOrder.paymentProviderId
  finalized : Distinguishes sent parseFinalizeOrderResponse
    FinalizeOrderAsyncResponse.orderStatus IVIFinalizeOrderResponse.orderStatus
  player : Distinguishes sent parsePlayer Messages.IVIPlayer.playerState
    Models.IVIPlayer.playerState
  itemChange : ∀ id, Distinguishes sent (itemStateUpdateResponseParser id)
    ItemStartedResponse.itemState IVIItemStateChange.itemState
  itemTypeCreated : Distinguishes sent parseItemTypeStateUpdate
    CreateItemAsyncResponse.itemTypeState IVIItemTypeStateChange.itemTypeState
  itemTypeFrozen : ∀ id, Distinguishes sent (freezeItemTypeAsyncResponseParser id)
    FreezeItemTypeAsyncResponse.itemTypeState IVIItemTypeStateChange.itemTypeState
  playerLinked : ∀ id, Distinguishes sent (linkPlayerAsyncResponseParser id)
    LinkPlayerAsyncResponse.playerState IVIPlayerStatusUpdate.playerState
  updates : ∀ (kind : StreamKind) (one other : MessageT kind), sent (messageState kind one) →
    sent (messageState kind other) →
    parsedState kind (fromProto kind one) = parsedState kind (fromProto kind other) →
    messageState kind one = messageState kind other
  /-- After every message of a stream the log holds its confirmation, with the
  state of the message. -/
  confirmed : runtime.configuration.autoconfirmStreamUpdates = true →
    ∀ (kind : StreamKind) (received : StreamCompletion kind) (world after : World),
    received.slot = .read → received.ok = true →
    received.subscription = (world.state kind).subscription →
    processEvent runtime false (.stream kind received) world = .returned () after →
    sent (messageState kind received.message) →
    ∃ earlier later request, after.log = later ++
        .update kind received.subscription (.confirmed request) ::
          .update kind received.subscription .returned :: earlier ∧
      confirmedState kind request = messageState kind received.message

/-- It is so exactly when every state the server sends fits into a `char`. -/
theorem states_kept_iff (runtime : Runtime) (json : JsonUtil Struct) (sent : Int32 → Prop) :
    StatesKept runtime json sent ↔ ∀ wire, sent wire → FitsChar wire := by
  constructor
  · intro kept wire arrives
    exact (e_cast_round_trip_iff (⟨wire⟩ : WireEnum .itemState)).mp (kept.cast _ ⟨wire⟩ arrives)
  · intro fits
    have plain : ∀ {Message Value : Type} {name : EnumName} {fill : Message → Value}
        {wire : Message → WireEnum name} {state : Value → SdkEnum name},
        (∀ message, state (fill message) = eCast (wire message)) →
        Distinguishes sent (fun message => .ok (fill message)) wire state :=
      fun filled => (casts_plain filled).distinguishes fits
    exact {
      cast := fun _ wire arrives => (e_cast_round_trip_iff wire).mpr (fits _ arrives)
      item := (item_casts runtime.build json).distinguishes fits
      itemType := (item_type_casts runtime.build json).distinguishes fits
      order := (order_status_casts runtime.build json).distinguishes fits
      paymentProvider := (payment_provider_casts runtime.build json).distinguishes fits
      finalized := plain fun _ => rfl
      player := plain fun _ => rfl
      itemChange := fun _ => plain fun _ => rfl
      itemTypeCreated := plain fun _ => rfl
      itemTypeFrozen := fun _ => plain fun _ => rfl
      playerLinked := fun _ => plain fun _ => rfl
      updates := by
        intro kind one other arrives otherArrives same
        rw [parsed_state, parsed_state] at same
        rw [← (narrow_widen_iff _).mpr (fits _ arrives), same]
        exact (narrow_widen_iff _).mpr (fits _ otherArrives)
      confirmed := by
        intro auto kind received world after slot ok current processed arrives
        obtain ⟨earlier, later, log⟩ :=
          wp_returned (message_confirmed runtime received auto slot ok world current) processed
        refine ⟨earlier, later, _, log, ?_⟩
        rw [confirmed_state]
        exact (narrow_widen_iff _).mpr (fits _ arrives) }

/-- An item state of 256 reaches the application, and the server in the
confirmation, as the state 0. -/
theorem newer_state_mistaken :
    ¬ StatesKept (grpc defaultEnv) noStructs (fun _ => True) ∧
    fromProto .item ({ itemState := ⟨256⟩ } : ItemStatusUpdate) =
      fromProto .item ({ itemState := ⟨0⟩ } : ItemStatusUpdate) ∧
    confirmedState .item (confirmation defaultEnv .item
      ({ itemState := ⟨256⟩ } : ItemStatusUpdate)) = 0 := by
  refine ⟨fun kept => ?_, rfl, rfl⟩
  have same := kept.cast .itemState ⟨256⟩ trivial
  exact absurd same (by decide)

end IviSdk.EnumWidths
