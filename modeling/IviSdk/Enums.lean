import Mathlib.Init

/-!
`ivi-enum.h`. Every SDK enum is a `char`-sized copy of an open proto3 enum and
`IVI_DEFINE_ECAST` generates the same pair of casts for each of them, so the
enums are one family indexed by `EnumName`. A cast is a `static_cast`: to the
SDK it keeps the low eight bits, back to the wire it extends the sign, `char`
being signed on the toolchains the SDK is tested with.
-/

namespace IviSdk.Enums

inductive EnumName where
  | finalized
  | itemState
  | itemTypeState
  | orderState
  | paymentProviderId
  | playerState
  | sortOrder
  deriving DecidableEq

/-- The protobuf enum: an open `int`. -/
structure WireEnum (name : EnumName) where
  value : Int32
  deriving DecidableEq, Inhabited

/-- The SDK enum class over `char`. -/
structure SdkEnum (name : EnumName) where
  value : Int8
  deriving DecidableEq, Inhabited

variable {name : EnumName}

def eCast (value : WireEnum name) : SdkEnum name := ⟨value.value.toInt8⟩

def eCastToWire (value : SdkEnum name) : WireEnum name := ⟨value.value.toInt32⟩

abbrev Finalized := SdkEnum .finalized
abbrev ItemState := SdkEnum .itemState
abbrev ItemTypeState := SdkEnum .itemTypeState
abbrev OrderState := SdkEnum .orderState
abbrev PaymentProviderId := SdkEnum .paymentProviderId
abbrev PlayerState := SdkEnum .playerState
abbrev SortOrder := SdkEnum .sortOrder

def braintree : PaymentProviderId := ⟨0⟩

/-- `PaymentProviderId_INT_MAX_SENTINEL_DO_NOT_USE_`. -/
def intMaxSentinel : WireEnum .paymentProviderId := ⟨2147483647⟩

/-- An SDK value survives the trip to the wire and back. -/
@[simp] theorem e_cast_to_wire (value : SdkEnum name) : eCast (eCastToWire value) = value := by
  simp [eCast, eCastToWire]

end IviSdk.Enums
