import Mathlib.Init

/-!
Pairs of an encoder and a decoder that may both fail, over any errors, values
and messages. Encoding and decoding need not give a value back as it was: it
may come back in a normal form. What a decoder yields is expected to be normal
already, and then encoding it again loses nothing. A record that carries one
encoded part inherits both laws from the part.
-/

namespace IviSdk.FallibleCodecs

variable {Error Value Message Part PartMessage : Type}

structure Codec (Error Value Message : Type) where
  encode : Value → Except Error Message
  decode : Message → Except Error Value

namespace Codec

/-- A value of the domain comes back in its normal form. -/
def Normalises (codec : Codec Error Value Message) (domain : Value → Prop)
    (normal : Value → Value) : Prop :=
  ∀ value, domain value →
    ∃ message, codec.encode value = .ok message ∧ codec.decode message = .ok (normal value)

/-- Every message decodes, to a normal value of the domain. -/
def Settles (codec : Codec Error Value Message) (domain : Value → Prop)
    (normal : Value → Value) : Prop :=
  ∀ message, ∃ value, codec.decode message = .ok value ∧ domain value ∧ normal value = value

variable {codec : Codec Error Value Message} {domain : Value → Prop} {normal : Value → Value}

theorem Normalises.comes_back (law : codec.Normalises domain normal) {value : Value}
    (inside : domain value) : (codec.encode value).bind codec.decode = .ok (normal value) := by
  obtain ⟨message, encoded, decoded⟩ := law value inside
  rw [encoded]
  exact decoded

/-- Encoding what was decoded and decoding it again changes nothing. -/
theorem Settles.stable (settles : codec.Settles domain normal)
    (law : codec.Normalises domain normal) (message : Message) :
    ((codec.decode message).bind codec.encode).bind codec.decode = codec.decode message := by
  obtain ⟨value, decoded, inside, fixed⟩ := settles message
  have back := law.comes_back inside
  rw [fixed] at back
  rw [decoded]
  exact back

theorem Settles.decodes (settles : codec.Settles domain normal) (message : Message) :
    ∃ value, codec.decode message = .ok value := by
  obtain ⟨value, decoded, _, _⟩ := settles message
  exact ⟨value, decoded⟩

end Codec

/-! ## Records with one encoded part -/

/-- `whole` is a record with a field that goes through the codec `part`; its
other fields are copied. -/
structure Nesting (part : Codec Error Part PartMessage) (whole : Codec Error Value Message) where
  get : Value → Part
  set : Value → Part → Value
  fetch : Message → PartMessage
  encodes : ∀ value inner, part.encode (get value) = .ok inner →
    ∃ message, whole.encode value = .ok message ∧
      ∀ back, part.decode inner = .ok back → whole.decode message = .ok (set value back)
  decodes : ∀ message back, part.decode (fetch message) = .ok back →
    ∃ value, whole.decode message = .ok value ∧ get value = back ∧ set value back = value

namespace Nesting

variable {part : Codec Error Part PartMessage} {whole : Codec Error Value Message}
  {domain : Part → Prop} {normal : Part → Part}

theorem normalises (nesting : Nesting part whole) (law : part.Normalises domain normal) :
    whole.Normalises (fun value => domain (nesting.get value))
      (fun value => nesting.set value (normal (nesting.get value))) := by
  intro value inside
  obtain ⟨inner, encoded, decoded⟩ := law (nesting.get value) inside
  obtain ⟨message, whole_encoded, rebuilt⟩ := nesting.encodes value inner encoded
  exact ⟨message, whole_encoded, rebuilt (normal (nesting.get value)) decoded⟩

theorem settles (nesting : Nesting part whole) (law : part.Settles domain normal) :
    whole.Settles (fun value => domain (nesting.get value))
      (fun value => nesting.set value (normal (nesting.get value))) := by
  intro message
  obtain ⟨back, decoded, inside, fixed⟩ := law (nesting.fetch message)
  obtain ⟨value, whole_decoded, same, rebuilt⟩ := nesting.decodes message back decoded
  subst back
  refine ⟨value, whole_decoded, inside, ?_⟩
  change nesting.set value (normal (nesting.get value)) = value
  rw [fixed]
  exact rebuilt

end Nesting

end IviSdk.FallibleCodecs
