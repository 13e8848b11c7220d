import ScriptOracle.Proofs.Script.Heap
import ScriptOracle.Proofs.Script.Units
import ScriptOracle.Script.Native

/-!
# Texts that are encoded

A script gets the UTF-8 form of a text as a new byte array, and no text is refused. Whole texts are
recovered from it. A half that stands alone has no UTF-8 form; what is given for it is that of the six
characters which write it out, so that it is taken for them.
-/

namespace ScriptOracle.Script

/-- A value is a byte array that holds these bytes. -/
def Heap.HoldsBytes (heap : Heap) (value : Value) (bytes : Bytes) : Prop :=
  ∃ ref, value = .object ref ∧ (heap.get ref).kind = .bytes bytes.toArray

theorem Heap.holdsBytes_allocBytes (heap : Heap) (bytes : Bytes) :
    (heap.allocBytes bytes).1.HoldsBytes (heap.allocBytes bytes).2 bytes :=
  ⟨_, rfl, congrArg Object.kind (get_alloc heap _)⟩

def encodedText (units : Units) : Bytes := Text.utf8 (Units.toText units)

/-- The text that UTF-8 writes. -/
def decodedText? (bytes : Bytes) : Option Units := (Text.ofUtf8? bytes).map Units.ofText

theorem encode_text (units : Units) (rest : List Value) :
    Capability.encode .text (.text units :: rest) = Modules.newBytes (encodedText units) := rfl

variable {units other : Units}

theorem decodedText?_encodedText (units : Units) :
    decodedText? (encodedText units) = some (Units.ofText (Units.toText units)) := by
  rw [decodedText?, encodedText, Text.ofUtf8?_utf8, Option.map_some]

theorem encodedText_ofText (text : String) : encodedText (Units.ofText text) = Text.utf8 text := by
  rw [encodedText, Units.toText_ofText]

theorem encodedText_eq_iff :
    encodedText other = encodedText units ↔ Units.toChars other = Units.toChars units := by
  constructor
  · intro same
    have read := congrArg Text.ofUtf8? same
    rw [encodedText, encodedText, Text.ofUtf8?_utf8, Text.ofUtf8?_utf8] at read
    have chars := congrArg String.toList (Option.some.inj read)
    rwa [Units.toText, Units.toText, String.toList_ofList, String.toList_ofList] at chars
  · intro same
    rw [encodedText, encodedText, Units.toText, Units.toText, same]

/-- No text is refused, and exactly the whole ones are recovered from their bytes, so that two whole texts
have different bytes. A text has bytes of its own if it is whole and writes out no half. -/
theorem texts_told_apart (units : Units) :
    (∀ this rest heap, ∃ grown value, grown.HoldsBytes value (encodedText units) ∧
      ∀ after, (Native.encode .text).call this (.text units :: rest) heap after =
        after grown (.ok value)) ∧
    (decodedText? (encodedText units) = some units ↔ units.Whole) ∧
    (∀ other : Units, units.Whole → other.Whole → encodedText other = encodedText units →
      other = units) ∧
    ((∀ other, encodedText other = encodedText units → other = units) ↔
      units.Whole ∧ ¬Units.WritesHalf (Units.toChars units)) := by
  have recovered : ∀ other : Units, decodedText? (encodedText other) = some other ↔ other.Whole := by
    intro other
    rw [decodedText?_encodedText, Option.some.injEq, Units.ofText_toText_iff]
  refine ⟨fun this rest heap => ?given, recovered units, ?whole, ?unique⟩
  case given =>
    exact ⟨_, _, heap.holdsBytes_allocBytes (encodedText units), fun after => rfl⟩
  case whole =>
    intro other whole wholeToo same
    have read := (recovered other).2 wholeToo
    rw [same, (recovered units).2 whole] at read
    exact (Option.some.inj read).symm
  case unique =>
    simp only [encodedText_eq_iff]
    exact Units.toChars_unique_iff

/-- A character that takes two units, and the beginning of what writes out a half. -/
theorem texts_told_apart_pair :
    let units : Units := [0xD83D, 0xDE00, 0x5C, 0x75]
    decodedText? (encodedText units) = some units ∧
      ∀ other, encodedText other = encodedText units → other = units := by
  intro units
  obtain ⟨-, recovered, -, unique⟩ := texts_told_apart units
  have whole : units.Whole := .pair (by decide) (by decide) (.single (by decide) (.single (by decide) .nil))
  refine ⟨recovered.2 whole, unique.2 ⟨whole, ?_⟩⟩
  rintro ⟨half, -, inside⟩
  exact absurd inside.length_le (by decide : ¬6 ≤ 3)

/-- A half that stands alone and the six characters that write it out are encoded alike. -/
theorem half_encoded_as_written :
    let half : Units := [0xD800]
    let written : Units := Units.ofText "\\uD800"
    half ≠ written ∧ encodedText half = encodedText written ∧
      Capability.encode .text [.text half] = Capability.encode .text [.text written] := by
  intro half written
  have same : encodedText half = encodedText written := by
    rw [encodedText_ofText]
    rfl
  refine ⟨by decide, same, ?_⟩
  rw [encode_text, encode_text, same]

end ScriptOracle.Script
