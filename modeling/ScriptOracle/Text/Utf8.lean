/-!
# Text as bytes

Byte strings are lists of octets. `utf8` writes text as bytes, `ofUtf8?` reads bytes back and
refuses anything that is not UTF-8, and `ofUtf8Lossy` puts U+FFFD for every maximal run of bytes
that starts a character and does not finish it. Reading what was written gives the text back.
-/

namespace ScriptOracle

abbrev Bytes := List UInt8

namespace Text

/-- The UTF-8 form of a text. -/
def utf8 (text : String) : Bytes := text.toUTF8.data.toList

/-- The text with this UTF-8 form, if there is one. -/
def ofUtf8? (bytes : Bytes) : Option String := String.fromUTF8? ⟨bytes.toArray⟩

@[simp] theorem ofUtf8?_utf8 (text : String) : ofUtf8? (utf8 text) = some text := by
  have shape : (⟨(utf8 text).toArray⟩ : ByteArray) = text.toByteArray := by simp [utf8]
  unfold ofUtf8? String.fromUTF8?
  rw [shape]
  simp only [dif_pos text.isValidUTF8]
  rfl

theorem utf8_of_ofUtf8? {bytes : Bytes} {text : String} (h : ofUtf8? bytes = some text) :
    utf8 text = bytes := by
  unfold ofUtf8? String.fromUTF8? at h
  split at h
  · cases h
    show (ByteArray.mk bytes.toArray).data.toList = bytes
    simp
  · cases h

/-- The number of bytes of the UTF-8 form. -/
def byteCount (text : String) : Nat := text.utf8ByteSize

theorem length_utf8 (text : String) : (utf8 text).length = byteCount text := by
  show text.toByteArray.data.toList.length = text.toByteArray.data.size
  exact Array.length_toList

/-- What the first byte of a character promises: the bounds of the second byte and how many bytes
follow it. -/
structure Lead where
  low : UInt8
  high : UInt8
  more : Nat

/-- The bits of a first byte that tell how many bytes follow it. -/
def Lead.mark (lead : Lead) : Nat :=
  match lead.more with
  | 0 => 0xC0
  | 1 => 0xE0
  | _ => 0xF0

/-- The rows of the table of well-formed byte sequences, for characters of two bytes and up. -/
def Lead.of? (first : UInt8) : Option Lead :=
  if 0xC2 ≤ first ∧ first ≤ 0xDF then some ⟨0x80, 0xBF, 0⟩
  else if first = 0xE0 then some ⟨0xA0, 0xBF, 1⟩
  else if first = 0xED then some ⟨0x80, 0x9F, 1⟩
  else if 0xE1 ≤ first ∧ first ≤ 0xEF then some ⟨0x80, 0xBF, 1⟩
  else if first = 0xF0 then some ⟨0x90, 0xBF, 2⟩
  else if 0xF1 ≤ first ∧ first ≤ 0xF3 then some ⟨0x80, 0xBF, 2⟩
  else if first = 0xF4 then some ⟨0x80, 0x8F, 2⟩
  else none

/-- The tail bytes at the front of `rest`, at most `count` of them, added to the code so far. -/
def tailBytes : Nat -> Nat -> Bytes -> Nat × Nat × Bytes
  | 0, code, rest => (0, code, rest)
  | count + 1, code, rest =>
    match rest with
    | [] => (count + 1, code, [])
    | byte :: rest' =>
      if 0x80 ≤ byte ∧ byte ≤ 0xBF then
        tailBytes count (code * 64 + (byte.toNat - 0x80)) rest'
      else (count + 1, code, byte :: rest')

theorem length_tailBytes (count code : Nat) (rest : Bytes) :
    (tailBytes count code rest).2.2.length ≤ rest.length := by
  induction count generalizing code rest with
  | zero => simp [tailBytes]
  | succ count ih =>
    cases rest with
    | nil => simp [tailBytes]
    | cons byte rest =>
      simp only [tailBytes]
      split
      · exact Nat.le_trans (ih _ _) (by simp)
      · simp

/-- One character, or U+FFFD for the longest start of one, and the bytes after it. -/
def nextLossy (first : UInt8) (rest : Bytes) : Char × Bytes :=
  if first < 0x80 then (Char.ofNat first.toNat, rest)
  else
    match Lead.of? first with
    | none => ('\uFFFD', rest)
    | some lead =>
      match rest with
      | [] => ('\uFFFD', [])
      | second :: rest' =>
        if lead.low ≤ second ∧ second ≤ lead.high then
          let tail := tailBytes lead.more
            ((first.toNat - lead.mark) * 64 + (second.toNat - 0x80)) rest'
          (if tail.1 = 0 then Char.ofNat tail.2.1 else '\uFFFD', tail.2.2)
        else ('\uFFFD', second :: rest')

theorem length_nextLossy (first : UInt8) (rest : Bytes) :
    (nextLossy first rest).2.length ≤ rest.length := by
  unfold nextLossy
  split
  · simp
  · split
    · simp
    · cases rest with
      | nil => simp
      | cons second rest =>
        simp only []
        split
        · exact Nat.le_succ_of_le (length_tailBytes _ _ _)
        · simp

/-- The characters of a byte string, with U+FFFD for what is no character. -/
def lossyChars (bytes : Bytes) : List Char :=
  match bytes with
  | [] => []
  | first :: rest => (nextLossy first rest).1 :: lossyChars (nextLossy first rest).2
termination_by bytes.length
decreasing_by exact Nat.lt_succ_of_le (length_nextLossy first rest)

/-- The text of a byte string, with U+FFFD for what is no character. -/
def ofUtf8Lossy (bytes : Bytes) : String :=
  match ofUtf8? bytes with
  | some text => text
  | none => String.ofList (lossyChars bytes)

@[simp] theorem ofUtf8Lossy_utf8 (text : String) : ofUtf8Lossy (utf8 text) = text := by
  simp [ofUtf8Lossy]

end Text

end ScriptOracle
