import ScriptOracle.Proofs.Text.Hexadecimal
import ScriptOracle.Url.Basic

/-!
# Reading forms back

Every byte of a name or a value is written as itself, as `+`, or as a percent sign and two digits, and
never with the marks that stand between names, values and pairs. A reader that splits at the marks, takes
`+` for a blank and the digits for their byte gets what was written. What stood in front of the pairs is
read as it was before, whatever it is, for a mark is put behind it.
-/

namespace ScriptOracle

namespace Percent

theorem decode_cons_of_ne {byte : UInt8} (other : byte ≠ 0x25) (rest : Bytes) :
    decode (byte :: rest) = byte :: decode rest := by
  match rest with
  | [] => rfl
  | [_] => rfl
  | _ :: _ :: _ => rw [decode, if_neg other]

theorem decode_mark {high low byte : UInt8} (first : value? high = some (byte.toNat / 16))
    (second : value? low = some (byte.toNat % 16)) (rest : Bytes) :
    decode (0x25 :: high :: low :: rest) = byte :: decode rest := by
  rw [decode, if_pos rfl, first, second]
  dsimp only
  rw [Nat.div_add_mod, UInt8.ofNat_toNat]

end Percent

namespace Form

/-! ## Bytes -/

/-- What a reader takes a byte for before it looks for percent signs. -/
def blanked (byte : UInt8) : UInt8 := if byte = 0x2B then 0x20 else byte

theorem decode_eq (bytes : Bytes) :
    decode bytes = Text.ofUtf8Lossy (Percent.decode (bytes.map blanked)) := rfl

def bytesOf (chars : List Char) : Bytes := Text.utf8 (String.ofList chars)

theorem bytesOf_append (front back : List Char) :
    bytesOf (front ++ back) = bytesOf front ++ bytesOf back := by
  simp only [bytesOf, Text.utf8_ofList, List.flatMap_append]

theorem bytesOf_cons (c : Char) (rest : List Char) :
    bytesOf (c :: rest) = String.utf8EncodeChar c ++ bytesOf rest := by
  simp only [bytesOf, Text.utf8_ofList, List.flatMap_cons]

/-- What a reader needs to know of how a byte is written. -/
structure Written (byte : UInt8) (bytes : Bytes) : Prop where
  unmarked : 0x26 ∉ bytes ∧ 0x3D ∉ bytes
  read : ∀ rest, Percent.decode (bytes.map blanked ++ rest) = byte :: Percent.decode rest

theorem written_encodeByte (byte : UInt8) : Written byte (bytesOf (encodeByte byte)) := by
  have all : ∀ n < 256,
      let byte := UInt8.ofNat n
      let bytes := (encodeByte byte).flatMap String.utf8EncodeChar
      let high := UInt8.ofNat (Percent.digit (byte.toNat / 16)).toNat
      let low := UInt8.ofNat (Percent.digit (byte.toNat % 16)).toNat
      (0x26 ∉ bytes ∧ 0x3D ∉ bytes) ∧
      (bytes.map blanked = [byte] ∧ byte ≠ 0x25 ∨
        bytes.map blanked = [0x25, high, low] ∧ Percent.value? high = some (byte.toNat / 16) ∧
          Percent.value? low = some (byte.toNat % 16)) := by
    decide +kernel
  have here := all byte.toNat byte.toNat_lt
  rw [UInt8.ofNat_toNat] at here
  obtain ⟨unmarked, itself | digits⟩ := here
  · refine ⟨by rwa [bytesOf, Text.utf8_ofList], fun rest => ?_⟩
    rw [bytesOf, Text.utf8_ofList, itself.1]
    exact Percent.decode_cons_of_ne itself.2 rest
  · refine ⟨by rwa [bytesOf, Text.utf8_ofList], fun rest => ?_⟩
    rw [bytesOf, Text.utf8_ofList, digits.1]
    exact Percent.decode_mark digits.2.1 digits.2.2 rest

/-! ## Names and values -/

theorem unmarked_encode (text : String) :
    0x26 ∉ bytesOf (encode text) ∧ 0x3D ∉ bytesOf (encode text) := by
  unfold encode
  induction Text.utf8 text with
  | nil => exact ⟨List.not_mem_nil, List.not_mem_nil⟩
  | cons byte bytes ih =>
      have first := (written_encodeByte byte).unmarked
      rw [List.flatMap_cons, bytesOf_append, List.mem_append, List.mem_append]
      exact ⟨not_or.2 ⟨first.1, ih.1⟩, not_or.2 ⟨first.2, ih.2⟩⟩

/-- A name or a value is read back. -/
theorem decode_encode (text : String) : decode (bytesOf (encode text)) = text := by
  have read : Percent.decode ((bytesOf (encode text)).map blanked) = Text.utf8 text := by
    unfold encode
    induction Text.utf8 text with
    | nil => rfl
    | cons byte bytes ih =>
        rw [List.flatMap_cons, bytesOf_append, List.map_append, (written_encodeByte byte).read, ih]
  rw [decode_eq, read, Text.ofUtf8Lossy_utf8]

/-! ## Pairs -/

theorem bytesOf_encodePair (pair : String × String) :
    bytesOf (encodePair pair) = bytesOf (encode pair.1) ++ 0x3D :: bytesOf (encode pair.2) := by
  rw [encodePair, bytesOf_append, bytesOf_cons]
  rfl

theorem not_mem_encodePair (pair : String × String) : 0x26 ∉ bytesOf (encodePair pair) := by
  rw [bytesOf_encodePair, List.mem_append, List.mem_cons, not_or, not_or]
  exact ⟨(unmarked_encode pair.1).1, by decide, (unmarked_encode pair.2).1⟩

theorem parsePair_encodePair (pair : String × String) : parsePair (bytesOf (encodePair pair)) = pair := by
  have before : ∀ byte ∈ bytesOf (encode pair.1), (byte != 0x3D) = true := by
    intro byte member
    exact bne_iff_ne.2 fun same => (unmarked_encode pair.1).2 (same ▸ member)
  have name : (bytesOf (encodePair pair)).takeWhile (· != 0x3D) = bytesOf (encode pair.1) := by
    rw [bytesOf_encodePair, List.takeWhile_append_of_pos before, List.takeWhile_cons_of_neg (by decide),
      List.append_nil]
  have value : (bytesOf (encodePair pair)).dropWhile (· != 0x3D) =
      0x3D :: bytesOf (encode pair.2) := by
    rw [bytesOf_encodePair, List.dropWhile_append_of_pos before, List.dropWhile_cons_of_neg (by decide)]
  rw [parsePair, name, value, List.drop_one, List.tail_cons, decode_encode, decode_encode]

/-! ## Splitting -/

theorem exists_splitAll_eq_cons (mark : UInt8) (bytes : Bytes) :
    ∃ piece pieces, splitAll mark bytes = piece :: pieces := by
  cases bytes with
  | nil => exact ⟨_, _, rfl⟩
  | cons byte rest =>
      rw [splitAll]
      split
      · exact ⟨_, _, rfl⟩
      · split <;> exact ⟨_, _, rfl⟩

/-- A mark parts what stands on both sides. -/
theorem splitAll_append (mark : UInt8) (front back : Bytes) :
    splitAll mark (front ++ mark :: back) = splitAll mark front ++ splitAll mark back := by
  induction front with
  | nil => exact if_pos rfl
  | cons byte front ih =>
      rw [List.cons_append, splitAll, splitAll, ih]
      split
      · rfl
      · obtain ⟨piece, pieces, parts⟩ := exists_splitAll_eq_cons mark front
        rw [parts]
        rfl

theorem splitAll_of_not_mem {mark : UInt8} {bytes : Bytes} (absent : mark ∉ bytes) :
    splitAll mark bytes = [bytes] := by
  induction bytes with
  | nil => rfl
  | cons byte rest ih =>
      obtain ⟨other, absent⟩ := not_or.1 (mt List.mem_cons.2 absent)
      rw [splitAll, if_neg (Ne.symm other), ih absent]

theorem parse_append (front back : Bytes) :
    parse (front ++ 0x26 :: back) = parse front ++ parse back := by
  rw [parse, splitAll_append, List.filter_append, List.map_append]
  rfl

theorem parse_encodePair (pair : String × String) : parse (bytesOf (encodePair pair)) = [pair] := by
  have some : bytesOf (encodePair pair) ≠ [] := by
    rw [bytesOf_encodePair]
    simp
  rw [parse, splitAll_of_not_mem (not_mem_encodePair pair)]
  simp [some, parsePair_encodePair]

/-! ## Forms -/

theorem parse_append_pair (soFar : List Char) (pair : String × String) :
    parse (bytesOf (append soFar pair)) = parse (bytesOf soFar) ++ [pair] := by
  rw [append]
  split
  next empty =>
    rw [List.isEmpty_iff.1 empty, parse_encodePair]
    rfl
  next =>
    have parted : bytesOf (soFar ++ '&' :: encodePair pair) =
        bytesOf soFar ++ 0x26 :: bytesOf (encodePair pair) := by
      rw [bytesOf_append, bytesOf_cons]
      rfl
    rw [parted, parse_append, parse_encodePair]

/-- Pairs are read back behind those that were there before. -/
theorem parse_extend (soFar : List Char) (pairs : List (String × String)) :
    parse (bytesOf (extend soFar pairs)) = parse (bytesOf soFar) ++ pairs := by
  induction pairs generalizing soFar with
  | nil => exact (List.append_nil _).symm
  | cons pair pairs ih =>
      rw [extend, List.foldl_cons, ← extend, ih, parse_append_pair, List.append_assoc,
        List.singleton_append]

theorem parse_render (pairs : List (String × String)) : parse (Text.utf8 (render pairs)) = pairs :=
  parse_extend [] pairs

end Form

namespace Url

def pairs (url : Url) : List (String × String) := Form.parse (Form.bytesOf (url.query.getD []))

theorem pairs_appendPairs (url : Url) (added : List (String × String)) :
    (url.appendPairs added).pairs = url.pairs ++ added :=
  Form.parse_extend _ added

end Url

end ScriptOracle
