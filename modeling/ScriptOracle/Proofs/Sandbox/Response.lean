import ScriptOracle.Proofs.Text.Hexadecimal
import ScriptOracle.Proofs.Word256.RoundTrip
import ScriptOracle.ReturnType
import ScriptOracle.Sandbox.Submission

/-!
# From a value to the reader of its answer

A value is encoded by the script, let through by the bound on results, written as digits for the caller
and read by the consumer under a return type. No stage loses anything: numbers and texts come out as they
went in, and two results have the same text only if they have the same bytes.
-/

namespace ScriptOracle

namespace Hexadecimal

theorem length_digits (bytes : Bytes) : (digits bytes).length = 2 * bytes.length := by
  induction bytes with
  | nil => rfl
  | cons byte bytes ih =>
      rw [digits, List.flatMap_cons, List.length_append]
      show 2 + (digits bytes).length = 2 * (bytes.length + 1)
      omega

theorem mem_digits {bytes : Bytes} {c : Char} (written : c ∈ digits bytes) :
    c ∈ "0123456789abcdef".toList := by
  have lower : ∀ value < 16, digit value ∈ "0123456789abcdef".toList := by decide
  obtain ⟨byte, -, written⟩ := List.mem_flatMap.1 written
  have bound := byte.toNat_lt
  simp only [List.mem_cons, List.not_mem_nil, or_false] at written
  rcases written with rfl | rfl
  · exact lower _ (by omega)
  · exact lower _ (by omega)

theorem decodeText_digits (bytes : Bytes) :
    decodeText (String.ofList (digits bytes)) = .ok bytes :=
  decodeText_of_writes (writes_digits bytes)

theorem digits_inj {bytes others : Bytes} (same : digits bytes = digits others) :
    bytes = others := by
  have read := decodeText_digits bytes
  rw [same, decodeText_digits others] at read
  exact (Except.ok.inj read).symm

end Hexadecimal

namespace Sandbox

open Word256

/-! ## The bound on results -/

theorem outputBytes_bytes (bytes : Bytes) (maximum : Nat) :
    outputBytes (.bytes bytes) maximum =
      if bytes.length ≤ maximum then .ok bytes else .error (.tooLong maximum) := rfl

/-- What is let through is let through unchanged, and the bound itself is still allowed. -/
theorem outputBytes_bytes_ok_iff {bytes passed : Bytes} {maximum : Nat} :
    outputBytes (.bytes bytes) maximum = .ok passed ↔ passed = bytes ∧ bytes.length ≤ maximum := by
  rw [outputBytes_bytes]
  split
  next fits => simp [fits, eq_comm]
  next long => simp [long]

/-- Only bytes are let through. -/
theorem outputBytes_eq_ok_iff {result : Script.Result} {passed : Bytes} {maximum : Nat} :
    outputBytes result maximum = .ok passed ↔ result = .bytes passed ∧ passed.length ≤ maximum := by
  cases result with
  | bytes bytes =>
      rw [outputBytes_bytes_ok_iff, Script.Result.bytes.injEq, eq_comm]
      exact and_congr_right fun same => by rw [same]
  | undefined | null | bool | number | bigint | text | data => exact ⟨nofun, nofun⟩

/-! ## The text of a result -/

/-- A text is `0x` and sixty-four lower-case digits, and these are read back to a word. -/
def IsWordText (text : String) (word : Bytes) : Prop :=
  ∃ digits : List Char, text = "0x" ++ String.ofList digits ∧ digits.length = 64 ∧
    (∀ c ∈ digits, c ∈ "0123456789abcdef".toList) ∧
    Hexadecimal.decodeText (String.ofList digits) = .ok word

theorem toList_responseText (bytes : Bytes) :
    (responseText bytes).toList =
      '0' :: 'x' :: if bytes.isEmpty then ['0'] else Hexadecimal.digits bytes := by
  unfold responseText
  split
  · rfl
  · rw [String.toList_append, Hexadecimal.encode]
    simp only [String.toList_ofList]
    rfl

/-- Every byte has two digits, so that a single one is left to the empty result. -/
theorem responseText_inj {bytes others : Bytes} (same : responseText bytes = responseText others) :
    bytes = others := by
  have chars := congrArg String.toList same
  rw [toList_responseText, toList_responseText] at chars
  have tails := (List.cons.inj (List.cons.inj chars).2).2
  cases bytes with
  | nil =>
      cases others with
      | nil => rfl
      | cons byte others =>
          have count : 1 = (Hexadecimal.digits (byte :: others)).length := congrArg List.length tails
          rw [Hexadecimal.length_digits] at count
          omega
  | cons byte bytes =>
      cases others with
      | nil =>
          have count : (Hexadecimal.digits (byte :: bytes)).length = 1 := congrArg List.length tails
          rw [Hexadecimal.length_digits] at count
          omega
      | cons other others => exact Hexadecimal.digits_inj tails

theorem responseText_eq_empty_iff {bytes : Bytes} : responseText bytes = "0x0" ↔ bytes = [] :=
  ⟨fun same => responseText_inj (same.trans rfl), fun empty => empty ▸ rfl⟩

theorem isWordText_responseText {word : Bytes} (full : word.length = width) :
    IsWordText (responseText word) word := by
  refine ⟨Hexadecimal.digits word, ?_, ?_, fun c => Hexadecimal.mem_digits,
    Hexadecimal.decodeText_digits word⟩
  · have some : ¬word.isEmpty := by
      rw [List.isEmpty_iff_length_eq_zero, full]
      decide
    rw [responseText, if_neg some, Hexadecimal.encode]
  · rw [Hexadecimal.length_digits, full]
    rfl

/-! ## All stages -/

/-- What the stages make of a number: a word that passes the bound unchanged, is shown as a whole word
and is read as the decimal text of the number. -/
structure Delivered (encoder : Encoder) (type : ReturnType) (operand : Operand) (maximum : Nat)
    (n : Int) (word : Bytes) : Prop where
  encoded : encoder.encode? operand = some word
  passed : outputBytes (.bytes word) maximum = .ok word
  shown : IsWordText (responseText word) word
  read : type.decode word = toString n

theorem delivered_of_word {encoder : Encoder} {type : ReturnType} {operand : Operand}
    {maximum : Nat} {n : Int} {word : Bytes} (room : width ≤ maximum)
    (encoded : encoder.encode? operand = some word) (full : word.length = width)
    (read : type.decode word = toString n) : Delivered encoder type operand maximum n word where
  encoded := encoded
  passed := outputBytes_bytes_ok_iff.2 ⟨rfl, full ▸ room⟩
  shown := isWordText_responseText full
  read := read

theorem delivered_unsigned {operand : Operand} {maximum : Nat} {n : Int}
    (whole : operand.integer? = some n) (low : 0 ≤ n) (high : n < 2 ^ 256)
    (room : width ≤ maximum) :
    Delivered .unsigned .unsigned operand maximum n (leftPad (shortest n.toNat)) := by
  refine delivered_of_word room ?_ (length_leftPad _) ?_
  · rw [Encoder.encode?, whole, Option.bind_some, encodeUnsigned?_eq_some low high]
  · rw [ReturnType.decode, decodeUnsigned_word low high]

theorem delivered_signed {operand : Operand} {maximum : Nat} {n : Int}
    (whole : operand.integer? = some n) (low : -2 ^ 255 ≤ n) (high : n < 2 ^ 255)
    (room : width ≤ maximum) :
    Delivered .signed .signed operand maximum n (leftPad (shortest (wrapped n))) := by
  refine delivered_of_word room ?_ (length_leftPad _) ?_
  · rw [Encoder.encode?, whole, Option.bind_some, encodeSigned?_eq_some low high]
  · rw [ReturnType.decode, decodeSigned_word low high]

/-- Numbers in range and texts come through encoder, bound, response text and consumer as they went in,
and no two results share a response text. -/
theorem results_arrive (maximum : Nat) :
    (∀ (operand : Operand) (n : Int), operand.integer? = some n → 0 ≤ n → n < 2 ^ 256 →
      32 ≤ maximum → ∃ word, Delivered .unsigned .unsigned operand maximum n word) ∧
    (∀ (operand : Operand) (n : Int), operand.integer? = some n → -2 ^ 255 ≤ n → n < 2 ^ 255 →
      32 ≤ maximum → ∃ word, Delivered .signed .signed operand maximum n word) ∧
    (∀ text : String, ∃ bytes, Encoder.text.encode? (.text text) = some bytes ∧
      ((∃ passed, outputBytes (.bytes bytes) maximum = .ok passed) ↔ bytes.length ≤ maximum) ∧
      ∀ passed, outputBytes (.bytes bytes) maximum = .ok passed →
        ReturnType.text.decode passed = text) ∧
    (∀ bytes others, responseText bytes = responseText others → bytes = others) ∧
    (∀ bytes, responseText bytes = "0x0" ↔ bytes = []) := by
  refine ⟨?unsigned, ?signed, ?text, fun _ _ => responseText_inj,
    fun _ => responseText_eq_empty_iff⟩
  case unsigned =>
    intro operand n whole low high room
    exact ⟨_, delivered_unsigned whole low high room⟩
  case signed =>
    intro operand n whole low high room
    exact ⟨_, delivered_signed whole low high room⟩
  case text =>
    intro text
    refine ⟨Text.utf8 text, rfl, ?_, ?_⟩
    · simp only [outputBytes_bytes_ok_iff, exists_eq_left]
    · intro passed found
      rw [(outputBytes_bytes_ok_iff.1 found).1]
      exact Text.ofUtf8Lossy_utf8 text

/-- With room for one word only, the least signed number still arrives. -/
theorem results_arrive_least :
    (Operand.integer (-2 ^ 255)).integer? = some (-2 ^ 255) ∧
      ∃ word, Delivered .signed .signed (.integer (-2 ^ 255)) 32 (-2 ^ 255) word :=
  ⟨rfl, (results_arrive 32).2.1 _ _ rfl (by omega) (by omega) (by omega)⟩

end Sandbox

end ScriptOracle
