import Mathlib
import ScriptOracle.Proofs.Text.Hexadecimal
import ScriptOracle.Url.Basic

/-!
# How long an address is

Form pairs are written in ASCII and never shorter than they are, with an `=` in each and a mark before it.
Behind the query of an address they add exactly that many bytes, except that a query that is there and
empty already has its mark.
-/

namespace ScriptOracle

namespace Text

theorem byteCount_ofList (chars : List Char) :
    byteCount (String.ofList chars) = (chars.map Char.utf8Size).sum := by
  rw [← length_utf8, utf8_ofList, List.length_flatMap]
  simp

end Text

namespace Form

/-- The number of bytes that form pairs add behind other pairs. -/
def cost (pairs : List (String × String)) : Nat :=
  (pairs.map fun pair => (encodePair pair).length + 1).sum

@[simp] theorem cost_nil : cost [] = 0 := rfl

@[simp] theorem cost_cons (pair : String × String) (pairs : List (String × String)) :
    cost (pair :: pairs) = (encodePair pair).length + 1 + cost pairs := by
  rw [cost, List.map_cons, List.sum_cons, ← cost]

/-- A byte is written by at least one character, and by characters of one byte each. -/
theorem size_encodeByte (byte : UInt8) :
    ((encodeByte byte).map Char.utf8Size).sum = (encodeByte byte).length ∧
      1 ≤ (encodeByte byte).length := by
  have all : ∀ n < 256, ((encodeByte (UInt8.ofNat n)).map Char.utf8Size).sum =
      (encodeByte (UInt8.ofNat n)).length ∧ 1 ≤ (encodeByte (UInt8.ofNat n)).length := by
    decide +kernel
  simpa using all byte.toNat byte.toNat_lt

theorem size_encode (text : String) :
    ((encode text).map Char.utf8Size).sum = (encode text).length := by
  unfold encode
  induction Text.utf8 text with
  | nil => rfl
  | cons byte bytes ih =>
      rw [List.flatMap_cons, List.map_append, List.sum_append, (size_encodeByte byte).1, ih,
        List.length_append]

theorem byteCount_le_encode (text : String) : Text.byteCount text ≤ (encode text).length := by
  rw [← Text.length_utf8, encode]
  induction Text.utf8 text with
  | nil => exact Nat.le_refl _
  | cons byte bytes ih =>
      have first := (size_encodeByte byte).2
      rw [List.flatMap_cons, List.length_append, List.length_cons]
      omega

theorem size_encodePair (pair : String × String) :
    ((encodePair pair).map Char.utf8Size).sum = (encodePair pair).length := by
  rw [encodePair, List.map_append, List.sum_append, List.map_cons, List.sum_cons, size_encode,
    size_encode, List.length_append, List.length_cons, show '='.utf8Size = 1 from rfl]
  omega

theorem encodePair_ne_nil (pair : String × String) : encodePair pair ≠ [] := by
  simp [encodePair]

/-- What pairs hold is part of what they cost. -/
theorem content_le_cost (pairs : List (String × String)) :
    (pairs.map fun pair => Text.byteCount pair.1 + Text.byteCount pair.2).sum + 2 * pairs.length ≤
      cost pairs := by
  induction pairs with
  | nil => exact Nat.le_refl _
  | cons pair pairs ih =>
      have name := byteCount_le_encode pair.1
      have value := byteCount_le_encode pair.2
      rw [List.map_cons, List.sum_cons, List.length_cons, cost_cons, encodePair, List.length_append,
        List.length_cons]
      omega

/-- Behind a query that has something in it, each pair costs its text and a mark. -/
theorem size_extend {soFar : List Char} (filled : soFar ≠ []) (pairs : List (String × String)) :
    ((extend soFar pairs).map Char.utf8Size).sum =
      (soFar.map Char.utf8Size).sum + cost pairs := by
  induction pairs generalizing soFar with
  | nil => rfl
  | cons pair pairs ih =>
      have next : append soFar pair = soFar ++ '&' :: encodePair pair := by
        rw [append, if_neg (by simpa using filled)]
      have still : soFar ++ '&' :: encodePair pair ≠ [] := by simp
      rw [extend, List.foldl_cons, ← extend, next, ih still, List.map_append, List.sum_append,
        List.map_cons, List.sum_cons, size_encodePair, cost_cons,
        show '&'.utf8Size = 1 from rfl]
      omega

theorem size_extend_nil {pairs : List (String × String)} (given : pairs ≠ []) :
    ((extend [] pairs).map Char.utf8Size).sum + 1 = cost pairs := by
  obtain ⟨pair, pairs, rfl⟩ := List.exists_cons_of_ne_nil given
  rw [extend, List.foldl_cons, ← extend, show append [] pair = encodePair pair from rfl,
    size_extend (encodePair_ne_nil pair), size_encodePair, cost_cons]
  omega

end Form

namespace Url

theorem byteCount_text (url : Url) :
    Text.byteCount url.text = (url.base.map Char.utf8Size).sum +
      ((marked '?' url.query).map Char.utf8Size).sum +
      ((marked '#' url.fragment).map Char.utf8Size).sum := by
  rw [text, Text.byteCount_ofList, List.map_append, List.map_append, List.sum_append,
    List.sum_append]

@[simp] theorem base_appendPairs (url : Url) (pairs : List (String × String)) :
    (url.appendPairs pairs).base = url.base := rfl

/-- Pairs make an address longer by what they cost. -/
theorem byteCount_appendPairs (url : Url) {pairs : List (String × String)} (given : pairs ≠ []) :
    Text.byteCount (url.appendPairs pairs).text + (if url.query = some [] then 1 else 0) =
      Text.byteCount url.text + Form.cost pairs := by
  rw [byteCount_text, byteCount_text, base_appendPairs]
  simp only [appendPairs]
  have first := Form.size_extend_nil given
  have mark : '?'.utf8Size = 1 := rfl
  -- The mark before the query is new only where there was none, and an empty one takes no `&`.
  match url.query with
  | none =>
    simp only [Option.getD_none, marked, List.map_cons, List.sum_cons, List.map_nil, List.sum_nil,
      reduceCtorEq, if_false, mark]
    omega
  | some [] =>
    simp only [Option.getD_some, marked, List.map_cons, List.sum_cons, List.map_nil, List.sum_nil,
      if_true, mark]
    omega
  | some (c :: rest) =>
    have further := Form.size_extend (List.cons_ne_nil c rest) pairs
    simp only [Option.getD_some, marked, List.map_cons, List.sum_cons, mark, Option.some.injEq,
      reduceCtorEq, if_false] at further ⊢
    omega

end Url

end ScriptOracle
