import ScriptOracle.Proofs.Text.Hexadecimal
import ScriptOracle.Proofs.Word256.Bytes
import ScriptOracle.Secrets.Key

/-!
# Ways to spell a key

Bytes may be spelled in digits of either case, with a mark in front and blanks around. Every spelling is
read to the bytes, and the three forms of a public key to the key, if the curve gives the second coordinate
of a key back for its first.
-/

namespace ScriptOracle.Secrets

open Crypto.Curve

def marks : List (List Char) := [[], ['0', 'x'], ['0', 'X']]

/-- The texts that spell bytes: digits of either case, perhaps behind a mark, with blanks around. -/
inductive Spells : String -> Bytes -> Prop where
  | intro {before mark digits after : List Char} {bytes : Bytes}
      (blanks : ∀ c ∈ before ++ after, Text.isBlank c = true)
      (marked : mark ∈ marks) (writes : Hexadecimal.Writes digits bytes) :
      Spells (String.ofList (before ++ (mark ++ digits) ++ after)) bytes

theorem spells_encode (bytes : Bytes) : Spells (Hexadecimal.encode bytes) bytes := by
  have plain : Spells (String.ofList ([] ++ ([] ++ Hexadecimal.digits bytes) ++ [])) bytes :=
    .intro nofun List.mem_cons_self (Hexadecimal.writes_digits bytes)
  rwa [List.nil_append, List.nil_append, List.append_nil] at plain

theorem dropWhile_blanks {chars : List Char} (blanks : ∀ c ∈ chars, Text.isBlank c = true) :
    chars.dropWhile Text.isBlank = [] := by
  rw [← List.append_nil chars, List.dropWhile_append_of_pos blanks, List.dropWhile_nil]

theorem dropWhile_solid {core : List Char} (solid : ∀ c ∈ core, Text.isBlank c = false)
    {after : List Char} (nonempty : core ≠ []) :
    (core ++ after).dropWhile Text.isBlank = core ++ after := by
  cases core with
  | nil => exact absurd rfl nonempty
  | cons c core =>
      rw [List.cons_append, List.dropWhile_cons_of_neg (by rw [solid c List.mem_cons_self]; decide)]

theorem trimChars_of_blanks {before core after : List Char}
    (blanks : ∀ c ∈ before ++ after, Text.isBlank c = true)
    (solid : ∀ c ∈ core, Text.isBlank c = false) : Text.trimChars (before ++ core ++ after) = core := by
  have first : ∀ c ∈ before, Text.isBlank c = true :=
    fun c member => blanks c (List.mem_append_left _ member)
  have last : ∀ c ∈ after.reverse, Text.isBlank c = true :=
    fun c member => blanks c (List.mem_append_right _ (List.mem_reverse.1 member))
  rw [Text.trimChars, List.append_assoc, List.dropWhile_append_of_pos first]
  by_cases nonempty : core = []
  · subst nonempty
    rw [List.nil_append, dropWhile_blanks fun c member =>
      blanks c (List.mem_append_right _ member)]
    rfl
  · have solid' : ∀ c ∈ core.reverse, Text.isBlank c = false :=
      fun c member => solid c (List.mem_reverse.1 member)
    have back : (core.reverse ++ []).dropWhile Text.isBlank = core.reverse ++ [] :=
      dropWhile_solid solid' (by simpa using nonempty)
    rw [List.append_nil] at back
    rw [dropWhile_solid solid nonempty, List.reverse_append, List.dropWhile_append_of_pos last, back,
      List.reverse_reverse]

theorem solid_of_writes {chars : List Char} {bytes : Bytes}
    (writes : Hexadecimal.Writes chars bytes) :
    ∀ c ∈ chars, Text.isBlank c = false ∧ c ≠ 'x' ∧ c ≠ 'X' := by
  induction bytes generalizing chars with
  | nil =>
      obtain rfl : chars = [] := List.map_eq_nil_iff.1 writes
      exact nofun
  | cons byte bytes ih =>
      obtain ⟨high, low, rest, rfl, first, second, writes⟩ := Hexadecimal.writes_cons writes
      exact List.forall_mem_cons.2 ⟨⟨first.notBlank, first.notMark⟩,
        List.forall_mem_cons.2 ⟨⟨second.notBlank, second.notMark⟩, ih writes⟩⟩

namespace Key

theorem unmarkedChars_append {mark digits : List Char}
    (marked : mark ∈ marks) (plain : ∀ c ∈ digits, c ≠ 'x' ∧ c ≠ 'X') :
    unmarkedChars (mark ++ digits) = digits := by
  simp only [marks, List.mem_cons, List.not_mem_nil, or_false] at marked
  rcases marked with rfl | rfl | rfl
  · -- Digits alone do not look like a mark.
    rw [List.nil_append]
    unfold unmarkedChars
    split
    · exact absurd rfl (plain 'x' (by simp)).1
    · exact absurd rfl (plain 'X' (by simp)).2
    · rfl
  · rfl
  · rfl

theorem readBytes_of_spells {text : String} {bytes : Bytes} (spells : Spells text bytes) :
    readBytes text = .ok bytes := by
  obtain @⟨before, mark, digits, after, bytes, blanks, marked, writes⟩ := spells
  have plain := solid_of_writes writes
  have solid : ∀ c ∈ mark ++ digits, Text.isBlank c = false := by
    have marks : ∀ mark ∈ marks, mark.all (!Text.isBlank ·) = true := by decide
    exact List.forall_mem_append.2 ⟨by simpa using marks mark marked, fun c member => (plain c member).1⟩
  rw [readBytes, bareDigits, Text.trim, String.toList_ofList, String.toList_ofList,
    trimChars_of_blanks blanks solid, unmarkedChars_append marked fun c member => (plain c member).2,
    Hexadecimal.decodeText_of_writes writes]

theorem readPrivate?_of_spells {text : String} {key : PrivateKey}
    (spells : Spells text (Word256.bigEndian 32 key.value)) : readPrivate? text = some key := by
  have small : key.value < 256 ^ 32 := Nat.lt_trans key.below (by decide)
  have value : Word256.ofBigEndian (Word256.bigEndian 32 key.value) = key.value := by
    rw [Word256.ofBigEndian_bigEndian, Nat.mod_eq_of_lt small]
  have bytes : privateBytes? text = some (Word256.bigEndian 32 key.value) := by
    rw [privateBytes?, readBytes_of_spells spells]
    exact Option.filter_some_pos (by simp)
  rw [readPrivate?, bytes, Option.bind_some, PrivateKey.ofBytes?, value, PrivateKey.ofNat?,
    dif_pos ⟨key.positive, key.below⟩]

/-- The three forms of a public key: both coordinates, with or without the byte that tells so, or the
first one and whether the second is odd. -/
def forms (key : PublicKey) : List Bytes := [key.uncompressed.tail, key.uncompressed, key.compressed]

/-- The coordinates of a public key are numbers modulo the prime. -/
theorem coordinates_lt (key : PrivateKey) :
    key.publicKey.x < 256 ^ 32 ∧ key.publicKey.y < 256 ^ 32 := by
  have bound : prime ≤ 256 ^ 32 := by decide
  have positive : 0 < prime := by decide
  unfold PrivateKey.publicKey Point.multiply Projective.toPoint
  split
  · exact ⟨by decide, by decide⟩
  · exact ⟨Nat.lt_of_lt_of_le (Nat.mod_lt _ positive) bound,
      Nat.lt_of_lt_of_le (Nat.mod_lt _ positive) bound⟩

/-- The second coordinate follows from the first one and whether it is odd. -/
theorem decompress?_of_compressed {key : PublicKey} (small : key.x < 256 ^ 32)
    (recovered : PublicKey.ofBytes? key.compressed = some key) :
    decompress? key.x (key.y % 2 = 1) = some key := by
  have x : Word256.ofBigEndian (Word256.bigEndian 32 key.x) = key.x := by
    rw [Word256.ofBigEndian_bigEndian, Nat.mod_eq_of_lt small]
  unfold PublicKey.ofBytes? PublicKey.compressed at recovered
  by_cases odd : key.y % 2 = 1
  · simpa [odd, x] using recovered
  · simpa [odd, x] using recovered

theorem ofBytes?_uncompressed {key : PublicKey} (small : key.x < 256 ^ 32 ∧ key.y < 256 ^ 32)
    (recovered : PublicKey.ofBytes? key.compressed = some key) :
    PublicKey.ofBytes? key.uncompressed = some key := by
  have x : Word256.ofBigEndian (Word256.bigEndian 32 key.x) = key.x := by
    rw [Word256.ofBigEndian_bigEndian, Nat.mod_eq_of_lt small.1]
  have y : Word256.ofBigEndian (Word256.bigEndian 32 key.y) = key.y := by
    rw [Word256.ofBigEndian_bigEndian, Nat.mod_eq_of_lt small.2]
  have length : (Word256.bigEndian 32 key.x).length = 32 := Word256.length_bigEndian 32 key.x
  rw [PublicKey.uncompressed, PublicKey.ofBytes?, if_pos (by simp), List.take_left' length,
    List.drop_left' length, x, y, PublicKey.ofCoordinates?,
    decompress?_of_compressed small.1 recovered]
  exact Option.filter_some_pos (beq_self_eq_true key.y)

theorem readPublic_of_spells {text : String} {key : PublicKey} {form : Bytes}
    (small : key.x < 256 ^ 32 ∧ key.y < 256 ^ 32)
    (recovered : PublicKey.ofBytes? key.compressed = some key) (listed : form ∈ forms key)
    (spells : Spells text form) : readPublic text = .ok key := by
  have whole := ofBytes?_uncompressed small recovered
  have standard : ∃ bytes, standardForm form = .ok bytes ∧ PublicKey.ofBytes? bytes = some key := by
    simp only [forms, List.mem_cons, List.not_mem_nil, or_false] at listed
    rcases listed with rfl | rfl | rfl
    · exact ⟨key.uncompressed, by simp [standardForm, PublicKey.uncompressed], whole⟩
    · exact ⟨key.uncompressed, by simp [standardForm, PublicKey.uncompressed], whole⟩
    · exact ⟨key.compressed, by simp [standardForm, PublicKey.compressed], recovered⟩
  obtain ⟨bytes, written, found⟩ := standard
  simp only [readPublic, readBytes_of_spells spells, written, found, bind, Except.bind, pure,
    Except.pure]

end Key

end ScriptOracle.Secrets
