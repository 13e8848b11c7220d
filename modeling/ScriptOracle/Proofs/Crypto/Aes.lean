import Mathlib.Data.Fintype.EquivFin
import Mathlib.Data.Finite.Prod
import ScriptOracle.Crypto.Aes

/-!
# Deciphering undoes enciphering

Every layer of a round is undone by its counterpart: bytes are restored, rows are turned back, and the
mixing of columns is taken back because doubling respects the sum of bytes. What a key adds is taken away
by adding it again.
-/

namespace ScriptOracle.Crypto.Aes

/-! ## Bytes -/

theorem forall_byte {p : UInt8 -> Prop} (all : ∀ n < 256, p (UInt8.ofNat n)) : ∀ x, p x := by
  intro x
  have found := all x.toNat x.toNat_lt
  rwa [UInt8.ofNat_toNat] at found

theorem restore_substitute : ∀ x, restore (substitute x) = x :=
  forall_byte (by decide +kernel)

theorem xor_cancel (x y : UInt8) : x ^^^ y ^^^ y = x := by
  rw [UInt8.xor_assoc, UInt8.xor_self, UInt8.xor_zero]

theorem lt_iff_msb (x : UInt8) : x < 0x80 ↔ x.toBitVec.msb = false := by
  rw [BitVec.msb_eq_decide, UInt8.lt_iff_toNat_lt, decide_eq_false_iff_not, Nat.not_le]
  rfl

/-- What doubling adds to a shifted byte depends on its first bit, so that it respects the sum. -/
theorem correction_xor (x y : UInt8) :
    (if x ^^^ y < 0x80 then (0 : UInt8) else 0x1B) =
      (if x < 0x80 then 0 else 0x1B) ^^^ (if y < 0x80 then 0 else 0x1B) := by
  simp only [lt_iff_msb, UInt8.toBitVec_xor, BitVec.msb_xor]
  cases x.toBitVec.msb <;> cases y.toBitVec.msb <;> decide

theorem double_xor (x y : UInt8) : double (x ^^^ y) = double x ^^^ double y := by
  rw [double, double, double, UInt8.shiftLeft_xor, correction_xor]
  ac_rfl

/-! ## Columns -/

/-- The four parts of the first byte that unmixing gives, taken together by the bytes of the column that
was mixed: the other three vanish. -/
theorem own_part : ∀ x : UInt8,
    times14 (double x) ^^^ times11 x ^^^ times13 x ^^^ times9 (triple x) = x :=
  forall_byte (by decide +kernel)

theorem next_part : ∀ x : UInt8,
    times14 (triple x) ^^^ times11 (double x) ^^^ times13 x ^^^ times9 x = 0 :=
  forall_byte (by decide +kernel)

theorem opposite_part : ∀ x : UInt8,
    times14 x ^^^ times11 (triple x) ^^^ times13 (double x) ^^^ times9 x = 0 :=
  forall_byte (by decide +kernel)

theorem last_part : ∀ x : UInt8,
    times14 x ^^^ times11 x ^^^ times13 (triple x) ^^^ times9 (double x) = 0 :=
  forall_byte (by decide +kernel)

theorem times9_xor (x y : UInt8) : times9 (x ^^^ y) = times9 x ^^^ times9 y := by
  simp only [times9, double_xor]
  ac_rfl

theorem times11_xor (x y : UInt8) : times11 (x ^^^ y) = times11 x ^^^ times11 y := by
  simp only [times11, double_xor]
  ac_rfl

theorem times13_xor (x y : UInt8) : times13 (x ^^^ y) = times13 x ^^^ times13 y := by
  simp only [times13, double_xor]
  ac_rfl

theorem times14_xor (x y : UInt8) : times14 (x ^^^ y) = times14 x ^^^ times14 y := by
  simp only [times14, double_xor]
  ac_rfl

theorem unmix_mix_first (a b c d : UInt8) :
    times14 (double a ^^^ triple b ^^^ c ^^^ d) ^^^ times11 (a ^^^ double b ^^^ triple c ^^^ d) ^^^
      times13 (a ^^^ b ^^^ double c ^^^ triple d) ^^^ times9 (triple a ^^^ b ^^^ c ^^^ double d) =
    a := by
  simp only [times9_xor, times11_xor, times13_xor, times14_xor]
  calc
    _ = (times14 (double a) ^^^ times11 a ^^^ times13 a ^^^ times9 (triple a)) ^^^
          (times14 (triple b) ^^^ times11 (double b) ^^^ times13 b ^^^ times9 b) ^^^
          (times14 c ^^^ times11 (triple c) ^^^ times13 (double c) ^^^ times9 c) ^^^
          (times14 d ^^^ times11 d ^^^ times13 (triple d) ^^^ times9 (double d)) := by ac_rfl
    _ = a := by
      rw [own_part, next_part, opposite_part, last_part, UInt8.xor_zero, UInt8.xor_zero,
        UInt8.xor_zero]

theorem unmix_mix_a (x : Column) : (unmix (mix x)).a = x.a := unmix_mix_first x.a x.b x.c x.d

/-- Mixing goes round with the bytes of a column. -/
theorem mix_turned (x : Column) : mix x.turned = (mix x).turned := by
  simp only [mix, Column.turned, Column.mk.injEq]
  refine ⟨?_, ?_, ?_, ?_⟩ <;> ac_rfl

theorem unmix_turned (x : Column) : unmix x.turned = (unmix x).turned := by
  simp only [unmix, Column.turned, Column.mk.injEq]
  refine ⟨?_, ?_, ?_, ?_⟩ <;> ac_rfl

theorem unmix_mix (x : Column) : unmix (mix x) = x := by
  have a := unmix_mix_a x
  have b : (unmix (mix x)).turned.a = x.turned.a := by
    rw [← unmix_turned, ← mix_turned, unmix_mix_a]
  have c : (unmix (mix x)).turned.turned.a = x.turned.turned.a := by
    rw [← unmix_turned, ← unmix_turned, ← mix_turned, ← mix_turned, unmix_mix_a]
  have d : (unmix (mix x)).turned.turned.turned.a = x.turned.turned.turned.a := by
    rw [← unmix_turned, ← unmix_turned, ← unmix_turned, ← mix_turned, ← mix_turned, ← mix_turned,
      unmix_mix_a]
  cases x
  exact Column.mk.injEq .. ▸ ⟨a, b, c, d⟩

theorem Column.add_cancel (x y : Column) : (x.add y).add y = x := by
  simp only [Column.add, xor_cancel]

theorem Column.map_restore (x : Column) : (x.map substitute).map restore = x := by
  simp only [Column.map, restore_substitute]

/-! ## Blocks -/

theorem Block.add_cancel (x y : Block) : (x.add y).add y = x := by
  simp only [Block.add, Column.add_cancel]

theorem Block.map_restore (x : Block) :
    (x.map (Column.map substitute)).map (Column.map restore) = x := by
  simp only [Block.map, Column.map_restore]

theorem Block.map_unmix (x : Block) : (x.map mix).map unmix = x := by
  simp only [Block.map, unmix_mix]

theorem turnRowsBack_turnRows (x : Block) : turnRowsBack (turnRows x) = x := by
  obtain ⟨⟨_, _, _, _⟩, ⟨_, _, _, _⟩, ⟨_, _, _, _⟩, ⟨_, _, _, _⟩⟩ := x
  rfl

theorem roundsBack_nil (x : Block) : roundsBack [] x = x := by
  unfold roundsBack
  exact Eq.refl x

theorem roundsBack_cons_cons (key next : Block) (keys : List Block) (x : Block) :
    roundsBack (key :: next :: keys) x =
      (turnRowsBack (((roundsBack (next :: keys) x).add key).map unmix)).map (Column.map restore) :=
  rfl

theorem roundsBack_singleton (key x : Block) :
    roundsBack [key] x = (turnRowsBack (x.add key)).map (Column.map restore) := rfl

theorem roundsBack_rounds (keys : List Block) (x : Block) : roundsBack keys (rounds keys x) = x := by
  induction keys generalizing x with
  | nil => rw [rounds, roundsBack_nil]
  | cons key keys ih =>
      cases keys with
      | nil =>
          rw [rounds, roundsBack_singleton, Block.add_cancel, turnRowsBack_turnRows,
            Block.map_restore]
      | cons next keys =>
          rw [rounds, roundsBack_cons_cons, ih, Block.add_cancel, Block.map_unmix,
            turnRowsBack_turnRows, Block.map_restore]
          exact nofun

/-- Deciphering a block that was enciphered with the same parts of a key gives the block. -/
theorem decipher_encipher (keys : List Block) (x : Block) : decipher keys (encipher keys x) = x := by
  cases keys with
  | nil => rfl
  | cons key keys => rw [encipher, decipher, roundsBack_rounds, Block.add_cancel]

/-! ## Both ways -/

instance finiteByte : Finite UInt8 := .of_injective UInt8.toFin fun _ _ => UInt8.toFin_inj.1

instance finiteColumn : Finite Column :=
  .of_injective (fun x => (x.a, x.b, x.c, x.d)) fun x y same => by
    cases x
    cases y
    simpa using same

instance finiteBlock : Finite Block :=
  .of_injective (fun x => (x.p, x.q, x.r, x.s)) fun x y same => by
    cases x
    cases y
    simpa using same

/-- Enciphering keeps blocks apart, and there are only so many blocks: each one is the enciphered form of
what it is deciphered to. -/
theorem encipher_decipher (keys : List Block) (x : Block) : encipher keys (decipher keys x) = x := by
  have injective : Function.Injective (encipher keys) :=
    Function.LeftInverse.injective (decipher_encipher keys)
  obtain ⟨y, rfl⟩ := Finite.injective_iff_surjective.1 injective x
  rw [decipher_encipher]

end ScriptOracle.Crypto.Aes
