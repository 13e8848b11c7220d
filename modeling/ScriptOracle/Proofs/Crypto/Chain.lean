import ScriptOracle.Crypto.Chain
import ScriptOracle.Proofs.Crypto.Aes

/-!
# Deciphering a text gives the text back

A text is filled up to whole blocks, so that its end tells where it was filled up. The blocks are
deciphered one after the other, and each gives back what was added to it from the block before it.
-/

namespace ScriptOracle.Crypto

/-! ## Pieces of lists -/

section Chunks

variable {α β : Type} {size : Nat}

/-- Fuel for all items is enough. -/
theorem chunksFuel_eq (positive : 0 < size) (items : List α) :
    ∀ fuel ≥ items.length, chunksFuel size fuel items = chunks size items := by
  suffices general : ∀ fuel fuel' (items : List α), items.length ≤ fuel → items.length ≤ fuel' →
      chunksFuel size fuel items = chunksFuel size fuel' items by
    intro fuel enough
    exact general fuel items.length items enough (Nat.le_refl _)
  intro fuel
  induction fuel with
  | zero =>
      intro fuel' items enough _
      obtain rfl := List.eq_nil_of_length_eq_zero (Nat.le_zero.1 enough)
      cases fuel' <;> rfl
  | succ fuel ih =>
      intro fuel' items enough enough'
      cases items with
      | nil => cases fuel' <;> rfl
      | cons item rest =>
          cases fuel' with
          | zero => exact absurd enough' (by simp)
          | succ fuel' =>
              have shorter : ((item :: rest).drop size).length ≤ rest.length := by
                rw [List.length_drop, List.length_cons]
                omega
              simp only [List.length_cons] at enough enough'
              rw [chunksFuel, chunksFuel, ih fuel' _ (by omega) (by omega)] <;> exact nofun

theorem chunks_append (positive : 0 < size) {piece : List α} (whole : piece.length = size)
    (rest : List α) : chunks size (piece ++ rest) = piece :: chunks size rest := by
  cases piece with
  | nil => exact absurd whole.symm (Nat.ne_of_gt positive)
  | cons item more =>
      have enough : rest.length ≤ (more ++ rest).length := by
        rw [List.length_append]
        exact Nat.le_add_left _ _
      show chunksFuel size ((more ++ rest).length + 1) (item :: (more ++ rest)) = _
      rw [chunksFuel, ← List.cons_append, List.take_left' whole, List.drop_left' whole,
        chunksFuel_eq positive rest _ enough]
      exact nofun

theorem chunks_flatMap (positive : 0 < size) {f : α -> List β} (whole : ∀ x, (f x).length = size)
    (items : List α) : chunks size (items.flatMap f) = items.map f := by
  induction items with
  | nil => rfl
  | cons x rest ih => rw [List.flatMap_cons, chunks_append positive (whole x), ih, List.map_cons]

/-- A list of whole pieces falls into pieces. -/
theorem exists_pieces (positive : 0 < size) (items : List α) (whole : size ∣ items.length) :
    (∀ piece ∈ chunks size items, piece.length = size) ∧ (chunks size items).flatten = items := by
  obtain ⟨count, length⟩ := whole
  induction count generalizing items with
  | zero =>
      obtain rfl := List.eq_nil_of_length_eq_zero (by simpa using length)
      exact ⟨nofun, rfl⟩
  | succ count ih =>
      have first : (items.take size).length = size := by
        rw [List.length_take, length, Nat.mul_succ]
        omega
      have rest := ih (items.drop size) (by rw [List.length_drop, length, Nat.mul_succ]; omega)
      have split := chunks_append positive first (items.drop size)
      rw [List.take_append_drop] at split
      rw [split, List.forall_mem_cons, List.flatten_cons, rest.2, List.take_append_drop]
      exact ⟨⟨first, rest.1⟩, rfl⟩

end Chunks

namespace Aes

theorem Block.length_toBytes (x : Block) : x.toBytes.length = 16 := rfl

theorem Block.ofBytes_toBytes (x : Block) : Block.ofBytes x.toBytes = x := rfl

theorem Block.toBytes_ofBytes {bytes : Bytes} (whole : bytes.length = 16) :
    (Block.ofBytes bytes).toBytes = bytes := by
  match bytes, whole with
  | [_, _, _, _, _, _, _, _, _, _, _, _, _, _, _, _], _ => rfl

end Aes

namespace Chain

open Aes (Block)

/-! ## Filling up -/

def fill (text : Bytes) : Nat := width - text.length % width

theorem fill_bounds (text : Bytes) : 0 < fill text ∧ fill text ≤ width := by
  have small : text.length % width < width := Nat.mod_lt _ (by decide)
  unfold fill
  omega

theorem padded_eq (text : Bytes) :
    padded text = text ++ List.replicate (fill text) (UInt8.ofNat (fill text)) := rfl

theorem length_padded (text : Bytes) : (padded text).length = text.length + fill text := by
  rw [padded_eq, List.length_append, List.length_replicate]

theorem dvd_length_padded (text : Bytes) : width ∣ (padded text).length := by
  have small : text.length % width < width := Nat.mod_lt _ (by decide)
  refine ⟨text.length / width + 1, ?_⟩
  rw [length_padded, fill, Nat.mul_succ]
  have split := Nat.div_add_mod text.length width
  omega

theorem width_le_length_padded (text : Bytes) : width ≤ (padded text).length := by
  refine Nat.le_of_dvd ?_ (dvd_length_padded text)
  rw [length_padded]
  exact Nat.add_pos_right _ (fill_bounds text).1

theorem unpadded?_padded (text : Bytes) : unpadded? (padded text) = some text := by
  obtain ⟨positive, small⟩ := fill_bounds text
  have value : (UInt8.ofNat (fill text)).toNat = fill text :=
    UInt8.toNat_ofNat_of_lt' (Nat.lt_of_le_of_lt small (by decide))
  have last : (padded text).getLast? = some (UInt8.ofNat (fill text)) := by
    rw [padded_eq, List.getLast?_append, List.getLast?_replicate, if_neg (Nat.ne_of_gt positive)]
    rfl
  have before : (padded text).length - fill text = text.length := by
    rw [length_padded, Nat.add_sub_cancel]
  unfold unpadded?
  rw [last]
  dsimp only
  rw [value, before, if_neg, padded_eq, List.drop_left, List.take_left, if_pos]
  · rw [List.all_eq_true]
    intro byte member
    rw [List.eq_of_mem_replicate member, beq_self_eq_true]
  · rw [length_padded]
    omega

/-! ## Blocks -/

theorem decipherBlocks_encipherBlocks (keys : List Block) (before : Block) (blocks : List Block) :
    decipherBlocks keys before (encipherBlocks keys before blocks) = blocks := by
  induction blocks generalizing before with
  | nil => rfl
  | cons block rest ih =>
      rw [encipherBlocks, decipherBlocks, Aes.decipher_encipher, Block.add_cancel, ih]

theorem length_encipherBlocks (keys : List Block) (before : Block) (blocks : List Block) :
    (encipherBlocks keys before blocks).length = blocks.length := by
  induction blocks generalizing before with
  | nil => rfl
  | cons block rest ih => rw [encipherBlocks, List.length_cons, List.length_cons, ih]

theorem blocksOf_toBytes (blocks : List Block) : blocksOf (blocks.flatMap Block.toBytes) = blocks := by
  rw [blocksOf, chunks_flatMap (show 0 < width by decide) Block.length_toBytes, List.map_map]
  exact List.map_id'' Block.ofBytes_toBytes blocks

theorem toBytes_blocksOf {bytes : Bytes} (whole : width ∣ bytes.length) :
    (blocksOf bytes).flatMap Block.toBytes = bytes := by
  obtain ⟨pieces, together⟩ := exists_pieces (by decide) bytes whole
  have same : (chunks width bytes).map (fun piece => (Block.ofBytes piece).toBytes) =
      chunks width bytes := by
    rw [List.map_congr_left fun piece member => Block.toBytes_ofBytes (pieces piece member),
      List.map_id']
  rw [blocksOf, List.flatMap_def, List.map_map]
  exact (congrArg List.flatten same).trans together

theorem length_toBytes (blocks : List Block) :
    (blocks.flatMap Block.toBytes).length = width * blocks.length := by
  induction blocks with
  | nil => rfl
  | cons block rest ih =>
      rw [List.flatMap_cons, List.length_append, ih, Block.length_toBytes, List.length_cons,
        Nat.mul_succ, Nat.add_comm]
      rfl

/-- Enciphering adds no more than what fills the text up. -/
theorem length_encipher (key start text : Bytes) :
    (encipher key start text).length = (padded text).length := by
  rw [encipher, length_toBytes, length_encipherBlocks, ← length_toBytes,
    toBytes_blocksOf (dvd_length_padded text)]

theorem decipher?_encipher (key start text : Bytes) :
    decipher? key start (encipher key start text) = some text := by
  have whole : (encipher key start text).length % width = 0 := by
    rw [length_encipher]
    exact Nat.mod_eq_zero_of_dvd (dvd_length_padded text)
  rw [decipher?, whole]
  simp only [bne_self_eq_false, Bool.false_eq_true, ↓reduceIte]
  rw [encipher, blocksOf_toBytes, decipherBlocks_encipherBlocks,
    toBytes_blocksOf (dvd_length_padded text), unpadded?_padded]

/-! ## What can be deciphered -/

theorem encipherBlocks_decipherBlocks (keys : List Block) (before : Block) (blocks : List Block) :
    encipherBlocks keys before (decipherBlocks keys before blocks) = blocks := by
  induction blocks generalizing before with
  | nil => rfl
  | cons block rest ih =>
      rw [decipherBlocks, encipherBlocks, Block.add_cancel, Aes.encipher_decipher, ih]

/-- The end of whole blocks that were filled up tells the only text they were filled up from. -/
theorem eq_padded_of_unpadded? {bytes text : Bytes} (whole : width ∣ bytes.length)
    (cut : unpadded? bytes = some text) : bytes = padded text := by
  unfold unpadded? at cut
  cases ending : bytes.getLast? with
  | none =>
      rw [ending] at cut
      cases cut
  | some last =>
      rw [ending] at cut
      dsimp only at cut
      split at cut
      · cases cut
      next bounds =>
        split at cut
        next same =>
          have short : last.toNat ≤ bytes.length := by omega
          have kept : text.length = bytes.length - last.toNat := by
            rw [← Option.some.inj cut, List.length_take, Nat.min_eq_left (Nat.sub_le _ _)]
          -- The text ends as far before the next whole block as the last byte tells.
          have added : fill text = last.toNat := by
            obtain ⟨count, length⟩ := whole
            rw [fill, kept, length]
            simp only [width] at bounds length ⊢
            omega
          have behind : bytes.drop (bytes.length - last.toNat) =
              List.replicate last.toNat last := by
            rw [List.eq_replicate_iff]
            refine ⟨?_, fun byte member => ?_⟩
            · rw [List.length_drop]
              omega
            · simpa using List.all_eq_true.1 same byte member
          rw [padded_eq, added, UInt8.ofNat_toNat, ← behind, ← Option.some.inj cut,
            List.take_append_drop]
        · cases cut

/-- Nothing is deciphered to a text but what enciphering the text gives. -/
theorem decipher?_eq_some_iff {key start bytes text : Bytes} :
    decipher? key start bytes = some text ↔ bytes = encipher key start text := by
  constructor
  · intro opened
    unfold decipher? at opened
    split at opened
    · cases opened
    next whole =>
      have blocks : width ∣ bytes.length := Nat.dvd_of_mod_eq_zero (by simpa using whole)
      have filled := eq_padded_of_unpadded? (by
        rw [length_toBytes]
        exact Nat.dvd_mul_right _ _) opened
      rw [encipher, ← filled, blocksOf_toBytes, encipherBlocks_decipherBlocks, toBytes_blocksOf blocks]
  · rintro rfl
    exact decipher?_encipher key start text

end Chain

end ScriptOracle.Crypto
