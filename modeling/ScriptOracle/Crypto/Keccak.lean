import ScriptOracle.Word256

/-!
# The sponge hash of 256 bits

A state of five by five lanes of sixty-four bits is permuted by twenty-four rounds. The message is
taken in 136 bytes at a time, with the first padding byte `0x01` and the last one's top bit set.
-/

namespace ScriptOracle.Crypto.Keccak

def constants : List UInt64 := [
  0x0000000000000001, 0x0000000000008082, 0x800000000000808A, 0x8000000080008000,
  0x000000000000808B, 0x0000000080000001, 0x8000000080008081, 0x8000000000008009,
  0x000000000000008A, 0x0000000000000088, 0x0000000080008009, 0x000000008000000A,
  0x000000008000808B, 0x800000000000008B, 0x8000000000008089, 0x8000000000008003,
  0x8000000000008002, 0x8000000000000080, 0x000000000000800A, 0x800000008000000A,
  0x8000000080008081, 0x8000000000008080, 0x0000000080000001, 0x8000000080008008]

def turns : Array UInt64 := #[
  0, 1, 62, 28, 27, 36, 44, 6, 55, 20, 3, 10, 43, 25, 39, 41, 45, 15, 21, 8, 18, 2, 61, 56, 14]

def turned (x n : UInt64) : UInt64 := if n = 0 then x else (x <<< n) ||| (x >>> (64 - n))

/-- The lane at a column and a row, both modulo five. -/
def lane (state : Array UInt64) (x y : Nat) : UInt64 := state.getD (x % 5 + 5 * (y % 5)) 0

/-- The lanes given by a function of column and row. -/
def build (f : Nat -> Nat -> UInt64) : Array UInt64 :=
  ((List.range 25).map fun i => f (i % 5) (i / 5)).toArray

def column (state : Array UInt64) (x : Nat) : UInt64 :=
  lane state x 0 ^^^ lane state x 1 ^^^ lane state x 2 ^^^ lane state x 3 ^^^ lane state x 4

def mixColumns (state : Array UInt64) : Array UInt64 :=
  let columns := ((List.range 5).map (column state)).toArray
  let change := ((List.range 5).map fun x =>
    columns.getD ((x + 4) % 5) 0 ^^^ turned (columns.getD ((x + 1) % 5) 0) 1).toArray
  build fun x y => lane state x y ^^^ change.getD x 0

def turnAndMove (state : Array UInt64) : Array UInt64 :=
  build fun x y =>
    let source := (x + 3 * y) % 5
    turned (lane state source x) (turns.getD (source + 5 * x) 0)

def mixRows (state : Array UInt64) : Array UInt64 :=
  build fun x y => lane state x y ^^^ (~~~ lane state (x + 1) y &&& lane state (x + 2) y)

def round (state : Array UInt64) (constant : UInt64) : Array UInt64 :=
  (mixRows (turnAndMove (mixColumns state))).modify 0 (· ^^^ constant)

def permute (state : Array UInt64) : Array UInt64 := constants.foldl round state

def rate : Nat := 136

def padded (message : Bytes) : Bytes :=
  let fill := rate - message.length % rate
  message ++ (if fill = 1 then [0x81] else 0x01 :: List.replicate (fill - 2) 0 ++ [0x80])

def absorb (state : Array UInt64) (block : Bytes) : Array UInt64 :=
  let lanes := ((chunks 8 block).map fun bytes => UInt64.ofNat (ofLittleEndian bytes)).toArray
  permute (build fun x y => lane state x y ^^^ lanes.getD (x + 5 * y) 0)

def hash (message : Bytes) : Bytes :=
  let state := (chunks rate (padded message)).foldl absorb (Array.replicate 25 0)
  (state.toList.take 4).flatMap fun word => littleEndian 8 word.toNat

end ScriptOracle.Crypto.Keccak
