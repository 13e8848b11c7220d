import ScriptOracle.Word256

/-!
# The tree hash

The message is cut into chunks of 1024 bytes, each chunk into blocks of sixty-four. A chunk's blocks
are compressed one after the other; the results of the chunks are joined two by two in a tree whose
left half is always the greatest full one. The root alone is marked as such.
-/

namespace ScriptOracle.Crypto.Blake3

def initial : List UInt32 := [
  0x6A09E667, 0xBB67AE85, 0x3C6EF372, 0xA54FF53A, 0x510E527F, 0x9B05688C, 0x1F83D9AB, 0x5BE0CD19]

/-- Where each message word comes from in the next round. -/
def order : List Nat := [2, 6, 3, 10, 7, 0, 4, 13, 1, 11, 12, 5, 9, 14, 15, 8]

/-- The mark of the first block of a chunk. -/
def chunkStart : UInt32 := 1

/-- The mark of the last block of a chunk. -/
def chunkEnd : UInt32 := 2

def parent : UInt32 := 4

def root : UInt32 := 8

def turned (x n : UInt32) : UInt32 := (x >>> n) ||| (x <<< (32 - n))

/-- Mixes four words of the state with two of the message. -/
def mix (v : Array UInt32) (a b c d : Nat) (x y : UInt32) : Array UInt32 :=
  let va := v.getD a 0 + v.getD b 0 + x
  let vd := turned (v.getD d 0 ^^^ va) 16
  let vc := v.getD c 0 + vd
  let vb := turned (v.getD b 0 ^^^ vc) 12
  let va := va + vb + y
  let vd := turned (vd ^^^ va) 8
  let vc := vc + vd
  let vb := turned (vb ^^^ vc) 7
  (((v.setIfInBounds a va).setIfInBounds b vb).setIfInBounds c vc).setIfInBounds d vd

def round (v m : Array UInt32) : Array UInt32 :=
  let word := fun i => m.getD i 0
  let v := mix v 0 4 8 12 (word 0) (word 1)
  let v := mix v 1 5 9 13 (word 2) (word 3)
  let v := mix v 2 6 10 14 (word 4) (word 5)
  let v := mix v 3 7 11 15 (word 6) (word 7)
  let v := mix v 0 5 10 15 (word 8) (word 9)
  let v := mix v 1 6 11 12 (word 10) (word 11)
  let v := mix v 2 7 8 13 (word 12) (word 13)
  mix v 3 4 9 14 (word 14) (word 15)

/-- Rounds with the message words put in a new order after each. -/
def rounds : Nat -> Array UInt32 -> Array UInt32 -> Array UInt32
  | 0, v, _ => v
  | count + 1, v, m =>
    rounds count (round v m) ((order.map fun i => m.getD i 0).toArray)

/-- A node that has still to be compressed. -/
structure Node where
  chain : List UInt32
  block : Bytes
  length : Nat
  counter : Nat
  marks : UInt32

def Node.compress (node : Node) : List UInt32 :=
  let words := (chunks 4 (zeroFilled 64 node.block)).map fun bytes =>
    UInt32.ofNat (ofLittleEndian bytes)
  let v := rounds 7 (node.chain ++ initial.take 4 ++
    [UInt32.ofNat (node.counter % (1 <<< 32)), UInt32.ofNat (node.counter >>> 32),
      UInt32.ofNat node.length, node.marks]).toArray words.toArray
  (List.range 8).map fun i => v.getD i 0 ^^^ v.getD (i + 8) 0

def wordBytes (words : List UInt32) : Bytes :=
  words.flatMap fun word => littleEndian 4 word.toNat

/-- The last node of a chunk whose blocks are given. -/
def chunkNode (counter : Nat) (chain : List UInt32) (start : UInt32) : List Bytes -> Node
  | [] => ⟨chain, [], 0, counter, start ||| chunkEnd⟩
  | [block] => ⟨chain, block, block.length, counter, start ||| chunkEnd⟩
  | block :: rest =>
    chunkNode counter (Node.compress ⟨chain, block, block.length, counter, start⟩) 0 rest

def parentNode (left right : Node) : Node :=
  ⟨initial, wordBytes left.compress ++ wordBytes right.compress, 64, 0, parent⟩

/-- The greatest power of two below a count of at least two. -/
def leftSize (count : Nat) : Nat := 1 <<< Nat.log2 (count - 1)

def tree : Nat -> List Node -> Node
  | _, [] => chunkNode 0 initial chunkStart []
  | _, [node] => node
  | 0, node :: _ => node
  | fuel + 1, nodes =>
    let left := leftSize nodes.length
    parentNode (tree fuel (nodes.take left)) (tree fuel (nodes.drop left))

def chunkNodes (counter : Nat) : List Bytes -> List Node
  | [] => []
  | chunk :: rest =>
    chunkNode counter initial chunkStart (chunks 64 chunk) :: chunkNodes (counter + 1) rest

def hash (message : Bytes) : Bytes :=
  let nodes := chunkNodes 0 (chunks 1024 message)
  let top := tree nodes.length nodes
  wordBytes ({ top with marks := top.marks ||| root } : Node).compress

end ScriptOracle.Crypto.Blake3
