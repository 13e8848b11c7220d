import ScriptOracle.Word256

/-!
# The hash of 256 bits

The message is padded to blocks of sixty-four bytes. Each block is spread over sixty-four words, and
sixty-four rounds mix them into a state of eight words. Under a key the message is hashed twice, so that
only those who know the key can make its hash.
-/

namespace ScriptOracle.Crypto.Sha256

def constants : Array UInt32 := #[
  0x428A2F98, 0x71374491, 0xB5C0FBCF, 0xE9B5DBA5, 0x3956C25B, 0x59F111F1,
  0x923F82A4, 0xAB1C5ED5, 0xD807AA98, 0x12835B01, 0x243185BE, 0x550C7DC3,
  0x72BE5D74, 0x80DEB1FE, 0x9BDC06A7, 0xC19BF174, 0xE49B69C1, 0xEFBE4786,
  0x0FC19DC6, 0x240CA1CC, 0x2DE92C6F, 0x4A7484AA, 0x5CB0A9DC, 0x76F988DA,
  0x983E5152, 0xA831C66D, 0xB00327C8, 0xBF597FC7, 0xC6E00BF3, 0xD5A79147,
  0x06CA6351, 0x14292967, 0x27B70A85, 0x2E1B2138, 0x4D2C6DFC, 0x53380D13,
  0x650A7354, 0x766A0ABB, 0x81C2C92E, 0x92722C85, 0xA2BFE8A1, 0xA81A664B,
  0xC24B8B70, 0xC76C51A3, 0xD192E819, 0xD6990624, 0xF40E3585, 0x106AA070,
  0x19A4C116, 0x1E376C08, 0x2748774C, 0x34B0BCB5, 0x391C0CB3, 0x4ED8AA4A,
  0x5B9CCA4F, 0x682E6FF3, 0x748F82EE, 0x78A5636F, 0x84C87814, 0x8CC70208,
  0x90BEFFFA, 0xA4506CEB, 0xBEF9A3F7, 0xC67178F2]

structure State where
  a : UInt32
  b : UInt32
  c : UInt32
  d : UInt32
  e : UInt32
  f : UInt32
  g : UInt32
  h : UInt32

/-- The state before the first block. -/
def initial : State where
  a := 0x6A09E667
  b := 0xBB67AE85
  c := 0x3C6EF372
  d := 0xA54FF53A
  e := 0x510E527F
  f := 0x9B05688C
  g := 0x1F83D9AB
  h := 0x5BE0CD19

def turned (x n : UInt32) : UInt32 := (x >>> n) ||| (x <<< (32 - n))

/-- The message words of a block, extended to one for each round. -/
def extend : Nat -> Array UInt32 -> Array UInt32
  | 0, words => words
  | count + 1, words =>
    let i := words.size
    let x := words.getD (i - 15) 0
    let y := words.getD (i - 2) 0
    let small := turned x 7 ^^^ turned x 18 ^^^ (x >>> 3)
    let large := turned y 17 ^^^ turned y 19 ^^^ (y >>> 10)
    extend count
      (words.push (words.getD (i - 16) 0 + small + words.getD (i - 7) 0 + large))

def round (s : State) (constant word : UInt32) : State :=
  let mixed := turned s.e 6 ^^^ turned s.e 11 ^^^ turned s.e 25
  let choice := (s.e &&& s.f) ^^^ (~~~ s.e &&& s.g)
  let first := s.h + mixed + choice + constant + word
  let turnedA := turned s.a 2 ^^^ turned s.a 13 ^^^ turned s.a 22
  let majority := (s.a &&& s.b) ^^^ (s.a &&& s.c) ^^^ (s.b &&& s.c)
  ⟨first + turnedA + majority, s.a, s.b, s.c, s.d + first, s.e, s.f, s.g⟩

def rounds (words : Array UInt32) : Nat -> Nat -> State -> State
  | 0, _, s => s
  | count + 1, index, s =>
    rounds words count (index + 1) (round s (constants.getD index 0) (words.getD index 0))

/-- Takes in one block of sixteen words. -/
def absorb (s : State) (block : List UInt32) : State :=
  let words := extend 48 block.toArray
  let t := rounds words 64 0 s
  ⟨s.a + t.a, s.b + t.b, s.c + t.c, s.d + t.d, s.e + t.e, s.f + t.f, s.g + t.g, s.h + t.h⟩

/-- The message with its end marked and its length in bits behind it. -/
def padded (message : Bytes) : Bytes :=
  let fill := (64 - (message.length + 9) % 64) % 64
  message ++ 0x80 :: List.replicate fill 0 ++ Word256.bigEndian 8 (8 * message.length)

def State.words (s : State) : List UInt32 := [s.a, s.b, s.c, s.d, s.e, s.f, s.g, s.h]

def hash (message : Bytes) : Bytes :=
  let words := (chunks 4 (padded message)).map fun bytes =>
    UInt32.ofNat (Word256.ofBigEndian bytes)
  let final := (chunks 16 words).foldl absorb initial
  final.words.flatMap fun word => Word256.bigEndian 4 word.toNat

end ScriptOracle.Crypto.Sha256

namespace ScriptOracle.Crypto.Hmac

/-- The number of bytes that a key is brought to. -/
def width : Nat := 64

def block (key : Bytes) : Bytes :=
  zeroFilled width (if width < key.length then Sha256.hash key else key)

def hash (key message : Bytes) : Bytes :=
  let outer := (block key).map (· ^^^ 0x5C)
  let inner := (block key).map (· ^^^ 0x36)
  Sha256.hash (outer ++ Sha256.hash (inner ++ message))

end ScriptOracle.Crypto.Hmac
