import ScriptOracle.Number.Double
import ScriptOracle.Text.Utf8

/-!
# Words of 256 bits

The answers that a consumer on a chain can read: unsigned numbers below `2 ^ 256` and numbers in
two's complement from `-2 ^ 255` up, each as thirty-two bytes with the greatest first, and texts as
their UTF-8 bytes. Hashes and ciphers take their input in pieces of one size, and count some bytes from the
least on.
-/

namespace ScriptOracle.Word256

def width : Nat := 32

def modulus : Nat := 1 <<< 256

/-- A number below `256 ^ count` in `count` bytes, the greatest first; greater numbers wrap. -/
def bigEndian (count n : Nat) : Bytes :=
  match count with
  | 0 => []
  | count + 1 => UInt8.ofNat (n / Nat.pow 256 count % 256) :: bigEndian count n

@[simp] theorem length_bigEndian (count n : Nat) : (bigEndian count n).length = count := by
  induction count with
  | zero => rfl
  | succ count ih => simp [bigEndian, ih]

/-- The number that bytes write, the greatest first. -/
def ofBigEndian (bytes : Bytes) : Nat := bytes.foldl (fun n byte => 256 * n + byte.toNat) 0

inductive Operand where
  | number (value : Float)
  | integer (value : Int)
  | text (value : String)
  /-- Any other value, by the name of its type. -/
  | other (type : String)

inductive Encoder where
  | unsigned
  | signed
  | text
deriving DecidableEq, Repr

def Encoder.name : Encoder -> String
  | .unsigned => "encodeUint256"
  | .signed => "encodeInt256"
  | .text => "encodeString"

/-- What an encoder says about an operand that it refuses. -/
def Encoder.complaint (encoder : Encoder) : String := s!"{encoder.name} invalid input"

/-- The whole number that an operand is, if it is one. -/
def Operand.integer? : Operand -> Option Int
  | .number x => Double.integer? x
  | .integer n => some n
  | _ => none

/-- The bytes of a number, the greatest first, without zeros before them; zero is a single byte. -/
def shortest (n : Nat) : Bytes :=
  if n < 256 then [UInt8.ofNat n] else shortest (n / 256) ++ [UInt8.ofNat (n % 256)]

/-- The word that ends in the last bytes of a byte string, behind zeros. -/
def leftPad (bytes : Bytes) : Bytes :=
  let tail := bytes.drop (bytes.length - width)
  List.replicate (width - tail.length) 0 ++ tail

def encodeUnsigned? (n : Int) : Option Bytes :=
  if 0 ≤ n ∧ n < modulus then some (leftPad (shortest n.toNat)) else none

/-- The word of a number in two's complement. -/
def encodeSigned? (n : Int) : Option Bytes :=
  if -(1 <<< 255 : Nat) ≤ n ∧ n < (1 <<< 255 : Nat) then
    some (leftPad (shortest (if n < 0 then (modulus + n).toNat else n.toNat)))
  else none

/-- The bytes of an operand, unless the encoder refuses it. -/
def Encoder.encode? (encoder : Encoder) (operand : Operand) : Option Bytes :=
  match encoder, operand with
  | .unsigned, operand => operand.integer?.bind encodeUnsigned?
  | .signed, operand => operand.integer?.bind encodeSigned?
  | .text, .text value => some (Text.utf8 value)
  | .text, _ => none

def decodeUnsigned (bytes : Bytes) : Int := ofBigEndian bytes

/-- The number of a byte string in two's complement. Only a full word has a sign. -/
def decodeSigned (bytes : Bytes) : Int :=
  if bytes.length = width ∧ 128 ≤ (bytes.headD 0).toNat then (ofBigEndian bytes : Int) - modulus
  else ofBigEndian bytes

end ScriptOracle.Word256

namespace ScriptOracle.Crypto

/-- The pieces of `size` items; the last one may be shorter. -/
def chunksFuel {α : Type} (size : Nat) : Nat -> List α -> List (List α)
  | 0, _ => []
  | _, [] => []
  | fuel + 1, items => items.take size :: chunksFuel size fuel (items.drop size)

/-- The pieces of `size` items; the last one may be shorter. -/
def chunks {α : Type} (size : Nat) (items : List α) : List (List α) :=
  chunksFuel size items.length items

/-- The number that bytes write, the least first. -/
def ofLittleEndian : Bytes -> Nat
  | [] => 0
  | byte :: rest => byte.toNat + 256 * ofLittleEndian rest

/-- A number in `count` bytes, the least first. -/
def littleEndian : Nat -> Nat -> Bytes
  | 0, _ => []
  | count + 1, n => UInt8.ofNat (n % 256) :: littleEndian count (n / 256)

def zeroFilled (length : Nat) (bytes : Bytes) : Bytes :=
  bytes ++ List.replicate (length - bytes.length) 0

end ScriptOracle.Crypto
