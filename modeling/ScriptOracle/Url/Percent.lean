import ScriptOracle.Text.Utf8

/-!
# Percent-encoding

A byte that a part of an address may not hold is written as a percent sign and two capital
hexadecimal digits. What a part may hold is a predicate on bytes; no part holds control characters
or anything beyond ASCII.
-/

namespace ScriptOracle.Percent

/-- The capital digit of a number below sixteen. -/
def digit (value : Nat) : Char :=
  if value < 10 then Char.ofNat (0x30 + value) else Char.ofNat (0x37 + value)

/-- The value of a digit of either case, given as the byte that stands for it. -/
def value? (byte : UInt8) : Option Nat :=
  if 0x30 ≤ byte ∧ byte ≤ 0x39 then some (byte.toNat - 0x30)
  else if 0x61 ≤ byte ∧ byte ≤ 0x66 then some (byte.toNat - 0x57)
  else if 0x41 ≤ byte ∧ byte ≤ 0x46 then some (byte.toNat - 0x37)
  else none

def triple (byte : UInt8) : List Char :=
  ['%', digit (byte.toNat / 16), digit (byte.toNat % 16)]

def printable (byte : UInt8) : Bool := 0x20 ≤ byte && byte < 0x7F

def allBut (barred : List Char) (byte : UInt8) : Bool :=
  printable byte && !barred.contains (Char.ofNat byte.toNat)

def inPlain : UInt8 -> Bool := printable

def inFragment : UInt8 -> Bool := allBut [' ', '"', '<', '>', '\x60']

def inQuery : UInt8 -> Bool := allBut [' ', '"', '#', '<', '>']

def inWebQuery : UInt8 -> Bool := allBut [' ', '"', '#', '<', '>', '\'']

def inPath : UInt8 -> Bool := allBut [' ', '"', '<', '>', '\x60', '#', '?', '{', '}']

def inUserInfo : UInt8 -> Bool :=
  allBut [' ', '"', '<', '>', '\x60', '#', '?', '{', '}', '/', ':', ';', '=', '@', '[', '\\', ']', '^',
    '|']

def encodeBytes (allowed : UInt8 -> Bool) (bytes : Bytes) : List Char :=
  bytes.flatMap fun byte => if allowed byte then [Char.ofNat byte.toNat] else triple byte

def encode (allowed : UInt8 -> Bool) (chars : List Char) : List Char :=
  encodeBytes allowed (Text.utf8 (String.ofList chars))

/-- The bytes that percent signs stand for; a percent sign without two digits stands for itself. -/
def decode : Bytes -> Bytes
  | [] => []
  | [a] => [a]
  | [a, b] => [a, b]
  | mark :: high :: low :: rest =>
    if mark = 0x25 then
      match value? high, value? low with
      | some h, some l => UInt8.ofNat (16 * h + l) :: decode rest
      | _, _ => mark :: decode (high :: low :: rest)
    else mark :: decode (high :: low :: rest)

end ScriptOracle.Percent
