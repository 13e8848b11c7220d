import ScriptOracle.Text.Utf8

/-!
# Hexadecimal digits

Bytes are written as two lower-case digits each. Digits of either case are read back two at a
time; an odd count is refused first, then the first character that is no digit.
-/

namespace ScriptOracle.Hexadecimal

/-- The lower-case digit of a number below sixteen. -/
def digit (value : Nat) : Char :=
  if value < 10 then Char.ofNat (0x30 + value) else Char.ofNat (0x57 + value)

def digits (bytes : Bytes) : List Char :=
  bytes.flatMap fun byte => [digit (byte.toNat / 16), digit (byte.toNat % 16)]

def encode (bytes : Bytes) : String := String.ofList (digits bytes)

/-- The value of a digit, given as the byte that stands for it. -/
def value? (byte : UInt8) : Option Nat :=
  if 0x30 ≤ byte ∧ byte ≤ 0x39 then some (byte.toNat - 0x30)
  else if 0x61 ≤ byte ∧ byte ≤ 0x66 then some (byte.toNat - 0x57)
  else if 0x41 ≤ byte ∧ byte ≤ 0x46 then some (byte.toNat - 0x37)
  else none

inductive Fault where
  | oddLength
  | badDigit (byte : UInt8) (position : Nat)
deriving DecidableEq, Repr

private def codePoint (value : Nat) : String := String.ofList (Nat.toDigits 16 value)

/-- A byte shown as the character with its number, in quotes. What cannot be seen is escaped. -/
def quoted (byte : UInt8) : String :=
  let inner :=
    if byte = 0 then "\\0"
    else if byte = 9 then "\\t"
    else if byte = 10 then "\\n"
    else if byte = 13 then "\\r"
    else if byte = 0x27 then "\\'"
    else if byte = 0x5C then "\\\\"
    else if byte < 0x20 ∨ (0x7F ≤ byte ∧ byte ≤ 0xA0) ∨ byte = 0xAD then
      "\\u\x7b" ++ codePoint byte.toNat ++ "\x7d"
    else String.singleton (Char.ofNat byte.toNat)
  "'" ++ inner ++ "'"

def Fault.message : Fault -> String
  | .oddLength => "Odd number of digits"
  | .badDigit byte position =>
    "Invalid character " ++ quoted byte ++ " at position " ++ toString position

/-- Reads pairs of digits; `position` counts the characters before them. -/
def decodePairs (position : Nat) : Bytes -> Except Fault Bytes
  | [] => .ok []
  | [_] => .error .oddLength
  | high :: low :: rest =>
    match value? high, value? low with
    | none, _ => .error (.badDigit high position)
    | some _, none => .error (.badDigit low (position + 1))
    | some h, some l => do
      let bytes ← decodePairs (position + 2) rest
      pure (UInt8.ofNat (16 * h + l) :: bytes)

/-- The bytes that a text of digits stands for. -/
def decode (text : Bytes) : Except Fault Bytes :=
  if text.length % 2 = 1 then .error .oddLength else decodePairs 0 text

/-- The bytes that a text of digits stands for. -/
def decodeText (text : String) : Except Fault Bytes := decode (Text.utf8 text)

end ScriptOracle.Hexadecimal
