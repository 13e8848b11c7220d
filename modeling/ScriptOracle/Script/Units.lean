import ScriptOracle.Number.Layout
import ScriptOracle.Text.Utf8

/-!
# Text as a script sees it

A script's text is a list of sixteen-bit units and may hold half of a pair. `ofText` makes two units
of a character beyond the first 65536; `toText` puts pairs together again and writes a half that
stands alone as `\u` and four capital digits. What is text comes back as it was.
-/

namespace ScriptOracle.Script

/-- The text of a script, in units of sixteen bits. -/
abbrev Units := List UInt16

namespace Units

def ofChar (c : Char) : Units :=
  if c.toNat < 0x10000 then [UInt16.ofNat c.toNat]
  else
    let rest := c.toNat - 0x10000
    [UInt16.ofNat (0xD800 + rest / 0x400), UInt16.ofNat (0xDC00 + rest % 0x400)]

def ofChars (chars : List Char) : Units := chars.flatMap ofChar

def ofText (text : String) : Units := ofChars text.toList

/-- Whether a unit is the first half of a pair. -/
def isHigh (unit : UInt16) : Bool := 0xD800 ≤ unit && unit < 0xDC00

def isLow (unit : UInt16) : Bool := 0xDC00 ≤ unit && unit < 0xE000

def ofPair (high low : UInt16) : Char :=
  Char.ofNat (0x10000 + (high.toNat - 0xD800) * 0x400 + (low.toNat - 0xDC00))

/-- The capital hexadecimal digit of a number below sixteen. -/
def hexDigit (value : Nat) : Char :=
  if value < 10 then Char.ofNat (0x30 + value) else Char.ofNat (0x37 + value)

/-- How a half that stands alone is written. -/
def escaped (unit : UInt16) : List Char :=
  let n := unit.toNat
  ['\\', 'u', hexDigit (n / 4096 % 16), hexDigit (n / 256 % 16), hexDigit (n / 16 % 16),
    hexDigit (n % 16)]

def single (unit : UInt16) : List Char :=
  if isHigh unit || isLow unit then escaped unit else [Char.ofNat unit.toNat]

def toChars : Units -> List Char
  | [] => []
  | [unit] => single unit
  | high :: low :: rest =>
    if isHigh high && isLow low then ofPair high low :: toChars rest
    else single high ++ toChars (low :: rest)

def toText (units : Units) : String := String.ofList (toChars units)

/-- Units in order of their numbers. -/
def less : Units -> Units -> Bool
  | _, [] => false
  | [], _ :: _ => true
  | x :: xs, y :: ys => x < y || (x == y && less xs ys)

def digit? (unit : UInt16) : Option Nat :=
  if 0x30 ≤ unit && unit ≤ 0x39 then some (unit.toNat - 0x30) else none

/-- The number that digits write, behind a number already read. -/
def digits? (soFar : Nat) : Units -> Option Nat
  | [] => some soFar
  | unit :: rest => (digit? unit).bind fun d => digits? (10 * soFar + d) rest

/-- The greatest index is one below this. -/
def indexBound : Nat := (1 <<< 32) - 1

/-- The index that a property name is, if it is one: decimal digits without a leading zero. -/
def index? (name : Units) : Option Nat :=
  match name with
  | [] => none
  | [unit] => digit? unit
  | first :: rest =>
    if first = 0x30 ∨ 10 < name.length then none
    else (digits? 0 (first :: rest)).filter (· < indexBound)

def ofNat (n : Nat) : Units := ofChars (Double.decimal n)

def ofInt (n : Int) : Units :=
  if n < 0 then ofChars ('-' :: Double.decimal n.natAbs) else ofNat n.natAbs

end Units

end ScriptOracle.Script
