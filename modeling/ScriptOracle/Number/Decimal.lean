import ScriptOracle.Number.Double

/-!
# Reading decimal numbers

A decimal number is digits, perhaps with a point among them, perhaps with an exponent. `Double.read?` gives
the nearest double. A whole number that people write for a program is digits alone, or digits behind a sign.
-/

namespace ScriptOracle.Double

def ofDigits (base : Nat) (values : List Nat) : Nat := values.foldl (fun n d => base * n + d) 0

def digitValues (digits : List Char) : List Nat := digits.map fun c => c.toNat - 0x30

/-- A decimal number taken apart. -/
structure Decimal where
  whole : List Char
  fraction : List Char
  exponent : Int
deriving DecidableEq, Repr

def Decimal.toDouble (d : Decimal) : Float :=
  ofDecimal (ofDigits 10 (digitValues (d.whole ++ d.fraction))) (d.exponent - d.fraction.length)

/-- The exponent behind its letter: digits with or without a sign, and nothing else. -/
def exponent? (chars : List Char) : Option Int :=
  let (negative, digits) := match chars with
    | '-' :: rest => (true, rest)
    | '+' :: rest => (false, rest)
    | rest => (false, rest)
  if digits.isEmpty || !digits.all Char.isDigit then none
  else
    let size : Int := ofDigits 10 (digitValues digits)
    some (if negative then -size else size)

/-- Takes a number without a sign apart. -/
def decimal? (chars : List Char) : Option Decimal :=
  let whole := chars.takeWhile Char.isDigit
  let rest := chars.dropWhile Char.isDigit
  let (fraction, rest) := match rest with
    | '.' :: more => (more.takeWhile Char.isDigit, more.dropWhile Char.isDigit)
    | other => ([], other)
  if whole.isEmpty && fraction.isEmpty then none
  else
    match rest with
    | [] => some ⟨whole, fraction, 0⟩
    | mark :: rest =>
      if mark = 'e' ∨ mark = 'E' then (exponent? rest).map fun e => ⟨whole, fraction, e⟩ else none

def splitSign : List Char -> Bool × List Char
  | '-' :: rest => (true, rest)
  | '+' :: rest => (false, rest)
  | rest => (false, rest)

/-- The double that a text writes: a decimal number, or the word for infinity, with or without a
sign. -/
def read? (chars : List Char) : Option Float :=
  let (negative, body) := splitSign chars
  let size? :=
    if body = "Infinity".toList then some infinity else (decimal? body).map Decimal.toDouble
  size?.map fun size => if negative then -size else size

end ScriptOracle.Double

namespace ScriptOracle.Whole

def digit? (c : Char) : Option Nat :=
  if '0' ≤ c ∧ c ≤ '9' then some (c.toNat - '0'.toNat) else none

def extend (soFar : Nat) : List Char -> Option Nat
  | [] => some soFar
  | c :: rest =>
    match digit? c with
    | some digit => extend (10 * soFar + digit) rest
    | none => none

/-- The number of digits; there is at least one. -/
def ofDigits? : List Char -> Option Nat
  | [] => none
  | chars => extend 0 chars

/-- A number below a bound, perhaps behind a plus sign. -/
def read? (bound : Nat) (text : String) : Option Nat :=
  let number :=
    match text.toList with
    | '+' :: rest => ofDigits? rest
    | chars => ofDigits? chars
  number.filter (· < bound)

def readSigned? (text : String) : Option Int :=
  match text.toList with
  | '+' :: rest => (ofDigits? rest).map Int.ofNat
  | '-' :: rest => (ofDigits? rest).map fun n => -(n : Int)
  | chars => (ofDigits? chars).map Int.ofNat

end ScriptOracle.Whole
