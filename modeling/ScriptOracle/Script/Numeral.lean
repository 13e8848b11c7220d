import ScriptOracle.Number.Decimal
import ScriptOracle.Script.Units

/-!
# Numbers of scripts

A number is kept as a whole number of thirty-two bits where it arose as one and as a double
everywhere else. The two kinds compare alike, but the text of data made from them tells them apart, so
that arithmetic has to keep track of the kind.
-/

namespace ScriptOracle.Script

/-- A number: a whole number of thirty-two bits, or a double. -/
inductive Numeral where
  | int (value : Int)
  | float (value : Float)
deriving DecidableEq

namespace Numeral

/-- Whether a whole number fits thirty-two bits. -/
def fits (n : Int) : Bool := -(1 <<< 31 : Nat) ≤ n && n < (1 <<< 31 : Nat)

/-- A whole number; a double if it does not fit. -/
def ofInt (n : Int) : Numeral := if fits n then .int n else .float (Double.ofInt n)

/-- Whether a double is zero with its sign bit set. -/
def isNegativeZero (x : Float) : Bool := x == 0 && Double.isNegative x

/-- A double, as a whole number if it is one that fits. -/
def ofWhole (x : Float) : Numeral :=
  match Double.integer? x with
  | some n => if fits n && !isNegativeZero x then .int n else .float x
  | none => .float x

def toDouble : Numeral -> Float
  | .int n => Double.ofInt n
  | .float x => x

def isTrue : Numeral -> Bool
  | .int n => n != 0
  | .float x => !(x == 0 || Double.isNaN x)

def text : Numeral -> Units
  | .int n => Units.ofInt n
  | .float x => Units.ofText (Double.Layout.script.render x)

def add : Numeral -> Numeral -> Numeral
  | .int a, .int b => ofInt (a + b)
  | a, b => .float (a.toDouble + b.toDouble)

def subtract : Numeral -> Numeral -> Numeral
  | .int a, .int b => ofInt (a - b)
  | a, b => .float (a.toDouble - b.toDouble)

/-- The product. A product of whole numbers that is zero with a sign is a double. -/
def multiply : Numeral -> Numeral -> Numeral
  | .int a, .int b =>
    if fits (a * b) && (a * b != 0 || (0 ≤ a && 0 ≤ b)) then .int (a * b)
    else .float (Double.ofInt a * Double.ofInt b)
  | a, b => .float (a.toDouble * b.toDouble)

/-- The quotient; whole where a whole number divides another. -/
def divide : Numeral -> Numeral -> Numeral
  | .int a, .int b =>
    if b != 0 && a.tdiv b * b == a && fits (a.tdiv b) && (a != 0 || 0 < b) then .int (a.tdiv b)
    else .float (Double.ofInt a / Double.ofInt b)
  | a, b => .float (a.toDouble / b.toDouble)

/-- The remainder of magnitudes, each a whole number times a power of two. -/
def remainderOf (a b : Double.Dyadic) : Float :=
  let low := min a.exponent b.exponent
  let x := a.mantissa <<< (a.exponent - low).toNat
  let y := b.mantissa <<< (b.exponent - low).toNat
  let size := Float.scaleB (Double.ofInt (x % y)) low
  if a.negative then -size else size

def remainder : Numeral -> Numeral -> Numeral
  | .int a, .int b =>
    if b = 0 then .float Double.nan
    else if a.tmod b = 0 ∧ a < 0 then .float Double.negativeZero
    else .int (a.tmod b)
  | a, b =>
    match Double.dyadic? a.toDouble, Double.dyadic? b.toDouble with
    | some x, some y => .float (if y.mantissa = 0 then Double.nan else remainderOf x y)
    | some _, none =>
      .float (if Double.isNaN b.toDouble then Double.nan else a.toDouble)
    | none, _ => .float Double.nan

/-- `x` to a whole power, by squaring. -/
def squaring : Nat -> Float -> Nat -> Float -> Float
  | 0, _, _, result => result
  | fuel + 1, x, n, result =>
    let result := if n % 2 = 1 then result * x else result
    if n / 2 = 0 then result else squaring fuel (x * x) (n / 2) result

/-- `x` to the power of a whole number. -/
def wholePower (x : Float) (n : Int) : Float :=
  let size := squaring 64 x n.natAbs 1
  if n < 0 then 1 / size else size

/-- `a` to the power of `b` as long as it fits. -/
def smallPower? (a : Int) (b : Nat) : Option Int :=
  if a = 0 ∨ a = 1 then some (if b = 0 then 1 else a)
  else if a = -1 then some (if b % 2 = 0 then 1 else -1)
  else if 32 ≤ b then none
  else if fits (Int.pow a b) then some (Int.pow a b) else none

/-- `x` to the power of a double. -/
def doublePower (x y : Float) : Float :=
  if Double.isNaN y then Double.nan
  else if (x == 1 || x == -1) && Double.isInfinite y then Double.nan
  else Float.pow x y

def power : Numeral -> Numeral -> Numeral
  | .int a, .int b =>
    match (if 0 ≤ b then smallPower? a b.toNat else none) with
    | some n => .int n
    | none => .float (wholePower (Double.ofInt a) b)
  | .float x, .int b => .float (wholePower x b)
  | a, .float y => .float (doublePower a.toDouble y)

def negate : Numeral -> Numeral
  | .int n => if n = 0 then .float Double.negativeZero else ofInt (-n)
  | .float x => .float (-x)

def succ (n : Numeral) : Numeral := n.add (.int 1)

def pred (n : Numeral) : Numeral := n.subtract (.int 1)

/-- The value of a number without a fraction; nothing of one that is not finite. -/
def truncate? (n : Numeral) : Option Int :=
  match n with
  | .int n => some n
  | .float x => Double.truncate? x

/-- The byte of a number: its fraction is dropped, what exceeds sixty-four bits is cut off, and the
rest is taken modulo 256. -/
def toByte (n : Numeral) : UInt8 :=
  match n.truncate? with
  | none => 0
  | some n =>
    let bound : Int := (1 <<< 63 : Nat)
    let n := max (-bound) (min n (bound - 1))
    UInt8.ofNat (n % 256).toNat

def lengthBound : Nat := (1 <<< 53) - 1

/-- The length that a number stands for. -/
def toLength (n : Numeral) : Nat :=
  match n.truncate? with
  | some n => min n.toNat lengthBound
  | none =>
    match n with
    | .float x => if Double.isInfinite x && !Double.isNegative x then lengthBound else 0
    | .int _ => 0

/-- The value times a power of two that makes it whole, and that power. -/
def wholeParts (d : Double.Dyadic) : Int × Int :=
  let size : Int := d.mantissa <<< d.exponent.toNat
  (if d.negative then -size else size, (1 <<< (-d.exponent).toNat : Nat))

/-- The double of a whole number that replaces a finite one. Zero takes the sign of what it
replaces. -/
def inPlaceOf (d : Double.Dyadic) (n : Int) : Float :=
  if n = 0 then if d.negative then Double.negativeZero else 0 else Double.ofInt n

/-- A finite double replaced by a whole number made from its parts; others are kept. -/
def replaced (f : Int -> Int -> Int) (n : Numeral) : Numeral :=
  match Double.dyadic? n.toDouble with
  | none => n
  | some d =>
    let parts := wholeParts d
    .float (inPlaceOf d (f parts.1 parts.2))

/-- The greatest whole number that is not above. -/
def floor : Numeral -> Numeral := replaced Int.fdiv

/-- The least whole number that is not below. -/
def ceil : Numeral -> Numeral := replaced fun a b => -Int.fdiv (-a) b

def truncated : Numeral -> Numeral := replaced Int.tdiv

/-- The nearest whole number; of two the upper. -/
def round : Numeral -> Numeral := replaced fun a b => Int.fdiv (2 * a + b) (2 * b)

def magnitude (n : Numeral) : Numeral :=
  if Double.isNegative n.toDouble then .float (-n.toDouble) else .float n.toDouble

end Numeral

end ScriptOracle.Script
