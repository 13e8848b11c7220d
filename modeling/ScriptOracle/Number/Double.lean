/-!
# Exact values of doubles

A finite double is a whole number times a power of two. `Double.dyadic?` reads the two off the bit
pattern; whole values, truncation and the bounds of rounding are all stated on them, so that nothing
here depends on inexact arithmetic.
-/

namespace ScriptOracle.Double

/-- The number `± mantissa * 2 ^ exponent`. -/
structure Dyadic where
  negative : Bool
  mantissa : Nat
  exponent : Int
deriving DecidableEq, Repr

def exponentField (x : Float) : Nat := (x.toBits.toNat >>> 52) % 2048

def fractionField (x : Float) : Nat := x.toBits.toNat % (1 <<< 52)

def isNegative (x : Float) : Bool := decide (1 <<< 63 ≤ x.toBits.toNat)

def isNaN (x : Float) : Bool := exponentField x == 2047 && fractionField x != 0

def isInfinite (x : Float) : Bool := exponentField x == 2047 && fractionField x == 0

def dyadic? (x : Float) : Option Dyadic :=
  if exponentField x = 2047 then none
  else if exponentField x = 0 then some ⟨isNegative x, fractionField x, -1074⟩
  else some ⟨isNegative x, fractionField x + (1 <<< 52), (exponentField x : Int) - 1075⟩

def Dyadic.floorNat (d : Dyadic) : Nat :=
  match d.exponent with
  | .ofNat e => d.mantissa <<< e
  | .negSucc e => d.mantissa >>> (e + 1)

def Dyadic.isWhole (d : Dyadic) : Bool :=
  match d.exponent with
  | .ofNat _ => true
  | .negSucc e => d.mantissa % (1 <<< (e + 1)) == 0

def Dyadic.truncate (d : Dyadic) : Int :=
  if d.negative then -(d.floorNat : Int) else (d.floorNat : Int)

/-- The value with its fraction dropped, of a finite double. -/
def truncate? (x : Float) : Option Int := (dyadic? x).map Dyadic.truncate

def integer? (x : Float) : Option Int :=
  match dyadic? x with
  | some d => if d.isWhole then some d.truncate else none
  | none => none

def ofInt (n : Int) : Float := Float.ofInt n

def infinity : Float := Float.ofBits 0x7FF0000000000000

def nan : Float := Float.ofBits 0x7FF8000000000000

def negativeZero : Float := Float.ofBits 0x8000000000000000

/-- The double nearest to `coefficient * 10 ^ exponent`. Exponents far out of range are cut short,
which leaves the result what it is. -/
def ofDecimal (coefficient : Nat) (exponent : Int) : Float :=
  let size : Int := (Nat.toDigits 10 coefficient).length
  if coefficient = 0 then 0
  else if 400 < size + exponent then infinity
  else if size + exponent < -400 then 0
  else Float.ofScientific coefficient (decide (exponent < 0)) exponent.natAbs

end ScriptOracle.Double
