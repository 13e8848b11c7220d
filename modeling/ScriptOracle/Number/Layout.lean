import ScriptOracle.Number.Shortest

/-!
# The text of a double

How the shortest digits are laid out is one record of decisions. There are two: `Layout.json` for
data and `Layout.script` for the text a script sees.
-/

namespace ScriptOracle.Double

structure Layout where
  /-- The least place of the point that is written without an exponent. -/
  leastPoint : Int
  /-- The greatest place of the point that is written without an exponent. -/
  greatestPoint : Int
  /-- Whether a whole number written without an exponent ends in `.0`. -/
  keepsPoint : Bool
  /-- Whether zero keeps its sign. -/
  signsZero : Bool
deriving DecidableEq, Repr

/-- Data: exponents from 1e16 up and below 1e-5, a point in every other number, signed zero. -/
def Layout.json : Layout := ⟨-4, 16, true, true⟩

/-- Script text: exponents from 1e21 up and below 1e-6, whole numbers without a point, one zero. -/
def Layout.script : Layout := ⟨-5, 21, false, false⟩

def decimal (n : Nat) : List Char := Nat.toDigits 10 n

/-- The text of an exponent, always signed. -/
def exponentText (e : Int) : List Char :=
  (if e < 0 then '-' else '+') :: decimal e.natAbs

def Layout.digits (layout : Layout) (d : Digits) : List Char :=
  let ds := decimal d.coefficient
  if layout.leastPoint ≤ d.point ∧ d.point ≤ layout.greatestPoint then
    if d.point ≤ 0 then '0' :: '.' :: List.replicate (-d.point).toNat '0' ++ ds
    else if d.count ≤ d.point.toNat then
      ds ++ List.replicate (d.point.toNat - d.count) '0'
        ++ (if layout.keepsPoint then ['.', '0'] else [])
    else ds.take d.point.toNat ++ '.' :: ds.drop d.point.toNat
  else
    match ds with
    | [] => []
    | [one] => one :: 'e' :: exponentText (d.point - 1)
    | first :: rest => first :: '.' :: rest ++ 'e' :: exponentText (d.point - 1)

def Layout.render (layout : Layout) (x : Float) : String :=
  match dyadic? x with
  | none =>
    if isNaN x then "NaN" else if isNegative x then "-Infinity" else "Infinity"
  | some d =>
    if d.mantissa = 0 then
      let zero := if layout.keepsPoint then "0.0" else "0"
      if d.negative && layout.signsZero then "-" ++ zero else zero
    else
      let body := layout.digits (shortest d.mantissa d.exponent)
      String.ofList (if d.negative then '-' :: body else body)

end ScriptOracle.Double
