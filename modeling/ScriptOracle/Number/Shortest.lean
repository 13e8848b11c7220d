import ScriptOracle.Number.Double

/-!
# The fewest digits that read back

Every double owns the interval of reals that round to it; the ends belong to it when its mantissa is
even. For one, two, and so on up to seventeen digits the two neighbours of the value on that decimal
grid are tested, and the first grid that has one inside the interval gives the digits.
-/

namespace ScriptOracle.Double

/-- Digits without a trailing zero, and the place of the point before them: the value is
`0.digits * 10 ^ point`. -/
structure Digits where
  coefficient : Nat
  count : Nat
  point : Int
deriving DecidableEq, Repr

/-- The interval of a positive double in quarters of its last place. -/
structure Interval where
  low : Nat
  value : Nat
  high : Nat
  closed : Bool
  exponent : Int

/-- The interval of reals that round to `mantissa * 2 ^ exponent`. Below a power of two the next
double is half as far away. -/
def Interval.of (mantissa : Nat) (exponent : Int) : Interval where
  low := if mantissa = 1 <<< 52 ∧ exponent ≠ -1074 then 4 * mantissa - 1 else 4 * mantissa - 2
  value := 4 * mantissa
  high := 4 * mantissa + 2
  closed := mantissa % 2 = 0
  exponent := exponent - 2

/-- Both sides of `quarters * 2 ^ exponent` against `whole * 10 ^ grid`, multiplied out to whole
numbers. -/
def crossed (quarters : Nat) (exponent : Int) (whole : Nat) (grid : Int) : Nat × Nat :=
  (quarters <<< exponent.toNat * Nat.pow 10 (-grid).toNat,
    (whole * Nat.pow 10 grid.toNat) <<< (-exponent).toNat)

/-- Whether `whole * 10 ^ grid` rounds to the double of the interval. -/
def Interval.holds (i : Interval) (whole : Nat) (grid : Int) : Bool :=
  let low := crossed i.low i.exponent whole grid
  let high := crossed i.high i.exponent whole grid
  if i.closed then low.1 ≤ low.2 && high.2 ≤ high.1 else low.1 < low.2 && high.2 < high.1

def Interval.floorOn (i : Interval) (grid : Int) : Nat :=
  let sides := crossed i.value i.exponent 1 grid
  sides.1 / sides.2

/-- Of two neighbours on a grid, whether the upper one is the nearer; an exact tie goes to the even
one. -/
def Interval.upperIsNearer (i : Interval) (lower : Nat) (grid : Int) : Bool :=
  let sides := crossed (2 * i.value) i.exponent (2 * lower + 1) grid
  sides.2 < sides.1 || (sides.1 == sides.2 && lower % 2 == 1)

/-- The neighbour of the value on a grid that lies in the interval, the nearer one if both do. -/
def Interval.onGrid? (i : Interval) (grid : Int) : Option Nat :=
  let lower := i.floorOn grid
  match i.holds lower grid, i.holds (lower + 1) grid with
  | true, true => some (if i.upperIsNearer lower grid then lower + 1 else lower)
  | true, false => some lower
  | false, true => some (lower + 1)
  | false, false => none

/-- Whether the value is at least `10 ^ power`. -/
def Interval.reaches (i : Interval) (power : Int) : Bool :=
  let sides := crossed i.value i.exponent 1 power
  sides.2 ≤ sides.1

/-- The place of the point: the least power of ten above the value. The first guess, from the length
in bits, is at most two too low. -/
def Interval.point (i : Interval) : Int :=
  let guess := ((Nat.log2 i.value : Int) + i.exponent) * 30103 / 100000
  if i.reaches (guess + 1) then guess + 2
  else if i.reaches guess then guess + 1
  else guess

/-- The first grid, from `count` digits on, that has a point inside the interval. -/
def Interval.search (i : Interval) (point : Int) : Nat -> Nat -> Digits
  | 0, count => ⟨i.floorOn (point - count), count, point⟩
  | fuel + 1, count =>
    match i.onGrid? (point - count) with
    | some whole =>
      if whole = Nat.pow 10 count then ⟨1, 1, point + 1⟩ else ⟨whole, count, point⟩
    | none => i.search point fuel (count + 1)

/-- The fewest digits that read back as `mantissa * 2 ^ exponent`, and of those the nearest. -/
def shortest (mantissa : Nat) (exponent : Int) : Digits :=
  let i := Interval.of mantissa exponent
  i.search i.point 17 1

end ScriptOracle.Double
