import ScriptOracle.Script.Native

/-!
# Operators

What `+`, `<`, `==` and the others do with values of any kind. Objects are converted first, the left
one before the right one; whole numbers of any length are not mixed with other numbers.
-/

namespace ScriptOracle.Script

namespace Operator

inductive Numeric where
  | number (value : Numeral)
  | bigint (value : Int)

def toNumeric (value : Value) : Task Numeric := do
  match ← toPlain .number value with
  | .bigint n => pure (.bigint n)
  | plain => do
    let n ← plainNumeral plain
    pure (.number n)

def Numeric.value : Numeric -> Value
  | .number n => .number n
  | .bigint n => .bigint n

/-- The message about two kinds of numbers. -/
def mixed : String := "cannot mix BigInt and other types, use explicit conversions"

def bigPower (a b : Int) : Task Value :=
  if b < 0 then Task.raise .range "BigInt negative exponent"
  else if 1000000000 < a.natAbs.log2 * b.toNat ∨ (1 < a.natAbs ∧ 1000000000 < b) then
    Task.raise .range "Maximum BigInt size exceeded"
  else if a.natAbs ≤ 1 then
    pure (.bigint (if b = 0 then 1 else if a = -1 ∧ b % 2 = 0 then 1 else a))
  else pure (.bigint (Int.pow a b.toNat))

/-- Calculates with whole numbers of any length. -/
def onBigints (op : BinaryOp) (a b : Int) : Task Value :=
  match op with
  | .add => pure (.bigint (a + b))
  | .subtract => pure (.bigint (a - b))
  | .multiply => pure (.bigint (a * b))
  | .divide =>
    if b = 0 then Task.raise .range "BigInt division by zero" else pure (.bigint (a.tdiv b))
  | .remainder =>
    if b = 0 then Task.raise .range "BigInt division by zero" else pure (.bigint (a.tmod b))
  | _ => bigPower a b

def onNumerals (op : BinaryOp) (a b : Numeral) : Numeral :=
  match op with
  | .add => a.add b
  | .subtract => a.subtract b
  | .multiply => a.multiply b
  | .divide => a.divide b
  | .remainder => a.remainder b
  | _ => a.power b

def calculate (op : BinaryOp) (left right : Value) : Task Value := do
  let a ← toNumeric left
  let b ← toNumeric right
  match a, b with
  | .number a, .number b => pure (.number (onNumerals op a b))
  | .bigint a, .bigint b => onBigints op a b
  | _, _ => Task.raise .type mixed

def isText : Value -> Bool
  | .text _ => true
  | _ => false

def add (left right : Value) : Task Value := do
  let a ← toPlain .any left
  let b ← toPlain .any right
  if isText a || isText b then
    let x ← plainText a
    let y ← plainText b
    pure (.text (x ++ y))
  else calculate .add a b

/-- A whole number against a double; nothing if the double is no number. -/
def compareExact (n : Int) (x : Float) : Option Ordering :=
  if Double.isNaN x then none
  else
    match Double.dyadic? x with
    | none => some (if Double.isNegative x then .gt else .lt)
    | some d =>
      let parts := Numeral.wholeParts d
      some (compare (n * parts.2) parts.1)

def compareDoubles (x y : Float) : Option Ordering :=
  if x < y then some .lt else if y < x then some .gt else if x == y then some .eq else none

def swapped : Option Ordering -> Option Ordering := Option.map Ordering.swap

/-- Compares numbers; nothing if one is no number. -/
def compareNumeric : Numeric -> Numeric -> Option Ordering
  | .number a, .number b => compareDoubles a.toDouble b.toDouble
  | .bigint a, .bigint b => some (compare a b)
  | .bigint a, .number b => compareExact a b.toDouble
  | .number a, .bigint b => swapped (compareExact b a.toDouble)

def compareUnits (x y : Units) : Ordering :=
  if Units.less x y then .lt else if Units.less y x then .gt else .eq

/-- The order of values; nothing if they have none. -/
def order (left right : Value) : Task (Option Ordering) := do
  let a ← toPlain .number left
  let b ← toPlain .number right
  match a, b with
  | .text x, .text y => pure (some (compareUnits x y))
  | .bigint n, .text y =>
    pure ((Builtin.bigintOfText? y).map fun m => compare n m)
  | .text x, .bigint n =>
    pure ((Builtin.bigintOfText? x).map fun m => compare m n)
  | a, b => do
    let x ← toNumeric a
    let y ← toNumeric b
    pure (compareNumeric x y)

def same : Value -> Value -> Bool
  | .undefined, .undefined => true
  | .null, .null => true
  | .bool a, .bool b => a == b
  | .number a, .number b => a.toDouble == b.toDouble
  | .bigint a, .bigint b => a == b
  | .text a, .text b => a == b
  | .symbol, .symbol => true
  | .object a, .object b => a == b
  | _, _ => false

/-- Whether two values that are no objects are equal once they are of one kind. -/
def equalPlain (a b : Value) : Bool :=
  let a := asNumber a
  let b := asNumber b
  match a, b with
  | .undefined, .null => true
  | .null, .undefined => true
  | .number x, .text y => x.toDouble == (numeralOfText y).toDouble
  | .text x, .number y => (numeralOfText x).toDouble == y.toDouble
  | .bigint n, .text y => Builtin.bigintOfText? y == some n
  | .text x, .bigint n => Builtin.bigintOfText? x == some n
  | .bigint n, .number x => compareExact n x.toDouble == some .eq
  | .number x, .bigint n => compareExact n x.toDouble == some .eq
  | a, b => same a b
where
  /-- A truth value as a number where the other value is of another kind. -/
  asNumber : Value -> Value
    | .bool b => .int (if b then 1 else 0)
    | value => value

/-- Whether two values are equal, converted if need be. -/
def equal (left right : Value) : Task Bool := do
  match left, right with
  | .object a, .object b => pure (a == b)
  | .object _, .undefined => pure false
  | .object _, .null => pure false
  | .undefined, .object _ => pure false
  | .null, .object _ => pure false
  | .object _, _ => do
    let plain ← toPlain .any left
    pure (equalPlain plain right)
  | _, .object _ => do
    let plain ← toPlain .any right
    pure (equalPlain left plain)
  | _, _ => pure (equalPlain left right)

def binary (op : BinaryOp) (left right : Value) : Task Value := do
  match op with
  | .add => add left right
  | .less => return .bool ((← order left right) == some .lt)
  | .greater => return .bool ((← order left right) == some .gt)
  | .atMost =>
    let found ← order left right
    return .bool (found == some .lt || found == some .eq)
  | .atLeast =>
    let found ← order left right
    return .bool (found == some .gt || found == some .eq)
  | .equal => return .bool (← equal left right)
  | .unequal => return .bool (!(← equal left right))
  | .same => pure (.bool (same left right))
  | .different => pure (.bool (!same left right))
  | op => calculate op left right

def unary (op : UnaryOp) (value : Value) : Task Value := do
  match op with
  | .not => pure (.bool (!value.isTrue))
  | .discard => pure .undefined
  | .plus => return .number (← toNumeral value)
  | .typeOf => Task.look fun heap => .ofText (typeText heap value)
  | .negate =>
    match ← toNumeric value with
    | .number n => pure (.number n.negate)
    | .bigint n => pure (.bigint (-n))
where
  /-- The word for a value's type, in which null is an object. -/
  typeText (heap : Heap) : Value -> String
    | .null => "object"
    | value => heap.typeName value

def stepped (up : Bool) : Numeric -> Numeric
  | .number n => .number (if up then n.succ else n.pred)
  | .bigint n => .bigint (if up then n + 1 else n - 1)

end Operator

/-- How far a list can grow beyond its end by one write. -/
def maxGap : Nat := 1 <<< 20

def writeItem (ref : Ref) (index : Nat) (value : Value) : Task Unit := do
  let size ← Task.look fun heap =>
    match (heap.get ref).kind with
    | .list items => items.size
    | _ => 0
  if size + maxGap < index then Task.raise .range "Invalid array length"
  else
    Task.change fun heap => heap.modify ref fun object =>
      match object.kind with
      | .list items =>
        let items := items ++ Array.replicate (index + 1 - items.size) none
        { object with kind := .list (items.setIfInBounds index (some value)) }
      | _ => object

def writeLength (ref : Ref) (value : Value) : Task Unit := do
  let n ← toNumeral value
  let size := n.toLength
  if maxGap < size then Task.raise .range "Invalid array length"
  else
    Task.change fun heap => heap.modify ref fun object =>
      match object.kind with
      | .list items =>
        let items := items.take size
        { object with kind := .list (items ++ Array.replicate (size - items.size) none) }
      | _ => object

def writeOwn (ref : Ref) (name : Units) (value : Value) : Task Unit := do
  match (← Task.look fun heap => (heap.get ref).kind), Units.index? name with
  | .list _, some index => writeItem ref index value
  | .list _, none =>
    if name = Object.lengthName then writeLength ref value
    else Task.change fun heap => heap.put ref name (.data value true)
  | .bytes _, some index => do
    let byte ← toByte value
    Task.change fun heap => heap.modify ref fun object =>
      match object.kind with
      | .bytes content => { object with kind := .bytes (content.setIfInBounds index byte) }
      | _ => object
  | _, _ => Task.change fun heap => heap.put ref name (.data value true)

/-- Writes a property. What cannot be written stays as it is. -/
def setProperty (target : Value) (name : Units) (value : Value) : Task Unit := do
  match target with
  | .object ref =>
    match ← Task.look fun heap => heap.property? ref name with
    | some (.accessor _ (some setter)) => do
      let _ ← Task.call setter target [value]
      pure ()
    | some (.accessor _ none) => pure ()
    | some (.data _ false) => pure ()
    | _ => writeOwn ref name value
  | .undefined => raiseType "cannot convert 'null' or 'undefined' to object"
  | .null => raiseType "cannot convert 'null' or 'undefined' to object"
  | _ => pure ()

end ScriptOracle.Script
