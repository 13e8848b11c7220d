import ScriptOracle.Script.Task
import ScriptOracle.Text.Case

/-!
# Conversions between values

Properties of any value, and values as texts, numbers, bytes and lengths. An object is converted by
its own functions, which may be written in the script, so that a conversion can do all that a script
can do.
-/

namespace ScriptOracle.Script

def Property.read (this : Value) : Property -> Task Value
  | .data value _ => pure value
  | .accessor (some getter) _ => Task.call getter this []
  | .accessor none _ => pure .undefined

def Value.root? : Value -> Option Root
  | .bool _ => some .bool
  | .number _ => some .number
  | .bigint _ => some .bigint
  | .text _ => some .text
  | .symbol => some .object
  | _ => none

def Value.plainProperty? (value : Value) (name : Units) : Option Value :=
  match value with
  | .text units =>
    if name = Object.lengthName then some (.int units.length)
    else (Units.index? name).bind fun i => units[i]?.map fun unit => .text [unit]
  | _ => none

def getFrom (ref : Ref) (this : Value) (name : Units) : Task Value := do
  match ← Task.look fun heap => heap.property? ref name with
  | some property => property.read this
  | none => pure .undefined

def getProperty (value : Value) (name : Units) : Task Value :=
  match value with
  | .object ref => getFrom ref value name
  | _ =>
    match value.plainProperty? name, value.root? with
    | some found, _ => pure found
    | none, some root => getFrom root.ref value name
    | none, none => Task.raise .type "cannot convert 'null' or 'undefined' to object"

inductive Hint where
  | text
  | number
  | any
deriving DecidableEq, Repr

/-- The functions that convert an object, in order. -/
def Hint.methods : Hint -> List String
  | .text => ["toString", "valueOf"]
  | _ => ["valueOf", "toString"]

/-- Asks an object's functions one after the other for a value that is no object. -/
def askMethods (object : Value) : List String -> Task Value
  | [] => Task.raise .type "cannot convert object to primitive value"
  | name :: rest => do
    let method ← getProperty object (Units.ofText name)
    if ← Task.look fun heap => heap.isCallable method then
      match ← Task.call method object [] with
      | .object _ => askMethods object rest
      | value => pure value
    else askMethods object rest

def toPlain (hint : Hint) (value : Value) : Task Value :=
  match value with
  | .object _ => askMethods value hint.methods
  | _ => pure value

def plainText (value : Value) : Task Units :=
  match value with
  | .undefined => pure (Units.ofText "undefined")
  | .null => pure (Units.ofText "null")
  | .bool b => pure (Units.ofText (if b then "true" else "false"))
  | .number n => pure n.text
  | .bigint n => pure (Units.ofInt n)
  | .text units => pure units
  | .symbol => Task.raise .type "can't convert symbol to string"
  | .object _ => pure []

def toUnits (value : Value) : Task Units := do
  let plain ← toPlain .text value
  plainText plain

def toText (value : Value) : Task String := do
  let units ← toUnits value
  pure (Units.toText units)

def isBlankUnit (unit : UInt16) : Bool :=
  unit == 0xFEFF ||
    (!(Units.isHigh unit || Units.isLow unit) && unit != 0x85 &&
      Text.isBlank (Char.ofNat unit.toNat))

def trimUnits (units : Units) : Units :=
  ((units.dropWhile isBlankUnit).reverse.dropWhile isBlankUnit).reverse

def digitsOf? (base : Nat) (chars : List Char) : Option Nat :=
  if chars.isEmpty then none
  else
    chars.foldl (fun n c => n.bind fun n =>
      let d := if c.isDigit then c.toNat - 0x30
        else if c.isAlpha then (Text.asciiLower c).toNat - 0x57
        else base
      if d < base then some (base * n + d) else none) (some 0)

def markedNumber? (chars : List Char) : Option (Option Nat) :=
  match chars with
  | '0' :: mark :: digits =>
    match Text.asciiLower mark with
    | 'x' => some (digitsOf? 16 digits)
    | 'o' => some (digitsOf? 8 digits)
    | 'b' => some (digitsOf? 2 digits)
    | _ => none
  | _ => none

def numeralOfText (units : Units) : Numeral :=
  let chars := Units.toChars (trimUnits units)
  if chars.isEmpty then .int 0
  else
    match markedNumber? chars with
    | some (some n) => .float (Double.ofInt n)
    | some none => .float Double.nan
    | none => .float ((Double.read? chars).getD Double.nan)

def plainNumeral (value : Value) : Task Numeral :=
  match value with
  | .undefined => pure (.float Double.nan)
  | .null => pure (.int 0)
  | .bool b => pure (.int (if b then 1 else 0))
  | .number n => pure n
  | .bigint _ => Task.raise .type "argument must not be a bigint"
  | .text units => pure (numeralOfText units)
  | .symbol => Task.raise .type "argument must not be a symbol"
  | .object _ => pure (.float Double.nan)

def toNumeral (value : Value) : Task Numeral := do
  let plain ← toPlain .number value
  plainNumeral plain

def toByte (value : Value) : Task UInt8 := do
  let n ← toNumeral value
  pure n.toByte

def lengthOf (object : Value) : Task Nat := do
  let value ← getProperty object Object.lengthName
  let n ← toNumeral value
  pure n.toLength

/-- The greatest number of bytes that are taken over from a script. -/
def maxBytes : Nat := 4194304

/-- The bytes of the elements from `index` on, `count` of them, behind those already read, which are
in reverse. -/
def bytesFrom (object : Value) : Nat -> Nat -> Bytes -> Task Bytes
  | 0, _, soFar => pure soFar.reverse
  | count + 1, index, soFar => do
    Task.pause
    let value ← getProperty object (Units.ofNat index)
    let byte ← toByte value
    bytesFrom object count (index + 1) (byte :: soFar)

def bytesOf (object : Value) : Task Bytes := do
  let length ← lengthOf object
  if maxBytes < length then
    Task.raise .range s!"byte array longer than {maxBytes}"
  else bytesFrom object length 0 []

def Heap.isBytes (heap : Heap) : Value -> Bool
  | .object ref =>
    match (heap.get ref).kind with
    | .bytes _ => true
    | _ => false
  | _ => false

def Heap.typeName (heap : Heap) : Value -> String
  | .undefined => "undefined"
  | .null => "null"
  | .bool _ => "boolean"
  | .number _ => "number"
  | .bigint _ => "bigint"
  | .text _ => "string"
  | .symbol => "symbol"
  | .object ref => if (heap.get ref).isCallable then "function" else "object"

/-- A property as text, unless it is undefined or has none. -/
def textProperty? (object : Value) (name : String) : Task (Option String) := do
  match ← Task.attempt (getProperty object (Units.ofText name)) with
  | .error _ => pure none
  | .ok .undefined => pure none
  | .ok value =>
    match ← Task.attempt (toText value) with
    | .ok text => pure (some text)
    | .error _ => pure none

end ScriptOracle.Script
