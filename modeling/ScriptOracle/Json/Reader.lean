import ScriptOracle.Json.Basic
import ScriptOracle.Text.Utf8

/-!
# Reading data values

The reader works on bytes and names the first thing that is wrong together with its line and column.
Values nest at most 127 deep. Whole numbers that fit sixty-four bits stay whole; every other number
is a significand of at most sixty-four bits scaled by powers of ten, each step rounded on its own.
-/

namespace ScriptOracle.Json

inductive Cause where
  | endInList
  | endInObject
  | endInString
  | endInValue
  | expectedColon
  | expectedListEnd
  | expectedObjectEnd
  | expectedWord
  | expectedValue
  | badEscape
  | badNumber
  | numberTooLarge
  | notUnicode
  | controlCharacter
  | keyNotString
  | loneSurrogate
  | trailingComma
  | trailingCharacters
  | unfinishedSurrogate
  | tooDeep
deriving DecidableEq, Repr

def Cause.message : Cause -> String
  | .endInList => "EOF while parsing a list"
  | .endInObject => "EOF while parsing an object"
  | .endInString => "EOF while parsing a string"
  | .endInValue => "EOF while parsing a value"
  | .expectedColon => "expected `:`"
  | .expectedListEnd => "expected `,` or `]`"
  | .expectedObjectEnd => "expected `,` or `\x7d`"
  | .expectedWord => "expected ident"
  | .expectedValue => "expected value"
  | .badEscape => "invalid escape"
  | .badNumber => "invalid number"
  | .numberTooLarge => "number out of range"
  | .notUnicode => "invalid unicode code point"
  | .controlCharacter =>
    "control character (\\u0000-\\u001F) found while parsing a string"
  | .keyNotString => "key must be a string"
  | .loneSurrogate => "lone leading surrogate in hex escape"
  | .trailingComma => "trailing comma"
  | .trailingCharacters => "trailing characters"
  | .unfinishedSurrogate => "unexpected end of hex escape"
  | .tooDeep => "recursion limit exceeded"

/-- A cause and the number of bytes that were left when it was met. -/
structure Fault where
  cause : Cause
  left : Nat
deriving DecidableEq, Repr

def lineAndColumn (before : Bytes) : Nat × Nat :=
  (1 + before.count 0x0A, (before.reverse.takeWhile (· != 0x0A)).length)

def Fault.message (fault : Fault) (text : Bytes) : String :=
  let place := lineAndColumn (text.take (text.length - fault.left))
  s!"{fault.cause.message} at line {place.1} column {place.2}"

namespace Reader

abbrev Result (α : Type) := Except Fault (α × Bytes)

/-- Fails behind the last byte taken. -/
def failHere {α : Type} (cause : Cause) (rest : Bytes) : Except Fault α :=
  .error ⟨cause, rest.length⟩

def failNext {α : Type} (cause : Cause) (rest : Bytes) : Except Fault α :=
  .error ⟨cause, rest.length - 1⟩

def isBlank (byte : UInt8) : Bool :=
  byte == 0x20 || byte == 0x0A || byte == 0x09 || byte == 0x0D

def skipBlanks (rest : Bytes) : Bytes := rest.dropWhile isBlank

def isDigit (byte : UInt8) : Bool := 0x30 ≤ byte && byte ≤ 0x39

def digitValue (byte : UInt8) : Nat := byte.toNat - 0x30

def significandLimit : Nat := (1 <<< 64) - 1

/-- `significand * 10 ^ exponent`, or nothing if it is out of range. A power beyond 308 is applied
in steps, and a value that has become zero stays zero. -/
def scale : Nat -> Float -> Int -> Option Float
  | 0, value, _ => some value
  | fuel + 1, value, exponent =>
    if exponent.natAbs ≤ 308 then
      let power := Float.ofScientific 1 false exponent.natAbs
      if 0 ≤ exponent then
        if Double.isInfinite (value * power) then none else some (value * power)
      else some (value / power)
    else if value == 0 then some value
    else if 0 ≤ exponent then none
    else scale fuel (value / Float.ofScientific 1 false 308) (exponent + 308)

def scaled (negative : Bool) (significand : Nat) (exponent : Int) (rest : Bytes) : Result Json :=
  match scale 8 (Float.ofNat significand) exponent with
  | none => failHere .numberTooLarge rest
  | some value => .ok (.double (if negative then -value else value), rest)

/-- The greatest exponent that is added up. -/
def exponentLimit : Nat := (1 <<< 31) - 1

/-- The digits of an exponent, or the point where they passed the limit. -/
def exponentDigits (value : Nat) : Bytes -> Except Bytes (Nat × Bytes)
  | [] => .ok (value, [])
  | byte :: rest =>
    if isDigit byte then
      if exponentLimit < value * 10 + digitValue byte then .error rest
      else exponentDigits (value * 10 + digitValue byte) rest
    else .ok (value, byte :: rest)

def exponent (negative : Bool) (significand : Nat) (start : Int) (rest : Bytes) : Result Json :=
  let (down, rest) :=
    match rest with
    | 0x2B :: rest => (false, rest)
    | 0x2D :: rest => (true, rest)
    | rest => (false, rest)
  match rest with
  | [] => failHere .endInValue rest
  | byte :: rest' =>
    if isDigit byte then
      match exponentDigits (digitValue byte) rest' with
      | .ok (value, rest) =>
        let limit : Int := (1 <<< 31 : Nat)
        let total := if down then max (-limit) (start - value) else min (limit - 1) (start + value)
        scaled negative significand total rest
      | .error rest =>
        if significand ≠ 0 ∧ !down then failHere .numberTooLarge rest
        else
          .ok (.double (if negative then Double.negativeZero else 0), rest.dropWhile isDigit)
    else failHere .badNumber rest'

def afterDigits (negative : Bool) (significand : Nat) (start : Int) (rest : Bytes) : Result Json :=
  match rest with
  | 0x65 :: rest => exponent negative significand start rest
  | 0x45 :: rest => exponent negative significand start rest
  | rest => scaled negative significand start rest

/-- The digits after the point, `taken` of them so far. Once the significand is full the digits that
follow are dropped. -/
def fraction (negative : Bool) (significand : Nat) (start : Int) (taken : Nat) :
    Bytes -> Result Json
  | [] =>
    if taken = 0 then failHere .endInValue [] else afterDigits negative significand (start - taken) []
  | byte :: rest =>
    if isDigit byte then
      if significandLimit < significand * 10 + digitValue byte then
        afterDigits negative significand (start - taken) ((byte :: rest).dropWhile isDigit)
      else fraction negative (significand * 10 + digitValue byte) start (taken + 1) rest
    else if taken = 0 then failNext .badNumber (byte :: rest)
    else afterDigits negative significand (start - taken) (byte :: rest)

/-- The digits of a whole part that no longer fits: `dropped` of them so far. -/
def longWhole (negative : Bool) (significand : Nat) (dropped : Nat) : Bytes -> Result Json
  | [] => scaled negative significand dropped []
  | byte :: rest =>
    if isDigit byte then longWhole negative significand (dropped + 1) rest
    else if byte = 0x2E then fraction negative significand dropped 0 rest
    else afterDigits negative significand dropped (byte :: rest)

def afterWhole (negative : Bool) (significand : Nat) (rest : Bytes) : Result Json :=
  match rest with
  | 0x2E :: rest => fraction negative significand 0 0 rest
  | 0x65 :: rest => exponent negative significand 0 rest
  | 0x45 :: rest => exponent negative significand 0 rest
  | rest =>
    if !negative then .ok (.integer significand, rest)
    else if significand = 0 ∨ 1 <<< 63 < significand then
      .ok (.double (-(Float.ofNat significand)), rest)
    else .ok (.integer (-significand), rest)

def whole (negative : Bool) (significand : Nat) : Bytes -> Result Json
  | [] => afterWhole negative significand []
  | byte :: rest =>
    if isDigit byte then
      if significandLimit < significand * 10 + digitValue byte then
        longWhole negative significand 0 (byte :: rest)
      else whole negative (significand * 10 + digitValue byte) rest
    else afterWhole negative significand (byte :: rest)

/-- A number without its sign. A leading zero stands alone. -/
def number (negative : Bool) (rest : Bytes) : Result Json :=
  match rest with
  | [] => failHere .endInValue []
  | byte :: rest =>
    if byte = 0x30 then
      match rest with
      | next :: _ =>
        if isDigit next then failNext .badNumber rest else afterWhole negative 0 rest
      | [] => afterWhole negative 0 rest
    else if isDigit byte then whole negative (digitValue byte) rest
    else failHere .badNumber rest

def hexValue? (byte : UInt8) : Option Nat :=
  if isDigit byte then some (digitValue byte)
  else if 0x61 ≤ byte ∧ byte ≤ 0x66 then some (byte.toNat - 0x57)
  else if 0x41 ≤ byte ∧ byte ≤ 0x46 then some (byte.toNat - 0x37)
  else none

def fourDigits (rest : Bytes) : Result Nat :=
  match rest with
  | a :: b :: c :: d :: rest =>
    match hexValue? a, hexValue? b, hexValue? c, hexValue? d with
    | some a, some b, some c, some d => .ok (((a * 16 + b) * 16 + c) * 16 + d, rest)
    | _, _, _, _ => failHere .badEscape rest
  | _ => failHere .endInString []

/-- The second half of a pair of escapes that stand for one character. -/
def pairedEscape (first : Nat) (rest : Bytes) : Result Bytes :=
  match rest with
  | [] => failHere .endInString []
  | slash :: rest =>
    if slash ≠ 0x5C then failHere .unfinishedSurrogate rest
    else
      match rest with
      | [] => failHere .endInString []
      | mark :: rest =>
        if mark ≠ 0x75 then failHere .unfinishedSurrogate rest
        else
          match fourDigits rest with
          | .error fault => .error fault
          | .ok (second, rest) =>
            if second < 0xDC00 ∨ 0xDFFF < second then failHere .loneSurrogate rest
            else
              .ok (String.utf8EncodeChar
                (Char.ofNat ((first - 0xD800) * 1024 + (second - 0xDC00) + 0x10000)), rest)

/-- The bytes that an escape stands for, from the character after the backslash on. -/
def escape (rest : Bytes) : Result Bytes :=
  match rest with
  | [] => failHere .endInString []
  | mark :: rest =>
    if mark = 0x22 ∨ mark = 0x5C ∨ mark = 0x2F then .ok ([mark], rest)
    else if mark = 0x62 then .ok ([0x08], rest)
    else if mark = 0x66 then .ok ([0x0C], rest)
    else if mark = 0x6E then .ok ([0x0A], rest)
    else if mark = 0x72 then .ok ([0x0D], rest)
    else if mark = 0x74 then .ok ([0x09], rest)
    else if mark = 0x75 then
      match fourDigits rest with
      | .error fault => .error fault
      | .ok (first, rest) =>
        if 0xDC00 ≤ first ∧ first ≤ 0xDFFF then failHere .loneSurrogate rest
        else if 0xD800 ≤ first ∧ first ≤ 0xDBFF then pairedEscape first rest
        else .ok (String.utf8EncodeChar (Char.ofNat first), rest)
    else failHere .badEscape rest

/-- The bytes of a text up to its closing quote, put in front of `taken` in reverse. -/
def quotedBytes : Nat -> Bytes -> Bytes -> Result Bytes
  | 0, _, rest => failHere .endInString rest
  | fuel + 1, taken, rest =>
    match rest with
    | [] => failHere .endInString []
    | byte :: rest =>
      if byte = 0x22 then .ok (taken.reverse, rest)
      else if byte = 0x5C then
        match escape rest with
        | .error fault => .error fault
        | .ok (bytes, rest) => quotedBytes fuel (bytes.reverse ++ taken) rest
      else if byte < 0x20 then failHere .controlCharacter rest
      else quotedBytes fuel (byte :: taken) rest

def quoted (rest : Bytes) : Result String :=
  match quotedBytes (rest.length + 1) [] rest with
  | .error fault => .error fault
  | .ok (bytes, rest) =>
    match Text.ofUtf8? bytes with
    | some text => .ok (text, rest)
    | none => failHere .notUnicode rest

def word (letters : Bytes) (rest : Bytes) : Except Fault Bytes :=
  match letters with
  | [] => .ok rest
  | letter :: letters =>
    match rest with
    | [] => failHere .endInValue []
    | byte :: rest => if byte = letter then word letters rest else failHere .expectedWord rest

/-- A word that stands for a value. -/
def wordValue (letters : Bytes) (meaning : Json) (rest : Bytes) : Result Json :=
  match word letters rest with
  | .error fault => .error fault
  | .ok rest => .ok (meaning, rest)

/-- The greatest nesting of lists and objects, and one. -/
def depthLimit : Nat := 128

mutual

/-- A value, with `depth` levels of nesting and one left. -/
def value : Nat -> Nat -> Bytes -> Result Json
  | 0, _, rest => failNext .endInValue rest
  | fuel + 1, depth, rest =>
    match skipBlanks rest with
    | [] => failHere .endInValue []
    | byte :: rest =>
      if byte = 0x6E then wordValue [0x75, 0x6C, 0x6C] .null rest
      else if byte = 0x74 then wordValue [0x72, 0x75, 0x65] (.bool true) rest
      else if byte = 0x66 then wordValue [0x61, 0x6C, 0x73, 0x65] (.bool false) rest
      else if byte = 0x2D then number true rest
      else if isDigit byte then number false (byte :: rest)
      else if byte = 0x22 then
        match quoted rest with
        | .error fault => .error fault
        | .ok (text, rest) => .ok (.string text, rest)
      else if byte = 0x5B then
        if depth ≤ 1 then failHere .tooDeep rest
        else
          match items fuel (depth - 1) true rest with
          | .error fault => .error fault
          | .ok (values, rest) => .ok (.array values, rest)
      else if byte = 0x7B then
        if depth ≤ 1 then failHere .tooDeep rest
        else
          match fields fuel (depth - 1) true rest with
          | .error fault => .error fault
          | .ok (pairs, rest) => .ok (.object pairs, rest)
      else failHere .expectedValue rest

/-- The items of a list up to its closing bracket; `first` tells that none has been read. -/
def items : Nat -> Nat -> Bool -> Bytes -> Result (List Json)
  | 0, _, _, rest => failNext .endInList rest
  | fuel + 1, depth, first, rest =>
    match skipBlanks rest with
    | [] => failHere .endInList []
    | byte :: rest =>
      if byte = 0x5D then .ok ([], rest)
      else if first then item fuel depth (byte :: rest)
      else if byte = 0x2C then
        match skipBlanks rest with
        | [] => failHere .endInValue []
        | next :: rest =>
          if next = 0x5D then failHere .trailingComma rest
          else item fuel depth (next :: rest)
      else failHere .expectedListEnd rest

def item : Nat -> Nat -> Bytes -> Result (List Json)
  | 0, _, rest => failNext .endInList rest
  | fuel + 1, depth, rest =>
    match value fuel depth rest with
    | .error fault => .error fault
    | .ok (one, rest) =>
      match items fuel depth false rest with
      | .error fault => .error fault
      | .ok (more, rest) => .ok (one :: more, rest)

/-- The fields of an object up to its closing brace; `first` tells that none has been read. -/
def fields : Nat -> Nat -> Bool -> Bytes -> Result (List (String × Json))
  | 0, _, _, rest => failNext .endInObject rest
  | fuel + 1, depth, first, rest =>
    match skipBlanks rest with
    | [] => failHere .endInObject []
    | byte :: rest =>
      if byte = 0x7D then .ok ([], rest)
      else if first then
        if byte = 0x22 then field fuel depth rest else failHere .keyNotString rest
      else if byte = 0x2C then
        match skipBlanks rest with
        | [] => failHere .endInValue []
        | next :: rest =>
          if next = 0x22 then field fuel depth rest
          else if next = 0x7D then failHere .trailingComma rest
          else failHere .keyNotString rest
      else failHere .expectedObjectEnd rest

/-- One field, from behind the opening quote of its name on, and those after it. -/
def field : Nat -> Nat -> Bytes -> Result (List (String × Json))
  | 0, _, rest => failNext .endInObject rest
  | fuel + 1, depth, rest =>
    match quoted rest with
    | .error fault => .error fault
    | .ok (name, rest) =>
      match skipBlanks rest with
      | [] => failHere .endInObject []
      | byte :: rest =>
        if byte = 0x3A then
          match value fuel depth rest with
          | .error fault => .error fault
          | .ok (one, rest) =>
            match fields fuel depth false rest with
            | .error fault => .error fault
            | .ok (more, rest) => .ok ((name, one) :: more, rest)
        else failHere .expectedColon rest

end

end Reader

mutual

/-- The value in which every field that is written twice stands once, with its last value. -/
def settled : Json -> Json
  | .array items => .array (settledItems items)
  | .object fields => .object (Fields.ofList (settledFields fields))
  | .null => .null
  | .bool b => .bool b
  | .integer n => .integer n
  | .double x => .double x
  | .string text => .string text

def settledItems : List Json -> List Json
  | [] => []
  | item :: rest => settled item :: settledItems rest

def settledFields : List (String × Json) -> List (String × Json)
  | [] => []
  | (name, value) :: rest => (name, settled value) :: settledFields rest

end

/-- The value at the front of a text with every field as it is written, and the bytes after it. -/
def readFront (text : Bytes) : Except Fault (Json × Bytes) :=
  Reader.value (3 * text.length + 3) Reader.depthLimit text

/-- The value that a text holds and nothing else, with every field as it is written. -/
def readWritten (text : Bytes) : Except Fault Json :=
  match readFront text with
  | .error fault => .error fault
  | .ok (value, rest) =>
    match Reader.skipBlanks rest with
    | [] => .ok value
    | _ :: rest => Reader.failHere .trailingCharacters rest

def readFirst (text : Bytes) : Except Fault Json := do
  let (value, _) ← readFront text
  pure value.settled

/-- The value that a text holds and nothing else. -/
def read (text : Bytes) : Except Fault Json := do
  let value ← readWritten text
  pure value.settled

/-- The value that a text holds and nothing else. -/
def readText (text : String) : Except Fault Json := read (Text.utf8 text)

end ScriptOracle.Json
