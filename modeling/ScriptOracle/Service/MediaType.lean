import ScriptOracle.Text.Case

/-!
# Media types

A media type has two names with a slash between them, and perhaps parameters behind semicolons. The part
of the second name behind its last plus sign tells a format that many types share.
-/

namespace ScriptOracle.Service

structure MediaType where
  main : List Char
  /-- The second name up to its last plus sign. -/
  sub : List Char
  /-- What stands behind that sign. -/
  format : Option (List Char)
deriving DecidableEq, Repr

namespace MediaType

def inName (c : Char) : Bool :=
  ('a' ≤ c && c ≤ 'z') || ('A' ≤ c && c ≤ 'Z') || ('0' ≤ c && c ≤ '9') ||
    ['!', '#', '$', '%', '&', '\x27', '*', '+', '-', '.', '^', '_', '\x60', '|', '~'].contains c

def inQuotes (c : Char) : Bool := '\x20' ≤ c && c != '\x7F'

/-- Where a reader of parameters stands. -/
inductive Place where
  /-- Before a parameter. -/
  | before
  | name
  /-- Behind the equals sign. -/
  | value
  /-- In a value without quotes. -/
  | bare
  /-- Behind the opening quote. -/
  | quote
  | quoted
  /-- Behind the closing quote. -/
  | after
deriving DecidableEq, Repr

/-- The place behind a character; nothing if the character cannot stand there. -/
def Place.next? (place : Place) (c : Char) : Option Place :=
  match place with
  | .before => if c = ' ' then some .before else if inName c then some .name else none
  | .name => if inName c then some .name else if c = '=' then some .value else none
  | .value => if c = '"' then some .quote else if inName c then some .bare else none
  | .bare => if inName c then some .bare else if c = ';' then some .before else none
  | .quote => if inQuotes c then some .quoted else none
  | .quoted => if c = '"' then some .after else if inQuotes c then some .quoted else none
  | .after => if c = ';' then some .before else if c = ' ' then some .after else none

def Place.isEnd : Place -> Bool
  | .before => true
  | .value => true
  | .bare => true
  | .after => true
  | _ => false

def areParameters (place : Place) : List Char -> Bool
  | [] => place.isEnd
  | c :: rest =>
    match place.next? c with
    | some place => areParameters place rest
    | none => false

/-- Splits a name at its last plus sign, which must not be its first character. -/
def splitFormat (name : List Char) : List Char × Option (List Char) :=
  let last := (name.reverse.takeWhile (· != '+')).reverse
  if name.length ≤ last.length + 1 then (name, none)
  else (name.take (name.length - last.length - 1), some last)

def read? (text : String) : Option MediaType :=
  let chars := text.toList
  let main := chars.takeWhile inName
  match chars.drop main.length with
  | '/' :: rest =>
    let name := rest.takeWhile inName
    let isFine :=
      match rest.drop name.length with
      | [] => true
      | ';' :: rest => !name.isEmpty && areParameters .before rest
      | _ => false
    if main.isEmpty || !isFine then none
    else
      let (sub, format) := splitFormat name
      some ⟨main.map Text.asciiLower, sub.map Text.asciiLower, format.map (·.map Text.asciiLower)⟩
  | _ => none

def isJson (type : MediaType) : Bool :=
  type.main == "application".toList &&
    (type.sub == "json".toList || type.format == some "json".toList)

end MediaType

end ScriptOracle.Service
