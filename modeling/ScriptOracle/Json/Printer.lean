import ScriptOracle.Json.Basic
import ScriptOracle.Number.Layout
import ScriptOracle.Text.Hexadecimal

/-!
# The text of data values

`Json.compact` writes no blanks. `Json.pretty` puts every item on a line of its own, indented by two
blanks for each level. Quotes, backslashes and control characters are escaped and nothing else is.
-/

namespace ScriptOracle.Json

def escapeChar (c : Char) : List Char :=
  if c = '"' then ['\\', '"']
  else if c = '\\' then ['\\', '\\']
  else if c = '\x08' then ['\\', 'b']
  else if c = '\x0C' then ['\\', 'f']
  else if c = '\n' then ['\\', 'n']
  else if c = '\r' then ['\\', 'r']
  else if c = '\t' then ['\\', 't']
  else if c.toNat < 0x20 then
    ['\\', 'u', '0', '0', Hexadecimal.digit (c.toNat / 16), Hexadecimal.digit (c.toNat % 16)]
  else [c]

def quote (text : String) : List Char :=
  '"' :: text.toList.flatMap escapeChar ++ ['"']

def integerText (n : Int) : List Char :=
  if n < 0 then '-' :: Double.decimal n.natAbs else Double.decimal n.natAbs

/-- A double in decimal; what is no number is written as null. -/
def doubleText (x : Float) : List Char :=
  match Double.dyadic? x with
  | none => ['n', 'u', 'l', 'l']
  | some _ => (Double.Layout.json.render x).toList

mutual

def compactChars : Json -> List Char
  | .null => ['n', 'u', 'l', 'l']
  | .bool true => ['t', 'r', 'u', 'e']
  | .bool false => ['f', 'a', 'l', 's', 'e']
  | .integer n => integerText n
  | .double x => doubleText x
  | .string text => quote text
  | .array items => '[' :: compactItems items ++ [']']
  | .object fields => '{' :: compactFields fields ++ ['}']

def compactItems : List Json -> List Char
  | [] => []
  | [item] => compactChars item
  | item :: rest => compactChars item ++ ',' :: compactItems rest

def compactFields : List (String × Json) -> List Char
  | [] => []
  | [(name, value)] => quote name ++ ':' :: compactChars value
  | (name, value) :: rest => quote name ++ ':' :: compactChars value ++ ',' :: compactFields rest

end

def compact (value : Json) : String := String.ofList value.compactChars

def lineAt (level : Nat) : List Char := '\n' :: List.replicate (2 * level) ' '

mutual

def prettyChars (level : Nat) : Json -> List Char
  | .array [] => ['[', ']']
  | .array (item :: rest) =>
    '[' :: prettyItems (level + 1) (item :: rest) ++ lineAt level ++ [']']
  | .object [] => ['{', '}']
  | .object (field :: rest) =>
    '{' :: prettyFields (level + 1) (field :: rest) ++ lineAt level ++ ['}']
  | .null => ['n', 'u', 'l', 'l']
  | .bool true => ['t', 'r', 'u', 'e']
  | .bool false => ['f', 'a', 'l', 's', 'e']
  | .integer n => integerText n
  | .double x => doubleText x
  | .string text => quote text

def prettyItems (level : Nat) : List Json -> List Char
  | [] => []
  | [item] => lineAt level ++ prettyChars level item
  | item :: rest => lineAt level ++ prettyChars level item ++ ',' :: prettyItems level rest

def prettyFields (level : Nat) : List (String × Json) -> List Char
  | [] => []
  | [(name, value)] => lineAt level ++ quote name ++ ':' :: ' ' :: prettyChars level value
  | (name, value) :: rest =>
    lineAt level ++ quote name ++ ':' :: ' ' :: prettyChars level value
      ++ ',' :: prettyFields level rest

end

def pretty (value : Json) : String := String.ofList (value.prettyChars 0)

/-- The text of a value inside other text: a text itself, nothing for null, else the compact
form. -/
def scalarText : Json -> String
  | .string text => text
  | .null => ""
  | other => other.compact

end ScriptOracle.Json
