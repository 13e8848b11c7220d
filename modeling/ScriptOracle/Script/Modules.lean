import ScriptOracle.Crypto.Blake3
import ScriptOracle.Crypto.Keccak
import ScriptOracle.Crypto.Sha256
import ScriptOracle.Script.Data
import ScriptOracle.Text.Base64
import ScriptOracle.Url.Reader

/-!
# The modules that a script may ask for

`buffer` turns text into bytes and back, `crypto` hashes, `querystring` writes forms, `string_decoder`
reads UTF-8, `url` takes addresses apart and `util` shows values. No other module is given out, and
none of these touches files, the network or the process.
-/

namespace ScriptOracle.Script

/-- Throws an error about a value of the wrong kind. -/
def raiseType {α : Type} (message : String) : Task α := Task.raise .type message

def argument (args : List Value) (index : Nat) : Value := args.getD index .undefined

namespace Modules

def functions? (name : String) : Option (List (String × Native × Nat)) :=
  match name with
  | "buffer" => some [("from", .bufferFrom, 2), ("toString", .bufferText, 2),
      ("concat", .bufferConcat, 2)]
  | "crypto" => some [("sha256", .digest .sha256, 1), ("keccak256", .digest .keccak256, 1),
      ("blake3", .digest .blake3, 1)]
  | "querystring" => some [("stringify", .formText, 1)]
  | "string_decoder" => some [("decode", .decodeText, 1)]
  | "url" => some [("parse", .parseUrl, 1)]
  | "util" => some [("inspect", .inspect, 1)]
  | _ => none

def require (args : List Value) : Task Value := do
  let name ← toText (argument args 0)
  match functions? name with
  | some functions =>
    Task.update fun heap =>
      let (heap, ref) := heap.alloc (.ofKind .plain Root.object.ref)
      (heap.addNatives ref functions, .object ref)
  | none => Task.raise .error s!"module '{name}' is not allowed"

/-- The bytes of an argument: the UTF-8 of a text, or what an object holds. -/
def inputBytes (value : Value) : Task Bytes :=
  match value with
  | .text units => pure (Text.utf8 (Units.toText units))
  | .object _ => bytesOf value
  | _ => raiseType "expected a string or byte array"

inductive Encoding where
  | utf8
  | hex
  | base64
deriving DecidableEq, Repr

def Encoding.named? (name : String) : Option Encoding :=
  match Text.asciiLowerCase name with
  | "utf8" | "utf-8" => some .utf8
  | "hex" => some .hex
  | "base64" => some .base64
  | _ => none

/-- The encoding that an argument names; UTF-8 if there is none. -/
def encodingOf (value : Value) : Task Encoding :=
  match value with
  | .undefined => pure .utf8
  | value => do
    let name ← toText value
    match Encoding.named? name with
    | some encoding => pure encoding
    | none => raiseType s!"unknown encoding '{Text.asciiLowerCase name}'"

/-- The characters behind every leading `0x`. -/
def withoutMarks : List Char -> List Char
  | '0' :: 'x' :: rest => withoutMarks rest
  | chars => chars

def Encoding.read (encoding : Encoding) (text : String) : Except String Bytes :=
  match encoding with
  | .utf8 => .ok (Text.utf8 text)
  | .hex =>
    match Hexadecimal.decodeText (String.ofList (withoutMarks text.toList)) with
    | .ok bytes => .ok bytes
    | .error fault => .error s!"invalid hex: {fault.message}"
  | .base64 =>
    match Base64.decodeText text with
    | .ok bytes => .ok bytes
    | .error fault => .error s!"invalid base64: {fault.message}"

def Encoding.write (encoding : Encoding) (bytes : Bytes) : String :=
  match encoding with
  | .utf8 => Text.ofUtf8Lossy bytes
  | .hex => Hexadecimal.encode bytes
  | .base64 => Base64.encode bytes

def newBytes (bytes : Bytes) : Task Value := Task.update fun heap => heap.allocBytes bytes

/-- Bytes from a text in an encoding, or from an object. -/
def bufferFrom (args : List Value) : Task Value := do
  match argument args 0 with
  | .text units =>
    let encoding ← encodingOf (argument args 1)
    match encoding.read (Units.toText units) with
    | .ok bytes => newBytes bytes
    | .error message => raiseType message
  | value =>
    let bytes ← inputBytes value
    newBytes bytes

def bufferText (args : List Value) : Task Value := do
  let bytes ← inputBytes (argument args 0)
  let encoding ← encodingOf (argument args 1)
  pure (.ofText (encoding.write bytes))

def bufferConcat (args : List Value) : Task Value := do
  let parts ← Task.each inputBytes args
  newBytes parts.flatten

def digestOf : Digest -> Bytes -> Bytes
  | .sha256 => Crypto.Sha256.hash
  | .keccak256 => Crypto.Keccak.hash
  | .blake3 => Crypto.Blake3.hash

/-- The hash of an argument as hexadecimal text. -/
def digest (digest : Digest) (args : List Value) : Task Value := do
  let bytes ← inputBytes (argument args 0)
  pure (.ofText (Hexadecimal.encode (digestOf digest bytes)))

/-- The pairs that a field of an object stands for: one for each item of a list, else one. -/
def fieldPairs (field : String × Json) : List (String × String) :=
  match field.2 with
  | .array items => items.map fun item => (field.1, item.scalarText)
  | value => [(field.1, value.scalarText)]

/-- The pairs that a data value stands for. -/
def formPairs : Json -> List (String × String)
  | .object fields => fields.flatMap fieldPairs
  | _ => []

def formText (args : List Value) : Task Value := do
  let data ← toData (argument args 0)
  pure (.ofText (Form.render (formPairs data)))

def decodeText (args : List Value) : Task Value := do
  let bytes ← inputBytes (argument args 0)
  pure (.ofText (Text.ofUtf8Lossy bytes))

/-- A part behind its mark, or nothing. -/
def markedText (mark : String) (part : Option (List Char)) : String :=
  match part with
  | some chars => mark ++ String.ofList chars
  | none => ""

def urlParts (url : Url) : Json :=
  let port := match url.port with
    | some port => String.ofList (Double.decimal port)
    | none => ""
  .object [
    ("href", .string url.text),
    ("protocol", .string (url.scheme ++ ":")),
    ("host", .string (if url.port.isSome then url.hostText ++ ":" ++ port else url.hostText)),
    ("hostname", .string url.hostText),
    ("port", .string port),
    ("pathname", .string (String.ofList url.path.text)),
    ("search", .string (markedText "?" url.query)),
    ("hash", .string (markedText "#" url.fragment))]

def parseUrl (args : List Value) : Task Value := do
  let text ← toText (argument args 0)
  match Url.read text with
  | .ok url => ofData (urlParts url)
  | .error _ => raiseType "Invalid URL"

def inspect (args : List Value) : Task Value := do
  let text ← render (argument args 0)
  pure (.ofText text)

end Modules

end ScriptOracle.Script
