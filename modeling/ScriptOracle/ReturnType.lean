import ScriptOracle.Text.Hexadecimal
import ScriptOracle.Word256

/-!
# How a consumer reads an answer

The bytes that a script ends with are given to the caller as hexadecimal digits behind `0x`. No bytes at all
are `0x0`, which no other result has: every other text has an even number of digits. A consumer reads them as
an unsigned number, a signed one, a text, or plain bytes.
-/

namespace ScriptOracle

def Sandbox.responseText (bytes : Bytes) : String :=
  if bytes.isEmpty then "0x0" else "0x" ++ Hexadecimal.encode bytes

inductive ReturnType where
  | unsigned
  | signed
  | text
  | bytes
deriving DecidableEq, Repr

namespace ReturnType

def name : ReturnType -> String
  | .unsigned => "uint256"
  | .signed => "int256"
  | .text => "string"
  | .bytes => "Buffer"

def ofName? (name : String) : Option ReturnType :=
  if name = "uint256" then some .unsigned
  else if name = "int256" then some .signed
  else if name = "string" then some .text
  else if name = "Buffer" then some .bytes
  else none

@[simp] theorem ofName?_name (type : ReturnType) : ofName? type.name = some type := by
  cases type <;> decide

def decode (type : ReturnType) (bytes : Bytes) : String :=
  match type with
  | .unsigned => toString (Word256.decodeUnsigned bytes)
  | .signed => toString (Word256.decodeSigned bytes)
  | .text => Text.ofUtf8Lossy bytes
  | .bytes => Sandbox.responseText bytes

end ReturnType

end ScriptOracle
