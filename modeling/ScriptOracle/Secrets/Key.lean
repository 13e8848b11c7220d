import ScriptOracle.Crypto.Curve
import ScriptOracle.Secrets.Fault
import ScriptOracle.Text.Case

/-!
# Keys as text

Keys are written as hexadecimal digits. Blanks around them and the mark `0x` in front of them are passed
over. A public key may leave out its second coordinate, or the byte that tells that both are there.
-/

namespace ScriptOracle.Secrets

open Crypto.Curve

namespace Key

/-- The characters behind the mark `0x`, if it is there. -/
def unmarkedChars : List Char -> List Char
  | '0' :: 'x' :: rest => rest
  | '0' :: 'X' :: rest => rest
  | chars => chars

/-- The digits of a text, without the blanks around them and the mark in front of them. -/
def bareDigits (text : String) : String :=
  String.ofList (unmarkedChars (Text.trim text).toList)

def readBytes (text : String) : Except Hexadecimal.Fault Bytes :=
  Hexadecimal.decodeText (bareDigits text)

/-- The bytes of a public key in the form that tells its length. -/
def standardForm (bytes : Bytes) : Except EncryptionFault Bytes :=
  if bytes.length = 64 then .ok (0x04 :: bytes)
  else if bytes.length = 65 ∨ bytes.length = 33 then .ok bytes
  else .error (.keyLength bytes.length)

def readPublic (text : String) : Except EncryptionFault PublicKey := do
  let bytes ←
    match readBytes text with
    | .ok bytes => pure bytes
    | .error fault => throw (.keyNotHex fault)
  let bytes ← standardForm bytes
  match PublicKey.ofBytes? bytes with
  | some key => pure key
  | none => throw .keyOffCurve

/-- The thirty-two bytes of a private key. -/
def privateBytes? (text : String) : Option Bytes :=
  (readBytes text).toOption.filter (·.length = 32)

def readPrivate? (text : String) : Option PrivateKey :=
  (privateBytes? text).bind PrivateKey.ofBytes?

/-- The text of a public key: both coordinates, without a mark. -/
def publicText (key : PublicKey) : String := Hexadecimal.encode key.uncompressed.tail

def publish (text : String) : Except EncryptionFault String :=
  match readPrivate? text with
  | some key => .ok (publicText key.publicKey)
  | none => .error .badPrivateKey

end Key

end ScriptOracle.Secrets
