import ScriptOracle.Crypto.Keccak
import ScriptOracle.Crypto.Signature
import ScriptOracle.Secrets.Key

/-!
# Signing messages

The hash of a message is signed. A signature is written as the mark `0x`, its two numbers, and a byte from
which the signer can be told: 27 and the mark of the signature.
-/

namespace ScriptOracle.Secrets

open Crypto Crypto.Curve

def digestOf (message : String) : Bytes := Keccak.hash (Text.utf8 message)

/-- The least last byte of a signature that is written here. -/
def markBase : Nat := 27

def signatureBytes (signature : Signature) : Bytes :=
  Word256.bigEndian 32 signature.r ++ Word256.bigEndian 32 signature.s
    ++ [UInt8.ofNat (markBase + signature.mark)]

def signatureText (signature : Signature) : String :=
  "0x" ++ Hexadecimal.encode (signatureBytes signature)

def isScalar (n : Nat) : Bool := 0 < n && n < order

def sign (privateKey message : String) : Except EncryptionFault String :=
  match Key.privateBytes? privateKey with
  | none => .error .badPrivateKey
  | some bytes =>
    match PrivateKey.ofBytes? bytes with
    | none => .error .privateKeyOutOfRange
    | some secret =>
      let signature := Signature.make secret (digestOf message)
      if isScalar signature.r && isScalar signature.s then .ok (signatureText signature)
      else .error .noSignature

/-- The mark that a last byte stands for. -/
def readMark (byte : UInt8) : Except DecryptionFault Nat :=
  let mark := if markBase ≤ byte.toNat then byte.toNat - markBase else byte.toNat
  if mark < 4 then .ok mark else .error (.badMark byte)

def readSignature (text : String) : Except DecryptionFault Signature := do
  let bytes ←
    match Key.readBytes text with
    | .ok bytes => pure bytes
    | .error fault => throw (.signatureNotHex fault)
  if bytes.length != 65 then throw .signatureLength
  let r := Word256.ofBigEndian (bytes.take 32)
  let s := Word256.ofBigEndian ((bytes.drop 32).take 32)
  if !(isScalar r && isScalar s) then throw .malformedSignature
  let mark ← readMark (bytes.getLastD 0)
  pure ⟨r, s, mark % 2 == 1, 2 ≤ mark⟩

/-- The public key of the signer of a message, as text. -/
def recover (message signature : String) : Except DecryptionFault String := do
  let signature ← readSignature signature
  match signature.recover? (digestOf message) with
  | some key => pure (Key.publicText key)
  | none => throw .noSigner

end ScriptOracle.Secrets
