import ScriptOracle.Crypto.Chain
import ScriptOracle.Crypto.Sha256
import ScriptOracle.Crypto.Sha512
import ScriptOracle.Secrets.Key

/-!
# Encrypting for the holder of a key

A fresh key and the key of the receiver share a secret, and its hash gives one key to encipher a text and
one to vouch for it. What is sent is the start of the chain of blocks, the fresh key, the voucher and the
enciphered text. The receiver finds the same secret from the fresh key, and opens nothing that is not
vouched for. Nothing here is left to chance: what is drawn anew for each text is handed in.
-/

namespace ScriptOracle.Secrets

open Crypto Crypto.Curve

structure Draw where
  key : PrivateKey
  /-- The start of the chain of blocks. -/
  start : Bytes
  length_start : start.length = Chain.width

structure Sealed where
  start : Bytes
  point : Bytes
  tag : Bytes
  body : Bytes
deriving DecidableEq, Repr

namespace Sealed

/-- The least number of bytes that is sent. -/
def minimum : Nat := 16 + 33 + 32 + 16

def toBytes (parts : Sealed) : Bytes := parts.start ++ parts.point ++ parts.tag ++ parts.body

def ofBytes? (bytes : Bytes) : Option Sealed :=
  if bytes.length < minimum then none
  else
    some {
      start := bytes.take 16
      point := (bytes.drop 16).take 33
      tag := (bytes.drop 49).take 32
      body := bytes.drop 81 }

end Sealed

/-- The keys that come of a shared secret: one to encipher and one to vouch. -/
def derivedKeys (secret : Bytes) : Bytes × Bytes :=
  let hash := Sha512.hash secret
  (hash.take 32, hash.drop 32)

def tagOf (key start : Bytes) (point : PublicKey) (body : Bytes) : Bytes :=
  Hmac.hash key (start ++ point.uncompressed ++ body)

def Sealed.make (draw : Draw) (receiver : PublicKey) (plain : Bytes) : Sealed :=
  let keys := derivedKeys (draw.key.shared receiver)
  let point := draw.key.publicKey
  let body := Chain.encipher keys.1 draw.start plain
  ⟨draw.start, point.compressed, tagOf keys.2 draw.start point body, body⟩

def Sealed.reveal (parts : Sealed) (receiver : PrivateKey) : Except DecryptionFault Bytes :=
  match PublicKey.ofBytes? parts.point with
  | none => .error .badEphemeralKey
  | some point =>
    let keys := derivedKeys (receiver.shared point)
    if tagOf keys.2 parts.start point parts.body != parts.tag then .error .badTag
    else
      match Chain.decipher? keys.1 parts.start parts.body with
      | none => .error .badPadding
      | some plain => .ok plain

def encrypt (draw : Draw) (publicKey message : String) : Except EncryptionFault String := do
  let receiver ← Key.readPublic publicKey
  pure (Hexadecimal.encode (Sealed.make draw receiver (Text.utf8 message)).toBytes)

def readSealed (text : String) : Except DecryptionFault Sealed :=
  match Key.readBytes text with
  | .error fault => .error (.notHex fault)
  | .ok bytes =>
    match Sealed.ofBytes? bytes with
    | none => .error .tooShort
    | some parts => .ok parts

def plainText (bytes : Bytes) : Except DecryptionFault String :=
  match Text.ofUtf8? bytes with
  | some text => .ok text
  | none => .error .notUtf8

def decrypt (privateKey text : String) : Except DecryptionFault String :=
  match Key.readPrivate? privateKey with
  | none => .error .badPrivateKey
  | some receiver => do
    let parts ← readSealed text
    let plain ← parts.reveal receiver
    plainText plain

end ScriptOracle.Secrets
