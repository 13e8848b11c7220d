import ScriptOracle.Json.Record
import ScriptOracle.Secrets.Cipher
import ScriptOracle.Secrets.Signing
import ScriptOracle.Text.Base64

/-!
# Signed secrets

Secrets are sent in an envelope that tells who signed them: a record of the message and its signature,
whose text is then encrypted. `hostedDocument` is the form in which they are put at an address: one entry
that counts for every node, in base 64.
-/

namespace ScriptOracle.Secrets

structure Envelope where
  message : String
  signature : Option String
deriving DecidableEq, Repr

namespace Envelope

structure Draft where
  message : Option String
  signature : Option (Option String)

/-- The envelope of a draft; the message has to be there. -/
def Draft.finish (draft : Draft) : Except Json.Mismatch Envelope :=
  match draft.message with
  | none => .error (.missing "message")
  | some message => .ok ⟨message, draft.signature.getD none⟩

/-- The fields of an envelope in order. -/
def slots : List (Json.Slot Draft) := [
  { name := "message", names := ["message"], required := true, filled := (·.message.isSome)
    fill := fun draft value => do pure { draft with message := some (← Json.readString value) } },
  { name := "signature", names := ["signature"], required := false
    filled := (·.signature.isSome)
    fill := fun draft value => do
      pure { draft with signature := some (← Json.readOptional Json.readString value) } }]

def type : Json.RecordType Draft Envelope where
  name := "SecretsEnvelope"
  slots := slots
  blank := ⟨none, none⟩
  finish := Draft.finish

/-- An envelope as a data value. A signature that is not there is left out. -/
def toJson (envelope : Envelope) : Json :=
  .object (("message", .string envelope.message)
    :: (envelope.signature.map fun signature => ("signature", Json.string signature)).toList)

/-- The envelope that a text holds. A field that is written twice makes it none. -/
def ofText? (text : String) : Option Envelope :=
  match Json.readWritten (Text.utf8 text) with
  | .error _ => none
  | .ok value => (type.read value).toOption

end Envelope

/-- The text of secrets: an object with names in ascending order. -/
def secretsText (secrets : Fields String) : String :=
  (Json.ofStringFields (Fields.sorted secrets)).compact

def encryptSigned (draw : Draw) (signerKey publicKey message : String) :
    Except EncryptionFault String := do
  let signature ← sign signerKey message
  encrypt draw publicKey (Envelope.toJson ⟨message, some signature⟩).compact

/-- The name of the entry that counts for every node without one of its own. -/
def defaultEntry : String := "0x0"

def hostedDocument (draw : Draw) (walletKey publicKey : String) (secrets : Fields String) :
    Except EncryptionFault Json := do
  let text ← encryptSigned draw walletKey publicKey (secretsText secrets)
  let bytes := (Hexadecimal.decodeText text).toOption.getD []
  pure (.object [(defaultEntry, .string (Base64.encode bytes))])

end ScriptOracle.Secrets
