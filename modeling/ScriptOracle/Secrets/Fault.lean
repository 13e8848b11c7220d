import ScriptOracle.Json.Reader
import ScriptOracle.Text.Hexadecimal

/-!
# What can go wrong with secrets

A configuration that is not in order, a text that cannot be encrypted or opened, and hosted secrets that
cannot be fetched, disagree, or leave a node without any. Every fault has a name for programs and a text
for people.
-/

namespace ScriptOracle.Secrets

inductive ConfigFault where
  | notObject
  | unrecognized (option : String)
  | invalid (option : String)
  | secretsNotObject
  | secretNotText
  | urlsNotList
  | badUrl (shown : String)
  | argsNotList
  | argNotText
deriving DecidableEq, Repr

namespace ConfigFault

def field : ConfigFault -> String
  | .notObject => "config"
  | .unrecognized option => option
  | .invalid option => option
  | .secretsNotObject => "secrets"
  | .secretNotText => "secrets"
  | .urlsNotList => "secretsURLs"
  | .badUrl _ => "secretsURLs"
  | .argsNotList => "args"
  | .argNotText => "args"

def message : ConfigFault -> String
  | .notObject => "config must be a JSON object"
  | .unrecognized option => s!"{option} is not a recognized config option"
  | .invalid option => s!"{option} is not correctly specified in config"
  | .secretsNotObject => "secrets object is not correctly specified in config"
  | .secretNotText =>
    "Secrets object is not correctly specified in config. It can only contain string values."
  | .urlsNotList => "secretsURLs array is not correctly specified in config"
  | .badUrl shown => s!"invalid HTTP or HTTPs URL {shown} in secretsURLs specified in config"
  | .argsNotList => "args array is not correctly specified in config"
  | .argNotText => "an element of the args array is not a string in config"

end ConfigFault

/-- Why a text cannot be encrypted or signed. -/
inductive EncryptionFault where
  | keyNotHex (fault : Hexadecimal.Fault)
  | keyLength (count : Nat)
  | keyOffCurve
  | badPrivateKey
  | privateKeyOutOfRange
  /-- One of the two numbers of the signature came out as zero. -/
  | noSignature
deriving DecidableEq, Repr

def EncryptionFault.message : EncryptionFault -> String
  | .keyNotHex fault => s!"public key is not hex: {fault.message}"
  | .keyLength count => s!"public key has {count} bytes, expected 33, 64 or 65"
  | .keyOffCurve => "public key is not on secp256k1"
  | .badPrivateKey => "private key must be 32 bytes of hex"
  | .privateKeyOutOfRange => "private key out of range"
  | .noSignature => "signature error"

/-- Why a text cannot be opened, or its signer cannot be told. -/
inductive DecryptionFault where
  | badPrivateKey
  | notHex (fault : Hexadecimal.Fault)
  | tooShort
  | badEphemeralKey
  | badTag
  | badPadding
  | notUtf8
  | signatureNotHex (fault : Hexadecimal.Fault)
  | signatureLength
  | malformedSignature
  | badMark (byte : UInt8)
  | noSigner
deriving DecidableEq, Repr

def DecryptionFault.message : DecryptionFault -> String
  | .badPrivateKey => "private key must be 32 bytes of hex"
  | .notHex fault => s!"ciphertext is not hex: {fault.message}"
  | .tooShort => "ciphertext too short"
  | .badEphemeralKey => "bad ephemeral key"
  | .badTag => "bad MAC"
  | .badPadding => "bad padding"
  | .notUtf8 => "plaintext is not UTF-8"
  | .signatureNotHex fault => s!"signature is not hex: {fault.message}"
  | .signatureLength => "signature must be 65 bytes"
  | .malformedSignature => "malformed signature"
  | .badMark byte => s!"bad recovery byte {byte.toNat}"
  | .noSigner => "signature does not recover"

inductive FetchFault where
  | timeout
  | failed (reason : String)
  | status (found : Nat)
  | tooLarge (maximum : Nat)
  | notJson (message : String)
deriving DecidableEq, Repr

def FetchFault.message : FetchFault -> String
  | .timeout => "timeout"
  | .failed reason => reason
  | .status found => s!"status {found}"
  | .tooLarge maximum => s!"response larger than {maximum} bytes"
  | .notJson message => s!"not JSON: {message}"

inductive Fault where
  | encryption (fault : EncryptionFault)
  | decryption (fault : DecryptionFault)
  | fetch (url : String) (fault : FetchFault)
  | inconsistent (firstUrl url : String)
  | missing (address url : String)
  | config (fault : ConfigFault)
deriving DecidableEq, Repr

namespace Fault

def name : Fault -> String
  | .encryption _ => "EncryptionError"
  | .decryption _ => "DecryptionError"
  | .fetch _ _ => "FetchError"
  | .inconsistent _ _ => "InconsistentSecretsError"
  | .missing _ _ => "MissingSecretsForNodeError"
  | .config _ => "ConfigError"

def message : Fault -> String
  | .encryption fault => s!"encryption failed: {fault.message}"
  | .decryption fault => s!"decryption failed: {fault.message}"
  | .fetch url fault => s!"Failed to fetch off-chain secrets from {url}: {fault.message}"
  | .inconsistent firstUrl url =>
    s!"Off-chain secrets URLs {url} and {firstUrl} do not contain the same JSON object. "
      ++ "All secrets URLs must have an identical JSON object."
  | .missing address _ =>
    s!"No secrets specified for node {address} and no default secrets found."
  | .config fault => fault.message

end Fault

end ScriptOracle.Secrets
