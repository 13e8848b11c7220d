import ScriptOracle.Json.Printer
import ScriptOracle.ReturnType
import ScriptOracle.Secrets.Fault
import ScriptOracle.Url.Reader

/-!
# The configuration of a request

A configuration is an object that tells the script, its arguments, and its secrets: either the secrets
themselves or the addresses at which they are hosted. Options are checked in a fixed order and the first
one that is wrong is reported. Except for the private key, an option that is null, false, zero or an empty
text counts as left out.
-/

namespace ScriptOracle.Secrets

/-- A configuration that was found to be in order. -/
structure Config where
  source : String
  args : Option (List String)
  /-- In ascending order of names. -/
  secrets : Option (Fields String)
  secretsUrls : List String
  walletKey : Option String
  publicKey : Option String
  maxResponseBytes : Option Nat
  quota : Option Nat
  returnType : Option ReturnType
deriving DecidableEq, Repr

namespace Config

def options : List String := [
  "codeLocation", "codeLanguage", "source", "args", "secrets", "secretsURLs", "walletPrivateKey",
  "DONPublicKey", "maxResponseBytes", "numAllowedQueries", "expectedReturnType"]

def checkNames (fields : Fields Json) : Except ConfigFault Unit :=
  match (Fields.names fields).find? (!options.contains ·) with
  | some name => .error (.unrecognized name)
  | none => .ok ()

/-- Checks an option that allows one name, or zero in its place. -/
def checkChoice (config : Json) (option name : String) : Except ConfigFault Unit :=
  match config.get? option with
  | some (.string text) => if text = name then .ok () else .error (.invalid option)
  | some (.integer n) => if n = 0 then .ok () else .error (.invalid option)
  | _ => .error (.invalid option)

def readSource (config : Json) : Except ConfigFault String :=
  match config.get? "source" with
  | some (.string source) => .ok source
  | _ => .error (.invalid "source")

/-- A whole number of thirty-two bits, if it is given. -/
def readNumber (config : Json) (option : String) : Except ConfigFault (Option Nat) :=
  match config.given? option with
  | none => .ok none
  | some (.integer n) =>
    if 0 ≤ n ∧ n < (1 <<< 32 : Nat) then .ok (some n.toNat) else .error (.invalid option)
  | some _ => .error (.invalid option)

/-- The secrets, if they are given. -/
def readSecrets (config : Json) : Except ConfigFault (Option (Fields String)) :=
  match config.given? "secrets" with
  | none => .ok none
  | some (.object fields) =>
    match Json.asStringFields? fields with
    | some secrets => .ok (some (Fields.sorted secrets))
    | none => .error .secretNotText
  | some _ => .error .secretsNotObject

def isWebUrl (text : String) : Bool :=
  match Url.read text with
  | .ok url => (url.scheme == "http" || url.scheme == "https") && url.host.isSome
  | .error _ => false

def readUrlItems : List Json -> Except ConfigFault (List String)
  | [] => .ok []
  | .string text :: rest => do
    if isWebUrl text then
      let urls ← readUrlItems rest
      pure (text :: urls)
    else throw (.badUrl text)
  | item :: _ => .error (.badUrl item.compact)

def readUrls (config : Json) : Except ConfigFault (List String) :=
  match config.given? "secretsURLs" with
  | none => .ok []
  | some (.array items) => readUrlItems items
  | some _ => .error .urlsNotList

/-- The private key. An empty text is a key, though not a good one. -/
def readWalletKey (config : Json) : Except ConfigFault (Option String) :=
  match config.get? "walletPrivateKey" with
  | none => .ok none
  | some .null => .ok none
  | some (.string key) => .ok (some key)
  | some _ => .error (.invalid "walletPrivateKey")

def readPublicKey (config : Json) : Except ConfigFault (Option String) :=
  match config.given? "DONPublicKey" with
  | none => .ok none
  | some (.string key) => .ok (some key)
  | some _ => .error (.invalid "DONPublicKey")

def checkWallet (urls : List String) (key : Option String) : Except ConfigFault Unit :=
  if !urls.isEmpty && key.isNone then .error (.invalid "walletPrivateKey") else .ok ()

def readArgs (config : Json) : Except ConfigFault (Option (List String)) :=
  match config.given? "args" with
  | none => .ok none
  | some (.array items) =>
    match Json.asStrings? items with
    | some args => .ok (some args)
    | none => .error .argNotText
  | some _ => .error .argsNotList

def readReturnType (config : Json) : Except ConfigFault (Option ReturnType) :=
  match config.given? "expectedReturnType" with
  | none => .ok none
  | some value =>
    match value.asString?.bind ReturnType.ofName? with
    | some type => .ok (some type)
    | none => .error (.invalid "expectedReturnType")

def readFields (config : Json) : Except ConfigFault Config := do
  checkChoice config "codeLocation" "Inline"
  checkChoice config "codeLanguage" "JavaScript"
  let source ← readSource config
  let quota ← readNumber config "numAllowedQueries"
  let secrets ← readSecrets config
  let secretsUrls ← readUrls config
  let walletKey ← readWalletKey config
  let publicKey ← readPublicKey config
  checkWallet secretsUrls walletKey
  let args ← readArgs config
  let maxResponseBytes ← readNumber config "maxResponseBytes"
  let returnType ← readReturnType config
  pure ⟨source, args, secrets, secretsUrls, walletKey, publicKey, maxResponseBytes, quota,
    returnType⟩

def read (config : Json) : Except ConfigFault Config :=
  match config with
  | .object fields => do
    checkNames fields
    readFields config
  | _ => .error .notObject

/-- A configuration as a data value, with null for what is not there. -/
def toJson (config : Config) : Json :=
  let orNull (value : Option Json) : Json := value.getD .null
  .object [
    ("source", .string config.source),
    ("args", orNull (config.args.map Json.ofStrings)),
    ("secrets", orNull (config.secrets.map Json.ofStringFields)),
    ("secretsURLs", .ofStrings config.secretsUrls),
    ("walletPrivateKey", orNull (config.walletKey.map Json.string)),
    ("DONPublicKey", orNull (config.publicKey.map Json.string)),
    ("maxResponseBytes", orNull (config.maxResponseBytes.map Json.ofNat)),
    ("numAllowedQueries", orNull (config.quota.map Json.ofNat)),
    ("expectedReturnType", orNull (config.returnType.map fun type => Json.string type.name))]

end Config

end ScriptOracle.Secrets
