import ScriptOracle.Secrets.Config
import ScriptOracle.Secrets.Verifier

/-!
# What is sent to the nodes

A package holds the script, its arguments and its secrets in encrypted form. `Config.plan` decides what
has to be encrypted, and finds the keys for it, before anything is done. Addresses of hosted secrets are
encrypted as they are, and only after what they host was verified; the secrets themselves are signed.
-/

namespace ScriptOracle.Secrets

structure Package where
  source : String
  secrets : Option String
  args : Option (List String)
deriving DecidableEq, Repr

namespace Package

/-- A package as a data value. What is not there is left out. -/
def toJson (package : Package) : Json :=
  .object ([("source", .string package.source)]
    ++ (package.secrets.map fun secrets => ("secrets", Json.string secrets)).toList
    ++ (package.args.map fun args => ("args", Json.ofStrings args)).toList)

end Package

inductive Plan where
  | nothing
  | hosted (publicKey : String) (urls : List String)
  | inline (walletKey publicKey : String) (secrets : Fields String)
deriving DecidableEq, Repr

namespace Config

def keys (config : Config) : Except ConfigFault (String × String) :=
  match config.walletKey, config.publicKey with
  | none, _ => .error (.invalid "walletPrivateKey")
  | some _, none => .error (.invalid "DONPublicKey")
  | some walletKey, some publicKey => .ok (walletKey, publicKey)

/-- What has to be encrypted. Addresses go before secrets. -/
def plan (config : Config) : Except ConfigFault Plan :=
  if config.secretsUrls != [] then do
    let (_, publicKey) ← config.keys
    pure (.hosted publicKey config.secretsUrls)
  else
    match config.secrets with
    | none => .ok .nothing
    | some [] => .ok .nothing
    | some (secret :: more) => do
      let (walletKey, publicKey) ← config.keys
      pure (.inline walletKey publicKey (secret :: more))

end Config

namespace Plan

def joined (urls : List String) : String := " ".intercalate urls

def marked (result : Except EncryptionFault String) : Except Fault (Option String) :=
  match result with
  | .ok text => .ok (some ("0x" ++ text))
  | .error fault => .error (.encryption fault)

/-- Carries out a plan. Hosted secrets are verified if nodes are given. The addresses that were asked for
are told, too. -/
def carryOut (servers : Servers) (draw : Draw) (nodes : List String) :
    Plan -> List String × Except Fault (Option String)
  | .nothing => ([], .ok none)
  | .hosted publicKey urls =>
    let (asked, verified) :=
      if nodes = [] then ([], .ok ⟨0, []⟩) else Verifier.usual.check servers urls nodes
    (asked, verified.bind fun _ => marked (encrypt draw publicKey (joined urls)))
  | .inline walletKey publicKey secrets =>
    ([], marked (encryptSigned draw walletKey publicKey (secretsText secrets)))

end Plan

namespace Package

/-- Makes the package of a configuration that is in order. -/
def make (servers : Servers) (draw : Draw) (config : Config) (plan : Plan) (nodes : List String) :
    List String × Except Fault Package :=
  let (asked, secrets) := plan.carryOut servers draw nodes
  (asked, secrets.map fun secrets => ⟨config.source, secrets, config.args⟩)

/-- Reads a configuration and makes its package. The addresses that were asked for are told, too. -/
def build (servers : Servers) (draw : Draw) (input : Json) (nodes : List String) :
    List String × Except Fault Package :=
  let prepared : Except ConfigFault (Config × Plan) := do
    let config ← Config.read input
    let plan ← config.plan
    pure (config, plan)
  match prepared with
  | .error fault => ([], .error (.config fault))
  | .ok (config, plan) => make servers draw config plan nodes

end Package

end ScriptOracle.Secrets
