import ScriptOracle.CommandLine.Arguments

/-!
# Commands

There are commands to run a script, to build a request from its configuration, to encrypt a message, to
make the document in which secrets are hosted, and to verify such documents.
-/

namespace ScriptOracle.CommandLine

/-- What can be asked for. A file is named by its path, and `-` is what comes in. -/
inductive Command where
  | simulate (source : String) (args : List String) (secrets : Option String)
    (quota maxResponseBytes : Option Nat) (returnType : Option String)
  | buildRequest (config : String) (nodes : List String)
  | encrypt (message publicKey : String) (signerKey : Option String)
  | hostSecrets (secrets walletKey publicKey : String)
  | verifySecrets (urls nodes : List String)
deriving DecidableEq, Repr

namespace Command

def publicKeyVariable : String := "DON_PUBLIC_KEY"

def walletKeyVariable : String := "WALLET_PRIVATE_KEY"

/-- The variable that tells how many requests a script may send. -/
def quotaVariable : String := "SANDBOX_DEFAULT_MAX_HTTP_QUERIES"

def simulateRule : CommandRule where
  name := "simulate"
  options := [
    ⟨"args", .texts, none, false⟩,
    ⟨"secrets", .text, none, false⟩,
    ⟨"quota", .number, some quotaVariable, false⟩,
    ⟨"max-response-bytes", .size, none, false⟩,
    ⟨"return-type", .text, none, false⟩]
  least := 1
  most := some 1

def buildRequestRule : CommandRule where
  name := "build-request"
  options := [⟨"nodes", .texts, none, false⟩]
  least := 0
  most := some 1

def encryptRule : CommandRule where
  name := "encrypt"
  options := [
    ⟨"public-key", .text, some publicKeyVariable, true⟩,
    ⟨"signer-key", .text, some walletKeyVariable, false⟩]
  least := 1
  most := some 1

def hostSecretsRule : CommandRule where
  name := "offchain-secrets"
  options := [
    ⟨"wallet-key", .text, some walletKeyVariable, true⟩,
    ⟨"public-key", .text, some publicKeyVariable, true⟩]
  least := 1
  most := some 1

def verifySecretsRule : CommandRule where
  name := "verify-secrets"
  options := [⟨"nodes", .texts, none, false⟩]
  least := 1
  most := none

def number? (text : String) : Option Nat := (Whole.readSigned? text).map Int.toNat

def ofSimulate (found : Found) : Command :=
  .simulate (found.operands.headD "") (found.texts "args") (found.text? "secrets")
    ((found.text? "quota").bind number?) ((found.text? "max-response-bytes").bind number?)
    (found.text? "return-type")

def ofBuildRequest (found : Found) : Command :=
  .buildRequest (found.operands.headD "-") (found.texts "nodes")

def ofEncrypt (found : Found) : Command :=
  .encrypt (found.operands.headD "") ((found.text? "public-key").getD "")
    (found.text? "signer-key")

def ofHostSecrets (found : Found) : Command :=
  .hostSecrets (found.operands.headD "") ((found.text? "wallet-key").getD "")
    ((found.text? "public-key").getD "")

def ofVerifySecrets (found : Found) : Command := .verifySecrets found.operands (found.texts "nodes")

def rules : List (CommandRule × (Found -> Command)) := [
  (simulateRule, ofSimulate),
  (buildRequestRule, ofBuildRequest),
  (encryptRule, ofEncrypt),
  (hostSecretsRule, ofHostSecrets),
  (verifySecretsRule, ofVerifySecrets)]

def rule? (name : String) : Option (CommandRule × (Found -> Command)) :=
  rules.find? (·.1.name == name)

def helpOn : List String -> Refusal
  | [] => .help
  | [name] => if (rule? name).isSome || name = "help" then .help else .misuse
  | _ => .misuse

def read (lookup : String -> Option String) : List String -> Except Refusal Command
  | [] => .error .misuse
  | first :: rest =>
    match CommandRule.Argument.ofText first with
    | .long name none =>
      .error (if name = "help" then .help else if name = "version" then .version else .misuse)
    | .short letter =>
      .error (if letter = 'h' then .help else if letter = 'V' then .version else .misuse)
    | .operand =>
      if first = "help" then .error (helpOn rest)
      else
        match rule? first with
        | none => .error .misuse
        | some (rule, command) => do
          let found ← rule.read lookup rest
          pure (command found)
    | _ => .error .misuse

/-- The paths of the files that a command reads, in order. -/
def paths : Command -> List String
  | .simulate source _ secrets _ _ _ => source :: secrets.toList
  | .buildRequest config _ => [config]
  | .encrypt _ _ _ => []
  | .hostSecrets secrets _ _ => [secrets]
  | .verifySecrets _ _ => []

end Command

end ScriptOracle.CommandLine
