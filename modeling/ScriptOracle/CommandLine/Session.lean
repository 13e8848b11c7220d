import ScriptOracle.CommandLine.Command
import ScriptOracle.Net.Client
import ScriptOracle.Secrets.Package
import ScriptOracle.Settings

/-!
# Carrying out commands

A command reads its files, does its work and prints. It ends with zero if all went well, with two if what
was handed in is not in order, and with one if anything else went wrong. Beside what is printed, a session
tells what was done: the requests that were sent, the documents that were asked for, and the state of the
disk.
-/

namespace ScriptOracle.CommandLine

inductive ReadFault where
  | missing
  | directory
  | notText
  | other (reason : String)
deriving DecidableEq, Repr

def ReadFault.message : ReadFault -> String
  | .missing => "No such file or directory (os error 2)"
  | .directory => "Is a directory (os error 21)"
  | .notText => "stream did not contain valid UTF-8"
  | .other reason => reason

structure Surroundings where
  files : String -> Except ReadFault Bytes
  lookup : String -> Option String
  network : Net.Network
  servers : Secrets.Servers
  draw : Secrets.Draw

inductive Complaint where
  /-- What was handed in is not in order. -/
  | input (message : String)
  | other (message : String)
deriving DecidableEq, Repr

namespace Complaint

def message : Complaint -> String
  | .input message => message
  | .other message => message

def exitCode : Complaint -> Nat
  | .input _ => 2
  | .other _ => 1

def ofSecrets : Secrets.Fault -> Complaint
  | .config fault => .input fault.message
  | fault => .other s!"{fault.name}: {fault.message}"

end Complaint

structure Session where
  /-- What comes in and was not read yet. -/
  incoming : Bytes
  disk : Sandbox.Disk
  /-- The lines that were printed. -/
  lines : List String
  /-- The requests that the script sent. -/
  sent : List Gate.Prepared
  /-- The addresses of the documents that were asked for. -/
  asked : List String
  /-- Whether a script was run. -/
  hasRun : Bool

namespace Session

def start (incoming : Bytes) (disk : Sandbox.Disk) : Session := ⟨incoming, disk, [], [], [], false⟩

def print (session : Session) (line : String) : Session :=
  { session with lines := session.lines ++ [line] }

def printAll (session : Session) (lines : List String) : Session :=
  { session with lines := session.lines ++ lines }

end Session

/-- A step of a command. The session goes on after a complaint, so that it tells what was done before. -/
abbrev Step (α : Type) := Session -> Except Complaint α × Session

namespace Step

variable {α β : Type}

def done (value : α) : Step α := fun session => (.ok value, session)

def fail (complaint : Complaint) : Step α := fun session => (.error complaint, session)

def andThen (step : Step α) (next : α -> Step β) : Step β := fun session =>
  match step session with
  | (.ok value, session) => next value session
  | (.error complaint, session) => (.error complaint, session)

instance : Monad Step where
  pure := done
  bind := andThen

def ofExcept (result : Except Complaint α) : Step α := fun session => (result, session)

def print (line : String) : Step Unit := fun session => (.ok (), session.print line)

def printAll (lines : List String) : Step Unit := fun session => (.ok (), session.printAll lines)

end Step

def readIncoming : Step String := fun session =>
  let spent := { session with incoming := [] }
  match Text.ofUtf8? session.incoming with
  | some text => (.ok text, spent)
  | none => (.error (.input s!"read stdin: {ReadFault.notText.message}"), spent)

def fileText (files : String -> Except ReadFault Bytes) (path : String) :
    Except ReadFault String :=
  match files path with
  | .error fault => .error fault
  | .ok bytes =>
    match Text.ofUtf8? bytes with
    | some text => .ok text
    | none => .error .notText

def readText (around : Surroundings) (path : String) : Step String :=
  if path = "-" then readIncoming
  else
    match fileText around.files path with
    | .ok text => .done text
    | .error fault => .fail (.input s!"read {path}: {fault.message}")

def readJson (around : Surroundings) (path : String) : Step Json := do
  let text ← readText around path
  match Json.readText text with
  | .ok value => .done value
  | .error fault => .fail (.input s!"parse {path}: {fault.message (Text.utf8 text)}")

def readSecrets (around : Surroundings) (path : String) : Step (Fields String) := do
  let value ← readJson around path
  match Json.readStringFields value with
  | .ok secrets => .done secrets
  | .error _ => .fail (.input s!"{path}: secrets must be an object of strings")

def readReturnType : Option String -> Except Complaint (Option ReturnType)
  | none => .ok none
  | some name =>
    match ReturnType.ofName? name with
    | some type => .ok (some type)
    | none =>
      .error (.input s!"unknown return type {name}, expected uint256, int256, string or Buffer")

def logLine (entry : Gate.LogEntry) : String :=
  let badge := if entry.dispatched then "sent" else "blocked"
  let outcome :=
    match entry.status with
    | some status => toString status
    | none => entry.error.getD ""
  s!"{badge} {entry.method} {entry.url} {outcome}"

def logOf : Sandbox.Verdict -> List Gate.LogEntry
  | .succeeded _ log => log
  | .failed fault => fault.log?.getD []
  | .crashed => []
  | .exhausted => []

def resultOf : Sandbox.Verdict -> Except Complaint Script.Result
  | .succeeded result _ => .ok result
  | .failed fault => .error (.other fault.text)
  | .crashed => .error (.other "the sandbox broke down")
  | .exhausted => .error (.other "the sandbox gave up")

def evaluate (around : Surroundings) (settings : Settings) (request : Sandbox.Request) :
    Step Sandbox.Verdict := fun session =>
  let (scratch, disk) := settings.openScratch session.disk
  let runner := { settings.runner scratch with logging := true }
  let host := Sandbox.Host.patient (Net.Client.transport around.network)
  let (report, _, disk) := runner.evaluate host disk request
  (.ok report.verdict,
    { session with disk := disk, sent := session.sent ++ report.sent, hasRun := true })

def bytesOf (result : Script.Result) (maximum : Nat) : Except Complaint Bytes :=
  match Sandbox.outputBytes result maximum with
  | .ok bytes => .ok bytes
  | .error fault => .error (.other fault.message)

def resultLines (type : Option ReturnType) (bytes : Bytes) : List String :=
  s!"Result:  {Sandbox.responseText bytes}"
    :: (type.map fun type => s!"Decoded: {type.decode bytes}").toList

/-- Runs a script and prints its log and its result. -/
def simulate (around : Surroundings) (source : String) (args : List String)
    (secrets : Option String) (quota maxResponseBytes : Option Nat) (returnType : Option String) :
    Step Unit := do
  let type ← Step.ofExcept (readReturnType returnType)
  let source ← readText around source
  let settings := Settings.ofVariables around.lookup
  let secrets ←
    match secrets with
    | none => pure none
    | some path => do pure (some (← readSecrets around path))
  let verdict ← evaluate around settings ⟨source, args, secrets, quota.getD settings.quota⟩
  Step.printAll ((logOf verdict).map logLine)
  let result ← Step.ofExcept (resultOf verdict)
  let bytes ← Step.ofExcept (bytesOf result (maxResponseBytes.getD settings.maxResponseBytes))
  Step.printAll (resultLines type bytes)

def withSecrets {α : Type} (result : Except Secrets.Fault α) : Step α :=
  Step.ofExcept (result.mapError Complaint.ofSecrets)

def tellAsked {α : Type} (found : List String × Except Secrets.Fault α) : Step α :=
  fun session => withSecrets found.2 { session with asked := session.asked ++ found.1 }

def buildRequest (around : Surroundings) (config : String) (nodes : List String) : Step Unit := do
  let value ← readJson around config
  let package ← tellAsked (Secrets.Package.build around.servers around.draw value nodes)
  Step.print package.toJson.pretty

def encrypt (around : Surroundings) (message publicKey : String) (signerKey : Option String) :
    Step Unit := do
  let result :=
    match signerKey with
    | some key => Secrets.encryptSigned around.draw key publicKey message
    | none => Secrets.encrypt around.draw publicKey message
  let text ← withSecrets (result.mapError Secrets.Fault.encryption)
  Step.print s!"0x{text}"

def hostSecrets (around : Surroundings) (path walletKey publicKey : String) : Step Unit := do
  let secrets ← readSecrets around path
  let result := Secrets.hostedDocument around.draw walletKey publicKey secrets
  let document ← withSecrets (result.mapError Secrets.Fault.encryption)
  Step.print document.pretty

def verifySecrets (around : Surroundings) (urls nodes : List String) : Step Unit := do
  let agreement ← tellAsked (Secrets.Verifier.usual.check around.servers urls nodes)
  Step.printAll (agreement.warnings.map fun warning => s!"warn: {warning.message}")
  Step.print s!"ok {agreement.checked} URL(s) hold identical secrets"

def carryOut (around : Surroundings) : Command -> Step Unit
  | .simulate source args secrets quota maxResponseBytes returnType =>
    simulate around source args secrets quota maxResponseBytes returnType
  | .buildRequest config nodes => buildRequest around config nodes
  | .encrypt message publicKey signerKey => encrypt around message publicKey signerKey
  | .hostSecrets secrets walletKey publicKey => hostSecrets around secrets walletKey publicKey
  | .verifySecrets urls nodes => verifySecrets around urls nodes

structure Ending where
  exitCode : Nat
  /-- The line for those who want to know what went wrong. -/
  error : Option String
  session : Session

def perform (around : Surroundings) (session : Session) (command : Command) : Ending :=
  match carryOut around command session with
  | (.ok _, session) => ⟨0, none, session⟩
  | (.error complaint, session) =>
    ⟨complaint.exitCode, some s!"error: {complaint.message}", session⟩

end ScriptOracle.CommandLine
