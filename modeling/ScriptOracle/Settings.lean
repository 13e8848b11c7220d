import ScriptOracle.Number.Decimal
import ScriptOracle.Sandbox.Runner
import ScriptOracle.Sandbox.Submission
import ScriptOracle.Text.Case

/-!
# Settings

What the surroundings say about how scripts are run. Each setting has a usual value, which also stands in
for a value that cannot be read. From the settings come the scratch directory, the runner, and what a
submission gets that says nothing of it.
-/

namespace ScriptOracle

inductive LogLevel where
  | error
  | warn
  | info
  | debug
  | trace
deriving DecidableEq, Repr

namespace LogLevel

def name : LogLevel -> String
  | .error => "error"
  | .warn => "warn"
  | .info => "info"
  | .debug => "debug"
  | .trace => "trace"

/-- The level of a name, in letters of either case; errors and warnings if it is no name. -/
def ofName (name : String) : LogLevel :=
  let name := Text.asciiLowerCase (Text.trim name)
  if name = "error" then .error
  else if name = "info" ∨ name = "true" then .info
  else if name = "debug" then .debug
  else if name = "trace" then .trace
  else .warn

/-- The level that is set, if any is. -/
def ofVariable (value : Option String) : LogLevel :=
  match value with
  | some name => ofName name
  | none => .warn

end LogLevel

structure Settings where
  /-- The directory for scratch files, unless it is the usual one. -/
  scratchDirectory : Option String
  clearsScratch : Bool
  /-- Whether the lines that scripts print go to the log. -/
  logging : Bool
  quota : Nat
  maxResponseBytes : Nat
  /-- How long a run may take. -/
  timeoutMs : Nat
deriving DecidableEq, Repr

def Sandbox.Path.ofText (text : String) : Sandbox.Path :=
  (text.splitOn "/").filter fun name => !name.isEmpty

namespace Settings

def usual : Settings where
  scratchDirectory := none
  clearsScratch := true
  logging := false
  quota := 5
  maxResponseBytes := 256
  timeoutMs := 10000

def isOn (value : String) : Bool :=
  ["1", "true", "yes", "on"].contains (Text.asciiLowerCase (Text.trim value))

def number (value : Option String) (bound default : Nat) : Nat :=
  (value.bind (Whole.read? bound)).getD default

def ofVariables (lookup : String -> Option String) : Settings where
  scratchDirectory := (lookup "SANDBOX_SCRATCH_DIR").filter fun path => !path.isEmpty
  clearsScratch := !((lookup "SANDBOX_DISABLE_SCRATCH_CLEARING").any isOn)
  logging := (lookup "SANDBOX_LOGGING").any isOn
  quota := number (lookup "SANDBOX_DEFAULT_MAX_HTTP_QUERIES") (1 <<< 32) usual.quota
  maxResponseBytes :=
    number (lookup "SANDBOX_DEFAULT_MAX_RESPONSE_BYTES") (1 <<< 64) usual.maxResponseBytes
  timeoutMs := number (lookup "SANDBOX_EXECUTION_TIMEOUT_MS") (1 <<< 64) usual.timeoutMs

def usualScratch : Sandbox.Path := ["tmp", "sandbox-scratch"]

def scratchPath (settings : Settings) : Sandbox.Path :=
  match settings.scratchDirectory with
  | some text => .ofText text
  | none => usualScratch

def openScratch (settings : Settings) (disk : Sandbox.Disk) : Sandbox.Scratch × Sandbox.Disk :=
  Sandbox.Scratch.create settings.scratchPath settings.clearsScratch disk

/-- What a submission that says nothing of them gets. -/
def defaults (settings : Settings) : Sandbox.Defaults :=
  ⟨settings.maxResponseBytes, settings.quota⟩

def runner (settings : Settings) (scratch : Sandbox.Scratch) : Sandbox.Runner :=
  { Sandbox.Runner.start scratch with
    scriptLimits := .forTimeout settings.timeoutMs
    logging := settings.logging }

end Settings

end ScriptOracle
