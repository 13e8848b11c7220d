import ScriptOracle.CommandLine.Session

/-!
# The program

Here a command meets the world: arguments, variables, files, what comes in, and chance. Everything else is
decided by `CommandLine.perform`. No network is at hand; to a script it looks as if nobody could be reached.
-/

namespace ScriptOracle.Main

open CommandLine

def knownVariables : List String := [
  Command.publicKeyVariable, Command.walletKeyVariable, Command.quotaVariable,
  "SANDBOX_SCRATCH_DIR", "SANDBOX_DISABLE_SCRATCH_CLEARING", "SANDBOX_LOGGING",
  "SANDBOX_DEFAULT_MAX_RESPONSE_BYTES", "SANDBOX_EXECUTION_TIMEOUT_MS"]

def readVariables : IO (Fields String) := do
  let found ← knownVariables.mapM fun name => do
    let value ← IO.getEnv name
    pure (value.map (name, ·))
  pure (found.filterMap id)

def readFile (path : String) : IO (Except ReadFault Bytes) := do
  try
    let content ← IO.FS.readBinFile path
    pure (.ok content.data.toList)
  catch fault =>
    match fault with
    | .noFileOrDirectory .. => pure (.error .missing)
    | .inappropriateType .. => pure (.error .directory)
    | other => pure (.error (.other (toString other)))

def readFiles (paths : List String) : IO (List (String × Except ReadFault Bytes)) :=
  (paths.filter (· != "-")).mapM fun path => do
    let content ← readFile path
    pure (path, content)

partial def readIncoming (input : IO.FS.Stream) (soFar : Bytes) : IO Bytes := do
  let piece ← input.read 65536
  if piece.isEmpty then pure soFar
  else readIncoming input (soFar ++ piece.data.toList)

/-- Draws a key and the start of a chain of blocks. -/
partial def drawAnew : IO Secrets.Draw := do
  let key ← IO.getRandomBytes 32
  let start ← IO.getRandomBytes 16
  let start := start.data.toList
  match Crypto.Curve.PrivateKey.ofBytes? key.data.toList with
  | none => drawAnew
  | some key =>
    if h : start.length = Crypto.Chain.width then pure ⟨key, start, h⟩ else drawAnew

def silence : Net.Network where
  deliver _ _ := .unreached

def noServers : Secrets.Servers where
  deliver _ url _ := .failed s!"error sending request for url ({url})"

def usage : String :=
  "Usage: fnx <COMMAND>\n\n"
    ++ "Commands:\n"
    ++ "  simulate <SOURCE> [--args <ARGS>] [--secrets <FILE>] [--quota <N>]\n"
    ++ "           [--max-response-bytes <N>] [--return-type <TYPE>]\n"
    ++ "  build-request [CONFIG] [--nodes <NODES>]\n"
    ++ "  encrypt <MESSAGE> --public-key <KEY> [--signer-key <KEY>]\n"
    ++ "  offchain-secrets <SECRETS> --wallet-key <KEY> --public-key <KEY>\n"
    ++ "  verify-secrets <URLS>... [--nodes <NODES>]\n"

/-- Answers for arguments that name no command to carry out. -/
def refuse : Refusal -> IO UInt32
  | .help => do
    IO.print usage
    pure 0
  | .version => do
    IO.println "fnx 0.1.0"
    pure 0
  | .misuse => do
    IO.eprint usage
    pure 2

def run (lookup : String -> Option String) (command : Command) : IO UInt32 := do
  let paths := command.paths
  let files ← readFiles paths
  let incoming ← if paths.contains "-" then readIncoming (← IO.getStdin) [] else pure []
  let draw ← drawAnew
  let around : Surroundings := {
    files := fun path => (files.lookup path).getD (.error .missing)
    lookup := lookup
    network := silence
    servers := noServers
    draw := draw }
  let ending := perform around (.start incoming .blank) command
  for line in ending.session.lines do
    IO.println line
  match ending.error with
  | some line => IO.eprintln line
  | none => pure ()
  pure ending.exitCode.toUInt32

end ScriptOracle.Main

/-- Reads the arguments and carries out the command that they name. -/
def main (arguments : List String) : IO UInt32 := do
  let settings ← ScriptOracle.Main.readVariables
  let lookup := ScriptOracle.Fields.get? settings
  match ScriptOracle.CommandLine.Command.read lookup arguments with
  | .error refusal => ScriptOracle.Main.refuse refusal
  | .ok command => ScriptOracle.Main.run lookup command
