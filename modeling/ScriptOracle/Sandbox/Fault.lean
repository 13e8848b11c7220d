import ScriptOracle.Gate.Basic
import ScriptOracle.Script.Result

/-!
# How a run fails

A script that cannot be read never runs and has no log. A script that throws, exceeds a limit or never
settles leaves the log of what it attempted.
-/

namespace ScriptOracle.Sandbox

inductive Fault where
  | compile (complaint : Script.Complaint)
  | runtime (complaint : Script.Complaint) (log : List Gate.LogEntry)
deriving DecidableEq, Repr

namespace Fault

def host (name message : String) : Fault := .runtime ⟨name, message, s!"{name}: {message}"⟩ []

/-- The host gave up on the run after a while. -/
def timeout (ms : Nat) : Fault := host "TimeoutError" s!"script exceeded {ms}ms"

def abandoned : Fault := host "AbortedError" "run abandoned before it started"

def kind : Fault -> String
  | .compile _ => "CompileError"
  | .runtime _ _ => "RuntimeError"

def complaint : Fault -> Script.Complaint
  | .compile complaint => complaint
  | .runtime complaint _ => complaint

/-- The log of the run, if there was one. -/
def log? : Fault -> Option (List Gate.LogEntry)
  | .compile _ => none
  | .runtime _ log => some log

def text (fault : Fault) : String := s!"{fault.complaint.name}: {fault.complaint.message}"

def toJson (fault : Fault) : Json :=
  .object ([("kind", .string fault.kind), ("name", .string fault.complaint.name),
      ("message", .string fault.complaint.message), ("details", .string fault.complaint.details)]
    ++ (fault.log?.map fun log => ("requestLog", Gate.logJson log)).toList)

end Fault

end ScriptOracle.Sandbox
