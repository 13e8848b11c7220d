import ScriptOracle.Sandbox.Fault
import ScriptOracle.Sandbox.Submission
import ScriptOracle.Secrets.Fault

/-!
# What the service answers when it cannot help

Every such answer has a status, a code for programs and a message for people. A failed run adds the name
and the details of its error and the log of what it attempted.
-/

namespace ScriptOracle.Service

structure Problem where
  status : Nat
  code : String
  message : String
  name : Option String
  details : Option String
  log : Option (List Gate.LogEntry)
deriving DecidableEq, Repr

namespace Problem

def plain (status : Nat) (code message : String) : Problem :=
  ⟨status, code, message, none, none, none⟩

def badRequest (message : String) : Problem := plain 400 "bad_request" message

/-- A submission that is not in order. -/
def invalidInput (fault : Sandbox.InputFault) : Problem := plain 400 "invalid_input" fault.message

/-- A run that did not end with the bytes it should have ended with. -/
def invalidOutput (fault : Sandbox.InputFault) (log : List Gate.LogEntry) : Problem :=
  { plain 422 "invalid_output" fault.message with log := some log }

def ofFault (fault : Sandbox.Fault) : Problem :=
  { plain 422 fault.kind fault.complaint.message with
    name := some fault.complaint.name
    details := some fault.complaint.details
    log := fault.log? }

/-- The status of a failure around secrets. What the caller got wrong is told from the rest. -/
def secretsStatus : Secrets.Fault -> Nat
  | .config _ => 400
  | .encryption _ => 400
  | _ => 422

def ofSecrets (fault : Secrets.Fault) : Problem :=
  plain (secretsStatus fault) fault.name fault.message

def internal (message : String) : Problem := plain 500 "internal_error" message

def text (problem : Problem) : String :=
  s!"[{problem.status}] {problem.code}: {problem.message}"

def field? (name : String) (text : Option String) : List (String × Json) :=
  (text.map fun text => (name, Json.string text)).toList

def toJson (problem : Problem) : Json :=
  .object ([("code", .string problem.code), ("message", .string problem.message)]
    ++ field? "name" problem.name
    ++ field? "details" problem.details
    ++ (problem.log.map fun log => ("requestLog", Gate.logJson log)).toList)

end Problem

end ScriptOracle.Service
