import ScriptOracle.Sandbox.Request
import ScriptOracle.Script.Result

/-!
# What callers send in and get back

A submission is a data value that asks for a run. Its fields are checked in a fixed order, and the
first one that is wrong is reported; a field that is null, false, zero or an empty text counts as left
out. What a run ends with has to be bytes, and not more of them than the submission allows.
-/

namespace ScriptOracle.Sandbox

/-- What is wrong with a submission, or with what a run ended with. -/
inductive InputFault where
  | source
  | requestId
  | quota
  | argument
  | args
  | secrets
  | maxResponseBytes
  | tooLong (maximum : Nat)
  | notBytes
deriving DecidableEq, Repr

def InputFault.message : InputFault -> String
  | .source => "source param is missing"
  | .requestId => "requestId param not a string or number"
  | .quota => "numAllowedQueries not integer"
  | .argument => "args param not a string array"
  | .args => "args param not an array"
  | .secrets => "secrets param not a string map"
  | .maxResponseBytes => "maxResponseBytes not integer"
  | .tooLong maximum => s!"returned Buffer >{maximum} bytes"
  | .notBytes => "returned value not a Buffer"

/-- What a submission that says nothing of them gets. -/
structure Defaults where
  maxResponseBytes : Nat
  quota : Nat
deriving DecidableEq, Repr

/-- A submission that was found to be in order. -/
structure Submission where
  request : Request
  maxResponseBytes : Nat
  requestId : Option String
deriving DecidableEq, Repr

/-- The greatest number of sixty-four bits. -/
def maxWord : Nat := (1 <<< 64) - 1

/-- The whole number of a value. A double may be as great as the greatest number of sixty-four bits
rounded up, and then stands for that number. -/
def wholeNumber? : Json -> Option Nat
  | .integer n => if 0 ≤ n then some n.toNat else none
  | .double x =>
    match Double.integer? x with
    | some n => if 0 ≤ n ∧ n ≤ maxWord + 1 then some (min n.toNat maxWord) else none
    | none => none
  | _ => none

/-- A whole number up to a bound, or what there is if the field is not given. -/
def numberField (input : Json) (name : String) (bound usual : Nat) (fault : InputFault) :
    Except InputFault Nat :=
  match input.given? name with
  | none => .ok usual
  | some value =>
    match (wholeNumber? value).filter (· ≤ bound) with
    | some n => .ok n
    | none => .error fault

namespace Submission

def readSource (input : Json) : Except InputFault String :=
  match input.get? "source" with
  | some (.string source) => .ok source
  | _ => .error .source

/-- The mark that the caller wants back, as text. -/
def readRequestId (input : Json) : Except InputFault (Option String) :=
  match input.given? "requestId" with
  | none => .ok none
  | some (.string text) => .ok (some text)
  | some (.integer n) => .ok (some (Json.integer n).compact)
  | some (.double x) => .ok (some (Json.double x).compact)
  | some _ => .error .requestId

def readArgs (input : Json) : Except InputFault (List String) :=
  match input.given? "args" with
  | none => .ok []
  | some (.array items) =>
    match Json.asStrings? items with
    | some texts => .ok texts
    | none => .error .argument
  | some _ => .error .args

/-- The secrets of the script, in ascending order of names. -/
def readSecrets (input : Json) : Except InputFault (Option (Fields String)) :=
  match input.given? "secrets" with
  | none => .ok none
  | some (.object fields) =>
    match Json.asStringFields? fields with
    | some secrets => .ok (some (Fields.sorted secrets))
    | none => .error .secrets
  | some _ => .error .secrets

def read (defaults : Defaults) (input : Json) : Except InputFault Submission := do
  let source ← readSource input
  let requestId ← readRequestId input
  let quota ← numberField input "numAllowedQueries" ((1 <<< 32) - 1) defaults.quota .quota
  let args ← readArgs input
  let secrets ← readSecrets input
  let maxResponseBytes ←
    numberField input "maxResponseBytes" maxWord defaults.maxResponseBytes .maxResponseBytes
  pure ⟨⟨source, args, secrets, quota⟩, maxResponseBytes, requestId⟩

end Submission

/-- The bytes that a run ended with, if it ended with bytes and not too many. -/
def outputBytes (result : Script.Result) (maximum : Nat) : Except InputFault Bytes :=
  match result.bytes? with
  | none => .error .notBytes
  | some bytes => if bytes.length ≤ maximum then .ok bytes else .error (.tooLong maximum)

end ScriptOracle.Sandbox
