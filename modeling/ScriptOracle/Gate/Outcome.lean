import ScriptOracle.Gate.Call
import ScriptOracle.Json.Reader

/-!
# What a script gets back

An answer with a status from 200 to 299 is handed on with its status, headers and data. Anything else
is a failure that shows a name, a text and at most the status.
-/

namespace ScriptOracle.Gate

/-- The data of an answer, read the way the script asked for. -/
inductive Data where
  | json (value : Json)
  | text (value : String)
  | bytes (value : Bytes)

/-- Reads the body of an answer. A body that was to be a data value and is none is taken as text. -/
def Data.read (body : Bytes) : AnswerType -> Data
  | .bytes => .bytes body
  | .text => .text (Text.ofUtf8Lossy body)
  | .json =>
    match Json.read body with
    | .ok value => .json value
    | .error _ => .text (Text.ofUtf8Lossy body)

def Data.kind : Data -> String
  | .json _ => "json"
  | .text _ => "text"
  | .bytes _ => "bytes"

/-- Data as a data value; bytes become a list of numbers. -/
def Data.toJson : Data -> Json
  | .json value => value
  | .text value => .string value
  | .bytes value => .array (value.map fun byte => .ofNat byte.toNat)

def isSuccess (status : Nat) : Bool := 200 ≤ status && status < 300

/-- What the network hands back. Scripts never see it as it is. -/
structure Reply where
  status : Nat
  headers : Fields String
  body : Bytes

structure Answer where
  status : Nat
  headers : Fields String
  data : Data

inductive Outcome where
  | answered (answer : Answer)
  | failed (name message : String) (status : Option Nat)

namespace Outcome

def ofRefusal (refusal : Refusal) : Outcome := .failed refusal.name refusal.message none

def ofFailure (failure : Failure) : Outcome := .failed failure.name failure.message none

def ofReply (type : AnswerType) : Except Failure Reply -> Outcome
  | .error failure => ofFailure failure
  | .ok reply =>
    if isSuccess reply.status then
      .answered ⟨reply.status, reply.headers, .read reply.body type⟩
    else
      .failed "HttpError" s!"Request failed with status code {reply.status}" (some reply.status)

def isAnswered : Outcome -> Bool
  | .answered _ => true
  | .failed _ _ _ => false

def status? : Outcome -> Option Nat
  | .answered answer => some answer.status
  | .failed _ _ status => status

def errorName? : Outcome -> Option String
  | .answered _ => none
  | .failed name _ _ => some name

def toJson : Outcome -> Json
  | .answered answer => .object [
      ("error", .bool false),
      ("status", .ofNat answer.status),
      ("headers", .ofStringFields answer.headers),
      ("data", answer.data.toJson)]
  | .failed name message status =>
    .object ([("error", .bool true), ("name", .string name), ("message", .string message)]
      ++ match status with
        | none => []
        | some status =>
          [("status", .ofNat status), ("response", .object [("status", .ofNat status)])])

end Outcome

end ScriptOracle.Gate
