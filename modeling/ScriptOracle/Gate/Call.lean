import ScriptOracle.Gate.Refusal
import ScriptOracle.Json.Record
import ScriptOracle.Url.Reader

/-!
# The request a script describes

A script describes a request by a record: an address, a method, headers, parameters for the query, a
body, a time limit and how the answer is to be read. `Call.type` reads it, `Call.toJson` writes it,
`Call.address` is the address with its parameters, and `Call.bodyBytes?` is what would be sent.
-/

namespace ScriptOracle.Gate

inductive AnswerType where
  | json
  | text
  | bytes
deriving DecidableEq, Repr

def AnswerType.choices : List String := ["json", "text", "arraybuffer"]

def AnswerType.name : AnswerType -> String
  | .json => "json"
  | .text => "text"
  | .bytes => "arraybuffer"

def AnswerType.atPlace : Nat -> AnswerType
  | 0 => .json
  | 1 => .text
  | _ => .bytes

def AnswerType.read (value : Json) : Except Json.Mismatch AnswerType := do
  let place ← Json.readChoice choices value
  pure (atPlace place)

structure Call where
  url : String
  method : String
  headers : Fields String
  params : Fields Json
  body : Option Json
  timeoutMs : Nat
  answerType : AnswerType

namespace Call

/-- The time limit of a request that names none. -/
def defaultTimeoutMs : Nat := 5000

def get (url : String) : Call where
  url := url
  method := "get"
  headers := []
  params := []
  body := none
  timeoutMs := defaultTimeoutMs
  answerType := .json

structure Draft where
  url : Option String
  method : Option String
  headers : Option (Fields String)
  params : Option (Fields Json)
  body : Option (Option Json)
  timeoutMs : Option Nat
  answerType : Option AnswerType

def Draft.blank : Draft := ⟨none, none, none, none, none, none, none⟩

/-- The request of a draft; only the address has to be there. -/
def Draft.finish (draft : Draft) : Except Json.Mismatch Call :=
  match draft.url with
  | none => .error (.missing "url")
  | some url => .ok {
      url := url
      method := draft.method.getD "get"
      headers := draft.headers.getD []
      params := draft.params.getD []
      body := draft.body.getD none
      timeoutMs := draft.timeoutMs.getD defaultTimeoutMs
      answerType := draft.answerType.getD .json }

/-- Reads a body: null is none. -/
def readBody : Json -> Except Json.Mismatch (Option Json)
  | .null => .ok none
  | value => .ok (some value)

/-- The fields of a request in order. -/
def slots : List (Json.Slot Draft) := [
  { name := "url", names := ["url"], required := true, filled := (·.url.isSome)
    fill := fun draft value => do pure { draft with url := some (← Json.readString value) } },
  { name := "method", names := ["method"], required := false, filled := (·.method.isSome)
    fill := fun draft value => do pure { draft with method := some (← Json.readString value) } },
  { name := "headers", names := ["headers"], required := false, filled := (·.headers.isSome)
    fill := fun draft value => do
      pure { draft with headers := some (← Json.readStringFields value) } },
  { name := "params", names := ["params"], required := false, filled := (·.params.isSome)
    fill := fun draft value => do pure { draft with params := some (← Json.readFields value) } },
  { name := "body", names := ["body", "data"], required := false, filled := (·.body.isSome)
    fill := fun draft value => do pure { draft with body := some (← readBody value) } },
  { name := "timeoutMs", names := ["timeoutMs", "timeout"], required := false
    filled := (·.timeoutMs.isSome)
    fill := fun draft value => do pure { draft with timeoutMs := some (← Json.readWord64 value) } },
  { name := "responseType", names := ["responseType"], required := false
    filled := (·.answerType.isSome)
    fill := fun draft value => do
      pure { draft with answerType := some (← AnswerType.read value) } }]

def type : Json.RecordType Draft Call where
  name := "HttpCallSpec"
  slots := slots
  blank := Draft.blank
  finish := Draft.finish

def read (value : Json) : Except Json.Mismatch Call := type.read value

def toJson (call : Call) : Json := .object [
  ("url", .string call.url),
  ("method", .string call.method),
  ("headers", .ofStringFields call.headers),
  ("params", .object call.params),
  ("body", call.body.getD .null),
  ("timeoutMs", .ofNat call.timeoutMs),
  ("responseType", .string call.answerType.name)]

/-- The bytes to send: a text as it is, null as nothing, and all else in compact form. -/
def bodyBytes? (call : Call) : Option Bytes :=
  match call.body with
  | none => none
  | some .null => none
  | some (.string text) => some (Text.utf8 text)
  | some other => some (Text.utf8 other.compact)

def paramPairs (call : Call) : List (String × String) :=
  call.params.map fun param => (param.1, param.2.scalarText)

/-- The address with the parameters behind its query. Only web addresses are allowed. -/
def address (call : Call) : Except Refusal Url :=
  match Url.read call.url with
  | .error fault => .error (.invalidRequest s!"url: {fault.message}")
  | .ok url =>
    if url.scheme = "http" ∨ url.scheme = "https" then
      .ok (if call.params.isEmpty then url else url.appendPairs call.paramPairs)
    else .error (.invalidRequest s!"unsupported protocol {url.scheme}:")

end Call

end ScriptOracle.Gate
