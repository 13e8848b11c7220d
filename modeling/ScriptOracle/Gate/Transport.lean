import ScriptOracle.Gate.Outcome

/-!
# The network behind the gate

A transport answers a prepared request. Its answer may depend on all the requests that it was handed
before, and the host may give up on the run while a request is under way; both are functions of that
history, so that a run is determined by them. `Transport.fixed` answers from a table.
-/

namespace ScriptOracle.Gate

structure Prepared where
  /-- In capitals. -/
  method : String
  url : String
  headers : Fields String
  body : Option Bytes
  timeoutMs : Nat
  maxResponseBytes : Nat

/-- A request as a data value, with the body in hexadecimal digits. -/
def Prepared.toJson (request : Prepared) : Json := .object [
  ("method", .string request.method),
  ("url", .string request.url),
  ("headers", .ofStringFields request.headers),
  ("body", (request.body.map fun body => Json.string (Hexadecimal.encode body)).getD .null),
  ("timeout_ms", .ofNat request.timeoutMs),
  ("max_response_bytes", .ofNat request.maxResponseBytes)]

/-- What becomes of a request, given those handed over before it. -/
structure Transport where
  /-- The answer. -/
  send : List Prepared -> Prepared -> Except Failure Reply
  /-- Whether the host gives up on the run while this request is under way. -/
  interrupts : List Prepared -> Prepared -> Bool

/-- An answer for every address that starts in a certain way. -/
structure Route where
  start : String
  reply : Reply

def capped (maximum : Nat) (reply : Reply) : Except Failure Reply :=
  if reply.body.length ≤ maximum then .ok reply else .error (.responseTooLarge maximum)

/-- The answer of the first route that fits, or else the usual one. -/
def routed (usual : Except Failure Reply) (routes : List Route) (url : String) :
    Except Failure Reply :=
  match routes.find? (fun route => url.startsWith route.start) with
  | some route => .ok route.reply
  | none => usual

/-- A transport that answers from a table and never interrupts. -/
def Transport.fixed (usual : Except Failure Reply) (routes : List Route) : Transport where
  send _ request := do
    let reply ← routed usual routes request.url
    capped request.maxResponseBytes reply
  interrupts _ _ := false

def Reply.ofJson (status : Nat) (value : Json) : Reply where
  status := status
  headers := [("content-type", "application/json")]
  body := Text.utf8 value.compact

end ScriptOracle.Gate
