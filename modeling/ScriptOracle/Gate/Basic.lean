import ScriptOracle.Gate.Transport

/-!
# The request gate

Every request of a run passes one gate. It checks, in this order: whether the host has given up on the
run, the time limit, the length of the address, and whether the quota is used up. A request that gets
so far is counted, and only then are its body and its address looked at and the request is handed to
the transport. Each request, counted or not, leaves one entry in the log.
-/

namespace ScriptOracle

structure Gate.Limits where
  maxUrlLength : Nat
  maxTimeoutMs : Nat
  maxRequestBytes : Nat
  maxResponseBytes : Nat
deriving DecidableEq, Repr

def Gate.Limits.usual : Gate.Limits := ⟨2048, 9000, 2000, 2000000⟩

/-- One line of the record of what a script attempted. -/
structure Gate.LogEntry where
  url : String
  method : String
  /-- Whether the request counted against the quota. -/
  dispatched : Bool
  status : Option Nat
  error : Option String
deriving DecidableEq, Repr

def Gate.LogEntry.toJson (entry : Gate.LogEntry) : Json :=
  .object ([("url", .string entry.url), ("method", .string entry.method),
      ("dispatched", .bool entry.dispatched)]
    ++ (entry.status.map fun status => ("status", Json.ofNat status)).toList
    ++ (entry.error.map fun name => ("error", Json.string name)).toList)

structure Gate where
  quota : Nat
  limits : Gate.Limits
  /-- How many requests were counted. -/
  used : Nat
  /-- Whether the host has given up on the run. -/
  aborted : Bool
  /-- What was attempted, in order. -/
  log : List Gate.LogEntry
  /-- What was handed to the transport, in order. -/
  sent : List Gate.Prepared

namespace Gate

/-- A gate before the first request. -/
def fresh (quota : Nat) (limits : Limits) : Gate := ⟨quota, limits, 0, false, [], []⟩

def remaining (gate : Gate) : Nat := gate.quota - gate.used

def abort (gate : Gate) : Gate := { gate with aborted := true }

def logJson (log : List LogEntry) : Json := .array (log.map LogEntry.toJson)

def preflight (limits : Limits) (call : Call) : Except Refusal Unit :=
  if limits.maxTimeoutMs < call.timeoutMs then
    .error (.timeoutTooLarge call.timeoutMs limits.maxTimeoutMs)
  else if limits.maxUrlLength < Text.byteCount call.url then
    .error (.urlTooLong (Text.byteCount call.url) limits.maxUrlLength)
  else .ok ()

def checkBody (limits : Limits) (body : Option Bytes) : Except Refusal Unit :=
  match body with
  | none => .ok ()
  | some bytes =>
    if limits.maxRequestBytes < bytes.length then
      .error (.bodyTooLarge bytes.length limits.maxRequestBytes)
    else .ok ()

def prepare (limits : Limits) (call : Call) : Except Refusal Prepared := do
  checkBody limits call.bodyBytes?
  let url ← call.address
  pure {
    method := Text.upperCase call.method
    url := url.text
    headers := call.headers
    body := call.bodyBytes?
    timeoutMs := call.timeoutMs
    maxResponseBytes := limits.maxResponseBytes }

def record (gate : Gate) (url method : String) (dispatched : Bool) (outcome : Outcome) : Gate :=
  { gate with
    log := gate.log ++
      [⟨url, Text.upperCase method, dispatched, outcome.status?, outcome.errorName?⟩] }

/-- Records a request that never became a valid one. It does not count. -/
def reject (gate : Gate) (url method : String) (refusal : Refusal) : Outcome × Gate :=
  (.ofRefusal refusal, gate.record url method false (.ofRefusal refusal))

/-- What is decided before a request is counted. -/
def vet (gate : Gate) (call : Call) : Except Refusal Unit := do
  if gate.aborted then throw .aborted
  preflight gate.limits call
  if gate.remaining = 0 then throw (.quotaExceeded gate.quota)

def dispatch (transport : Transport) (gate : Gate) (request : Prepared) (type : AnswerType) :
    Outcome × Gate :=
  (.ofReply type (transport.send gate.sent request),
    { gate with
      aborted := gate.aborted || transport.interrupts gate.sent request
      sent := gate.sent ++ [request] })

/-- Takes a request that has been admitted and counted as far as it gets. -/
def carryOut (transport : Transport) (gate : Gate) (call : Call) : Outcome × Gate :=
  match prepare gate.limits call with
  | .error refusal => (.ofRefusal refusal, gate)
  | .ok request => gate.dispatch transport request call.answerType

def perform (transport : Transport) (gate : Gate) (call : Call) : Outcome × Gate :=
  match gate.vet call with
  | .error refusal => gate.reject call.url call.method refusal
  | .ok () =>
    let result := carryOut transport { gate with used := gate.used + 1 } call
    (result.1, result.2.record call.url call.method true result.1)

end Gate

end ScriptOracle
