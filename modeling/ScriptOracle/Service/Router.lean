import ScriptOracle.Secrets.Package
import ScriptOracle.Service.MediaType
import ScriptOracle.Service.Problem
import ScriptOracle.Settings

/-!
# The service

The service runs submitted scripts and builds requests. Runs share one scratch directory and wait for each
other. A watchdog answers for a run that takes too long, and makes it give up on further requests; a run
that is still waiting then never starts. Time is counted in milliseconds and passes while requests are
under way.
-/

namespace ScriptOracle.Service

structure Inquiry where
  method : String
  /-- The path, perhaps with a query behind it. -/
  target : String
  contentType : Option String
  body : Bytes
deriving DecidableEq, Repr

structure Answer where
  status : Nat
  /-- A data value, or nothing that matters. -/
  body : Option Json

namespace Answer

def plain (status : Nat) : Answer := ⟨status, none⟩

def success (body : Json) : Answer := ⟨200, some body⟩

def ofProblem (problem : Problem) : Answer := ⟨problem.status, some problem.toJson⟩

end Answer

structure Surroundings where
  transport : Gate.Transport
  /-- How long each request of a script takes. -/
  paceMs : Nat
  servers : Secrets.Servers
  draw : Secrets.Draw

structure State where
  settings : Settings
  scriptLimits : Sandbox.ScriptLimits
  scratch : Sandbox.Scratch
  disk : Sandbox.Disk
  now : Nat
  /-- When the last run gives the scratch directory back. -/
  free : Nat
  /-- The requests of scripts that were sent. -/
  sent : List Gate.Prepared

namespace State

def start (settings : Settings) (disk : Sandbox.Disk) : State :=
  let (scratch, disk) := settings.openScratch disk
  { settings := settings
    scriptLimits := .forTimeout settings.timeoutMs
    scratch := scratch
    disk := disk
    now := 0
    free := 0
    sent := [] }

end State

/-- The greatest number of bytes in a body. -/
def maxBodyBytes : Nat := 1048576

/-- How long the service works on an answer. -/
def patienceMs : Nat := 30000

/-- The answer to a run that took too long. -/
def timedOut (settings : Settings) : Answer :=
  .ofProblem (.ofFault (.timeout settings.timeoutMs))

def answerTo (submission : Sandbox.Submission) : Sandbox.Verdict -> Answer
  | .succeeded result log =>
    match Sandbox.outputBytes result submission.maxResponseBytes with
    | .error fault => .ofProblem (.invalidOutput fault log)
    | .ok bytes =>
      .success (.object ([
          ("result", .string (Sandbox.responseText bytes)),
          ("requestLog", Gate.logJson log)]
        ++ (submission.requestId.map fun id => ("requestId", Json.string id)).toList))
  | .failed fault => .ofProblem (.ofFault fault)
  | .crashed => .ofProblem (.internal "sandbox worker failed")
  | .exhausted => .ofProblem (.internal "sandbox worker failed")

def State.runner (state : State) : Sandbox.Runner :=
  { state.settings.runner state.scratch with scriptLimits := state.scriptLimits }

/-- The host of a run that starts at a moment. It gives up while a request is under way that ends behind
the deadline. -/
def hostUntil (around : Surroundings) (start : Nat) (deadline : Option Nat) : Sandbox.Host :=
  let isLate (sent : List Gate.Prepared) : Bool :=
    match deadline with
    | some deadline => deadline < start + (sent.length + 1) * around.paceMs
    | none => false
  .patient { around.transport with
    interrupts := fun sent request => around.transport.interrupts sent request || isLate sent }

def run (around : Surroundings) (state : State) (submission : Sandbox.Submission) :
    Answer × State :=
  let isWatched := state.settings.timeoutMs ≤ patienceMs
  let deadline := state.now + min state.settings.timeoutMs patienceMs
  let late : Answer := if isWatched then timedOut state.settings else .plain 408
  let start := max state.now state.free
  if isWatched ∧ deadline < start then (late, { state with now := deadline })
  else
    let host := hostUntil around start (if isWatched then some deadline else none)
    let (report, _, disk) := state.runner.evaluate host state.disk submission.request
    let finish := start + report.sent.length * around.paceMs
    let state := { state with disk := disk, free := finish, sent := state.sent ++ report.sent }
    if deadline < finish then (late, { state with now := deadline })
    else (answerTo submission report.verdict, { state with now := finish })

def evaluate (around : Surroundings) (state : State) (body : Json) : Answer × State :=
  match Sandbox.Submission.read state.settings.defaults body with
  | .error fault => (.ofProblem (.invalidInput fault), state)
  | .ok submission => run around state submission

def nodesOption : String := "nodeAddresses"

def takeNodes (body : Json) : Option (List String) × Json :=
  match body with
  | .object fields =>
    let rest := Json.object (Fields.swapRemove fields nodesOption)
    match Fields.get? fields nodesOption with
    | none => (some [], body)
    | some .null => (some [], rest)
    | some (.array items) => (Json.asStrings? items, rest)
    | some _ => (none, rest)
  | _ => (some [], body)

def buildRequest (around : Surroundings) (body : Json) : Answer :=
  match takeNodes body with
  | (none, _) => .ofProblem (.badRequest "nodeAddresses must be an array of strings")
  | (some nodes, config) =>
    match (Secrets.Package.build around.servers around.draw config nodes).2 with
    | .ok package => .success package.toJson
    | .error fault => .ofProblem (.ofSecrets fault)

def isReadable (value : String) : Bool :=
  value.toList.all fun c => c = '\t' || ('\x20' ≤ c && c < '\x7F')

def announcesBody (method : String) : Bool := ["POST", "PUT", "PATCH"].contains method

/-- Whether an inquiry passes at the door: a body has to be announced as a data value. -/
def isWelcome (inquiry : Inquiry) : Bool :=
  !announcesBody inquiry.method ||
    match inquiry.contentType with
    | some type => isReadable type && type.startsWith "application/json"
    | none => false

def notWelcome : Answer :=
  .ofProblem (.plain 415 "unsupported_media_type" "content-type must be application/json")

/-- The data value that a body starts with, or the status that refuses it. -/
def readBody (inquiry : Inquiry) : Except Nat Json :=
  match inquiry.contentType.bind MediaType.read? with
  | none => .error 415
  | some type =>
    if !type.isJson then .error 415
    else if maxBodyBytes < inquiry.body.length then .error 413
    else
      match Json.readFirst inquiry.body with
      | .ok value => .ok value
      | .error _ => .error 400

def withBody (state : State) (inquiry : Inquiry) (next : Json -> Answer × State) :
    Answer × State :=
  match readBody inquiry with
  | .ok body => next body
  | .error status => (.plain status, state)

def Inquiry.path (inquiry : Inquiry) : String :=
  String.ofList (inquiry.target.toList.takeWhile (· != '?'))

def route (around : Surroundings) (state : State) (inquiry : Inquiry) : Answer × State :=
  if inquiry.path = "/healthz" then
    if inquiry.method = "GET" then (.success (.object [("ok", .bool true)]), state)
    else if inquiry.method = "HEAD" then (.plain 200, state)
    else (.plain 405, state)
  else if inquiry.path = "/v1/evaluate" then
    if inquiry.method = "POST" then withBody state inquiry (evaluate around state)
    else (.plain 405, state)
  else if inquiry.path = "/v1/build-request" then
    if inquiry.method = "POST" then
      withBody state inquiry fun body => (buildRequest around body, state)
    else (.plain 405, state)
  else (.plain 404, state)

def respond (around : Surroundings) (state : State) (inquiry : Inquiry) : Answer × State :=
  if isWelcome inquiry then route around state inquiry else (notWelcome, state)

def respondAll (around : Surroundings) (state : State) :
    List Inquiry -> List Answer × State
  | [] => ([], state)
  | inquiry :: rest =>
    let (answer, state) := respond around state inquiry
    let (answers, state) := respondAll around state rest
    (answer :: answers, state)

end ScriptOracle.Service
