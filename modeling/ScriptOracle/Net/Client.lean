import ScriptOracle.Gate.Transport
import ScriptOracle.Url.Reader

/-!
# The client that reaches the network

The client turns a prepared request into messages. A message that is answered by another address is sent
on to that address, ten times at most; another host is not told what was meant for the one before. Of an answer the client keeps the headers that can be read, and it
reads one byte more of the body than it may keep. What the network does is handed in, and may depend on
all the messages before.
-/

namespace ScriptOracle.Net

structure Message where
  method : String
  url : String
  headers : Fields String
  body : Option Bytes
  timeoutMs : Nat
deriving DecidableEq, Repr

/-- A failure as the client tells of it: whether the time was up, whether nobody had been reached yet, and
a text, which may name addresses of the host. -/
structure Fault where
  timedOut : Bool
  connecting : Bool
  text : String
deriving DecidableEq, Repr

inductive Exchange where
  /-- There was no answer. -/
  | failed (fault : Fault)
  /-- The answer sends the message on to another address. -/
  | moved (status : Nat) (url : String)
  /-- There was an answer. Its body comes in pieces, and may break off. -/
  | answered (status : Nat) (headers : List (String × Bytes)) (pieces : List Bytes)
    (broken : Option Fault)
deriving DecidableEq, Repr

def Exchange.unreached : Exchange := .failed ⟨false, true, "error sending request"⟩

def Exchange.timedOut : Exchange := .failed ⟨true, false, "error sending request"⟩

structure Network where
  deliver : List Message -> Message -> Exchange

/-- What a gate is told of a failure. The text is left out. -/
def Fault.failure (fault : Fault) (timeoutMs : Nat) : Gate.Failure :=
  if fault.timedOut then .timeout timeoutMs
  else .http (if fault.connecting then "connection failed" else "request failed")

namespace Client

/-- The failure of a request that cannot be put together. -/
def unbuilt : Fault := ⟨false, false, "builder error"⟩

/-- The failure of a message that has been sent on too often. -/
def lostTrack : Fault := ⟨false, false, "error following redirect"⟩

/-- Whether a character can stand in the name of a method or a header. -/
def inName (c : Char) : Bool :=
  ('a' ≤ c && c ≤ 'z') || ('A' ≤ c && c ≤ 'Z') || ('0' ≤ c && c ≤ '9') ||
    ['!', '#', '$', '%', '&', '\x27', '*', '+', '-', '.', '^', '_', '\x60', '|', '~'].contains c

def isMethod (name : String) : Bool := !name.isEmpty && name.toList.all inName

/-- The greatest length of the name of a header. -/
def maxNameLength : Nat := 65535

def isHeaderName (name : String) : Bool :=
  !name.isEmpty && name.length ≤ maxNameLength && name.toList.all inName

/-- Whether a text can be the value of a header: tabs are the only controls in it. -/
def isHeaderValue (value : String) : Bool :=
  value.toList.all fun c => c = '\t' || ('\x20' ≤ c && c != '\x7F')

def areHeaders (headers : Fields String) : Bool :=
  headers.all fun header => isHeaderName header.1 && isHeaderValue header.2

def isReadable (byte : UInt8) : Bool := byte = 0x09 || (0x20 ≤ byte && byte < 0x7F)

/-- The headers that can be read, in ascending order of names. Of those with one name the last counts. -/
def readableHeaders (headers : List (String × Bytes)) : Fields String :=
  Fields.sorted (headers.filterMap fun header =>
    if header.2.all isReadable then (Text.ofUtf8? header.2).map (header.1, ·) else none)

/-- The number of bytes that are read for a cap: one more, counted in sixty-four bits. -/
def window (maximum : Nat) : Nat := (maximum + 1) % (1 <<< 64)

/-- Reads pieces until so many bytes are there. What is told of a body that breaks off is the text of the
client. -/
def gather (count : Nat) (broken : Option Fault) (kept : Bytes) :
    List Bytes -> Except Gate.Failure Bytes
  | [] =>
    if kept.length < count then
      match broken with
      | none => .ok kept
      | some fault => .error (.http fault.text)
    else .ok kept
  | piece :: rest =>
    if kept.length < count then
      gather count broken (kept ++ piece.take (count - kept.length)) rest
    else .ok kept

/-- The reply of an answer, unless its body is longer than allowed. -/
def reply (maximum status : Nat) (headers : List (String × Bytes)) (pieces : List Bytes)
    (broken : Option Fault) : Except Gate.Failure Gate.Reply := do
  let body ← gather (window maximum) broken [] pieces
  if maximum < body.length then throw (.responseTooLarge maximum)
  pure ⟨status, readableHeaders headers, body⟩

def maxMoves : Nat := 10

def describesBody (name : String) : Bool :=
  ["transfer-encoding", "content-encoding", "content-type", "content-length"].contains
    (Text.asciiLowerCase name)

def isConfidential (name : String) : Bool :=
  ["authorization", "cookie", "cookie2", "proxy-authorization", "www-authenticate"].contains
    (Text.asciiLowerCase name)

def without (isOfKind : String -> Bool) (headers : Fields String) : Fields String :=
  headers.filter fun header => !(isOfKind header.1)

def portOf (url : Url) : Option Nat := url.port.or (Url.usualPort? url.scheme.toList)

/-- Whether two addresses lead to one host, at one port. -/
def isSameSite (one other : Url) : Bool :=
  one.host == other.host && portOf one == portOf other

/-- What the next address is told of the one before: neither its user nor its fragment, and nothing if
only the one before was reached in secret. -/
def referer? (previous next : Url) : Option String :=
  if previous.scheme = "https" ∧ next.scheme = "http" then none
  else some { previous with user := [], password := [], fragment := none }.text

def headersFor (previous next : String) (headers : Fields String) : Fields String :=
  match Url.read previous, Url.read next with
  | .ok previous, .ok next =>
    let headers :=
      match referer? previous next with
      | some text => without (Text.asciiLowerCase · = "referer") headers ++ [("referer", text)]
      | none => headers
    if isSameSite previous next then headers else without isConfidential headers
  | _, _ => headers

/-- The message for the address that an answer points to. Only two statuses keep the method and the
body. -/
def movedTo (message : Message) (status : Nat) (url : String) : Message :=
  if status = 307 ∨ status = 308 then
    { message with
      url := url
      headers := headersFor message.url url message.headers }
  else
    { message with
      method := if message.method = "HEAD" then "HEAD" else "GET"
      url := url
      headers := headersFor message.url url (without describesBody message.headers)
      body := none }

/-- Sends a message, and sends it on as long as answers point elsewhere. The messages that were sent come
with what came of them. -/
def follow (network : Network) (maximum : Nat) (before : List Message) :
    Nat -> Message -> List Message × Except Gate.Failure Gate.Reply
  | moves, message =>
    match network.deliver before message with
    | .failed fault => ([message], .error (fault.failure message.timeoutMs))
    | .answered status headers pieces broken =>
      ([message], reply maximum status headers pieces broken)
    | .moved status url =>
      match moves with
      | 0 => ([message], .error (lostTrack.failure message.timeoutMs))
      | moves + 1 =>
        let (sent, result) :=
          follow network maximum (before ++ [message]) moves (movedTo message status url)
        (message :: sent, result)

def messageOf (request : Gate.Prepared) : Message :=
  ⟨request.method, request.url, request.headers, request.body, request.timeoutMs⟩

def exchange (network : Network) (before : List Message) (request : Gate.Prepared) :
    List Message × Except Gate.Failure Gate.Reply :=
  if !(isMethod request.method) then ([], .error (.unsupportedMethod request.method))
  else if !(areHeaders request.headers) then ([], .error (unbuilt.failure request.timeoutMs))
  else follow network request.maxResponseBytes before maxMoves (messageOf request)

def traffic (network : Network) (before : List Message) : List Gate.Prepared -> List Message
  | [] => before
  | request :: rest => traffic network (before ++ (exchange network before request).1) rest

def transport (network : Network) : Gate.Transport where
  send sent request := (exchange network (traffic network [] sent) request).2
  interrupts _ _ := false

end Client

end ScriptOracle.Net
