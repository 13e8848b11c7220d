import ScriptOracle.Gate.Outcome
import ScriptOracle.Secrets.Agreement

/-!
# Fetching hosted secrets

A verifier fetches the documents one after the other and stops at the first that it cannot get. Of a
document it keeps no more bytes than its cap, however they come in. What the servers do is handed in, and
may depend on what was fetched before.
-/

namespace ScriptOracle.Secrets

inductive Delivery where
  /-- There was no answer. -/
  | failed (reason : String)
  /-- There was no answer in time. -/
  | timedOut
  /-- There was an answer. Its bytes come in pieces, and may break off for a reason. -/
  | answered (status : Nat) (pieces : List Bytes) (broken : Option String)
deriving DecidableEq, Repr

/-- What the servers do: how they answer when an address is asked for after others, and at most so many
milliseconds are waited. -/
structure Servers where
  deliver : List String -> String -> Nat -> Delivery

structure Verifier where
  timeoutMs : Nat
  maxBytes : Nat
deriving DecidableEq, Repr

namespace Verifier

def usual : Verifier := ⟨3000, 1000000⟩

/-- Adds pieces to the bytes that were kept, up to a cap. What is kept at each time is told, too. -/
def gather (maximum : Nat) (broken : Option String) (kept : Bytes) :
    List Bytes -> List Bytes × Except FetchFault Bytes
  | [] =>
    match broken with
    | none => ([kept], .ok kept)
    | some reason => ([kept], .error (.failed reason))
  | piece :: rest =>
    if maximum < kept.length + piece.length then ([kept], .error (.tooLarge maximum))
    else
      let (held, result) := gather maximum broken (kept ++ piece) rest
      (kept :: held, result)

def readBody (body : Bytes) : Except FetchFault Json :=
  match Json.read body with
  | .ok document => .ok document
  | .error fault => .error (.notJson (fault.message body))

/-- Takes in an answer. What is kept of its body at each time is told, too. -/
def receive (verifier : Verifier) : Delivery -> List Bytes × Except FetchFault Json
  | .failed reason => ([], .error (.failed reason))
  | .timedOut => ([], .error .timeout)
  | .answered status pieces broken =>
    if Gate.isSuccess status then
      let (held, result) := gather verifier.maxBytes broken [] pieces
      (held, result.bind readBody)
    else ([], .error (.status status))

def fetch (verifier : Verifier) (servers : Servers) (before : List String) (url : String) :
    Except Fault Hosted :=
  match (verifier.receive (servers.deliver before url verifier.timeoutMs)).2 with
  | .ok document => .ok ⟨url, document⟩
  | .error fault => .error (.fetch url fault)

/-- Fetches documents after others. The addresses that were asked for are told, too. -/
def fetchAll (verifier : Verifier) (servers : Servers) (before : List String) :
    List String -> List String × Except Fault (List Hosted)
  | [] => (before, .ok [])
  | url :: rest =>
    match verifier.fetch servers before url with
    | .error fault => (before ++ [url], .error fault)
    | .ok hosted =>
      let (asked, result) := fetchAll verifier servers (before ++ [url]) rest
      (asked, result.map (hosted :: ·))

/-- Fetches documents and checks that they agree and serve all nodes. The addresses that were asked for
are told, too. -/
def check (verifier : Verifier) (servers : Servers) (urls nodes : List String) :
    List String × Except Fault Agreement :=
  let (asked, result) := verifier.fetchAll servers [] urls
  (asked, result.bind fun documents => Agreement.check documents nodes)

end Verifier

end ScriptOracle.Secrets
