import ScriptOracle.Secrets.Envelope

/-!
# Whether hosted secrets agree

Every address has to host the same document, down to the order of its entries, and the document needs an
entry for each node, or one that counts for all of them. Making do with the latter is worth a warning.
-/

namespace ScriptOracle.Secrets

structure Hosted where
  url : String
  document : Json

structure Warning where
  url : String
  address : String
deriving DecidableEq, Repr

def Warning.message (warning : Warning) : String :=
  s!"no secrets for node {warning.address} at {warning.url}, the default secrets will be used"

structure Agreement where
  /-- The number of documents. -/
  checked : Nat
  warnings : List Warning
deriving DecidableEq, Repr

namespace Agreement

def toJson (agreement : Agreement) : Json := .object [
  ("urls_checked", .ofNat agreement.checked),
  ("warnings", .array (agreement.warnings.map fun warning =>
    .object [("url", .string warning.url), ("address", .string warning.address)]))]

end Agreement

namespace Hosted

/-- The first of the fields whose name is an address, whatever the case of its letters. -/
def entryOf? (fields : Fields Json) (address : String) : Option Json :=
  (fields.find? fun field => Text.sameIgnoringAsciiCase field.1 address).map Prod.snd

def covers (document : Json) (address : String) : Bool :=
  match document with
  | .object fields => ((entryOf? fields address).map Json.isGiven).getD false
  | _ => false

def coversAll (document : Json) : Bool := (document.given? defaultEntry).isSome

/-- Checks that a document serves all nodes, and warns of those that have no entry of their own. -/
def warningsFor (hosted : Hosted) : List String -> Except Fault (List Warning)
  | [] => .ok []
  | address :: rest =>
    let address := Text.lowerCase address
    if covers hosted.document address then warningsFor hosted rest
    else if coversAll hosted.document then do
      let warnings ← warningsFor hosted rest
      pure (⟨hosted.url, address⟩ :: warnings)
    else .error (.missing address hosted.url)

/-- Checks documents against the text of the first one. -/
def checkAll (firstUrl text : String) (nodes : List String) :
    List Hosted -> Except Fault (List Warning)
  | [] => .ok []
  | hosted :: rest =>
    if hosted.document.compact != text then .error (.inconsistent firstUrl hosted.url)
    else do
      let warnings ← hosted.warningsFor nodes
      let more ← checkAll firstUrl text nodes rest
      pure (warnings ++ more)

end Hosted

def Agreement.check (documents : List Hosted) (nodes : List String) : Except Fault Agreement :=
  match documents with
  | [] => .ok ⟨0, []⟩
  | first :: _ => do
    let warnings ← Hosted.checkAll first.url first.document.compact nodes documents
    pure ⟨documents.length, warnings⟩

end ScriptOracle.Secrets
