import ScriptOracle.Json.Record

/-!
# The request for a run

A caller hands in the text of a script, its arguments, perhaps secrets, and how many requests the script
may send. `Request.type` reads such a record, `Request.toJson` writes it.
-/

namespace ScriptOracle.Sandbox

structure Request where
  source : String
  args : List String
  secrets : Option (Fields String)
  /-- How many requests the script may send. -/
  quota : Nat
deriving DecidableEq, Repr

namespace Request

structure Draft where
  source : Option String
  args : Option (List String)
  secrets : Option (Option (Fields String))
  quota : Option Nat

/-- The request of a draft; the script and the quota have to be there. -/
def Draft.finish (draft : Draft) : Except Json.Mismatch Request :=
  match draft.source, draft.quota with
  | none, _ => .error (.missing "source")
  | some _, none => .error (.missing "numAllowedQueries")
  | some source, some quota =>
    .ok ⟨source, draft.args.getD [], draft.secrets.getD none, quota⟩

/-- The fields of a request in order. -/
def slots : List (Json.Slot Draft) := [
  { name := "source", names := ["source"], required := true, filled := (·.source.isSome)
    fill := fun draft value => do pure { draft with source := some (← Json.readString value) } },
  { name := "args", names := ["args"], required := false, filled := (·.args.isSome)
    fill := fun draft value => do pure { draft with args := some (← Json.readStrings value) } },
  { name := "secrets", names := ["secrets"], required := false, filled := (·.secrets.isSome)
    fill := fun draft value => do
      pure { draft with secrets := some (← Json.readOptional Json.readStringFields value) } },
  { name := "numAllowedQueries", names := ["numAllowedQueries"], required := true
    filled := (·.quota.isSome)
    fill := fun draft value => do pure { draft with quota := some (← Json.readWord32 value) } }]

def type : Json.RecordType Draft Request where
  name := "ExecutionRequest"
  slots := slots
  blank := ⟨none, none, none, none⟩
  finish := Draft.finish

def read (value : Json) : Except Json.Mismatch Request := type.read value

/-- A request as a data value. Secrets that are not there are left out. -/
def toJson (request : Request) : Json :=
  .object ([("source", .string request.source), ("args", .ofStrings request.args)]
    ++ (request.secrets.map fun secrets => ("secrets", Json.ofStringFields secrets)).toList
    ++ [("numAllowedQueries", .ofNat request.quota)])

end Request

end ScriptOracle.Sandbox
