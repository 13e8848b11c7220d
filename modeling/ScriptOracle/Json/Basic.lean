import ScriptOracle.Number.Double

/-!
# Data values

Null, booleans, whole numbers, doubles, texts, lists, and objects whose fields keep the order in
which they were first written. A field written twice keeps its place and takes the last value.
-/

namespace ScriptOracle

abbrev Fields (α : Type) := List (String × α)

namespace Fields

variable {α : Type}

/-- The value of the first field of this name. -/
def get? (fields : Fields α) (name : String) : Option α :=
  match fields with
  | [] => none
  | (key, value) :: rest => if key = name then some value else get? rest name

def names (fields : Fields α) : List String := fields.map Prod.fst

/-- Writes a field: in place if the name is there, at the end if it is not. -/
def put (fields : Fields α) (name : String) (value : α) : Fields α :=
  match fields with
  | [] => [(name, value)]
  | (key, old) :: rest =>
    if key = name then (key, value) :: rest else (key, old) :: put rest name value

def ofList (pairs : List (String × α)) : Fields α :=
  pairs.foldl (fun fields pair => put fields pair.1 pair.2) []

/-- Writes a field among names in ascending order. -/
def putSorted (fields : Fields α) (name : String) (value : α) : Fields α :=
  match fields with
  | [] => [(name, value)]
  | (key, old) :: rest =>
    if key = name then (key, value) :: rest
    else if name < key then (name, value) :: (key, old) :: rest
    else (key, old) :: putSorted rest name value

/-- The fields with names in ascending order; of two fields of one name the last counts. -/
def sorted (fields : Fields α) : Fields α :=
  fields.foldl (fun sorted pair => putSorted sorted pair.1 pair.2) []

/-- Takes a field out; the last field moves into its place. -/
def swapRemove (fields : Fields α) (name : String) : Fields α :=
  match fields with
  | [] => []
  | (key, old) :: rest =>
    if key = name then
      match rest.getLast? with
      | none => []
      | some last => last :: rest.dropLast
    else (key, old) :: swapRemove rest name

@[simp] theorem get?_nil (name : String) : get? ([] : Fields α) name = none := rfl

theorem get?_cons (key name : String) (value : α) (rest : Fields α) :
    get? ((key, value) :: rest) name = if key = name then some value else get? rest name := rfl

end Fields

/-- A data value. Whole numbers lie between `-2 ^ 63` and `2 ^ 64 - 1`; all others are doubles. -/
inductive Json where
  | null
  | bool (value : Bool)
  | integer (value : Int)
  | double (value : Float)
  | string (value : String)
  | array (items : List Json)
  | object (fields : List (String × Json))
deriving Inhabited

namespace Json

mutual

def decEq : (a b : Json) -> Decidable (a = b)
  | .null, .null => isTrue rfl
  | .bool a, .bool b => if h : a = b then isTrue (h ▸ rfl) else isFalse fun e => h (by cases e; rfl)
  | .integer a, .integer b =>
    if h : a = b then isTrue (h ▸ rfl) else isFalse fun e => h (by cases e; rfl)
  | .double a, .double b =>
    if h : a = b then isTrue (h ▸ rfl) else isFalse fun e => h (by cases e; rfl)
  | .string a, .string b =>
    if h : a = b then isTrue (h ▸ rfl) else isFalse fun e => h (by cases e; rfl)
  | .array a, .array b =>
    match decEqItems a b with
    | isTrue h => isTrue (h ▸ rfl)
    | isFalse h => isFalse fun e => h (by cases e; rfl)
  | .object a, .object b =>
    match decEqFields a b with
    | isTrue h => isTrue (h ▸ rfl)
    | isFalse h => isFalse fun e => h (by cases e; rfl)
  | .null, .bool _ | .null, .integer _ | .null, .double _ | .null, .string _ | .null, .array _
  | .null, .object _ | .bool _, .null | .bool _, .integer _ | .bool _, .double _
  | .bool _, .string _ | .bool _, .array _ | .bool _, .object _ | .integer _, .null
  | .integer _, .bool _ | .integer _, .double _ | .integer _, .string _ | .integer _, .array _
  | .integer _, .object _ | .double _, .null | .double _, .bool _ | .double _, .integer _
  | .double _, .string _ | .double _, .array _ | .double _, .object _ | .string _, .null
  | .string _, .bool _ | .string _, .integer _ | .string _, .double _ | .string _, .array _
  | .string _, .object _ | .array _, .null | .array _, .bool _ | .array _, .integer _
  | .array _, .double _ | .array _, .string _ | .array _, .object _ | .object _, .null
  | .object _, .bool _ | .object _, .integer _ | .object _, .double _ | .object _, .string _
  | .object _, .array _ => isFalse nofun

def decEqItems : (a b : List Json) -> Decidable (a = b)
  | [], [] => isTrue rfl
  | x :: xs, y :: ys =>
    match decEq x y, decEqItems xs ys with
    | isTrue h, isTrue t => isTrue (by rw [h, t])
    | isFalse h, _ => isFalse fun e => h (by cases e; rfl)
    | _, isFalse t => isFalse fun e => t (by cases e; rfl)
  | [], _ :: _ | _ :: _, [] => isFalse nofun

def decEqFields : (a b : List (String × Json)) -> Decidable (a = b)
  | [], [] => isTrue rfl
  | (k, x) :: xs, (l, y) :: ys =>
    if hk : k = l then
      match decEq x y, decEqFields xs ys with
      | isTrue h, isTrue t => isTrue (by rw [hk, h, t])
      | isFalse h, _ => isFalse fun e => h (by cases e; rfl)
      | _, isFalse t => isFalse fun e => t (by cases e; rfl)
    else isFalse fun e => hk (by cases e; rfl)
  | [], _ :: _ | _ :: _, [] => isFalse nofun

end

instance : DecidableEq Json := decEq

/-- The field of an object; nothing of any other value. -/
def get? (value : Json) (name : String) : Option Json :=
  match value with
  | .object fields => Fields.get? fields name
  | _ => none

/-- Whether a value counts as given: null, false, zero and the empty text do not. -/
def isGiven : Json -> Bool
  | .null => false
  | .bool b => b
  | .integer n => n != 0
  | .double x => !(x == 0)
  | .string text => !text.isEmpty
  | .array _ => true
  | .object _ => true

/-- The field of an object, if it counts as given. -/
def given? (value : Json) (name : String) : Option Json := (value.get? name).filter isGiven

def asString? : Json -> Option String
  | .string text => some text
  | _ => none

def asStrings? : List Json -> Option (List String)
  | [] => some []
  | item :: rest => do
    let text ← item.asString?
    let texts ← asStrings? rest
    pure (text :: texts)

def asStringFields? : Fields Json -> Option (Fields String)
  | [] => some []
  | (name, value) :: rest => do
    let text ← value.asString?
    let texts ← asStringFields? rest
    pure ((name, text) :: texts)

def ofStrings (texts : List String) : Json := .array (texts.map .string)

def ofStringFields (fields : Fields String) : Json :=
  .object (fields.map fun field => (field.1, .string field.2))

def ofNat (n : Nat) : Json := .integer n

end Json

end ScriptOracle
