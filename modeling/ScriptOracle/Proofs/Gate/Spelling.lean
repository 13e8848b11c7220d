import Mathlib.Logic.Relation
import ScriptOracle.Gate.Call
import ScriptOracle.Proofs.Json.Record

/-!
# How a request may be spelled

The same request may be described in many ways: in any order, with either name of a field that has two, with
its headers and parameters in any order, and with fields that nobody asks for. What is read depends on none
of this, and on each field only in one respect: what stands there.
-/

namespace ScriptOracle.Gate

open Json (Mismatch Entered under Tells MayTell Slot)

/-! ## What fields stand for -/

/-- An answer type has its name at its place in the list. -/
theorem AnswerType.findIdx?_choices_iff {name : String} {type : AnswerType} :
    (∃ place, choices.findIdx? (· == name) = some place ∧ atPlace place = type) ↔ name = type.name := by
  constructor
  · rintro ⟨place, found, rfl⟩
    obtain ⟨inside, same, -⟩ := List.findIdx?_eq_some_iff_getElem.1 found
    have there := eq_of_beq same
    match place, inside with
    | 0, _ | 1, _ | 2, _ => exact there.symm
  · rintro rfl
    cases type with
    | json => exact ⟨0, by decide, rfl⟩
    | text => exact ⟨1, by decide, rfl⟩
    | bytes => exact ⟨2, by decide, rfl⟩

theorem AnswerType.name_mem_choices (type : AnswerType) : type.name ∈ choices := by
  cases type <;> decide

theorem AnswerType.exists_name_eq {name : String} (member : name ∈ choices) :
    ∃ type : AnswerType, type.name = name := by
  simp only [choices, List.mem_cons, List.not_mem_nil, or_false] at member
  rcases member with rfl | rfl | rfl
  exacts [⟨.json, rfl⟩, ⟨.text, rfl⟩, ⟨.bytes, rfl⟩]

theorem AnswerType.read_eq_ok_iff {value : Json} {type : AnswerType} :
    AnswerType.read value = .ok type ↔
      value = .string type.name ∨ value = .object [(type.name, .null)] := by
  constructor
  · intro done
    obtain ⟨place, chosen, done⟩ := exists_of_bind_eq_ok done
    obtain ⟨name, found, written⟩ := Json.readChoice_eq_ok_iff.1 chosen
    cases done
    rwa [← findIdx?_choices_iff.1 ⟨place, found, rfl⟩]
  · intro written
    obtain ⟨place, found, rfl⟩ := findIdx?_choices_iff.2 (rfl : type.name = type.name)
    rw [AnswerType.read, Json.readChoice_eq_ok_iff.2 ⟨_, found, written⟩]
    rfl

namespace Call

/-- A body may be null, which is the same as none. -/
def StandsForBody (value : Json) (body : Option Json) : Prop :=
  value = .null ∧ body = none ∨ value ≠ .null ∧ body = some value

theorem readBody_eq_ok_iff {value : Json} {body : Option Json} :
    readBody value = .ok body ↔ StandsForBody value body := by
  cases value <;> simp [readBody, StandsForBody, eq_comm]

theorem exists_standsForBody (value : Json) : ∃ body, StandsForBody value body := by
  by_cases null : value = .null
  · exact ⟨none, .inl ⟨null, rfl⟩⟩
  · exact ⟨some value, .inr ⟨null, rfl⟩⟩

def StandsForText (value : Json) (text : String) : Prop := value = .string text

/-- An object of texts, which are put in order. -/
def StandsForTexts (value : Json) (texts : Fields String) : Prop :=
  ∃ given, value = .ofStringFields given ∧ texts = Fields.sorted given

/-- An object of any values, which are put in order. -/
def StandsForFields (value : Json) (fields : Fields Json) : Prop :=
  ∃ given, value = .object given ∧ fields = Fields.sorted given

/-- A whole number of sixty-four bits. -/
def StandsForWord (value : Json) (n : Nat) : Prop := value = .ofNat n ∧ n < 2 ^ 64

/-- The name of an answer type, or an object with this name alone. -/
def StandsForType (value : Json) (type : AnswerType) : Prop :=
  value = .string type.name ∨ value = .object [(type.name, .null)]

/-! ## Filling a draft -/

@[mk_iff] structure Enters (fields : Fields Json) (draft final : Draft) : Prop where
  url : Entered Json.readString (under ["url"] fields) draft.url final.url
  method : Entered Json.readString (under ["method"] fields) draft.method final.method
  headers : Entered Json.readStringFields (under ["headers"] fields) draft.headers final.headers
  params : Entered Json.readFields (under ["params"] fields) draft.params final.params
  body : Entered readBody (under ["body", "data"] fields) draft.body final.body
  timeoutMs : Entered Json.readWord64 (under ["timeoutMs", "timeout"] fields) draft.timeoutMs
    final.timeoutMs
  answerType : Entered AnswerType.read (under ["responseType"] fields) draft.answerType final.answerType

section Fill

open Json.RecordType (fillByName fillByName_cons_iff)

variable {draft final : Draft} {value : Json} {rest : Fields Json}

theorem fill_url_iff : fillByName slots draft (("url", value) :: rest) = .ok final ↔
    draft.url = none ∧ ∃ text, Json.readString value = .ok text ∧
      fillByName slots { draft with url := some text } rest = .ok final :=
  fillByName_cons_iff Draft.url (fun (draft : Draft) text => { draft with url := some text }) _ rfl
    ⟨fun _ => rfl, fun _ _ => rfl⟩

theorem fill_method_iff : fillByName slots draft (("method", value) :: rest) = .ok final ↔
    draft.method = none ∧ ∃ text, Json.readString value = .ok text ∧
      fillByName slots { draft with method := some text } rest = .ok final :=
  fillByName_cons_iff Draft.method (fun (draft : Draft) text => { draft with method := some text }) _ rfl
    ⟨fun _ => rfl, fun _ _ => rfl⟩

theorem fill_headers_iff : fillByName slots draft (("headers", value) :: rest) = .ok final ↔
    draft.headers = none ∧ ∃ headers, Json.readStringFields value = .ok headers ∧
      fillByName slots { draft with headers := some headers } rest = .ok final :=
  fillByName_cons_iff Draft.headers (fun (draft : Draft) headers => { draft with headers := some headers })
    _ rfl ⟨fun _ => rfl, fun _ _ => rfl⟩

theorem fill_params_iff : fillByName slots draft (("params", value) :: rest) = .ok final ↔
    draft.params = none ∧ ∃ params, Json.readFields value = .ok params ∧
      fillByName slots { draft with params := some params } rest = .ok final :=
  fillByName_cons_iff Draft.params (fun (draft : Draft) params => { draft with params := some params }) _ rfl
    ⟨fun _ => rfl, fun _ _ => rfl⟩

theorem fill_body_iff {name : String} (named : name ∈ ["body", "data"]) :
    fillByName slots draft ((name, value) :: rest) = .ok final ↔
      draft.body = none ∧ ∃ body, readBody value = .ok body ∧
        fillByName slots { draft with body := some body } rest = .ok final := by
  simp only [List.mem_cons, List.not_mem_nil, or_false] at named
  rcases named with rfl | rfl
  all_goals
    exact fillByName_cons_iff Draft.body (fun (draft : Draft) body => { draft with body := some body }) _ rfl
      ⟨fun _ => rfl, fun _ _ => rfl⟩

theorem fill_timeoutMs_iff {name : String} (named : name ∈ ["timeoutMs", "timeout"]) :
    fillByName slots draft ((name, value) :: rest) = .ok final ↔
      draft.timeoutMs = none ∧ ∃ n, Json.readWord64 value = .ok n ∧
        fillByName slots { draft with timeoutMs := some n } rest = .ok final := by
  simp only [List.mem_cons, List.not_mem_nil, or_false] at named
  rcases named with rfl | rfl
  all_goals
    exact fillByName_cons_iff Draft.timeoutMs (fun (draft : Draft) n => { draft with timeoutMs := some n })
      _ rfl ⟨fun _ => rfl, fun _ _ => rfl⟩

theorem fill_responseType_iff :
    fillByName slots draft (("responseType", value) :: rest) = .ok final ↔
      draft.answerType = none ∧ ∃ type, AnswerType.read value = .ok type ∧
        fillByName slots { draft with answerType := some type } rest = .ok final :=
  fillByName_cons_iff Draft.answerType (fun (draft : Draft) type => { draft with answerType := some type })
    _ rfl ⟨fun _ => rfl, fun _ _ => rfl⟩

def names : List String :=
  ["url", "method", "headers", "params", "body", "data", "timeoutMs", "timeout", "responseType"]

theorem mem_names {slot : Slot Draft} (member : slot ∈ slots) {name : String}
    (named : name ∈ slot.names) : name ∈ names := by
  have all : slot.names ⊆ names := by
    simp only [slots, List.mem_cons, List.not_mem_nil, or_false] at member
    rcases member with rfl | rfl | rfl | rfl | rfl | rfl | rfl <;> decide
  exact all named

theorem under_cons_of_unknown {name : String} (unknown : name ∉ names) {group : List String}
    (known : group ⊆ names) (value : Json) (rest : Fields Json) :
    under group ((name, value) :: rest) = under group rest :=
  Json.under_cons_of_not_mem (fun member => unknown (known member)) value rest

/-- A draft is filled exactly if each part can take what stands under its names. -/
theorem fillByName_eq_ok_iff {fields : Fields Json} :
    fillByName slots draft fields = .ok final ↔ Enters fields draft final := by
  induction fields generalizing draft with
  | nil =>
      simp only [fillByName, enters_iff, under, List.filterMap_nil, Json.entered_nil_iff]
      cases draft
      cases final
      simp [eq_comm]
  | cons field rest ih =>
      obtain ⟨name, value⟩ := field
      by_cases known : name ∈ names
      · simp only [names, List.mem_cons, List.not_mem_nil, or_false] at known
        -- Only the part that the name belongs to takes the value, and it has to be empty.
        rcases known with rfl | rfl | rfl | rfl | rfl | rfl | rfl | rfl | rfl
        all_goals
          simp (disch := decide) only [fill_url_iff, fill_method_iff, fill_headers_iff, fill_params_iff,
            fill_body_iff, fill_timeoutMs_iff, fill_responseType_iff, ih, enters_iff,
            Json.under_cons_of_mem, Json.under_cons_of_not_mem, Json.entered_cons_iff]
          grind
      · have unknown : ∀ slot ∈ slots, name ∉ slot.names :=
          fun slot member named => known (mem_names member named)
        rw [Json.RecordType.fillByName_cons_of_unknown unknown, ih]
        simp (disch := decide) only [enters_iff, under_cons_of_unknown known]

end Fill

theorem read_eq_ok_iff {fields : Fields Json} {call : Call} :
    read (.object fields) = .ok call ↔ ∃ draft, Enters fields .blank draft ∧ draft.finish = .ok call := by
  simp only [← fillByName_eq_ok_iff]
  exact bind_eq_ok_iff

/-! ## What is read -/

/-- All that a request holds is taken from its fields. -/
structure Describes (fields : Fields Json) (call : Call) : Prop where
  url : fields.get? "url" = some (.string call.url)
  method : MayTell fields ["method"] StandsForText "get" call.method
  headers : MayTell fields ["headers"] StandsForTexts [] call.headers
  params : MayTell fields ["params"] StandsForFields [] call.params
  body : MayTell fields ["body", "data"] StandsForBody none call.body
  timeoutMs : MayTell fields ["timeoutMs", "timeout"] StandsForWord defaultTimeoutMs call.timeoutMs
  answerType : MayTell fields ["responseType"] StandsForType .json call.answerType

/-- Fields that describe a request: each has its type, and none is there under two names. -/
structure Readable (fields : Fields Json) : Prop where
  url : ∃ text, fields.get? "url" = some (.string text)
  method : ∀ value ∈ fields.get? "method", ∃ text, value = .string text
  headers : ∀ value ∈ fields.get? "headers", ∃ texts, value = .ofStringFields texts
  params : ∀ value ∈ fields.get? "params", ∃ parts, value = .object parts
  timeoutMs : ∀ name ∈ ["timeoutMs", "timeout"], ∀ value ∈ fields.get? name,
    ∃ n < 2 ^ 64, value = .ofNat n
  responseType : ∀ value ∈ fields.get? "responseType",
    ∃ name ∈ AnswerType.choices, value = .string name ∨ value = .object [(name, .null)]
  body_or_data : fields.get? "body" = none ∨ fields.get? "data" = none
  timeoutMs_or_timeout : fields.get? "timeoutMs" = none ∨ fields.get? "timeout" = none

section Describes

variable {fields : Fields Json} {call : Call}

theorem tells_url_iff {text : String} :
    Tells fields ["url"] StandsForText text ↔ fields.get? "url" = some (.string text) := by
  simp [Tells, StandsForText]

theorem read_eq_ok_iff_describes (distinct : (Fields.names fields).Nodup) :
    read (.object fields) = .ok call ↔ Describes fields call := by
  have url {text : String} : Entered Json.readString (under ["url"] fields) none (some text) ↔
      fields.get? "url" = some (.string text) :=
    (Json.entered_some_iff distinct fun _ => Json.readString_eq_ok_iff).trans tells_url_iff
  have method := Json.exists_entered_iff distinct ["method"] StandsForText "get" call.method
    fun _ => Json.readString_eq_ok_iff
  have headers := Json.exists_entered_iff distinct ["headers"] StandsForTexts [] call.headers
    fun _ => Json.readStringFields_eq_ok_iff
  have params := Json.exists_entered_iff distinct ["params"] StandsForFields [] call.params
    fun _ => Json.readFields_eq_ok_iff
  have body := Json.exists_entered_iff distinct ["body", "data"] StandsForBody none call.body
    fun _ => readBody_eq_ok_iff
  have timeoutMs := Json.exists_entered_iff distinct ["timeoutMs", "timeout"] StandsForWord
    defaultTimeoutMs call.timeoutMs fun _ => Json.readWord64_eq_ok_iff
  have answerType := Json.exists_entered_iff distinct ["responseType"] StandsForType .json call.answerType
    fun _ => AnswerType.read_eq_ok_iff
  rw [read_eq_ok_iff]
  constructor
  · rintro ⟨draft, enters, done⟩
    cases address : draft.url with
    | none => simp [Draft.finish, address] at done
    | some text =>
        simp only [Draft.finish, address, Except.ok.injEq] at done
        subst done
        exact
          { url := url.1 (address ▸ enters.url)
            method := method.1 ⟨_, enters.method, rfl⟩
            headers := headers.1 ⟨_, enters.headers, rfl⟩
            params := params.1 ⟨_, enters.params, rfl⟩
            body := body.1 ⟨_, enters.body, rfl⟩
            timeoutMs := timeoutMs.1 ⟨_, enters.timeoutMs, rfl⟩
            answerType := answerType.1 ⟨_, enters.answerType, rfl⟩ }
  · intro describes
    obtain ⟨methodPart, methodEnters, methodEq⟩ := method.2 describes.method
    obtain ⟨headersPart, headersEnters, headersEq⟩ := headers.2 describes.headers
    obtain ⟨paramsPart, paramsEnters, paramsEq⟩ := params.2 describes.params
    obtain ⟨bodyPart, bodyEnters, bodyEq⟩ := body.2 describes.body
    obtain ⟨timePart, timeEnters, timeEq⟩ := timeoutMs.2 describes.timeoutMs
    obtain ⟨typePart, typeEnters, typeEq⟩ := answerType.2 describes.answerType
    refine ⟨⟨some call.url, methodPart, headersPart, paramsPart, bodyPart, timePart, typePart⟩,
      ⟨url.2 describes.url, methodEnters, headersEnters, paramsEnters, bodyEnters, timeEnters, typeEnters⟩,
      ?_⟩
    simp only [Draft.finish, methodEq, headersEq, paramsEq, bodyEq, timeEq, typeEq]

/-- There is a request in fields exactly if each of them has its type, and none stands under two names. -/
theorem exists_describes_iff : (∃ call, Describes fields call) ↔ Readable fields := by
  constructor
  · rintro ⟨call, describes⟩
    have headers := Json.exists_mayTell_singleton_iff.1 ⟨_, describes.headers⟩
    have params := Json.exists_mayTell_singleton_iff.1 ⟨_, describes.params⟩
    have type := Json.exists_mayTell_singleton_iff.1 ⟨_, describes.answerType⟩
    have body := (Json.exists_mayTell_pair_iff (by decide)).1 ⟨_, describes.body⟩
    obtain ⟨oneTime, time⟩ := (Json.exists_mayTell_pair_iff (by decide)).1 ⟨_, describes.timeoutMs⟩
    refine ⟨⟨_, describes.url⟩, Json.exists_mayTell_singleton_iff.1 ⟨_, describes.method⟩,
      fun value found => ?headers, fun value found => ?params, fun name member value found => ?time,
      fun value found => ?type, body.1, oneTime⟩
    case headers =>
      obtain ⟨-, given, written, -⟩ := headers value found
      exact ⟨given, written⟩
    case params =>
      obtain ⟨-, given, written, -⟩ := params value found
      exact ⟨given, written⟩
    case time =>
      obtain ⟨n, written, range⟩ := time name member value found
      exact ⟨n, range, written⟩
    case type =>
      obtain ⟨type, written⟩ := type value found
      exact ⟨type.name, type.name_mem_choices, written⟩
  · intro readable
    obtain ⟨url, address⟩ := readable.url
    obtain ⟨method, theMethod⟩ : ∃ text, MayTell fields ["method"] StandsForText "get" text :=
      Json.exists_mayTell_singleton_iff.2 readable.method
    obtain ⟨headers, theHeaders⟩ : ∃ texts, MayTell fields ["headers"] StandsForTexts [] texts := by
      refine Json.exists_mayTell_singleton_iff.2 fun value found => ?_
      obtain ⟨given, written⟩ := readable.headers value found
      exact ⟨_, given, written, rfl⟩
    obtain ⟨params, theParams⟩ : ∃ parts, MayTell fields ["params"] StandsForFields [] parts := by
      refine Json.exists_mayTell_singleton_iff.2 fun value found => ?_
      obtain ⟨given, written⟩ := readable.params value found
      exact ⟨_, given, written, rfl⟩
    obtain ⟨body, theBody⟩ : ∃ body, MayTell fields ["body", "data"] StandsForBody none body :=
      (Json.exists_mayTell_pair_iff (by decide)).2
        ⟨readable.body_or_data, fun _ _ value _ => exists_standsForBody value⟩
    obtain ⟨time, theTime⟩ : ∃ n, MayTell fields ["timeoutMs", "timeout"] StandsForWord defaultTimeoutMs n := by
      refine (Json.exists_mayTell_pair_iff (by decide)).2
        ⟨readable.timeoutMs_or_timeout, fun name member value found => ?_⟩
      obtain ⟨n, range, written⟩ := readable.timeoutMs name member value found
      exact ⟨n, written, range⟩
    obtain ⟨type, theType⟩ : ∃ type, MayTell fields ["responseType"] StandsForType .json type := by
      refine Json.exists_mayTell_singleton_iff.2 fun value found => ?_
      obtain ⟨name, member, written⟩ := readable.responseType value found
      obtain ⟨type, rfl⟩ := AnswerType.exists_name_eq member
      exact ⟨type, written⟩
    exact ⟨⟨url, method, headers, params, body, time, type⟩,
      ⟨address, theMethod, theHeaders, theParams, theBody, theTime, theType⟩⟩

end Describes

/-! ## Other spellings -/

/-- One change of how a request is spelled. Names of headers and of parameters come only once, as they do in
any object. -/
inductive Respells : Fields Json → Fields Json → Prop where
  | reorder {fields others : Fields Json} (same : fields.Perm others) : Respells fields others
  | reorderWithin (before after : Fields Json) {name : String} (known : name ∈ ["headers", "params"])
      {parts others : Fields Json} (distinct : (Fields.names parts).Nodup) (same : parts.Perm others) :
      Respells (before ++ (name, .object parts) :: after) (before ++ (name, .object others) :: after)
  | rename (before after : Fields Json) {name other : String}
      (known : (name, other) ∈ [("body", "data"), ("timeoutMs", "timeout")]) (value : Json) :
      Respells (before ++ (name, value) :: after) (before ++ (other, value) :: after)
  | add (before after : Fields Json) {name : String} (unknown : name ∉ names) (value : Json) :
      Respells (before ++ after) (before ++ (name, value) :: after)

/-- Texts in another order are those of the fields in that order. -/
theorem exists_perm_of_perm_ofStringFields {given : Fields String} {others : Fields Json}
    (same : (given.map fun field => (field.1, Json.string field.2)).Perm others) :
    ∃ more, Json.object others = .ofStringFields more ∧ given.Perm more := by
  let back (field : String × Json) : String × String := (field.1, field.2.asString?.getD "")
  have undone : (back ∘ fun field : String × String => (field.1, Json.string field.2)) = id := rfl
  refine ⟨others.map back, congrArg Json.object ?_, ?_⟩
  · rw [List.map_map]
    refine (List.map_congr_left fun field member => ?_).trans (List.map_id _) |>.symm
    obtain ⟨text, -, rfl⟩ := List.mem_map.1 (same.mem_iff.2 member)
    rfl
  · have reordered := same.map back
    rwa [List.map_map, undone, List.map_id] at reordered

/-- The order of headers does not matter. -/
theorem readStringFields_of_perm {parts others : Fields Json} (distinct : (Fields.names parts).Nodup)
    (same : parts.Perm others) {texts : Fields String}
    (done : Json.readStringFields (.object parts) = .ok texts) :
    Json.readStringFields (.object others) = .ok texts := by
  obtain ⟨given, written, rfl⟩ := Json.readStringFields_eq_ok_iff.1 done
  obtain rfl := Json.object.inj written
  obtain ⟨more, rewritten, reordered⟩ := exists_perm_of_perm_ofStringFields same
  refine Json.readStringFields_eq_ok_iff.2 ⟨more, rewritten, (Fields.sorted_of_perm ?_ reordered).symm⟩
  rwa [Fields.names, List.map_map] at distinct

theorem readStringFields_congr {parts others : Fields Json} (distinct : (Fields.names parts).Nodup)
    (same : parts.Perm others) (texts : Fields String) :
    Json.readStringFields (.object others) = .ok texts ↔
      Json.readStringFields (.object parts) = .ok texts :=
  ⟨readStringFields_of_perm ((same.map Prod.fst).nodup_iff.1 distinct) same.symm,
    readStringFields_of_perm distinct same⟩

theorem readFields_congr {parts others : Fields Json} (distinct : (Fields.names parts).Nodup)
    (same : parts.Perm others) (fields : Fields Json) :
    Json.readFields (.object others) = .ok fields ↔ Json.readFields (.object parts) = .ok fields := by
  rw [Json.readFields, Json.readFields, Fields.sorted_of_perm distinct same]

theorem under_insert_of_unknown {name : String} (unknown : name ∉ names) {group : List String}
    (known : group ⊆ names) (before after : Fields Json) (value : Json) :
    under group (before ++ (name, value) :: after) = under group (before ++ after) :=
  Json.under_insert_of_not_mem (fun member => unknown (known member)) before after value

/-- A draft is filled alike from both spellings. -/
theorem Respells.enters_iff {fields others : Fields Json} (respells : Respells fields others)
    {draft final : Draft} : Enters others draft final ↔ Enters fields draft final := by
  cases respells with
  | reorder same => simp only [Call.enters_iff, Json.entered_congr (Json.under_perm _ same)]
  | reorderWithin before after known distinct same =>
      simp only [List.mem_cons, List.not_mem_nil, or_false] at known
      rcases known with rfl | rfl
      · simp (disch := decide) only [Call.enters_iff, Json.under_insert_of_mem,
          Json.under_insert_of_not_mem, Json.entered_replace_iff (readStringFields_congr distinct same)]
      · simp (disch := decide) only [Call.enters_iff, Json.under_insert_of_mem,
          Json.under_insert_of_not_mem, Json.entered_replace_iff (readFields_congr distinct same)]
  | rename before after known value =>
      simp only [List.mem_cons, Prod.mk.injEq, List.not_mem_nil, or_false] at known
      rcases known with ⟨rfl, rfl⟩ | ⟨rfl, rfl⟩
      all_goals
        simp (disch := decide) only [Call.enters_iff, Json.under_insert_of_mem,
          Json.under_insert_of_not_mem]
  | add before after unknown value =>
      simp (disch := decide) only [Call.enters_iff, under_insert_of_unknown unknown]

/-- The same request is read from both spellings, or none from either. -/
theorem Respells.read_iff {fields others : Fields Json} (respells : Respells fields others) (call : Call) :
    read (.object others) = .ok call ↔ read (.object fields) = .ok call := by
  simp only [read_eq_ok_iff, respells.enters_iff]

theorem read_iff_of_eqvGen {fields others : Fields Json} (chain : Relation.EqvGen Respells fields others)
    (call : Call) : read (.object others) = .ok call ↔ read (.object fields) = .ok call := by
  induction chain with
  | rel fields others respells => exact respells.read_iff call
  | refl fields => exact Iff.rfl
  | symm fields others _ ih => exact ih.symm
  | trans fields between others _ _ first second => exact second.trans first

/-- What is read from an object is what its fields say, and there is something exactly if each has its type
and none stands under two names. However the object is spelled, the same is read. -/
theorem spelling_free {fields : Fields Json} (distinct : (Fields.names fields).Nodup) :
    (∀ call, read (.object fields) = .ok call ↔ Describes fields call) ∧
    ((∃ call, read (.object fields) = .ok call) ↔ Readable fields) ∧
    ∀ others, Relation.EqvGen Respells fields others → ∀ call,
      read (.object others) = .ok call ↔ read (.object fields) = .ok call := by
  refine ⟨fun call => read_eq_ok_iff_describes distinct, ?_, fun others => read_iff_of_eqvGen⟩
  simp only [read_eq_ok_iff_describes distinct]
  exact exists_describes_iff

/-- A field that nobody asks for is left out, two take their other names, the headers change places, and then
all fields do. -/
theorem spelling_free_respelled :
    let fields : Fields Json := [("data", .null), ("unknown", .null), ("timeout", .integer 7),
      ("headers", .object [("b", .string "2"), ("a", .string "1")]), ("url", .string "https://a.b/")]
    let others : Fields Json := [("url", .string "https://a.b/"),
      ("headers", .object [("a", .string "1"), ("b", .string "2")]), ("timeoutMs", .integer 7), ("body", .null)]
    let call : Call := { Call.get "https://a.b/" with headers := [("a", "1"), ("b", "2")], timeoutMs := 7 }
    Relation.EqvGen Respells fields others ∧ read (.object fields) = .ok call ∧
      read (.object others) = .ok call ∧ Describes fields call ∧ Readable fields := by
  intro fields others call
  let texts : Fields Json := [("b", .string "2"), ("a", .string "1")]
  let address : String × Json := ("url", .string "https://a.b/")
  let first : Fields Json :=
    [("data", .null), ("timeout", .integer 7), ("headers", .object texts), address]
  let second : Fields Json :=
    [("body", .null), ("timeout", .integer 7), ("headers", .object texts), address]
  let third : Fields Json :=
    [("body", .null), ("timeoutMs", .integer 7), ("headers", .object texts), address]
  have leaveOut : Respells first fields := .add [("data", .null)] _ (by decide) .null
  have nameBody : Respells second first := .rename [] _ (by decide) .null
  have nameTime : Respells third second := .rename [("body", .null)] _ (by decide) (.integer 7)
  have turnTexts : Respells third others.reverse :=
    .reorderWithin [("body", .null), ("timeoutMs", .integer 7)] [address] (by decide) (by decide)
      (List.reverse_perm texts).symm
  have turnAll : Respells others.reverse others := .reorder (List.reverse_perm others)
  have chain : Relation.EqvGen Respells fields others :=
    .trans _ _ _ (.symm _ _ (.rel _ _ leaveOut)) <| .trans _ _ _ (.symm _ _ (.rel _ _ nameBody)) <|
      .trans _ _ _ (.symm _ _ (.rel _ _ nameTime)) <| .trans _ _ _ (.rel _ _ turnTexts) (.rel _ _ turnAll)
  have done : read (.object fields) = .ok call := rfl
  obtain ⟨describes, readable, same⟩ := spelling_free (show (Fields.names fields).Nodup by decide)
  exact ⟨chain, done, (same others chain call).2 done, (describes call).1 done, readable.1 ⟨call, done⟩⟩

end Call

end ScriptOracle.Gate
