import ScriptOracle.Proofs.Json.Reader
import ScriptOracle.Proofs.Json.Record
import ScriptOracle.Proofs.Sandbox.Grammar

/-!
# Requests read again

A request that was found in order can be written down and read again, by the reader of requests and by the
one that checks submissions, and nothing is changed by it. The two readers take different things for left
out, but whatever the stricter one accepts and asks for any request at all, the other accepts as well.
-/

namespace ScriptOracle

namespace Sandbox

namespace Request

/-! ## Reading a request -/

/-- What the fields of a name make of a part of a draft: it stays as it is if there is none, and takes what
the first one stands for if it was empty. -/
inductive Entered {α : Type} (fields : Fields Json) (name : String) (stands : Json -> α -> Prop) :
    Option α -> Option α -> Prop where
  | kept {part : Option α} (absent : fields.get? name = none) : Entered fields name stands part part
  | filled {value : Json} {a : α} (found : fields.get? name = some value) (means : stands value a) :
      Entered fields name stands none (some a)

section Entered

variable {α : Type} {fields : Fields Json} {name : String} {stands : Json -> α -> Prop}
  {part after : Option α} {value : Json}

theorem Entered.skip (entered : Entered fields name stands part after) {key : String} (other : key ≠ name)
    (value : Json) : Entered ((key, value) :: fields) name stands part after := by
  have same : Fields.get? ((key, value) :: fields) name = fields.get? name := by
    rw [Fields.get?_cons, if_neg other]
  cases entered with
  | kept absent => exact .kept (same.trans absent)
  | filled found means => exact .filled (same.trans found) means

theorem Entered.first {a : α} (entered : Entered fields name stands (some a) after)
    (means : stands value a) : Entered ((name, value) :: fields) name stands none after := by
  cases entered with
  | kept absent => exact .filled (by rw [Fields.get?_cons, if_pos rfl]) means

end Entered

/-- Secrets may be null, which is the same as none. -/
def Holds (value : Json) (secrets : Option (Fields String)) : Prop :=
  value = .null ∧ secrets = none ∨ Submission.Maps value secrets

structure Enters (fields : Fields Json) (draft final : Draft) : Prop where
  source : Entered fields "source" (fun value text => value = .string text) draft.source final.source
  args : Entered fields "args" Submission.Lists draft.args final.args
  secrets : Entered fields "secrets" Holds draft.secrets final.secrets
  quota : Entered fields "numAllowedQueries" (fun value n => value = .ofNat n ∧ n < 2 ^ 32)
    draft.quota final.quota

theorem readStrings_eq_ok {value : Json} {texts : List String} (done : Json.readStrings value = .ok texts) :
    Submission.Lists value texts := by
  cases value with
  | array items => exact congrArg Json.array (Json.readTexts_eq_ok_iff.1 done)
  | _ => cases done

theorem readStringFields_eq_ok {value : Json} {secrets : Fields String}
    (done : Json.readStringFields value = .ok secrets) : Submission.Maps value (some secrets) := by
  obtain ⟨given, written, rfl⟩ := Json.readStringFields_eq_ok_iff.1 done
  exact ⟨given, written, rfl⟩

theorem readSecrets_eq_ok {value : Json} {secrets : Option (Fields String)}
    (done : Json.readOptional Json.readStringFields value = .ok secrets) : Holds value secrets := by
  cases value with
  | null =>
      cases done
      exact .inl ⟨rfl, rfl⟩
  | _ =>
      obtain ⟨fields, read, done⟩ := exists_of_bind_eq_ok done
      cases done
      exact .inr (readStringFields_eq_ok read)

theorem enters_of_fill {fields : Fields Json} {draft final : Draft}
    (done : Json.RecordType.fillByName slots draft fields = .ok final) : Enters fields draft final := by
  induction fields generalizing draft with
  | nil =>
      cases done
      exact ⟨.kept rfl, .kept rfl, .kept rfl, .kept rfl⟩
  | cons field fields ih =>
      obtain ⟨name, value⟩ := field
      obtain ⟨unread, done⟩ | ⟨slot, member, named, empty, next, filled, done⟩ :=
        Json.RecordType.cases_of_fillByName_cons done
      · have others := ih done
        have other : ∀ slot ∈ slots, ∀ known ∈ slot.names, name ≠ known :=
          fun slot member known named same => unread slot member (same ▸ named)
        simp only [slots, List.forall_mem_cons, List.not_mem_nil, false_implies, implies_true,
          and_true] at other
        obtain ⟨source, args, secrets, quota⟩ := other
        exact ⟨others.source.skip source value, others.args.skip args value,
          others.secrets.skip secrets value, others.quota.skip quota value⟩
      · have others := ih done
        simp only [slots, List.mem_cons, List.not_mem_nil, or_false] at member
        -- The field that is filled was empty, and the others stay as they are.
        rcases member with rfl | rfl | rfl | rfl <;> cases List.mem_singleton.1 named
        · have none : draft.source = none := Option.not_isSome_iff_eq_none.1 (by simpa using empty)
          obtain ⟨text, read, filled⟩ := exists_of_bind_eq_ok filled
          cases filled
          exact ⟨none ▸ others.source.first (Json.readString_eq_ok_iff.1 read),
            others.args.skip (by decide) value, others.secrets.skip (by decide) value,
            others.quota.skip (by decide) value⟩
        · have none : draft.args = none := Option.not_isSome_iff_eq_none.1 (by simpa using empty)
          obtain ⟨texts, read, filled⟩ := exists_of_bind_eq_ok filled
          cases filled
          exact ⟨others.source.skip (by decide) value, none ▸ others.args.first (readStrings_eq_ok read),
            others.secrets.skip (by decide) value, others.quota.skip (by decide) value⟩
        · have none : draft.secrets = none := Option.not_isSome_iff_eq_none.1 (by simpa using empty)
          obtain ⟨secrets, read, filled⟩ := exists_of_bind_eq_ok filled
          cases filled
          exact ⟨others.source.skip (by decide) value, others.args.skip (by decide) value,
            none ▸ others.secrets.first (readSecrets_eq_ok read), others.quota.skip (by decide) value⟩
        · have none : draft.quota = none := Option.not_isSome_iff_eq_none.1 (by simpa using empty)
          obtain ⟨n, read, filled⟩ := exists_of_bind_eq_ok filled
          cases filled
          exact ⟨others.source.skip (by decide) value, others.args.skip (by decide) value,
            others.secrets.skip (by decide) value,
            none ▸ others.quota.first (Json.readWord32_eq_ok_iff.1 read)⟩

/-- What a field that may be absent stands for. -/
def MayGive {α : Type} (fields : Fields Json) (name : String) (stands : Json -> α -> Prop)
    (usual result : α) : Prop :=
  fields.get? name = none ∧ result = usual ∨ ∃ value, fields.get? name = some value ∧ stands value result

/-- All that a request holds is taken from its fields. -/
structure Spells (fields : Fields Json) (request : Request) : Prop where
  source : fields.get? "source" = some (.string request.source)
  args : MayGive fields "args" Submission.Lists [] request.args
  secrets : MayGive fields "secrets" Holds none request.secrets
  quota : fields.get? "numAllowedQueries" = some (.ofNat request.quota)
  word : request.quota < 2 ^ 32

theorem Entered.mayGive {α : Type} {fields : Fields Json} {name : String} {stands : Json -> α -> Prop}
    {after : Option α} (entered : Entered fields name stands none after) (usual : α) :
    MayGive fields name stands usual (after.getD usual) := by
  cases entered with
  | kept absent => exact .inl ⟨absent, rfl⟩
  | filled found means => exact .inr ⟨_, found, means⟩

theorem Entered.found {α : Type} {fields : Fields Json} {name : String} {stands : Json -> α -> Prop}
    {a : α} (entered : Entered fields name stands none (some a)) :
    ∃ value, fields.get? name = some value ∧ stands value a := by
  cases entered with
  | filled found means => exact ⟨_, found, means⟩

theorem spells_of_read {fields : Fields Json} {request : Request}
    (done : read (.object fields) = .ok request) : Spells fields request := by
  obtain ⟨draft, filled, done⟩ := exists_of_bind_eq_ok done
  obtain ⟨source, args, secrets, quota⟩ := enters_of_fill filled
  obtain ⟨sourcePart, argsPart, secretsPart, quotaPart⟩ := draft
  cases sourcePart with
  | none => cases done
  | some text =>
      cases quotaPart with
      | none => cases done
      | some n =>
          cases done
          obtain ⟨_, written, rfl⟩ := source.found
          obtain ⟨_, counted, rfl, word⟩ := quota.found
          exact ⟨written, args.mayGive [], secrets.mayGive none, counted, word⟩

/-! ## Writing a request -/

theorem readSecrets_ofStringFields {secrets : Fields String} (ascending : secrets.Ascending) :
    Json.readOptional Json.readStringFields (.ofStringFields secrets) = .ok (some secrets) := by
  have read : Json.readStringFields (.ofStringFields secrets) = .ok secrets :=
    Json.readStringFields_eq_ok_iff.2 ⟨secrets, rfl, (Fields.sorted_of_ascending ascending).symm⟩
  rw [Json.ofStringFields] at read ⊢
  rw [Json.readOptional, read]
  · rfl
  · intro null
    cases null

/-- A request as it comes from a reader: the secrets are in order, and the quota fits. -/
structure Settled (request : Request) : Prop where
  ascending : ∀ secrets ∈ request.secrets, secrets.Ascending
  word : request.quota < 2 ^ 32

variable {request : Request}

section Fill

variable {draft : Draft} (rest : Fields Json)

theorem fill_source (absent : draft.source = none) (text : String) :
    Json.RecordType.fillByName slots draft (("source", .string text) :: rest) =
      Json.RecordType.fillByName slots { draft with source := some text } rest :=
  Json.RecordType.fillByName_cons rest rfl (by simp [absent]) rfl

theorem fill_args (absent : draft.args = none) (texts : List String) :
    Json.RecordType.fillByName slots draft (("args", .ofStrings texts) :: rest) =
      Json.RecordType.fillByName slots { draft with args := some texts } rest := by
  have read : Json.readStrings (.ofStrings texts) = .ok texts := Json.readTexts_eq_ok_iff.2 rfl
  exact Json.RecordType.fillByName_cons rest rfl (by simp [absent]) (by simp only [read]; rfl)

theorem fill_secrets (absent : draft.secrets = none) {secrets : Fields String}
    (ascending : secrets.Ascending) :
    Json.RecordType.fillByName slots draft (("secrets", .ofStringFields secrets) :: rest) =
      Json.RecordType.fillByName slots { draft with secrets := some (some secrets) } rest := by
  have read := readSecrets_ofStringFields ascending
  exact Json.RecordType.fillByName_cons rest rfl (by simp [absent]) (by simp only [read]; rfl)

theorem fill_quota (absent : draft.quota = none) {n : ℕ} (word : n < 2 ^ 32) :
    Json.RecordType.fillByName slots draft (("numAllowedQueries", .ofNat n) :: rest) =
      Json.RecordType.fillByName slots { draft with quota := some n } rest := by
  have read : Json.readWord32 (.ofNat n) = .ok n := Json.readWord32_eq_ok_iff.2 ⟨rfl, word⟩
  exact Json.RecordType.fillByName_cons rest rfl (by simp [absent]) (by simp only [read]; rfl)

end Fill

theorem read_toJson (settled : Settled request) : read request.toJson = .ok request := by
  obtain ⟨source, args, secrets, quota⟩ := request
  have word : quota < 2 ^ 32 := settled.word
  cases secrets with
  | none =>
      show (Json.RecordType.fillByName slots _ [("source", .string source), ("args", .ofStrings args),
        ("numAllowedQueries", .ofNat quota)] >>= Draft.finish) = _
      rw [fill_source _ rfl, fill_args _ rfl, fill_quota _ rfl word]
      rfl
  | some secrets =>
      have ascending : secrets.Ascending := settled.ascending secrets rfl
      show (Json.RecordType.fillByName slots _ [("source", .string source), ("args", .ofStrings args),
        ("secrets", .ofStringFields secrets), ("numAllowedQueries", .ofNat quota)] >>= Draft.finish) = _
      rw [fill_source _ rfl, fill_args _ rfl, fill_secrets _ rfl ascending, fill_quota _ rfl word]
      rfl

theorem exact_toJson (settled : Settled request) : Json.Exact 2 request.toJson := by
  obtain ⟨source, args, secrets, quota⟩ := request
  have counted : Json.Exact 1 (.ofNat quota) := by
    have word : quota < 2 ^ 32 := settled.word
    exact .integer 1 (by omega) (by omega)
  have listed : Json.Exact 1 (.ofStrings args) := Json.exact_ofStrings 0 args
  cases secrets with
  | none =>
      refine .object (show ["source", "args", "numAllowedQueries"].Nodup by decide) ?_
      exact List.forall_mem_cons.2 ⟨.string 1 source, List.forall_mem_cons.2 ⟨listed,
        List.forall_mem_singleton.2 counted⟩⟩
  | some secrets =>
      have mapped : Json.Exact 1 (.ofStringFields secrets) :=
        Json.exact_ofStringFields 0 (settled.ascending secrets rfl).nodup
      refine .object (show ["source", "args", "secrets", "numAllowedQueries"].Nodup by decide) ?_
      exact List.forall_mem_cons.2 ⟨.string 1 source, List.forall_mem_cons.2 ⟨listed,
        List.forall_mem_cons.2 ⟨mapped, List.forall_mem_singleton.2 counted⟩⟩⟩

theorem get?_toJson_of_ne {name : String} (source : name ≠ "source") (args : name ≠ "args")
    (secrets : name ≠ "secrets") (quota : name ≠ "numAllowedQueries") :
    request.toJson.get? name = none := by
  obtain ⟨_, _, held, _⟩ := request
  cases held <;> simp [toJson, Json.get?, Fields.get?, source.symm, args.symm, secrets.symm, quota.symm]

/-! ## Submitting a request -/

section Blank

variable {value : Json}

theorem not_isBlank_of_lists {texts : List String} (lists : Submission.Lists value texts) :
    ¬value.IsBlank := by
  rw [lists, Json.ofStrings]
  simp [Json.IsBlank, Json.number?]

theorem not_isBlank_of_maps {secrets : Option (Fields String)} (maps : Submission.Maps value secrets) :
    ¬value.IsBlank := by
  obtain ⟨fields, rfl, -⟩ := maps
  simp [Json.ofStringFields, Json.IsBlank, Json.number?]

theorem isBlank_ofNat_iff {n : ℕ} : (Json.ofNat n).IsBlank ↔ n = 0 := by
  simp [Json.ofNat, Json.IsBlank, Json.number?]

end Blank

/-- What is read as a request is taken in the same way from a submission. A quota of nothing is the only
value that is left out. -/
theorem takes_of_spells {fields : Fields Json} {defaults : Defaults} (spells : Spells fields request)
    (quota : request.quota ≠ 0 ∨ request.quota = defaults.quota)
    (unmarked : fields.get? "requestId" = none) (unlimited : fields.get? "maxResponseBytes" = none) :
    Submission.Takes defaults (.object fields) ⟨request, defaults.maxResponseBytes, none⟩ where
  source := spells.source
  requestId := .inl ⟨Json.leavesOut_of_none unmarked, rfl⟩
  quota := by
    rcases Nat.eq_zero_or_pos request.quota with zero | positive
    · refine .inl ⟨fun value found => ?_, quota.resolve_left (not_not.2 zero)⟩
      cases spells.quota.symm.trans found
      exact isBlank_ofNat_iff.2 zero
    · refine .inr ⟨_, spells.quota, mt isBlank_ofNat_iff.1 (Nat.ne_of_gt positive), spells.word, ?_⟩
      exact .inl rfl
  args := by
    rcases spells.args with ⟨absent, none⟩ | ⟨value, found, lists⟩
    · exact .inl ⟨Json.leavesOut_of_none absent, none⟩
    · exact .inr ⟨value, found, not_isBlank_of_lists lists, lists⟩
  secrets := by
    rcases spells.secrets with ⟨absent, none⟩ | ⟨value, found, ⟨rfl, none⟩ | maps⟩
    · exact .inl ⟨Json.leavesOut_of_none absent, none⟩
    · refine .inl ⟨fun value same => ?_, none⟩
      cases found.symm.trans same
      exact .inl rfl
    · exact .inr ⟨value, found, not_isBlank_of_maps maps, maps⟩
  maxResponseBytes := .inl ⟨Json.leavesOut_of_none unlimited, rfl⟩

/-- A request that stands in a submission is settled, and asks for no request only if that is usual. -/
theorem settled_of_takes {defaults : Defaults} (word : defaults.quota < 2 ^ 32) {input : Json}
    {submission : Submission} (takes : Submission.Takes defaults input submission) :
    Settled submission.request ∧
      (submission.request.quota ≠ 0 ∨ submission.request.quota = defaults.quota) := by
  have ascending : ∀ secrets ∈ submission.request.secrets, secrets.Ascending := by
    intro secrets held
    rcases takes.secrets with ⟨-, none⟩ | ⟨_, -, -, fields, -, same⟩
    · cases none.symm.trans held
    · cases same.symm.trans held
      exact Fields.ascending_sorted fields
  rcases takes.quota with ⟨-, same⟩ | ⟨value, -, full, fits, worth⟩
  · exact ⟨⟨ascending, same ▸ word⟩, .inr same⟩
  · refine ⟨⟨ascending, fits⟩, .inl fun zero => full (.inr (.inr (.inl ?_)))⟩
    rcases worth with worth | ⟨-, -, last⟩
    · rw [worth, zero]
      rfl
    · omega

end Request

/-- Whatever request is found in order is read back as it is from what is written of it, by the reader of
requests and by the check that it went through. And what the reader takes for a request that may send
anything is in order for the check, unless it says more than a request does. -/
theorem requests_reread {defaults : Defaults} (word : defaults.quota < 2 ^ 32) (input : Json) :
    (∀ submission, Submission.read defaults input = .ok submission →
      Json.readWritten (Text.utf8 submission.request.toJson.compact) = .ok submission.request.toJson ∧
      Json.readText submission.request.toJson.compact = .ok submission.request.toJson ∧
      Request.read submission.request.toJson = .ok submission.request ∧
      Submission.read defaults submission.request.toJson =
        .ok ⟨submission.request, defaults.maxResponseBytes, none⟩) ∧
    ∀ fields request, input = .object fields → Request.read input = .ok request → request.quota ≠ 0 →
      input.get? "requestId" = none → input.get? "maxResponseBytes" = none →
        Submission.read defaults input = .ok ⟨request, defaults.maxResponseBytes, none⟩ := by
  constructor
  · intro submission done
    have takes := (Submission.read_eq_ok_iff defaults input submission).1 done
    obtain ⟨settled, quota⟩ := Request.settled_of_takes word takes
    have reread : Request.read submission.request.toJson = .ok submission.request :=
      Request.read_toJson settled
    have exact := Request.exact_toJson settled
    refine ⟨exact.readWritten (by decide), exact.readText (by decide), reread, ?_⟩
    refine (Submission.read_eq_ok_iff defaults _ _).2 ?_
    exact Request.takes_of_spells (Request.spells_of_read reread) quota
      (Request.get?_toJson_of_ne (by decide) (by decide) (by decide) (by decide))
      (Request.get?_toJson_of_ne (by decide) (by decide) (by decide) (by decide))
  · rintro fields request rfl done some unmarked unlimited
    exact (Submission.read_eq_ok_iff defaults _ _).2
      (Request.takes_of_spells (Request.spells_of_read done) (.inl some) unmarked unlimited)

/-- With no requests as the usual quota, secrets that come out of order, and null for no secrets. -/
theorem requests_reread_unsorted :
    (let input := Json.object [("source", .string ""), ("secrets", .object [("b", .string "\n"),
        ("a", .string "")]), ("numAllowedQueries", .bool false), ("requestId", .integer 7)]
      let request : Request := ⟨"", [], some [("a", ""), ("b", "\n")], 0⟩
      Submission.read ⟨256, 0⟩ input = .ok ⟨request, 256, some "7"⟩ ∧
        Json.readText request.toJson.compact = .ok request.toJson ∧
        Request.read request.toJson = .ok request ∧
        Submission.read ⟨256, 0⟩ request.toJson = .ok ⟨request, 256, none⟩) ∧
    let input := Json.object [("numAllowedQueries", .integer 3), ("secrets", .null), ("source", .string "")]
    Request.read input = .ok ⟨"", [], none, 3⟩ ∧
      Submission.read ⟨256, 0⟩ input = .ok ⟨⟨"", [], none, 3⟩, 256, none⟩ := by
  have word : (0 : ℕ) < 2 ^ 32 := by decide
  have accepted : Submission.read ⟨256, 0⟩ (.object [("source", .string ""), ("secrets", .object
      [("b", .string "\n"), ("a", .string "")]), ("numAllowedQueries", .bool false),
      ("requestId", .integer 7)]) = .ok ⟨⟨"", [], some [("a", ""), ("b", "\n")], 0⟩, 256, some "7"⟩ := by
    rfl
  have asked : Request.read (.object [("numAllowedQueries", .integer 3), ("secrets", .null),
      ("source", .string "")]) = .ok ⟨"", [], none, 3⟩ := by
    rfl
  obtain ⟨-, text, reread, again⟩ := (@requests_reread ⟨256, 0⟩ word _).1 _ accepted
  exact ⟨⟨accepted, text, reread, again⟩, asked,
    (@requests_reread ⟨256, 0⟩ word _).2 _ _ rfl asked (by decide) rfl rfl⟩

end Sandbox

end ScriptOracle
