import ScriptOracle.Proofs.Checks
import ScriptOracle.Proofs.Sandbox.Limits
import ScriptOracle.Proofs.Secrets.Config

/-!
# What a submission may say

A submission is in order if each of its fields is as it has to be, and it takes from each field what stands
there, or what is usual if the field is left out. Otherwise the message is that of the first field that is
not in order. Nothing else counts: not the order of the fields, not the fields with other names, and not by
which value a field is left out.
-/

namespace ScriptOracle.Sandbox.Submission

/-! ## What fields may hold -/

/-- The text of a mark: a text is its own, and a number has the one it is written with. -/
inductive Marks : Json -> Option String -> Prop where
  | text (text : String) : Marks (.string text) (some text)
  | integer (n : Int) : Marks (.integer n) (some (Json.integer n).compact)
  | double (x : Float) : Marks (.double x) (some (Json.double x).compact)

/-- A number stands for the whole number below a bound that it is worth. The double `2 ^ 64` stands for the
greatest number of sixty-four bits. -/
def Counts (bound : ℕ) (value : Json) (n : ℕ) : Prop :=
  n < bound ∧ (value.number? = some (n : ℚ) ∨
    (∃ x, value = .double x) ∧ value.number? = some (2 ^ 64) ∧ n = 2 ^ 64 - 1)

def Lists (value : Json) (texts : List String) : Prop := value = .ofStrings texts

/-- An object of texts, the names of which are put in order. -/
def Maps (value : Json) (secrets : Option (Fields String)) : Prop :=
  ∃ fields, value = .ofStringFields fields ∧ secrets = some (Fields.sorted fields)

def IsMark (value : Json) : Prop :=
  value.IsText ∨ (∃ n, value = .integer n) ∨ ∃ x, value = .double x

def IsCount (bound : ℕ) (value : Json) : Prop := ∃ n, Counts bound value n

def IsList (value : Json) : Prop := ∃ items, value = .array items

/-- What is demanded of a submission, each under the message for it, in the order in which it is checked. -/
def demands (input : Json) : Demands := [
  ("source param is missing", input.Has "source" Json.IsText),
  ("requestId param not a string or number", input.Allows "requestId" IsMark),
  ("numAllowedQueries not integer", input.Allows "numAllowedQueries" (IsCount (2 ^ 32))),
  ("args param not an array", input.Allows "args" IsList),
  ("args param not a string array", input.Allows "args" Json.IsTextList),
  ("secrets param not a string map", input.Allows "secrets" Json.IsTextMap),
  ("maxResponseBytes not integer", input.Allows "maxResponseBytes" (IsCount (2 ^ 64)))]

/-- All that a submission holds is taken from its fields. -/
structure Takes (defaults : Defaults) (input : Json) (submission : Submission) : Prop where
  source : input.get? "source" = some (.string submission.request.source)
  requestId : input.Gives "requestId" Marks none submission.requestId
  quota : input.Gives "numAllowedQueries" (Counts (2 ^ 32)) defaults.quota submission.request.quota
  args : input.Gives "args" Lists [] submission.request.args
  secrets : input.Gives "secrets" Maps none submission.request.secrets
  maxResponseBytes : input.Gives "maxResponseBytes" (Counts (2 ^ 64)) defaults.maxResponseBytes
    submission.maxResponseBytes

/-! ## Numbers -/

theorem wholeNumber?_double {x : Float} {m : ℕ} (worth : Double.value? x = some (m : ℚ)) :
    wholeNumber? (.double x) = if m ≤ maxWord + 1 then some (min m maxWord) else none := by
  have whole : Double.integer? x = some (m : ℤ) := Double.integer?_eq_some_iff.2 (by exact_mod_cast worth)
  have range : (0 ≤ (m : ℤ) ∧ (m : ℤ) ≤ maxWord + 1) ↔ m ≤ maxWord + 1 := by omega
  rw [wholeNumber?, whole]
  simp only [range, Int.toNat_natCast]

theorem filter_wholeNumber?_iff {value : Json} {bound n : ℕ} (word : bound ≤ maxWord) :
    (wholeNumber? value).filter (· ≤ bound) = some n ↔ Counts (bound + 1) value n := by
  rw [Option.filter_eq_some_iff, decide_eq_true_iff, Counts, Nat.lt_succ_iff, and_comm]
  refine and_congr_right fun least => ?_
  constructor
  · intro read
    cases value with
    | integer m =>
        obtain ⟨positive, same⟩ := Option.ite_none_right_eq_some.1 read
        obtain ⟨m, rfl⟩ := Int.eq_ofNat_of_zero_le positive
        cases same
        exact .inl rfl
    | double x => exact (number?_of_wholeNumber? read).imp_right fun last => ⟨⟨x, rfl⟩, last⟩
    | _ => cases read
  · rintro (worth | ⟨⟨x, rfl⟩, worth, rfl⟩)
    · cases value with
      | integer m =>
          have same : m = n := by exact_mod_cast Option.some.inj worth
          rw [same, wholeNumber?, if_pos (Int.natCast_nonneg n), Int.toNat_natCast]
      | double x =>
          have within : n ≤ maxWord := Nat.le_trans least word
          rw [wholeNumber?_double worth, if_pos (Nat.le_succ_of_le within), Nat.min_eq_left within]
      | _ => cases worth
    · have last : Double.value? x = some ((2 ^ 64 : ℕ) : ℚ) := by exact_mod_cast worth
      rw [wholeNumber?_double last]
      rfl

/-! ## Field by field -/

section Fields

variable {input : Json}

theorem readSource_eq_ok_iff {source : String} :
    readSource input = .ok source ↔ input.get? "source" = some (.string source) := by
  unfold readSource
  split
  next text found => simp [found]
  next other =>
    constructor
    · intro done
      cases done
    · intro found
      exact absurd found (other source)

theorem readRequestId_eq_ok_iff {mark : Option String} :
    readRequestId input = .ok mark ↔ input.Gives "requestId" Marks none mark := by
  unfold readRequestId
  cases given : input.given? "requestId" with
  | none =>
      rw [Json.gives_of_none given]
      simp [eq_comm]
  | some value =>
      rw [Json.gives_of_some given]
      constructor
      · intro done
        cases value <;> cases done <;> constructor
      · intro marks
        cases marks <;> rfl

theorem numberField_eq_ok_iff {name : String} {bound usual n : ℕ} {fault : InputFault}
    (word : bound ≤ maxWord) :
    numberField input name bound usual fault = .ok n ↔ input.Gives name (Counts (bound + 1)) usual n := by
  unfold numberField
  cases given : input.given? name with
  | none =>
      rw [Json.gives_of_none given]
      simp [eq_comm]
  | some value =>
      rw [Json.gives_of_some given, ← filter_wholeNumber?_iff word]
      dsimp only
      cases (wholeNumber? value).filter (· ≤ bound) <;> simp

theorem readArgs_eq_ok_iff {args : List String} :
    readArgs input = .ok args ↔ input.Gives "args" Lists [] args := by
  unfold readArgs
  cases given : input.given? "args" with
  | none =>
      rw [Json.gives_of_none given]
      simp [eq_comm]
  | some value =>
      rw [Json.gives_of_some given, Lists]
      cases value with
      | array items =>
          rw [← Json.asStrings?_eq_some_iff]
          dsimp only
          cases Json.asStrings? items <;> simp
      | _ => simp [Json.ofStrings]

theorem readSecrets_eq_ok_iff {secrets : Option (Fields String)} :
    readSecrets input = .ok secrets ↔ input.Gives "secrets" Maps none secrets := by
  unfold readSecrets
  cases given : input.given? "secrets" with
  | none =>
      rw [Json.gives_of_none given]
      simp [eq_comm]
  | some value =>
      rw [Json.gives_of_some given, Maps]
      cases value with
      | object fields =>
          simp only [← Json.asStringFields?_eq_some_iff]
          cases Json.asStringFields? fields <;> simp [eq_comm]
      | _ => simp [Json.ofStringFields]

theorem exists_marks_iff (value : Json) : (∃ mark, Marks value mark) ↔ IsMark value := by
  constructor
  · rintro ⟨_, marks⟩
    cases marks with
    | text text => exact .inl ⟨text, rfl⟩
    | integer n => exact .inr (.inl ⟨n, rfl⟩)
    | double x => exact .inr (.inr ⟨x, rfl⟩)
  · rintro (⟨text, rfl⟩ | ⟨n, rfl⟩ | ⟨x, rfl⟩)
    exacts [⟨_, .text text⟩, ⟨_, .integer n⟩, ⟨_, .double x⟩]

theorem exists_readSource_iff :
    (∃ source, readSource input = .ok source) ↔ input.Has "source" Json.IsText := by
  simp only [readSource_eq_ok_iff, Json.Has, Json.IsText]
  constructor
  · rintro ⟨source, found⟩
    exact ⟨_, found, source, rfl⟩
  · rintro ⟨_, found, source, rfl⟩
    exact ⟨source, found⟩

theorem exists_readRequestId_iff :
    (∃ mark, readRequestId input = .ok mark) ↔ input.Allows "requestId" IsMark := by
  simp only [readRequestId_eq_ok_iff, Json.exists_gives_iff, exists_marks_iff]

theorem exists_numberField_iff {name : String} {bound usual : ℕ} {fault : InputFault}
    (word : bound ≤ maxWord) :
    (∃ n, numberField input name bound usual fault = .ok n) ↔ input.Allows name (IsCount (bound + 1)) := by
  simp only [numberField_eq_ok_iff word, Json.exists_gives_iff]
  rfl

theorem exists_readArgs_iff :
    (∃ args, readArgs input = .ok args) ↔ input.Allows "args" Json.IsTextList := by
  simp only [readArgs_eq_ok_iff, Json.exists_gives_iff]
  rfl

theorem exists_maps_iff (value : Json) : (∃ secrets, Maps value secrets) ↔ value.IsTextMap := by
  constructor
  · rintro ⟨_, fields, same, -⟩
    exact ⟨fields, same⟩
  · rintro ⟨fields, same⟩
    exact ⟨_, fields, same, rfl⟩

theorem exists_readSecrets_iff :
    (∃ secrets, readSecrets input = .ok secrets) ↔ input.Allows "secrets" Json.IsTextMap := by
  simp only [readSecrets_eq_ok_iff, Json.exists_gives_iff, exists_maps_iff]

/-! ## Which message there is -/

variable {fault : InputFault}

theorem fault_of_readSource (failed : readSource input = .error fault) : fault = .source := by
  unfold readSource at failed
  split at failed <;> cases failed
  rfl

theorem fault_of_readRequestId (failed : readRequestId input = .error fault) : fault = .requestId := by
  unfold readRequestId at failed
  split at failed <;> cases failed
  rfl

theorem fault_of_numberField {name : String} {bound usual : ℕ} {other : InputFault}
    (failed : numberField input name bound usual other = .error fault) : fault = other := by
  unfold numberField at failed
  split at failed
  · cases failed
  · split at failed <;> cases failed
    rfl

theorem fault_of_readSecrets (failed : readSecrets input = .error fault) : fault = .secrets := by
  unfold readSecrets at failed
  split at failed
  · cases failed
  · split at failed <;> cases failed
    rfl
  · cases failed
    rfl

/-- Of arguments that are no list of texts it is told whether they are a list. -/
theorem meets_readArgs :
    Meets InputFault.message [
      ("args param not an array", input.Allows "args" IsList),
      ("args param not a string array", input.Allows "args" Json.IsTextList)] (readArgs input) := by
  have texts : ∀ items, Json.asStrings? items = none → ¬Json.IsTextList (.array items) := by
    rintro items none ⟨texts, same⟩
    cases none.symm.trans (Json.asStrings?_eq_some_iff.2 same)
  constructor
  · intro args done
    have lists : input.Allows "args" Json.IsTextList := exists_readArgs_iff.1 ⟨args, done⟩
    refine List.forall_mem_cons.2 ⟨fun value found => ?_, List.forall_mem_singleton.2 lists⟩
    exact (lists value found).imp_right fun ⟨texts, same⟩ => ⟨_, same⟩
  · intro fault failed
    simp only [Json.allows_iff]
    unfold readArgs at failed
    cases given : input.given? "args" with
    | none =>
        rw [given] at failed
        cases failed
    | some value =>
        rw [given] at failed
        cases value with
        | array items =>
            dsimp only at failed
            split at failed <;> cases failed
            next none =>
              refine .later (fun value same => ?_) (.here fun all => texts items none (all _ rfl))
              exact ⟨items, (Option.some.inj same).symm⟩
        | _ =>
            cases failed
            refine .here fun all => ?_
            obtain ⟨items, same⟩ := all _ rfl
            cases same

end Fields

/-! ## All fields -/

theorem read_eq_ok_iff (defaults : Defaults) (input : Json) (submission : Submission) :
    read defaults input = .ok submission ↔ Takes defaults input submission := by
  constructor
  · intro done
    have reads := reads_of_read done
    exact {
      source := readSource_eq_ok_iff.1 reads.source
      requestId := readRequestId_eq_ok_iff.1 reads.requestId
      quota := (numberField_eq_ok_iff (by decide)).1 reads.quota
      args := readArgs_eq_ok_iff.1 reads.args
      secrets := readSecrets_eq_ok_iff.1 reads.secrets
      maxResponseBytes := (numberField_eq_ok_iff (Nat.le_refl _)).1 reads.maxResponseBytes }
  · intro takes
    have quota : numberField input "numAllowedQueries" ((1 <<< 32) - 1) defaults.quota .quota =
        .ok submission.request.quota := (numberField_eq_ok_iff (by decide)).2 takes.quota
    have maximum : numberField input "maxResponseBytes" maxWord defaults.maxResponseBytes
        .maxResponseBytes = .ok submission.maxResponseBytes :=
      (numberField_eq_ok_iff (Nat.le_refl _)).2 takes.maxResponseBytes
    rw [read, readSource_eq_ok_iff.2 takes.source, readRequestId_eq_ok_iff.2 takes.requestId, quota,
      readArgs_eq_ok_iff.2 takes.args, readSecrets_eq_ok_iff.2 takes.secrets, maximum]
    rfl

theorem meets_read (defaults : Defaults) (input : Json) :
    Meets InputFault.message (demands input) (read defaults input) := by
  unfold read demands
  refine .cons (.single exists_readSource_iff fun _ failed => ?_) fun _ _ => ?_
  · rw [fault_of_readSource failed]
    rfl
  refine .cons (.single exists_readRequestId_iff fun _ failed => ?_) fun _ _ => ?_
  · rw [fault_of_readRequestId failed]
    rfl
  refine .cons (.single (exists_numberField_iff (by decide)) fun _ failed => ?_) fun _ _ => ?_
  · rw [fault_of_numberField failed]
    rfl
  refine meets_readArgs.bind fun _ _ => ?_
  refine .cons (.single exists_readSecrets_iff fun _ failed => ?_) fun _ _ => ?_
  · rw [fault_of_readSecrets failed]
    rfl
  refine .cons (.single (exists_numberField_iff (Nat.le_refl _)) fun _ failed => ?_) fun _ _ => ?_
  · rw [fault_of_numberField failed]
    rfl
  exact .ok (List.forall_mem_nil _)

/-! ## What does not count -/

def parameters : List String :=
  ["source", "requestId", "numAllowedQueries", "args", "secrets", "maxResponseBytes"]

/-- Ways to write the same submission. -/
inductive Rewording : Fields Json -> Fields Json -> Prop where
  | reorder {fields others : Fields Json} (distinct : (Fields.names fields).Nodup)
      (same : fields.Perm others) : Rewording fields others
  | add {before after : Fields Json} {name : String} (value : Json) (unread : name ∉ parameters) :
      Rewording (before ++ after) (before ++ (name, value) :: after)
  | replace {before after : Fields Json} {name : String} {value other : Json}
      (optional : name ≠ "source") (blank : value.IsBlank) (blankToo : other.IsBlank) :
      Rewording (before ++ (name, value) :: after) (before ++ (name, other) :: after)
  | remove {before after : Fields Json} {name : String} {value : Json}
      (optional : name ≠ "source") (blank : value.IsBlank)
      (once : (Fields.names (before ++ (name, value) :: after)).Nodup) :
      Rewording (before ++ (name, value) :: after) (before ++ after)

theorem read_congr {input other : Json} (defaults : Defaults)
    (source : other.get? "source" = input.get? "source")
    (given : ∀ name ∈ parameters, name ≠ "source" → other.given? name = input.given? name) :
    read defaults other = read defaults input := by
  have marked := given "requestId" (by decide) (by decide)
  have counted := given "numAllowedQueries" (by decide) (by decide)
  have called := given "args" (by decide) (by decide)
  have trusted := given "secrets" (by decide) (by decide)
  have limited := given "maxResponseBytes" (by decide) (by decide)
  simp only [read, readSource, readRequestId, numberField, readArgs, readSecrets, source, marked,
    counted, called, trusted, limited]

theorem given?_of_rewording {fields others : Fields Json} (reworded : Rewording fields others)
    {name : String} (read : name ∈ parameters) (optional : name ≠ "source") :
    (Json.object others).given? name = (Json.object fields).given? name := by
  cases reworded with
  | reorder distinct same =>
      rw [Json.given?, Json.given?, Json.get?, Json.get?, Fields.get?_of_perm distinct same]
  | @add before after added value unread =>
      have other : added ≠ name := fun same => unread (same ▸ read)
      rw [Json.given?, Json.given?, Json.get?, Json.get?, Fields.get?_insert_of_ne value other]
  | @replace before after replaced value instead _ blank blankToo =>
      by_cases same : replaced = name
      · subst same
        rw [Json.given?_of_blank blank, Json.given?_of_blank blankToo]
      · rw [Json.given?, Json.given?, Json.get?, Json.get?, Fields.get?_insert_of_ne value same,
          Fields.get?_insert_of_ne instead same]
  | @remove before after removed value _ blank once =>
      by_cases same : removed = name
      · subst same
        have behind : Fields.get? after removed = none := by
          refine Fields.get?_eq_none fun member => ?_
          rw [Fields.names, List.map_append, List.map_cons] at once
          exact (List.nodup_cons.1 (List.nodup_append.1 once).2.1).1 member
        rw [Json.given?_of_blank blank, Json.given?, Json.given?, Json.get?, Json.get?,
          Fields.get?_append, behind, Option.or_none]
      · rw [Json.given?, Json.given?, Json.get?, Json.get?, Fields.get?_insert_of_ne value same]

theorem source_of_rewording {fields others : Fields Json} (reworded : Rewording fields others) :
    (Json.object others).get? "source" = (Json.object fields).get? "source" := by
  rw [Json.get?, Json.get?]
  cases reworded with
  | reorder distinct same => exact (Fields.get?_of_perm distinct same _).symm
  | add value unread =>
      exact Fields.get?_insert_of_ne value fun same => unread (same ▸ List.mem_cons_self)
  | replace optional => rw [Fields.get?_insert_of_ne _ optional, Fields.get?_insert_of_ne _ optional]
  | remove optional => rw [Fields.get?_insert_of_ne _ optional]

theorem read_of_rewording {fields others : Fields Json} (reworded : Rewording fields others)
    (defaults : Defaults) : read defaults (.object others) = read defaults (.object fields) :=
  read_congr defaults (source_of_rewording reworded) fun _ => given?_of_rewording reworded

/-- A submission is in order if all that is demanded of it is met, and what it then asks for is what its
fields say. Otherwise the message is that of the first demand that is not met. However else it is written,
nothing changes. -/
theorem read_decides (defaults : Defaults) (input : Json) :
    ((∃ submission, read defaults input = .ok submission) ↔ (demands input).Met) ∧
    (∀ submission, read defaults input = .ok submission ↔ Takes defaults input submission) ∧
    (∀ message, (∃ fault, read defaults input = .error fault ∧ fault.message = message) ↔
      (demands input).FirstUnmet message) ∧
    ∀ fields others, input = .object fields → Rewording fields others →
      read defaults (.object others) = read defaults input := by
  refine ⟨(meets_read defaults input).exists_ok_iff, read_eq_ok_iff defaults input,
    (meets_read defaults input).exists_error_iff, ?_⟩
  rintro fields others rfl reworded
  exact read_of_rewording reworded defaults

/-- A mark and arguments that are both wrong: the mark is blamed. Secrets that are null may as well be
absent. -/
theorem read_decides_blamed :
    let fields : Fields Json := [("source", .string ""), ("secrets", .null), ("args", .integer 1),
      ("requestId", .array [])]
    let rest : Fields Json := [("source", .string ""), ("args", .integer 1), ("requestId", .array [])]
    read ⟨256, 5⟩ (.object fields) = .error .requestId ∧
      (demands (.object fields)).FirstUnmet "requestId param not a string or number" ∧
      ¬(demands (.object fields)).Met ∧
      read ⟨256, 5⟩ (.object rest) = read ⟨256, 5⟩ (.object fields) := by
  obtain ⟨met, -, blamed, same⟩ := read_decides ⟨256, 5⟩ (.object [("source", .string ""),
    ("secrets", .null), ("args", .integer 1), ("requestId", .array [])])
  have refused : read ⟨256, 5⟩ (.object [("source", .string ""), ("secrets", .null),
      ("args", .integer 1), ("requestId", .array [])]) = .error .requestId := by
    rfl
  have removed : Rewording ([("source", .string "")] ++ ("secrets", .null) :: [("args", .integer 1),
      ("requestId", .array [])]) ([("source", .string "")] ++ [("args", .integer 1),
      ("requestId", .array [])]) := .remove (by decide) (.inl rfl) (by decide)
  refine ⟨refused, (blamed _).1 ⟨_, refused, rfl⟩, fun all => ?_, same _ _ rfl removed⟩
  obtain ⟨_, done⟩ := met.2 all
  cases refused.symm.trans done

end ScriptOracle.Sandbox.Submission
