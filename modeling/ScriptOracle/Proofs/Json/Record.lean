import Mathlib.Algebra.Group.Nat.Defs
import ScriptOracle.Json.Record
import ScriptOracle.Proofs.Except
import ScriptOracle.Proofs.Json.Fields

/-!
# What records take from objects

A reader of one value accepts values of one shape. A record takes for each of its parts what stands under the
names of that part: nothing, or the one value that is there.
-/

namespace ScriptOracle

/-! ## Values -/

namespace Json

variable {value : Json}

theorem readString_eq_ok_iff {text : String} : readString value = .ok text ↔ value = .string text := by
  cases value <;> simp [readString]

theorem readBelow_eq_ok_iff {bound n : Nat} {name : String} :
    readBelow bound name value = .ok n ↔ value = .ofNat n ∧ n < bound := by
  rw [ofNat]
  cases value with
  | integer m =>
      rw [readBelow, integer.injEq]
      constructor
      · intro done
        split at done
        next range =>
          cases done
          omega
        next => cases done
      · rintro ⟨rfl, below⟩
        rw [if_pos ⟨Int.natCast_nonneg n, Int.ofNat_lt.2 below⟩, Int.toNat_natCast]
  | _ => simp [readBelow]

theorem readWord64_eq_ok_iff {n : Nat} : readWord64 value = .ok n ↔ value = .ofNat n ∧ n < 2 ^ 64 :=
  readBelow_eq_ok_iff

theorem readWord32_eq_ok_iff {n : Nat} : readWord32 value = .ok n ↔ value = .ofNat n ∧ n < 2 ^ 32 :=
  readBelow_eq_ok_iff

theorem readTexts_eq_ok_iff {items : List Json} {texts : List String} :
    readTexts items = .ok texts ↔ items = texts.map .string := by
  induction items generalizing texts with
  | nil => cases texts <;> simp [readTexts]
  | cons item items ih =>
      constructor
      · intro done
        obtain ⟨text, first, done⟩ := exists_of_bind_eq_ok done
        obtain ⟨more, others, done⟩ := exists_of_bind_eq_ok done
        cases done
        cases item <;> cases first
        rw [List.map_cons, ← ih.1 others]
      · intro same
        cases texts with
        | nil => cases same
        | cons text texts =>
            obtain ⟨rfl, others⟩ := List.cons.inj same
            rw [readTexts, ih.2 others]
            rfl

theorem readTextFields_eq_ok_iff {fields : Fields Json} {texts : Fields String} :
    readTextFields fields = .ok texts ↔ .object fields = ofStringFields texts := by
  rw [ofStringFields, object.injEq]
  induction fields generalizing texts with
  | nil => cases texts <;> simp [readTextFields]
  | cons field fields ih =>
      constructor
      · intro done
        obtain ⟨text, first, done⟩ := exists_of_bind_eq_ok done
        obtain ⟨more, others, done⟩ := exists_of_bind_eq_ok done
        cases done
        obtain ⟨name, value⟩ := field
        cases value <;> cases first
        rw [List.map_cons, ← ih.1 others]
      · intro same
        cases texts with
        | nil => cases same
        | cons text texts =>
            obtain ⟨rfl, others⟩ := List.cons.inj same
            rw [readTextFields, ih.2 others]
            rfl

theorem readStringFields_eq_ok_iff {texts : Fields String} :
    readStringFields value = .ok texts ↔
      ∃ given, value = .ofStringFields given ∧ texts = Fields.sorted given := by
  constructor
  · intro done
    cases value with
    | object fields =>
        obtain ⟨given, all, done⟩ := exists_of_bind_eq_ok done
        cases done
        exact ⟨given, readTextFields_eq_ok_iff.1 all, rfl⟩
    | _ => cases done
  · rintro ⟨given, rfl, rfl⟩
    have texts := readTextFields_eq_ok_iff.2 (rfl : ofStringFields given = .ofStringFields given)
    rw [ofStringFields, readStringFields, texts]
    rfl

theorem readFields_eq_ok_iff {fields : Fields Json} :
    readFields value = .ok fields ↔ ∃ given, value = .object given ∧ fields = Fields.sorted given := by
  cases value <;> simp [readFields, eq_comm]

theorem readChoiceName_eq_ok_iff {choices : List String} {name : String} {place : Nat} :
    readChoiceName choices name = .ok place ↔ choices.findIdx? (· == name) = some place := by
  rw [readChoiceName]
  cases choices.findIdx? (· == name) <;> simp

/-- A choice is written as a text, or as an object of one field that is null. -/
theorem readChoice_eq_ok_iff {choices : List String} {place : Nat} :
    readChoice choices value = .ok place ↔ ∃ name, choices.findIdx? (· == name) = some place ∧
      (value = .string name ∨ value = .object [(name, .null)]) := by
  simp only [← readChoiceName_eq_ok_iff]
  constructor
  · intro done
    unfold readChoice at done
    split at done
    next name => exact ⟨name, done, .inl rfl⟩
    next name held =>
      obtain ⟨found, chosen, done⟩ := exists_of_bind_eq_ok done
      split at done
      next =>
        cases done
        exact ⟨name, chosen, .inr rfl⟩
      next => cases done
    next => cases done
    next => cases done
  · rintro ⟨name, chosen, rfl | rfl⟩
    · exact chosen
    · rw [readChoice, chosen]
      rfl

/-! ## Parts of a record -/

/-- The values under any of some names, in order. -/
def under (names : List String) (fields : Fields Json) : List Json :=
  fields.filterMap fun field => if field.1 ∈ names then some field.2 else none

/-- What values make of a part: it stays as it is if there is none, and takes the only one if it was
empty. -/
inductive Entered {α : Type} (read : Json -> Except Mismatch α) :
    List Json -> Option α -> Option α -> Prop where
  | kept (part : Option α) : Entered read [] part part
  | filled {value : Json} {a : α} (means : read value = .ok a) : Entered read [value] none (some a)

/-- Under one of some names, and under no other, there is a value that stands for something. -/
def Tells {α : Type} (fields : Fields Json) (names : List String) (stands : Json -> α -> Prop) (a : α) :
    Prop :=
  ∃ name ∈ names, (∀ other ∈ names, other ≠ name → fields.get? other = none) ∧
    ∃ value, fields.get? name = some value ∧ stands value a

/-- What fields give for a part that may be left out. -/
def MayTell {α : Type} (fields : Fields Json) (names : List String) (stands : Json -> α -> Prop)
    (usual result : α) : Prop :=
  (∀ name ∈ names, fields.get? name = none) ∧ result = usual ∨ Tells fields names stands result

section Part

variable {α : Type} {read : Json -> Except Mismatch α} {values others : List Json} {part after : Option α}
  {names : List String} {name : String} {fields rest : Fields Json}

theorem under_cons_of_mem (member : name ∈ names) (value : Json) (rest : Fields Json) :
    under names ((name, value) :: rest) = value :: under names rest :=
  List.filterMap_cons_some (if_pos member)

theorem under_cons_of_not_mem (other : name ∉ names) (value : Json) (rest : Fields Json) :
    under names ((name, value) :: rest) = under names rest :=
  List.filterMap_cons_none (if_neg other)

theorem under_append (names : List String) (fields others : Fields Json) :
    under names (fields ++ others) = under names fields ++ under names others :=
  List.filterMap_append

theorem under_insert_of_mem (member : name ∈ names) (before after : Fields Json) (value : Json) :
    under names (before ++ (name, value) :: after) = under names before ++ value :: under names after := by
  rw [under_append, under_cons_of_mem member]

theorem under_insert_of_not_mem (other : name ∉ names) (before after : Fields Json) (value : Json) :
    under names (before ++ (name, value) :: after) = under names (before ++ after) := by
  rw [under_append, under_cons_of_not_mem other, under_append]

theorem under_perm (names : List String) {others : Fields Json} (same : fields.Perm others) :
    (under names fields).Perm (under names others) := same.filterMap _

theorem entered_nil_iff : Entered read [] part after ↔ after = part := by
  constructor
  · rintro ⟨⟩
    rfl
  · rintro rfl
    exact .kept _

theorem entered_cons_iff {value : Json} : Entered read (value :: values) part after ↔
    part = none ∧ ∃ a, read value = .ok a ∧ Entered read values (some a) after := by
  constructor
  · intro entered
    cases entered with
    | filled means => exact ⟨rfl, _, means, .kept _⟩
  · rintro ⟨rfl, a, means, entered⟩
    cases entered with
    | kept => exact .filled means

theorem Entered.perm (entered : Entered read values part after) (same : values.Perm others) :
    Entered read others part after := by
  cases entered with
  | kept =>
      cases List.perm_nil.1 same.symm
      exact .kept _
  | filled means =>
      cases List.perm_singleton.1 same.symm
      exact .filled means

/-- The order of values does not matter. -/
theorem entered_congr (same : values.Perm others) :
    Entered read others part after ↔ Entered read values part after :=
  ⟨fun entered => entered.perm same.symm, fun entered => entered.perm same⟩

/-- A value may be replaced by one that is read as the same. -/
theorem entered_replace_iff {before behind : List Json} {old new : Json}
    (same : ∀ a, read new = .ok a ↔ read old = .ok a) :
    Entered read (before ++ new :: behind) part after ↔
      Entered read (before ++ old :: behind) part after := by
  rw [entered_congr List.perm_middle.symm, entered_congr List.perm_middle.symm, entered_cons_iff,
    entered_cons_iff]
  simp only [same]

theorem under_eq_nil_iff : under names fields = [] ↔ ∀ name ∈ names, fields.get? name = none := by
  induction fields with
  | nil => simp [under]
  | cons field rest ih =>
      obtain ⟨key, value⟩ := field
      by_cases member : key ∈ names
      · rw [under_cons_of_mem member]
        refine ⟨nofun, fun absent => ?_⟩
        have found := absent key member
        rw [Fields.get?_cons, if_pos rfl] at found
        cases found
      · rw [under_cons_of_not_mem member, ih]
        refine forall₂_congr fun name named => ?_
        rw [Fields.get?_cons, if_neg (ne_of_mem_of_not_mem named member).symm]

theorem under_eq_singleton_iff (distinct : (Fields.names fields).Nodup) {value : Json} :
    under names fields = [value] ↔ ∃ name ∈ names,
      (∀ other ∈ names, other ≠ name → fields.get? other = none) ∧ fields.get? name = some value := by
  induction fields with
  | nil => simp [under]
  | cons field rest ih =>
      obtain ⟨key, first⟩ := field
      obtain ⟨fresh, others⟩ := List.nodup_cons.1 distinct
      by_cases member : key ∈ names
      · rw [under_cons_of_mem member, List.cons.injEq, under_eq_nil_iff]
        constructor
        · rintro ⟨rfl, absent⟩
          refine ⟨key, member, fun other named differs => ?_, if_pos rfl⟩
          rw [Fields.get?_cons, if_neg differs.symm]
          exact absent other named
        · rintro ⟨name, named, alone, found⟩
          have same : key = name := by
            by_contra differs
            have there := alone key member differs
            rw [Fields.get?_cons, if_pos rfl] at there
            cases there
          subst same
          rw [Fields.get?_cons, if_pos rfl] at found
          refine ⟨Option.some.inj found, fun other known => ?_⟩
          by_cases differs : other = key
          · exact differs ▸ Fields.get?_eq_none fresh
          · have absent := alone other known differs
            rwa [Fields.get?_cons, if_neg (Ne.symm differs)] at absent
      · have passed : ∀ name ∈ names, Fields.get? ((key, first) :: rest) name = Fields.get? rest name := by
          intro name named
          rw [Fields.get?_cons, if_neg (ne_of_mem_of_not_mem named member).symm]
        rw [under_cons_of_not_mem member, ih others]
        refine exists_congr fun name => and_congr_right fun named => ?_
        rw [passed name named]
        refine and_congr_left fun _ => forall₂_congr fun other known => ?_
        rw [passed other known]

theorem entered_none_iff :
    Entered read (under names fields) none none ↔ ∀ name ∈ names, fields.get? name = none := by
  rw [← under_eq_nil_iff]
  refine ⟨fun entered => ?_, fun same => same ▸ .kept none⟩
  generalize under names fields = values at entered
  cases entered
  rfl

theorem entered_some_iff (distinct : (Fields.names fields).Nodup) {stands : Json -> α -> Prop} {a : α}
    (means : ∀ value, read value = .ok a ↔ stands value a) :
    Entered read (under names fields) none (some a) ↔ Tells fields names stands a := by
  constructor
  · intro entered
    generalize same : under names fields = values at entered
    cases entered with
    | filled meant =>
        obtain ⟨name, member, alone, found⟩ := (under_eq_singleton_iff distinct).1 same
        exact ⟨name, member, alone, _, found, (means _).1 meant⟩
  · rintro ⟨name, member, alone, value, found, meant⟩
    rw [(under_eq_singleton_iff distinct).2 ⟨name, member, alone, found⟩]
    exact .filled ((means _).2 meant)

/-- An empty part takes what fields give for it. -/
theorem exists_entered_iff (distinct : (Fields.names fields).Nodup) (names : List String)
    (stands : Json -> α -> Prop) (usual result : α)
    (means : ∀ value, read value = .ok result ↔ stands value result) :
    (∃ after, Entered read (under names fields) none after ∧ after.getD usual = result) ↔
      MayTell fields names stands usual result := by
  constructor
  · rintro ⟨_ | a, entered, rfl⟩
    · exact .inl ⟨entered_none_iff.1 entered, rfl⟩
    · exact .inr ((entered_some_iff distinct means).1 entered)
  · rintro (⟨absent, rfl⟩ | holds)
    · exact ⟨none, entered_none_iff.2 absent, rfl⟩
    · exact ⟨some result, (entered_some_iff distinct means).2 holds, rfl⟩

/-- Something is given exactly if no two names are used, and what is there stands for something. -/
theorem exists_mayTell_iff {stands : Json -> α -> Prop} {usual : α} :
    (∃ result, MayTell fields names stands usual result) ↔
      (∀ name ∈ names, ∀ other ∈ names, other ≠ name → fields.get? name = none ∨ fields.get? other = none) ∧
        ∀ name ∈ names, ∀ value ∈ fields.get? name, ∃ a, stands value a := by
  constructor
  · rintro ⟨result, ⟨absent, -⟩ | ⟨name, member, alone, value, found, meant⟩⟩
    · refine ⟨fun name member _ _ _ => .inl (absent name member), fun name member value found => ?_⟩
      cases (absent name member).symm.trans found
    · constructor
      · intro first known other knownToo differs
        by_cases same : first = name
        · exact .inr (alone other knownToo (same ▸ differs))
        · exact .inl (alone first known same)
      · intro other known held there
        by_cases same : other = name
        · subst same
          cases found.symm.trans there
          exact ⟨result, meant⟩
        · cases (alone other known same).symm.trans there
  · rintro ⟨apart, readable⟩
    by_cases absent : ∀ name ∈ names, fields.get? name = none
    · exact ⟨usual, .inl ⟨absent, rfl⟩⟩
    · obtain ⟨name, absent⟩ := not_forall.1 absent
      obtain ⟨member, there⟩ := Classical.not_imp.1 absent
      obtain ⟨value, found⟩ := Option.ne_none_iff_exists'.1 there
      obtain ⟨a, meant⟩ := readable name member value found
      exact ⟨a, .inr ⟨name, member,
        fun other known differs => (apart name member other known differs).resolve_left there,
        value, found, meant⟩⟩

theorem exists_mayTell_singleton_iff {stands : Json -> α -> Prop} {usual : α} :
    (∃ result, MayTell fields [name] stands usual result) ↔
      ∀ value ∈ fields.get? name, ∃ a, stands value a := by
  rw [exists_mayTell_iff]
  simp

theorem exists_mayTell_pair_iff {other : String} (differs : other ≠ name) {stands : Json -> α -> Prop}
    {usual : α} : (∃ result, MayTell fields [name, other] stands usual result) ↔
      (fields.get? name = none ∨ fields.get? other = none) ∧
        ∀ known ∈ [name, other], ∀ value ∈ fields.get? known, ∃ a, stands value a := by
  rw [exists_mayTell_iff]
  refine and_congr_left fun _ => ⟨fun apart => ?_, fun either => ?_⟩
  · exact apart name List.mem_cons_self other (List.mem_cons_of_mem _ List.mem_cons_self) differs
  · simp only [List.forall_mem_cons, List.not_mem_nil, false_implies, implies_true, and_true]
    exact ⟨⟨fun same => absurd rfl same, fun _ => either⟩, fun _ => either.symm, fun same => absurd rfl same⟩

end Part

/-! ## Slots -/

structure Slot.Reads {Draft α : Type} (slot : Slot Draft) (part : Draft -> Option α)
    (set : Draft -> α -> Draft) (read : Json -> Except Mismatch α) : Prop where
  filled : ∀ draft, slot.filled draft = (part draft).isSome
  fill : ∀ draft value, slot.fill draft value = read value >>= fun a => .ok (set draft a)

namespace RecordType

variable {Draft α : Type} {slots : List (Slot Draft)} {slot : Slot Draft} {draft next final : Draft}
  {name : String} {value : Json} {rest : Fields Json}

/-- A field belongs to no slot, or it fills an empty one. -/
theorem cases_of_fillByName_cons (done : fillByName slots draft ((name, value) :: rest) = .ok final) :
    (∀ slot ∈ slots, name ∉ slot.names) ∧ fillByName slots draft rest = .ok final ∨
      ∃ slot ∈ slots, name ∈ slot.names ∧ slot.filled draft = false ∧
        ∃ next, slot.fill draft value = .ok next ∧ fillByName slots next rest = .ok final := by
  rw [fillByName] at done
  split at done
  next none =>
    refine .inl ⟨fun slot member named => ?_, done⟩
    exact List.find?_eq_none.1 none slot member (List.contains_iff_mem.2 named)
  next slot found =>
    split at done
    · cases done
    next empty =>
      split at done
      · cases done
      next next filled =>
        have named : name ∈ slot.names := List.contains_iff_mem.1 (by simpa using List.find?_some found)
        exact .inr ⟨slot, List.mem_of_find?_eq_some found, named, Bool.eq_false_iff.2 empty, next, filled,
          done⟩

theorem fillByName_cons (rest : Fields Json)
    (found : slots.find? (·.names.contains name) = some slot) (empty : slot.filled draft = false)
    (filled : slot.fill draft value = .ok next) :
    fillByName slots draft ((name, value) :: rest) = fillByName slots next rest := by
  rw [fillByName, found]
  simp only [empty, Bool.false_eq_true, if_false, filled]

theorem fillByName_cons_of_unknown (unknown : ∀ slot ∈ slots, name ∉ slot.names) :
    fillByName slots draft ((name, value) :: rest) = fillByName slots draft rest := by
  have none : slots.find? (·.names.contains name) = none :=
    List.find?_eq_none.2 fun slot member => mt List.contains_iff_mem.1 (unknown slot member)
  rw [fillByName, none]

/-- A field goes to its slot: the part has to be empty, and takes what is read. -/
theorem fillByName_cons_iff (part : Draft -> Option α) (set : Draft -> α -> Draft)
    (read : Json -> Except Mismatch α) (found : slots.find? (·.names.contains name) = some slot)
    (reads : slot.Reads part set read) :
    fillByName slots draft ((name, value) :: rest) = .ok final ↔
      part draft = none ∧ ∃ a, read value = .ok a ∧ fillByName slots (set draft a) rest = .ok final := by
  rw [fillByName, found]
  simp only [reads.filled, reads.fill]
  cases part draft with
  | some _ => simp
  | none => cases read value <;> simp [bind, Except.bind]

/-! ## What every draft keeps -/

section Keeps

variable {Result : Type} {Sound : Draft → Prop}

theorem sound_of_fillByName (fills : ∀ slot ∈ slots, ∀ draft value next,
      Sound draft → slot.fill draft value = .ok next → Sound next) {fields : Fields Json} (sound : Sound draft)
    (done : fillByName slots draft fields = .ok final) : Sound final := by
  induction fields generalizing draft with
  | nil =>
      cases done
      exact sound
  | cons field rest ih =>
      rcases cases_of_fillByName_cons done with ⟨-, done⟩ | ⟨slot, member, -, -, next, filled, done⟩
      · exact ih sound done
      · exact ih (fills slot member draft field.2 next sound filled) done

theorem sound_of_fillInOrder (fills : ∀ slot ∈ slots, ∀ draft value next,
      Sound draft → slot.fill draft value = .ok next → Sound next) {place : Nat} {items : List Json}
    {lacking : Option Nat} (sound : Sound draft)
    (done : fillInOrder draft place slots items = .ok (final, lacking)) : Sound final := by
  induction slots generalizing draft place items with
  | nil =>
      cases done
      exact sound
  | cons slot slots ih =>
      obtain ⟨here, others⟩ := List.forall_mem_cons.1 fills
      cases items with
      | nil =>
          rw [fillInOrder] at done
          split at done
          · cases done
            exact sound
          · exact ih others sound done
      | cons item items =>
          rw [fillInOrder] at done
          split at done
          · cases done
          next next filled => exact ih others (here draft item next sound filled) done

/-- What holds of a blank draft and is kept by every slot holds of the draft that is finished. -/
theorem exists_sound_of_read {type : RecordType Draft Result} {result : Result} (blank : Sound type.blank)
    (fills : ∀ slot ∈ type.slots, ∀ draft value next,
      Sound draft → slot.fill draft value = .ok next → Sound next)
    (done : type.read value = .ok result) : ∃ draft, Sound draft ∧ type.finish draft = .ok result := by
  cases value with
  | object fields =>
      obtain ⟨draft, filled, finished⟩ := exists_of_bind_eq_ok done
      exact ⟨draft, sound_of_fillByName fills blank filled, finished⟩
  | array items =>
      obtain ⟨⟨draft, lacking⟩, filled, finished⟩ := exists_of_bind_eq_ok done
      cases lacking with
      | some place => cases finished
      | none =>
          obtain ⟨made, finished, whole⟩ := exists_of_bind_eq_ok finished
          split at whole
          · cases whole
          · cases whole
            exact ⟨draft, sound_of_fillInOrder fills blank filled, finished⟩
  | _ => cases done

end Keeps

end RecordType

end Json

end ScriptOracle
