import Mathlib.Data.List.FinRange
import ScriptOracle.Proofs.Json.Fields
import ScriptOracle.Proofs.Json.Printed
import ScriptOracle.Proofs.Secrets.Verdict

/-!
# The order of the entries

A document may hold several entries for one node, in different case. Only the first of them counts, so the
order of the entries matters where some of them are given and some are not, and nowhere else.
-/

namespace ScriptOracle

/-! ## Another order -/

/-- An order for the items of a list: which one goes to which place depends only on how many there are. -/
abbrev Arrangement : Type := (count : Nat) -> Equiv.Perm (Fin count)

/-- Items in another order. -/
def arranged {α : Type} (order : Arrangement) (items : List α) : List α :=
  List.ofFn fun place => items.get (order items.length place)

/-- The order that puts the item of one place in front, in exchange for the first. -/
def toFront (place : Nat) : Arrangement := fun count =>
  if inside : place < count then Equiv.swap ⟨0, Nat.zero_lt_of_lt inside⟩ ⟨place, inside⟩ else .refl _

section Arranged

variable {α β : Type} (order : Arrangement)

@[simp] theorem length_arranged (items : List α) : (arranged order items).length = items.length :=
  List.length_ofFn

theorem perm_arranged (items : List α) : (arranged order items).Perm items := by
  have same := Equiv.Perm.ofFn_comp_perm (order items.length) items.get
  rwa [List.ofFn_get] at same

/-- The same place of two lists of one length is filled from the same place. -/
theorem place_eq {m n : Nat} (same : m = n) {i : Nat} (inside : i < m) (within : i < n) :
    (order m ⟨i, inside⟩ : Nat) = order n ⟨i, within⟩ := by
  subst same
  rfl

theorem getElem_arranged (items : List α) (i : Nat) (inside : i < (arranged order items).length) :
    (arranged order items)[i] =
      items[(order items.length ⟨i, by simpa using inside⟩ : Nat)] := by
  simp [arranged]

theorem arranged_map (f : α -> β) (items : List α) :
    arranged order (items.map f) = (arranged order items).map f := by
  refine List.ext_getElem (by simp) fun i inside within => ?_
  have place := place_eq order (List.length_map f : (items.map f).length = items.length)
    (by simpa using inside) (by simpa using inside)
  simp only [getElem_arranged, List.getElem_map, place]

theorem arranged_symm (items : List α) :
    arranged (fun count => (order count).symm) (arranged order items) = items := by
  refine List.ext_getElem (by simp) fun i inside within => ?_
  have place := place_eq (fun count => (order count).symm) (length_arranged order items)
    (by simpa using inside) within
  simp only [getElem_arranged, place, Fin.eta, Equiv.apply_symm_apply]

theorem arranged_inj {items others : List α} (same : arranged order items = arranged order others) :
    items = others := by
  rw [← arranged_symm order items, same, arranged_symm]

theorem arranged_toFront {items : List α} {place : Nat} (inside : place < items.length) :
    ∃ rest, arranged (toFront place) items = items[place] :: rest := by
  have some : 0 < (arranged (toFront place) items).length := by
    rw [length_arranged]
    exact Nat.zero_lt_of_lt inside
  have front : (arranged (toFront place) items)[0] = items[place] := by
    simp only [getElem_arranged, toFront, dif_pos inside, Equiv.swap_apply_left]
  obtain ⟨first, rest, split⟩ := List.exists_cons_of_length_pos some
  simp only [split, List.getElem_cons_zero] at front
  exact ⟨rest, front ▸ split⟩

end Arranged

namespace Json

/-- A document with its fields in another order. -/
def rearranged (order : Arrangement) : Json -> Json
  | .object fields => .object (arranged order fields)
  | value => value

/-- No name of a document comes twice. -/
def NamesOnce (document : Json) : Prop :=
  ∀ fields, document = .object fields → (Fields.names fields).Nodup

variable (order : Arrangement)

theorem rearranged_inj {a b : Json} (same : rearranged order a = rearranged order b) : a = b := by
  cases a with
  | object fields =>
      cases b with
      | object others => rw [arranged_inj order (Json.object.inj same)]
      | null | bool | integer | double | string | array => cases same
  | null | bool | integer | double | string | array =>
      cases b with
      | object others => cases same
      | null | bool | integer | double | string | array => exact same

theorem printed_rearranged (document : Json) :
    printed (rearranged order document) = rearranged order (printed document) := by
  cases document with
  | object fields =>
      rw [rearranged, printed, printed, printedFields_eq, printedFields_eq, rearranged, arranged_map]
  | double x =>
      show printed (.double x) = rearranged order (printed (.double x))
      rw [printed]
      split <;> rfl
  | null | bool | integer | string | array =>
      simp only [rearranged, printed]

/-- Documents whose fields are put in the same other order have one text only if they had one before. -/
theorem compact_rearranged_iff (a b : Json) :
    (rearranged order a).compact = (rearranged order b).compact ↔ a.compact = b.compact := by
  rw [compact_eq_iff, compact_eq_iff, printed_rearranged, printed_rearranged]
  exact ⟨rearranged_inj order, congrArg _⟩

theorem get?_rearranged {document : Json} (once : document.NamesOnce) (name : String) :
    (rearranged order document).get? name = document.get? name := by
  cases document with
  | object fields =>
      exact Fields.get?_of_perm ((perm_arranged order fields).map Prod.fst |>.nodup_iff.2 (once _ rfl))
        (perm_arranged order fields) name
  | null | bool | integer | double | string | array => rfl

end Json

namespace Secrets

namespace Hosted

/-! ## The entries of a node -/

/-- The entries of a document that have the address of a node for a name, in small letters and whatever the
case of the twenty-six letters in both. -/
def ownEntries (document : Json) (address : String) : List Json :=
  match document with
  | .object fields => (fields.filter fun field =>
      Text.sameIgnoringAsciiCase field.1 (Text.lowerCase address)).map Prod.snd
  | _ => []

/-- Whether some of the entries of a node count as given and some do not. -/
def Mixed (document : Json) (address : String) : Prop :=
  (∃ entry ∈ ownEntries document address, entry.isGiven = true) ∧
    ∃ entry ∈ ownEntries document address, entry.isGiven = false

theorem hasOwn_iff_head? (document : Json) (address : String) :
    HasOwn document address ↔
      ∃ entry, (ownEntries document address).head? = some entry ∧ entry.isGiven = true := by
  have first : ownSecrets? document address = (ownEntries document address).head? := by
    cases document with
    | object fields => rw [ownEntries, List.head?_map, List.head?_filter]; rfl
    | null | bool | integer | double | string | array => rfl
  refine exists_congr fun entry => ?_
  rw [owns_iff, first, and_comm]

theorem hasOwn_of_not_mixed {document : Json} {address : String} (alike : ¬ Mixed document address) :
    HasOwn document address ↔ ∃ entry ∈ ownEntries document address, entry.isGiven = true := by
  rw [hasOwn_iff_head?]
  constructor
  · rintro ⟨entry, first, given⟩
    exact ⟨entry, List.mem_of_mem_head? first, given⟩
  · intro some
    obtain ⟨entry, member, _⟩ := id some
    cases entries : ownEntries document address with
    | nil =>
        rw [entries] at member
        cases member
    | cons first rest =>
        refine ⟨first, rfl, ?_⟩
        by_contra empty
        exact alike ⟨some, first, by rw [entries]; exact List.mem_cons_self, by simpa using empty⟩

variable (order : Arrangement)

theorem perm_ownEntries (document : Json) (address : String) :
    (ownEntries (document.rearranged order) address).Perm (ownEntries document address) := by
  cases document with
  | object fields => exact ((perm_arranged order fields).filter _).map _
  | null | bool | integer | double | string | array => exact .refl _

theorem mixed_rearranged (document : Json) (address : String) :
    Mixed (document.rearranged order) address ↔ Mixed document address := by
  simp only [Mixed, (perm_ownEntries order document address).mem_iff]

theorem hasOwn_rearranged {document : Json} {address : String} (alike : ¬ Mixed document address) :
    HasOwn (document.rearranged order) address ↔ HasOwn document address := by
  rw [hasOwn_of_not_mixed alike, hasOwn_of_not_mixed (by rwa [mixed_rearranged])]
  simp only [(perm_ownEntries order document address).mem_iff]

/-- Whichever entry of a node is put in front decides whether the node has one of its own. -/
theorem exists_order_of_mem {document : Json} {address : String} {entry : Json}
    (member : entry ∈ ownEntries document address) :
    ∃ order, HasOwn (document.rearranged order) address ↔ entry.isGiven = true := by
  cases document with
  | object fields =>
      obtain ⟨field, inside, rfl⟩ := List.mem_map.1 member
      obtain ⟨among, named⟩ := List.mem_filter.1 inside
      obtain ⟨place, short, rfl⟩ := List.getElem_of_mem among
      obtain ⟨rest, front⟩ := arranged_toFront short
      refine ⟨toFront place, ?_⟩
      rw [hasOwn_iff_head?, Json.rearranged, front, ownEntries, List.filter_cons, if_pos named]
      simp
  | null | bool | integer | double | string | array => cases member

/-! ## The check -/

/-- A document with its fields in another order, at the same address. -/
def rearranged (order : Arrangement) (hosted : Hosted) : Hosted :=
  ⟨hosted.url, hosted.document.rearranged order⟩

theorem coversAll_rearranged {document : Json} (once : document.NamesOnce) :
    coversAll (document.rearranged order) = coversAll document := by
  rw [coversAll, coversAll, Json.given?, Json.given?, Json.get?_rearranged order once]

theorem covers_rearranged {document : Json} {address : String} (alike : ¬ Mixed document address) :
    covers (document.rearranged order) (Text.lowerCase address) =
      covers document (Text.lowerCase address) := by
  rw [Bool.eq_iff_iff, ← hasOwn_iff, ← hasOwn_iff]
  exact hasOwn_rearranged order alike

theorem warningsFor_rearranged {hosted : Hosted} (once : hosted.document.NamesOnce) {nodes : List String}
    (alike : ∀ address ∈ nodes, ¬ Mixed hosted.document address) :
    (hosted.rearranged order).warningsFor nodes = hosted.warningsFor nodes := by
  induction nodes with
  | nil => rfl
  | cons address nodes ih =>
      obtain ⟨first, others⟩ := List.forall_mem_cons.1 alike
      simp only [warningsFor, rearranged, covers_rearranged order first, coversAll_rearranged order once]
      rw [← ih others]
      rfl

theorem checkAll_rearranged (firstUrl : String) (first : Json) {documents : List Hosted}
    {nodes : List String} (once : ∀ hosted ∈ documents, hosted.document.NamesOnce)
    (alike : ∀ hosted ∈ documents, ∀ address ∈ nodes, ¬ Mixed hosted.document address) :
    checkAll firstUrl (first.rearranged order).compact nodes (documents.map (rearranged order)) =
      checkAll firstUrl first.compact nodes documents := by
  induction documents with
  | nil => rfl
  | cons hosted documents ih =>
      obtain ⟨once, others⟩ := List.forall_mem_cons.1 once
      obtain ⟨alike, rest⟩ := List.forall_mem_cons.1 alike
      have text : ((hosted.rearranged order).document.compact != (first.rearranged order).compact) =
          (hosted.document.compact != first.compact) := by
        rw [Bool.eq_iff_iff, bne_iff_ne, bne_iff_ne]
        exact not_congr (Json.compact_rearranged_iff order hosted.document first)
      rw [List.map_cons, checkAll, checkAll, text, warningsFor_rearranged order once alike,
        ih others rest]
      rfl

end Hosted

open Hosted (HasOwn Mixed ownEntries)

theorem check_rearranged (order : Arrangement) {documents : List Hosted} {nodes : List String}
    (once : ∀ hosted ∈ documents, hosted.document.NamesOnce)
    (alike : ∀ hosted ∈ documents, ∀ address ∈ nodes, ¬ Mixed hosted.document address) :
    Agreement.check (documents.map (Hosted.rearranged order)) nodes =
      Agreement.check documents nodes := by
  cases documents with
  | nil => rfl
  | cons first rest =>
      have checked := Hosted.checkAll_rearranged order first.url first.document once alike
      rw [List.map_cons] at checked ⊢
      rw [Agreement.check, Agreement.check, List.length_cons, List.length_map, List.length_cons]
      exact congrArg (· >>= _) checked

theorem check_singleton_iff (hosted : Hosted) (address : String) :
    Agreement.check [hosted] [address] = .ok ⟨1, []⟩ ↔ HasOwn hosted.document address := by
  rw [Hosted.hasOwn_iff]
  simp only [Agreement.check, Hosted.checkAll, Hosted.warningsFor, bne_self_eq_false, Bool.false_eq_true,
    ↓reduceIte]
  by_cases own : Hosted.covers hosted.document (Text.lowerCase address) = true
  · simp only [own, ↓reduceIte, iff_true]
    rfl
  · by_cases all : Hosted.coversAll hosted.document = true
    · simp [own, all, bind, Except.bind, pure, Except.pure]
    · simp [own, all, bind, Except.bind]

/-- Of several entries for a node the first one decides. Where all are given or none is, any given one makes
the node count as having an entry of its own, and putting the fields of all documents in the same other order
changes nothing. Where some are given and some are not, one order makes it count and another does not. -/
theorem order_counts_iff_mixed (documents : List Hosted) (nodes : List String) :
    (∀ hosted ∈ documents, ∀ address ∈ nodes,
      (HasOwn hosted.document address ↔
        ∃ entry, (ownEntries hosted.document address).head? = some entry ∧ entry.isGiven = true) ∧
      (¬ Mixed hosted.document address → (HasOwn hosted.document address ↔
        ∃ entry ∈ ownEntries hosted.document address, entry.isGiven = true)) ∧
      ((∃ entry ∈ ownEntries hosted.document address, entry.isGiven = true) →
        ((∀ order, HasOwn (hosted.document.rearranged order) address) ↔
          ¬ Mixed hosted.document address)) ∧
      (hosted.document.NamesOnce →
        ((∀ order, Agreement.check [hosted.rearranged order] [address] =
          Agreement.check [hosted] [address]) ↔ ¬ Mixed hosted.document address))) ∧
    ∀ order, (∀ hosted ∈ documents, hosted.document.NamesOnce) →
      (∀ hosted ∈ documents, ∀ address ∈ nodes, ¬ Mixed hosted.document address) →
      Agreement.check (documents.map (Hosted.rearranged order)) nodes =
        Agreement.check documents nodes := by
  refine ⟨fun hosted _ address _ => ⟨Hosted.hasOwn_iff_head? _ _, Hosted.hasOwn_of_not_mixed,
    fun some => ?_, fun once => ?_⟩, fun order => check_rearranged order⟩
  · constructor
    · rintro always ⟨_, entry, member, empty⟩
      obtain ⟨order, decided⟩ := Hosted.exists_order_of_mem member
      exact absurd (decided.1 (always order)) (by rw [empty]; decide)
    · intro alike order
      exact (Hosted.hasOwn_rearranged order alike).2 ((Hosted.hasOwn_of_not_mixed alike).2 some)
  · constructor
    · rintro same ⟨⟨full, member, given⟩, bare, member', empty⟩
      obtain ⟨order, decided⟩ := Hosted.exists_order_of_mem member
      obtain ⟨order', decided'⟩ := Hosted.exists_order_of_mem member'
      -- One order makes the node have its own entry and the other does not, and the check tells which.
      have passed := (check_singleton_iff (hosted.rearranged order) address).2 (decided.2 given)
      have own := (check_singleton_iff (hosted.rearranged order') address).1
        ((same order').trans ((same order).symm.trans passed))
      exact absurd (decided'.1 own) (by rw [empty]; decide)
    · intro alike order
      exact @check_rearranged order [hosted] [address] (by simpa using once) (by simpa using alike)

/-- An empty entry hides one behind it that is given: the node is said to have no secrets, and has its own
once the two change places. -/
theorem empty_entry_hides_given :
    let document : Json := .object [("0xAAA", .string ""), ("0xaaa", .string "s")]
    document.NamesOnce ∧
    (∃ entry ∈ ownEntries document "0xaaa", entry.isGiven = true) ∧
    ¬ HasOwn document "0xaaa" ∧
    Agreement.check [⟨"https://a", document⟩] ["0xaaa"] = .error (.missing "0xaaa" "https://a") ∧
    Agreement.check [⟨"https://a", document.rearranged (toFront 1)⟩] ["0xaaa"] = .ok ⟨1, []⟩ := by
  intro document
  refine ⟨?_, ⟨.string "s", by decide +kernel, by decide⟩, by decide +kernel, by decide +kernel,
    by decide +kernel⟩
  intro fields shape
  rw [← Json.object.inj shape]
  decide +kernel

end Secrets

end ScriptOracle
