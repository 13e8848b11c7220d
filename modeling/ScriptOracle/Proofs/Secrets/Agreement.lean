import ScriptOracle.Proofs.Json.Printer
import ScriptOracle.Secrets.Agreement

/-!
# What agreeing documents give a node

The check compares the texts of documents. Texts tell values apart, so documents that pass it are one and
the same value, and every node finds the same entry wherever it looks. The check passes exactly then.
-/

namespace ScriptOracle.Secrets

open Json (Legible doubles)

namespace Hosted

/-- The entry that a node has for itself: the first field with the name of its address in small letters,
whatever the case of the twenty-six letters in it. -/
def ownSecrets? (document : Json) (address : String) : Option Json :=
  match document with
  | .object fields => entryOf? fields (Text.lowerCase address)
  | _ => none

/-- The entry that a node uses: its own if it counts as given, else the one that counts for every node. -/
def usedSecrets? (document : Json) (address : String) : Option Json :=
  match (ownSecrets? document address).filter Json.isGiven with
  | some entry => some entry
  | none => document.get? defaultEntry

def Serves (document : Json) (address : String) : Prop :=
  ∃ entry, entry.isGiven = true ∧ usedSecrets? document address = some entry

theorem covers_iff (document : Json) (address : String) :
    covers document (Text.lowerCase address) = true ↔
      ∃ entry, (ownSecrets? document address).filter Json.isGiven = some entry := by
  cases document with
  | object fields =>
      simp only [covers, ownSecrets?]
      cases entryOf? fields (Text.lowerCase address) with
      | none => simp
      | some entry => simp [Option.filter]
  | null | bool | integer | double | string | array => simp [covers, ownSecrets?]

theorem serves_iff (document : Json) (address : String) :
    Serves document address ↔
      covers document (Text.lowerCase address) = true ∨ coversAll document = true := by
  rw [covers_iff]
  unfold Serves usedSecrets?
  cases own : (ownSecrets? document address).filter Json.isGiven with
  | some entry =>
      have given : entry.isGiven = true := (Option.filter_eq_some_iff.1 own).2
      exact ⟨fun _ => .inl ⟨entry, rfl⟩, fun _ => ⟨entry, given, rfl⟩⟩
  | none =>
      simp only [reduceCtorEq, exists_false, false_or, coversAll, Json.given?, Option.isSome_iff_exists,
        Option.filter_eq_some_iff]
      exact exists_congr fun entry => and_comm

theorem warningsFor_ok_iff (hosted : Hosted) (nodes : List String) :
    (∃ warnings, hosted.warningsFor nodes = .ok warnings) ↔
      ∀ address ∈ nodes, Serves hosted.document address := by
  induction nodes with
  | nil => exact ⟨fun _ => nofun, fun _ => ⟨[], rfl⟩⟩
  | cons address rest ih =>
      rw [List.forall_mem_cons, ← ih, serves_iff]
      simp only [warningsFor]
      by_cases own : covers hosted.document (Text.lowerCase address) = true
      · simp [own]
      · by_cases all : coversAll hosted.document = true
        · simp only [own, all, ↓reduceIte, or_true, true_and]
          cases hosted.warningsFor rest with
          | error fault => exact ⟨nofun, nofun⟩
          | ok warnings => exact ⟨fun _ => ⟨warnings, rfl⟩, fun _ => ⟨_, rfl⟩⟩
        · simp [own, all]

theorem checkAll_ok_iff (firstUrl text : String) (nodes : List String) (documents : List Hosted) :
    (∃ warnings, checkAll firstUrl text nodes documents = .ok warnings) ↔
      ∀ hosted ∈ documents, hosted.document.compact = text ∧
        ∀ address ∈ nodes, Serves hosted.document address := by
  induction documents with
  | nil => exact ⟨fun _ => nofun, fun _ => ⟨[], rfl⟩⟩
  | cons hosted rest ih =>
      rw [List.forall_mem_cons, ← ih, ← warningsFor_ok_iff]
      simp only [checkAll, bne_iff_ne, ne_eq, ite_not]
      by_cases same : hosted.document.compact = text
      · simp only [same, ↓reduceIte, true_and]
        cases hosted.warningsFor nodes with
        | error fault => exact ⟨nofun, nofun⟩
        | ok warnings =>
            cases checkAll firstUrl text nodes rest with
            | error fault => exact ⟨nofun, nofun⟩
            | ok more => exact ⟨fun _ => ⟨⟨_, rfl⟩, _, rfl⟩, fun _ => ⟨_, rfl⟩⟩
      · simp only [same, ↓reduceIte, reduceCtorEq, exists_false, false_and]

end Hosted

open Hosted (Serves usedSecrets? checkAll_ok_iff)

/-- The check goes through if all documents have the text of the first one and serve every node. -/
theorem check_ok_iff (documents : List Hosted) (nodes : List String) :
    (∃ agreement, Agreement.check documents nodes = .ok agreement) ↔
      ∀ hosted ∈ documents,
        (∀ first ∈ documents.head?, hosted.document.compact = first.document.compact) ∧
        ∀ address ∈ nodes, Serves hosted.document address := by
  cases documents with
  | nil => exact ⟨fun _ => nofun, fun _ => ⟨_, rfl⟩⟩
  | cons first rest =>
      simp only [List.head?_cons, Option.mem_some_iff, forall_eq', Agreement.check]
      rw [← checkAll_ok_iff first.url first.document.compact nodes (first :: rest)]
      cases Hosted.checkAll first.url first.document.compact nodes (first :: rest) with
      | error fault => exact ⟨nofun, nofun⟩
      | ok warnings => exact ⟨fun _ => ⟨_, rfl⟩, fun _ => ⟨_, rfl⟩⟩

/-- The check goes through exactly if all documents are the same and every node finds an entry that counts
as given, the same one in each. -/
theorem agreement_iff (documents : List Hosted) (nodes : List String)
    (legible : Legible fun x => ∃ hosted ∈ documents, x ∈ hosted.document.doubles) :
    (∃ agreement, Agreement.check documents nodes = .ok agreement) ↔
      (∀ first ∈ documents, ∀ second ∈ documents, first.document = second.document) ∧
      ∀ address ∈ nodes, ∀ first ∈ documents, ∀ second ∈ documents, ∃ entry,
        entry.isGiven = true ∧ usedSecrets? first.document address = some entry ∧
          usedSecrets? second.document address = some entry := by
  rw [check_ok_iff]
  constructor
  · intro passed
    have equal : ∀ first ∈ documents, ∀ second ∈ documents, first.document = second.document := by
      intro first member second member'
      have texts : first.document.compact = second.document.compact := by
        cases documents with
        | nil => cases member
        | cons head rest =>
            exact ((passed first member).1 head rfl).trans ((passed second member').1 head rfl).symm
      exact Json.compact_inj legible (fun x deep => ⟨first, member, deep⟩)
        (fun x deep => ⟨second, member', deep⟩) texts
    refine ⟨equal, fun address node first member second member' => ?_⟩
    obtain ⟨entry, given, found⟩ := (passed first member).2 address node
    exact ⟨entry, given, found, equal first member second member' ▸ found⟩
  · rintro ⟨equal, serves⟩ hosted member
    refine ⟨fun first head => ?_, fun address node => ?_⟩
    · rw [equal hosted member first (List.mem_of_mem_head? head)]
    · obtain ⟨entry, given, found, _⟩ := serves address node hosted member hosted member
      exact ⟨entry, given, found⟩

/-- Two addresses host one document: a node with an entry of its own in other letters, one whose own entry
does not count, and one without an entry. -/
theorem agreement_iff_mixed :
    let rates : Json := .object [("rate", .double (.ofBits 0x3FF8000000000000)),
      ("tags", .array [.string "\"a\"\n", .double (.ofBits 0x3FB999999999999A), .null])]
    let document : Json := .object [("0xAb", rates), ("0xcd", .string ""), ("0x0", .string "all")]
    let documents : List Hosted := [⟨"https://one", document⟩, ⟨"https://two", document⟩]
    let nodes := ["0xaB", "0xCD", "0xef"]
    Legible (fun x => ∃ hosted ∈ documents, x ∈ hosted.document.doubles) ∧
      Agreement.check documents nodes =
        .ok ⟨2, [⟨"https://one", "0xcd"⟩, ⟨"https://one", "0xef"⟩, ⟨"https://two", "0xcd"⟩,
          ⟨"https://two", "0xef"⟩]⟩ ∧
      ∀ address ∈ nodes, ∀ first ∈ documents, ∀ second ∈ documents, ∃ entry,
        entry.isGiven = true ∧ usedSecrets? first.document address = some entry ∧
          usedSecrets? second.document address = some entry := by
  intro rates document documents nodes
  have scope : ∀ x, (∃ hosted ∈ documents, x ∈ hosted.document.doubles) →
      x = .ofBits 0x3FF8000000000000 ∨ x = .ofBits 0x3FB999999999999A := by
    rintro x ⟨hosted, member, deep⟩
    have one : hosted.document = document := by
      simp only [documents, List.mem_cons, List.not_mem_nil, or_false] at member
      rcases member with rfl | rfl <;> rfl
    rw [one] at deep
    simpa [document, rates, doubles, Json.doublesOfFields, Json.doublesOfItems] using deep
  have legible : Legible fun x => ∃ hosted ∈ documents, x ∈ hosted.document.doubles := by
    refine ⟨fun x member => ?_, fun x y member member' same => ?_⟩
    · rcases scope x member with rfl | rfl <;> decide +kernel
    · rcases scope x member with rfl | rfl <;> rcases scope y member' with rfl | rfl
      · rfl
      · exact absurd same (by decide +kernel)
      · exact absurd same (by decide +kernel)
      · rfl
  have passes : Agreement.check documents nodes =
      .ok ⟨2, [⟨"https://one", "0xcd"⟩, ⟨"https://one", "0xef"⟩, ⟨"https://two", "0xcd"⟩,
        ⟨"https://two", "0xef"⟩]⟩ := by decide +kernel
  exact ⟨legible, passes, ((agreement_iff documents nodes legible).1 ⟨_, passes⟩).2⟩

end ScriptOracle.Secrets
