import ScriptOracle.Proofs.Secrets.Agreement
import ScriptOracle.Proofs.Text.Case

/-!
# What the check of hosted secrets comes to

Documents that pass are passed over one by one, and so are the nodes that a document serves. What is
reported is therefore the first thing that is wrong, in the order of the documents and, within a document,
of the nodes; and where nothing is wrong, a warning for each node without an entry of its own.
-/

namespace ScriptOracle.Secrets

namespace Hosted

/-- What a node finds under its address: the first field with the name of the address in small letters,
whatever the case of the twenty-six letters in both. -/
inductive Owns (address : String) : Json -> Json -> Prop where
  | intro {before after : Fields Json} {name : String} {entry : Json}
      (others : ∀ field ∈ before,
        Text.asciiLowerCase field.1 ≠ Text.asciiLowerCase (Text.lowerCase address))
      (named : Text.asciiLowerCase name = Text.asciiLowerCase (Text.lowerCase address)) :
      Owns address (.object (before ++ (name, entry) :: after)) entry

/-- Whether a node has an entry of its own that counts as given. -/
def HasOwn (document : Json) (address : String) : Prop :=
  ∃ entry, entry.isGiven = true ∧ Owns address document entry

/-- Whether a document has an entry for all nodes that counts as given. -/
def HasDefault (document : Json) : Prop :=
  ∃ entry, entry.isGiven = true ∧ document.get? defaultEntry = some entry

theorem owns_iff (address : String) (document entry : Json) :
    Owns address document entry ↔ ownSecrets? document address = some entry := by
  constructor
  · rintro ⟨others, named⟩
    rw [ownSecrets?, entryOf?, Option.map_eq_some_iff]
    refine ⟨(_, entry), List.find?_eq_some_iff_append.2 ⟨beq_iff_eq.2 named, _, _, rfl, ?_⟩, rfl⟩
    intro field member
    rw [Text.sameIgnoringAsciiCase, beq_false_of_ne (others field member), Bool.not_false]
  · intro found
    cases document with
    | object fields =>
        obtain ⟨⟨name, value⟩, first, rfl⟩ := Option.map_eq_some_iff.1 found
        obtain ⟨same, before, after, rfl, others⟩ := List.find?_eq_some_iff_append.1 first
        refine .intro (fun field member equal => ?_) (beq_iff_eq.1 same)
        have other := others field member
        rw [Text.sameIgnoringAsciiCase, equal, beq_self_eq_true] at other
        cases other
    | null | bool | integer | double | string | array => cases found

theorem hasOwn_iff (document : Json) (address : String) :
    HasOwn document address ↔ covers document (Text.lowerCase address) = true := by
  rw [covers_iff]
  refine exists_congr fun entry => ?_
  rw [owns_iff, Option.filter_eq_some_iff, and_comm]

theorem hasDefault_iff (document : Json) : HasDefault document ↔ coversAll document = true := by
  rw [coversAll, Json.given?, Option.isSome_iff_exists]
  refine exists_congr fun entry => ?_
  rw [Option.filter_eq_some_iff, and_comm]

instance (document : Json) : DecidablePred (HasOwn document) := fun address =>
  decidable_of_iff _ (hasOwn_iff document address).symm

/-- Whether a document has an entry for a node, its own or the one for all. -/
def HasEntry (document : Json) (address : String) : Prop :=
  HasOwn document address ∨ HasDefault document

def fallbacks (nodes : List String) (hosted : Hosted) : List Warning :=
  (nodes.filter fun address => !covers hosted.document (Text.lowerCase address)).map
    fun address => ⟨hosted.url, Text.lowerCase address⟩

theorem fallbacks_eq (nodes : List String) (hosted : Hosted) :
    hosted.fallbacks nodes = (nodes.filter fun address => ¬ HasOwn hosted.document address).map
      fun address => ⟨hosted.url, Text.lowerCase address⟩ := by
  refine congrArg _ (List.filter_congr fun address _ => ?_)
  simp only [hasOwn_iff, Bool.not_eq_true, Bool.decide_eq_false]

/-! ## One document -/

theorem warningsFor_append {hosted : Hosted} {before : List String}
    (served : ∀ address ∈ before, HasEntry hosted.document address) (rest : List String) :
    hosted.warningsFor (before ++ rest) =
      (hosted.warningsFor rest).map (hosted.fallbacks before ++ ·) := by
  induction before with
  | nil =>
      rw [List.nil_append]
      cases hosted.warningsFor rest <;> rfl
  | cons address before ih =>
      obtain ⟨entry, others⟩ := List.forall_mem_cons.1 served
      have behind := ih others
      rw [HasEntry, hasOwn_iff, hasDefault_iff] at entry
      rw [List.cons_append, warningsFor, fallbacks, List.filter_cons]
      by_cases own : covers hosted.document (Text.lowerCase address) = true
      · simp only [own, behind, ↓reduceIte, Bool.not_true, Bool.false_eq_true]
        rfl
      · simp only [own, entry.resolve_left own, behind, Bool.not_false, Bool.false_eq_true, ↓reduceIte]
        cases hosted.warningsFor rest <;> rfl

theorem warningsFor_of_served {hosted : Hosted} {nodes : List String}
    (served : ∀ address ∈ nodes, HasEntry hosted.document address) :
    hosted.warningsFor nodes = .ok (hosted.fallbacks nodes) := by
  have done := warningsFor_append served []
  rwa [List.append_nil, warningsFor, Except.map, List.append_nil] at done

theorem warningsFor_of_missing {hosted : Hosted} {before after : List String} {address : String}
    (served : ∀ other ∈ before, HasEntry hosted.document other)
    (lone : ¬ HasEntry hosted.document address) :
    hosted.warningsFor (before ++ address :: after) =
      .error (.missing (Text.lowerCase address) hosted.url) := by
  have bare : ¬ covers hosted.document (Text.lowerCase address) = true := fun covered =>
    lone (.inl ((hasOwn_iff _ _).2 covered))
  have none : ¬ coversAll hosted.document = true := fun all => lone (.inr ((hasDefault_iff _).2 all))
  rw [warningsFor_append served, warningsFor, if_neg bare, if_neg none, Except.map]

/-! ## All documents -/

/-- Whether a document has the text of the first one, and an entry for each node. -/
structure Passes (first : Json) (nodes : List String) (document : Json) : Prop where
  same : document.compact = first.compact
  served : ∀ address ∈ nodes, HasEntry document address

theorem checkAll_append {first : Json} {nodes : List String} {earlier : List Hosted}
    (passed : ∀ hosted ∈ earlier, Passes first nodes hosted.document) (firstUrl : String)
    (rest : List Hosted) :
    checkAll firstUrl first.compact nodes (earlier ++ rest) =
      (checkAll firstUrl first.compact nodes rest).map (earlier.flatMap (fallbacks nodes) ++ ·) := by
  induction earlier with
  | nil =>
      rw [List.nil_append]
      cases checkAll firstUrl first.compact nodes rest <;> rfl
  | cons hosted earlier ih =>
      obtain ⟨⟨same, served⟩, others⟩ := List.forall_mem_cons.1 passed
      simp only [List.cons_append, checkAll, same, bne_self_eq_false, Bool.false_eq_true, ↓reduceIte,
        warningsFor_of_served served, ih others, List.flatMap_cons, List.append_assoc]
      cases checkAll firstUrl first.compact nodes rest <;> rfl

theorem checkAll_of_passed {first : Json} {nodes : List String} {documents : List Hosted}
    (passed : ∀ hosted ∈ documents, Passes first nodes hosted.document) (firstUrl : String) :
    checkAll firstUrl first.compact nodes documents = .ok (documents.flatMap (fallbacks nodes)) := by
  have done := checkAll_append passed firstUrl []
  rwa [List.append_nil, checkAll, Except.map, List.append_nil] at done

/-- The first thing that is wrong with documents: one with another text than the first, or one without an
entry for a node. Whatever stands before it, in the list of documents and in that of nodes, is in order. -/
inductive FirstFault (documents : List Hosted) (nodes : List String) : Fault -> Prop where
  | inconsistent {first hosted : Hosted} {earlier later : List Hosted}
      (leads : documents.head? = some first) (found : documents = earlier ++ hosted :: later)
      (passed : ∀ other ∈ earlier, Passes first.document nodes other.document)
      (differs : hosted.document.compact ≠ first.document.compact) :
      FirstFault documents nodes (.inconsistent first.url hosted.url)
  | missing {first hosted : Hosted} {earlier later : List Hosted} {before after : List String}
      {address : String}
      (leads : documents.head? = some first) (found : documents = earlier ++ hosted :: later)
      (passed : ∀ other ∈ earlier, Passes first.document nodes other.document)
      (same : hosted.document.compact = first.document.compact)
      (listed : nodes = before ++ address :: after)
      (served : ∀ other ∈ before, HasEntry hosted.document other)
      (lone : ¬ HasEntry hosted.document address) :
      FirstFault documents nodes (.missing (Text.lowerCase address) hosted.url)

end Hosted

open Hosted (HasOwn HasEntry Passes FirstFault fallbacks)

theorem exists_first_not {α : Type} (p : α -> Prop) (items : List α) :
    (∀ item ∈ items, p item) ∨
      ∃ before item after, items = before ++ item :: after ∧ (∀ other ∈ before, p other) ∧ ¬ p item := by
  induction items with
  | nil => exact .inl nofun
  | cons item items ih =>
      by_cases holds : p item
      · rcases ih with all | ⟨before, other, after, rfl, front, fails⟩
        · exact .inl (List.forall_mem_cons.2 ⟨holds, all⟩)
        · exact .inr ⟨item :: before, other, after, rfl, List.forall_mem_cons.2 ⟨holds, front⟩, fails⟩
      · exact .inr ⟨[], item, items, rfl, nofun, holds⟩

/-- Documents all pass, or there is a first thing that is wrong. -/
theorem passes_or_firstFault (documents : List Hosted) (nodes : List String) :
    (∀ first ∈ documents.head?, ∀ hosted ∈ documents, Passes first.document nodes hosted.document) ∨
      ∃ fault, FirstFault documents nodes fault := by
  cases documents with
  | nil => exact .inl nofun
  | cons first rest =>
      rcases exists_first_not (fun hosted : Hosted => Passes first.document nodes hosted.document)
        (first :: rest) with all | ⟨earlier, hosted, later, found, passed, fails⟩
      · exact .inl fun other leads => Option.some.inj leads ▸ all
      · right
        by_cases same : hosted.document.compact = first.document.compact
        · rcases exists_first_not (HasEntry hosted.document) nodes with
            served | ⟨before, address, after, listed, front, lone⟩
          · exact absurd ⟨same, served⟩ fails
          · exact ⟨_, .missing rfl found passed same listed front lone⟩
        · exact ⟨_, .inconsistent rfl found passed same⟩

theorem check_of_passed {documents : List Hosted} {nodes : List String}
    (passed : ∀ first ∈ documents.head?, ∀ hosted ∈ documents,
      Passes first.document nodes hosted.document) :
    Agreement.check documents nodes =
      .ok ⟨documents.length, documents.flatMap (fallbacks nodes)⟩ := by
  cases documents with
  | nil => rfl
  | cons first rest =>
      rw [Agreement.check, Hosted.checkAll_of_passed (passed first rfl)]
      rfl

theorem check_of_firstFault {documents : List Hosted} {nodes : List String} {fault : Fault}
    (wrong : FirstFault documents nodes fault) : Agreement.check documents nodes = .error fault := by
  -- Behind the documents that pass, the check is at the one that is wrong.
  have reached : ∀ {first hosted : Hosted} {earlier later : List Hosted},
      documents.head? = some first → documents = earlier ++ hosted :: later →
      (∀ other ∈ earlier, Passes first.document nodes other.document) →
      Hosted.checkAll first.url first.document.compact nodes (hosted :: later) = .error fault →
      Agreement.check documents nodes = .error fault := by
    intro first hosted earlier later leads found passed failed
    cases documents with
    | nil => cases leads
    | cons other rest =>
        cases leads
        rw [Agreement.check, found, Hosted.checkAll_append passed, failed]
        rfl
  cases wrong with
  | inconsistent leads found passed differs =>
      refine reached leads found passed ?_
      rw [Hosted.checkAll, if_pos (bne_iff_ne.2 differs)]
  | missing leads found passed same listed served lone =>
      refine reached leads found passed ?_
      rw [Hosted.checkAll, if_neg (by simpa using same), listed,
        Hosted.warningsFor_of_missing served lone]
      rfl

/-! ## Case -/

theorem Hosted.warningsFor_asciiLowerCase (hosted : Hosted) (nodes : List String) :
    hosted.warningsFor (nodes.map Text.asciiLowerCase) = hosted.warningsFor nodes := by
  induction nodes with
  | nil => rfl
  | cons address nodes ih =>
      rw [List.map_cons, Hosted.warningsFor, Hosted.warningsFor, ih, Text.lowerCase_asciiLowerCase]

theorem Hosted.checkAll_asciiLowerCase (firstUrl text : String) (nodes : List String)
    (documents : List Hosted) :
    Hosted.checkAll firstUrl text (nodes.map Text.asciiLowerCase) documents =
      Hosted.checkAll firstUrl text nodes documents := by
  induction documents with
  | nil => rfl
  | cons hosted documents ih =>
      rw [Hosted.checkAll, Hosted.checkAll, ih, Hosted.warningsFor_asciiLowerCase]

theorem check_asciiLowerCase (documents : List Hosted) (nodes : List String) :
    Agreement.check documents (nodes.map Text.asciiLowerCase) = Agreement.check documents nodes := by
  cases documents with
  | nil => rfl
  | cons first rest => rw [Agreement.check, Agreement.check, Hosted.checkAll_asciiLowerCase]

/-- The check passes exactly if all documents have the text of the first one and an entry for each node. It
then tells how many documents there are, and which nodes make do with the entry for all of them. Otherwise
it tells the first thing that is wrong. The case of the twenty-six letters of an address plays no part. -/
theorem check_decides (documents : List Hosted) (nodes : List String) :
    (∀ agreement, Agreement.check documents nodes = .ok agreement ↔
      (∀ first ∈ documents.head?, ∀ hosted ∈ documents,
        Passes first.document nodes hosted.document) ∧
      agreement = ⟨documents.length, documents.flatMap fun hosted =>
        (nodes.filter fun address => ¬ HasOwn hosted.document address).map
          fun address => ⟨hosted.url, Text.lowerCase address⟩⟩) ∧
    (∀ fault, Agreement.check documents nodes = .error fault ↔ FirstFault documents nodes fault) ∧
    ∀ others : List String, others.map Text.asciiLowerCase = nodes.map Text.asciiLowerCase →
      Agreement.check documents others = Agreement.check documents nodes := by
  refine ⟨fun agreement => ?_, fun fault => ?_, fun others same => ?_⟩
  · simp only [← Hosted.fallbacks_eq]
    constructor
    · intro done
      rcases passes_or_firstFault documents nodes with passed | ⟨fault, wrong⟩
      · rw [check_of_passed passed] at done
        exact ⟨passed, (Except.ok.inj done).symm⟩
      · rw [check_of_firstFault wrong] at done
        cases done
    · rintro ⟨passed, rfl⟩
      exact check_of_passed passed
  · refine ⟨fun failed => ?_, check_of_firstFault⟩
    rcases passes_or_firstFault documents nodes with passed | ⟨other, wrong⟩
    · rw [check_of_passed passed] at failed
      cases failed
    · rw [check_of_firstFault wrong] at failed
      exact Except.error.inj failed ▸ wrong
  · rw [← check_asciiLowerCase, same, check_asciiLowerCase]

/-- A node that finds nothing in the first document is told before the second one is looked at, which has
another text; and two documents with an entry for all nodes pass with a warning each. -/
theorem check_decides_mixed :
    let some : Fields Json := [("0xAb", .string "s"), ("0xcd", .string "")]
    let all : Json := .object (some ++ [("0x0", .array [])])
    let nodes := ["0xaB", "0xCD"]
    let others := ["0xAB", "0xcd"]
    others.map Text.asciiLowerCase = nodes.map Text.asciiLowerCase ∧
    FirstFault [⟨"https://one", .object some⟩, ⟨"https://two", all⟩] nodes
      (.missing "0xcd" "https://one") ∧
    Agreement.check [⟨"https://one", all⟩, ⟨"https://two", all⟩] others =
      .ok ⟨2, [⟨"https://one", "0xcd"⟩, ⟨"https://two", "0xcd"⟩]⟩ := by
  intro some all nodes others
  have same : others.map Text.asciiLowerCase = nodes.map Text.asciiLowerCase := by decide +kernel
  refine ⟨same, ((check_decides _ nodes).2.1 _).1 (by decide +kernel), ?_⟩
  rw [(check_decides _ nodes).2.2 others same]
  decide +kernel

end ScriptOracle.Secrets
