import ScriptOracle.Proofs.Secrets.Config
import ScriptOracle.Proofs.Service.Evaluate

/-!
# Requests that are built by the service

The service takes the nodes out of a body and has the request built from what is left. Where the nodes
stood comes the last field, so that the options are not always in the order in which they were sent. Only
one answer shows it: of two names that are no options, the one that is reported is the one that comes
first.
-/

namespace ScriptOracle.Service

open Secrets (Config Package)

def Answer.ofBuilt : Except Secrets.Fault Package -> Answer
  | .ok package => .success package.toJson
  | .error fault => .ofProblem (.ofSecrets fault)

/-! ## Taking the nodes out -/

variable {around : Surroundings} {before after : Fields Json} {nodes : List String}

theorem takeNodes_inserted (absent : nodesOption ∉ before.names) :
    takeNodes (.object (before ++ (nodesOption, .ofStrings nodes) :: after)) =
      (some nodes, .object (before ++ after.lastFirst)) := by
  simp only [takeNodes, Fields.get?_append_cons _ absent, Fields.swapRemove_append _ absent,
    Json.ofStrings, Json.asStrings?_map_string]

theorem buildRequest_of_takeNodes {body config : Json} (taken : takeNodes body = (some nodes, config)) :
    buildRequest around body =
      .ofBuilt (Package.build around.servers around.draw config nodes).2 := by
  rw [buildRequest, taken]
  dsimp only
  split
  next package built => rw [built]; rfl
  next fault built => rw [built]; rfl

/-! ## What the order shows -/

/-- There are two names that are no options, both behind the place of the nodes, and one of them is the
last of all, so that it gets ahead of the other. -/
structure Overtaken (before after : Fields Json) (first last : String) : Prop where
  known : Config.stranger? before = none
  between : Config.stranger? after.dropLast = some first
  ends : after.getLast?.map Prod.fst = some last
  strange : last ∉ Config.options

namespace Overtaken

variable {first last : String}

/-- The fields behind the nodes, taken apart. -/
theorem exists_append (overtaken : Overtaken before after first last) :
    ∃ front value, after = front ++ [(last, value)] ∧ Config.stranger? front = some first := by
  obtain ⟨⟨_, value⟩, found, rfl⟩ := Option.map_eq_some_iff.1 overtaken.ends
  obtain ⟨front, rfl⟩ := List.getLast?_eq_some_iff.1 found
  have between := overtaken.between
  rw [List.dropLast_concat] at between
  exact ⟨front, value, rfl, between⟩

theorem ne (overtaken : Overtaken before after first last)
    (distinct : (Fields.names (before ++ after)).Nodup) : first ≠ last := by
  obtain ⟨front, value, rfl, between⟩ := overtaken.exists_append
  rw [← List.append_assoc, Fields.names, List.map_append] at distinct
  have member : first ∈ (before ++ front).map Prod.fst :=
    List.map_subset _ (List.subset_append_right _ _) (Config.mem_of_stranger? between)
  exact (List.nodup_append.1 distinct).2.2 first member last List.mem_cons_self

theorem stranger?_sent (overtaken : Overtaken before after first last) :
    Config.stranger? (before ++ after) = some first := by
  obtain ⟨front, value, rfl, between⟩ := overtaken.exists_append
  rw [Config.stranger?_append, Config.stranger?_append, overtaken.known, between]
  rfl

theorem stranger?_left (overtaken : Overtaken before after first last) :
    Config.stranger? (before ++ after.lastFirst) = some last := by
  obtain ⟨front, value, rfl, -⟩ := overtaken.exists_append
  rw [Config.stranger?_append, overtaken.known, Fields.lastFirst_append_singleton,
    Config.stranger?_cons, if_neg overtaken.strange]
  rfl

end Overtaken

/-- If no name gets ahead of another, the same name is reported, or none. -/
theorem stranger?_lastFirst (settled : ¬ ∃ first last, Overtaken before after first last) :
    Config.stranger? (before ++ after.lastFirst) = Config.stranger? (before ++ after) := by
  rw [Config.stranger?_append, Config.stranger?_append]
  cases known : Config.stranger? before with
  | some name => rfl
  | none =>
      rw [Option.none_or, Option.none_or]
      rcases List.eq_nil_or_concat after with rfl | ⟨front, last, rfl⟩
      · rfl
      · rw [List.concat_eq_append] at settled ⊢
        rw [Fields.lastFirst_append_singleton, Config.stranger?_cons, Config.stranger?_append,
          Config.stranger?_cons]
        split
        next => exact (Option.or_none).symm
        next strange =>
          cases between : Config.stranger? front with
          | none => rfl
          | some first =>
              refine absurd ⟨first, last.1, known, ?_, ?_, strange⟩ settled
              · rw [List.dropLast_concat, between]
              · rw [List.getLast?_concat, Option.map_some]

/-! ## From the inquiry to the answer -/

/-- The message of a problem can be read off the answer. -/
theorem message_eq_of_ofProblem_eq {problem other : Problem}
    (same : Answer.ofProblem problem = Answer.ofProblem other) : problem.message = other.message := by
  have shown : problem.toJson = other.toJson := Option.some.inj (congrArg Answer.body same)
  have messages := congrArg (·.get? "message") shown
  simp only [Problem.toJson, Json.get?, List.append_assoc, List.cons_append, List.nil_append,
    Fields.get?] at messages
  simpa using messages

theorem ofBuilt_unrecognized_inj {first last : String}
    (same : Answer.ofBuilt (.error (.config (.unrecognized first))) =
      Answer.ofBuilt (.error (.config (.unrecognized last)))) : first = last := by
  have messages : first ++ " is not a recognized config option" =
      last ++ " is not a recognized config option" := message_eq_of_ofProblem_eq same
  exact (String.append_left_inj _).1 messages

theorem build_congr {input other : Json} (same : Config.read input = Config.read other)
    (nodes : List String) :
    Package.build around.servers around.draw input nodes =
      Package.build around.servers around.draw other nodes := by
  rw [Package.build, Package.build, same]

theorem build_of_read_error {input : Json} {fault : Secrets.ConfigFault}
    (failed : Config.read input = .error fault) (nodes : List String) :
    (Package.build around.servers around.draw input nodes).2 = .error (.config fault) := by
  rw [Package.build, failed]
  rfl

/-- Nodes are put among the fields of an object, wherever, and the object is posted. The service leaves
everything as it is, and it tells what comes of building the request from the object and the nodes, be it a
success or a failure, exactly if no name that is no option gets ahead of another one when the nodes are taken
out. If one does, the first of them would be reported, and the service reports the last. -/
theorem built_alike_iff (around : Surroundings) (state : State) {inquiry : Inquiry}
    {before after : Fields Json} {nodes : List String}
    (posts : inquiry.Posts "/v1/build-request"
      (.object (before ++ (nodesOption, .ofStrings nodes) :: after)))
    (distinct : (Fields.names (before ++ after)).Nodup)
    (absent : nodesOption ∉ Fields.names (before ++ after)) :
    let answered := respond around state inquiry
    let built := (Package.build around.servers around.draw (.object (before ++ after)) nodes).2
    answered.2 = state ∧
    (answered.1 = .ofBuilt built ↔ ¬ ∃ first last, Overtaken before after first last) ∧
    ∀ first last, Overtaken before after first last ->
      first ≠ last ∧
      built = .error (.config (.unrecognized first)) ∧
      answered.1 = .ofBuilt (.error (.config (.unrecognized last))) := by
  intro answered built
  have absentBefore : nodesOption ∉ before.names := fun member =>
    absent (List.map_subset _ (List.subset_append_left _ _) member)
  have answer : answered.1 = .ofBuilt (Package.build around.servers around.draw
      (.object (before ++ after.lastFirst)) nodes).2 := by
    rw [show answered = _ from posts.respond_buildRequest around state]
    exact buildRequest_of_takeNodes (takeNodes_inserted absentBefore)
  have overtaking : ∀ first last, Overtaken before after first last ->
      first ≠ last ∧ built = .error (.config (.unrecognized first)) ∧
      answered.1 = .ofBuilt (.error (.config (.unrecognized last))) := by
    intro first last overtaken
    refine ⟨overtaken.ne distinct, ?_, ?_⟩
    · exact build_of_read_error (Config.read_of_stranger? overtaken.stranger?_sent) nodes
    · rw [answer, build_of_read_error (Config.read_of_stranger? overtaken.stranger?_left)]
  refine ⟨congrArg Prod.snd (posts.respond_buildRequest around state), ⟨?_, ?_⟩, overtaking⟩
  · rintro alike ⟨first, last, overtaken⟩
    obtain ⟨differ, reported, told⟩ := overtaking first last overtaken
    rw [told, reported] at alike
    exact differ (ofBuilt_unrecognized_inj alike).symm
  · intro settled
    have perm : (before ++ after.lastFirst).Perm (before ++ after) :=
      (Fields.perm_lastFirst after).append_left before
    have distinctLeft : (Fields.names (before ++ after.lastFirst)).Nodup :=
      (perm.map Prod.fst).nodup_iff.2 distinct
    have read := Config.read_of_perm distinctLeft perm (stranger?_lastFirst settled)
    rw [answer, build_congr read]

/-- The inquiry that posts an object to have a request built. -/
def Inquiry.building (fields : Fields Json) : Inquiry :=
  ⟨"POST", "/v1/build-request", some "application/json", Text.utf8 (Json.object fields).compact⟩

/-- With a node between its options, a request is built as it is without. -/
theorem built_alike_between :
    let around := Surroundings.obliging 0
    let before : Fields Json := [("codeLocation", .string "Inline"), ("args", .ofStrings ["a"])]
    let after : Fields Json := [("source", .string "return 1"), ("codeLanguage", .string "JavaScript")]
    let inquiry := Inquiry.building (before ++ (nodesOption, .ofStrings ["0xabc"]) :: after)
    let built := Package.build around.servers around.draw (.object (before ++ after)) ["0xabc"]
    (Fields.names (before ++ after)).Nodup ∧ nodesOption ∉ Fields.names (before ++ after) ∧
      (respond around (.start .usual .blank) inquiry).1 = .ofBuilt built.2 ∧
      built.2 = .ok ⟨"return 1", none, some ["a"]⟩ := by
  intro around before after inquiry built
  have distinct : (Fields.names (before ++ after)).Nodup := by decide
  have absent : nodesOption ∉ Fields.names (before ++ after) := by decide
  have posts : inquiry.Posts "/v1/build-request"
      (.object (before ++ (nodesOption, .ofStrings ["0xabc"]) :: after)) :=
    { method := rfl
      path := by decide +kernel
      announced := ⟨_, ⟨"application".toList, "json".toList, none⟩, rfl, by decide +kernel⟩
      size := by decide +kernel
      read := eq_ok_of_toOption (by decide +kernel) }
  obtain ⟨-, alike, -⟩ := built_alike_iff around (.start .usual .blank) posts distinct absent
  refine ⟨distinct, absent, alike.2 ?_, rfl⟩
  rintro ⟨first, last, overtaken⟩
  cases overtaken.between

/-- Two names that are no options, behind an empty list of nodes: the request is refused for the first, and
the service reports the second. -/
theorem unrecognized_overtaken :
    let around := Surroundings.obliging 0
    let others : Fields Json := [("x", .integer 1), ("y", .integer 2)]
    let inquiry := Inquiry.building ((nodesOption, .ofStrings []) :: others)
    (Package.build around.servers around.draw (.object others) []).2 =
        .error (.config (.unrecognized "x")) ∧
      (respond around (.start .usual .blank) inquiry).1.body =
        some (Problem.ofSecrets (.config (.unrecognized "y"))).toJson ∧
      (Problem.ofSecrets (.config (.unrecognized "y"))).message ≠
        (Problem.ofSecrets (.config (.unrecognized "x"))).message := by
  decide +kernel

end ScriptOracle.Service
