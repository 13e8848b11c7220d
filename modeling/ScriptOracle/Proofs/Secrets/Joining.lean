import ScriptOracle.Proofs.Secrets.Package

/-!
# Addresses side by side

The addresses of hosted secrets are encrypted with blanks between them, and whoever opens the text takes it
apart at the blanks. That gives the addresses back if none of them has a blank in it. An address is in order,
however, with blanks around it and with some within.
-/

namespace ScriptOracle

/-! ## Taking texts apart -/

theorem not_mem_of_mem_splitOn {α : Type} [BEq α] [LawfulBEq α] (mark : α) (items : List α) :
    ∀ piece ∈ items.splitOn mark, mark ∉ piece := by
  induction items with
  | nil => simp
  | cons item items ih =>
      rw [List.splitOn_cons_eq_if_modifyHead]
      split
      · exact List.forall_mem_cons.2 ⟨List.not_mem_nil, ih⟩
      next other =>
        cases pieces : items.splitOn mark with
        | nil => exact absurd pieces (List.splitOn_ne_nil mark items)
        | cons piece pieces' =>
            rw [pieces] at ih
            obtain ⟨first, others⟩ := List.forall_mem_cons.1 ih
            refine List.forall_mem_cons.2 ⟨fun member => ?_, others⟩
            rcases List.mem_cons.1 member with rfl | later
            · exact other (beq_self_eq_true _)
            · exact first later

namespace Secrets

def pieces (text : String) : List String := (text.split ' ').toList.map String.Slice.copy

theorem pieces_eq (text : String) : pieces text = (text.toList.splitOn ' ').map String.ofList :=
  String.toList_split_char

theorem pieces_append (front back : String) : pieces (front ++ " " ++ back) = pieces front ++ pieces back := by
  have blank : (front ++ " " ++ back).toList = front.toList ++ ' ' :: back.toList := by simp
  rw [pieces_eq, blank, List.splitOn_append_cons_self, List.map_append, pieces_eq, pieces_eq]

theorem pieces_of_blankless {text : String} (whole : ' ' ∉ text.toList) : pieces text = [text] := by
  rw [pieces_eq, List.splitOn_eq_singleton whole, List.map_singleton, String.ofList_toList]

theorem blankless_of_mem_pieces {text piece : String} (member : piece ∈ pieces text) :
    ' ' ∉ piece.toList := by
  rw [pieces_eq] at member
  obtain ⟨chars, inside, rfl⟩ := List.mem_map.1 member
  rw [String.toList_ofList]
  exact not_mem_of_mem_splitOn ' ' _ chars inside

namespace Plan

theorem joined_cons_cons (url next : String) (urls : List String) :
    joined (url :: next :: urls) = url ++ " " ++ joined (next :: urls) :=
  String.intercalate_cons_cons

theorem joined_pieces (text : String) : joined (pieces text) = text := by
  have blank : " ".toList = [' '] := rfl
  have same : (String.toList ∘ String.ofList : List Char -> List Char) = id :=
    funext fun _ => String.toList_ofList
  rw [← String.toList_inj, joined, String.toList_intercalate, pieces_eq, List.map_map, same, List.map_id,
    blank, List.intercalate_splitOn]

theorem pieces_joined {urls : List String} (some : urls ≠ []) :
    pieces (joined urls) = urls.flatMap pieces := by
  induction urls with
  | nil => exact absurd rfl some
  | cons url rest ih =>
      cases rest with
      | nil => rw [joined, String.intercalate_singleton, List.flatMap_singleton]
      | cons next rest =>
          rw [joined_cons_cons, pieces_append, ih (List.cons_ne_nil _ _)]
          exact List.flatMap_cons.symm

theorem flatMap_pieces_eq_iff (urls : List String) :
    urls.flatMap pieces = urls ↔ ∀ url ∈ urls, ' ' ∉ url.toList := by
  constructor
  · intro same url member
    rw [← same] at member
    obtain ⟨_, _, inside⟩ := List.mem_flatMap.1 member
    exact blankless_of_mem_pieces inside
  · intro whole
    induction urls with
    | nil => rfl
    | cons url rest ih =>
        obtain ⟨first, others⟩ := List.forall_mem_cons.1 whole
        rw [List.flatMap_cons, pieces_of_blankless first, ih others, List.singleton_append]

/-- Addresses are encrypted alike exactly if they have the same pieces. -/
theorem joined_eq_iff {urls others : List String} (some : urls ≠ []) (some' : others ≠ []) :
    joined urls = joined others ↔ urls.flatMap pieces = others.flatMap pieces := by
  rw [← pieces_joined some, ← pieces_joined some']
  refine ⟨congrArg pieces, fun same => ?_⟩
  rw [← joined_pieces (joined urls), same, joined_pieces]

end Plan

/-! ## Addresses with blanks -/

theorem cleaned_append_blank (text : String) : Url.cleaned (text ++ " ") = Url.cleaned text := by
  have blank : (text ++ " ").toList = text.toList ++ [' '] := String.toList_append
  rw [Url.cleaned, Url.cleaned, blank, List.dropWhile_append]
  by_cases none : (text.toList.dropWhile (·.toNat ≤ 0x20)).isEmpty = true
  · rw [if_pos none, List.isEmpty_iff.1 none]
    rfl
  · rw [if_neg none, List.reverse_append, List.reverse_singleton, List.singleton_append,
      List.dropWhile_cons_of_pos (by decide)]

theorem Config.isWebUrl_append_blank (text : String) :
    Config.isWebUrl (text ++ " ") = Config.isWebUrl text := by
  rw [Config.isWebUrl, Config.isWebUrl, Url.read, Url.read, cleaned_append_blank]

theorem Config.isWebUrl_of_readUrlItems {items : List Json} {urls : List String}
    (done : readUrlItems items = .ok urls) : ∀ url ∈ urls, isWebUrl url = true := by
  induction items generalizing urls with
  | nil =>
      cases done
      exact nofun
  | cons item rest ih =>
      cases item with
      | string text =>
          rw [readUrlItems] at done
          split at done
          next good =>
            obtain ⟨others, rests, built⟩ := exists_of_bind_eq_ok done
            cases built
            exact List.forall_mem_cons.2 ⟨good, ih rests⟩
          next => cases done
      | null | bool | integer | double | array | object => cases done

theorem Config.isWebUrl_of_read {input : Json} {config : Config} (read : Config.read input = .ok config) :
    ∀ url ∈ config.secretsUrls, isWebUrl url = true := by
  obtain ⟨_, _, _, parts⟩ := exists_fields_of_read read
  have urls := parts.secretsUrls
  unfold readUrls at urls
  split at urls
  next =>
    rw [← Except.ok.inj urls]
    exact nofun
  next => exact isWebUrl_of_readUrlItems urls
  next => cases urls

/-! ## What is encrypted -/

/-- Of a configuration with addresses, the addresses are encrypted with blanks between them. -/
theorem Package.exists_encrypt_of_build {servers : Servers} {draw : Draw} {input : Json}
    {nodes : List String} {config : Config} {package : Package}
    (read : Config.read input = .ok config) (hosted : config.secretsUrls ≠ [])
    (built : (Package.build servers draw input nodes).2 = .ok package) :
    ∃ publicKey text, config.publicKey = some publicKey ∧ package.secrets = some ("0x" ++ text) ∧
      encrypt draw publicKey (Plan.joined config.secretsUrls) = .ok text := by
  obtain ⟨other, plan, secrets, read', planned, carried, rfl⟩ := Package.build_eq_ok built
  cases read.symm.trans read'
  cases planned with
  | nothing urls _ => exact absurd urls hosted
  | inline _ _ _ urls _ _ _ _ => exact absurd urls hosted
  | hosted publicKey _ known =>
      obtain ⟨⟨text, encrypted, rfl⟩, _⟩ := Plan.carryOut_hosted_eq_ok carried
      exact ⟨publicKey, text, known, rfl, encrypted⟩

/-- The text that is encrypted for addresses falls into them again exactly if none has a blank in it, and
two configurations have the same text encrypted exactly if their addresses fall into the same pieces. No
address is safe from being one with a blank: each is in order with a blank behind it, too. -/
theorem read_back_iff {input : Json} {config : Config} (read : Config.read input = .ok config)
    (hosted : config.secretsUrls ≠ []) :
    (∀ servers draw nodes package, (Package.build servers draw input nodes).2 = .ok package →
      ∃ publicKey text, config.publicKey = some publicKey ∧ package.secrets = some ("0x" ++ text) ∧
        encrypt draw publicKey (Plan.joined config.secretsUrls) = .ok text) ∧
    (pieces (Plan.joined config.secretsUrls) = config.secretsUrls ↔
      ∀ url ∈ config.secretsUrls, ' ' ∉ url.toList) ∧
    (∀ other others, Config.read other = .ok others → others.secretsUrls ≠ [] →
      (Plan.joined config.secretsUrls = Plan.joined others.secretsUrls ↔
        config.secretsUrls.flatMap pieces = others.secretsUrls.flatMap pieces) ∧
      ((∀ url ∈ config.secretsUrls ++ others.secretsUrls, ' ' ∉ url.toList) →
        Plan.joined config.secretsUrls = Plan.joined others.secretsUrls →
        config.secretsUrls = others.secretsUrls)) ∧
    ∀ url ∈ config.secretsUrls,
      Config.isWebUrl url = true ∧ Config.isWebUrl (url ++ " ") = true := by
  refine ⟨fun servers draw nodes package => Package.exists_encrypt_of_build read hosted, ?_, ?_, ?_⟩
  · rw [Plan.pieces_joined hosted, Plan.flatMap_pieces_eq_iff]
  · intro other others _ hosted'
    have alike := Plan.joined_eq_iff hosted hosted'
    refine ⟨alike, fun whole same => ?_⟩
    obtain ⟨first, second⟩ := List.forall_mem_append.1 whole
    rw [← (Plan.flatMap_pieces_eq_iff _).2 first, alike.1 same, (Plan.flatMap_pieces_eq_iff _).2 second]
  · intro url member
    have good := Config.isWebUrl_of_read read url member
    exact ⟨good, (Config.isWebUrl_append_blank url).trans good⟩

/-! ## An example -/

def hostedInput (urls : List String) : Json := .object [
  ("codeLocation", .string "Inline"), ("codeLanguage", .string "JavaScript"),
  ("source", .string "return 1"), ("secretsURLs", .ofStrings urls),
  ("walletPrivateKey", .string exampleWalletText), ("DONPublicKey", .string exampleReceiverText)]

def hostedConfig (urls : List String) : Config where
  source := "return 1"
  args := none
  secrets := none
  secretsUrls := urls
  walletKey := some exampleWalletText
  publicKey := some exampleReceiverText
  maxResponseBytes := none
  quota := none
  returnType := none

theorem read_hostedInput_pair : Config.read (hostedInput ["https://a.example/s", "https://b.example/s"]) =
    .ok (hostedConfig ["https://a.example/s", "https://b.example/s"]) := by decide +kernel

theorem read_hostedInput_single : Config.read (hostedInput ["https://a.example/s https://b.example/s"]) =
    .ok (hostedConfig ["https://a.example/s https://b.example/s"]) := by decide +kernel

theorem read_back_iff_pair :
    let urls := ["https://a.example/s", "https://b.example/s"]
    Config.read (hostedInput urls) = .ok (hostedConfig urls) ∧ urls ≠ [] ∧
      pieces (Plan.joined urls) = urls ∧
      (∀ other others, Config.read other = .ok others → others.secretsUrls ≠ [] →
        Plan.joined urls = Plan.joined others.secretsUrls → others.secretsUrls.flatMap pieces = urls) := by
  intro urls
  have whole : ∀ url ∈ urls, ' ' ∉ url.toList := by decide
  obtain ⟨_, back, alike, _⟩ := read_back_iff read_hostedInput_pair (List.cons_ne_nil _ _)
  refine ⟨read_hostedInput_pair, List.cons_ne_nil _ _, back.2 whole, ?_⟩
  intro other others read hosted same
  rw [← ((alike other others read hosted).1).1 same]
  exact (Plan.flatMap_pieces_eq_iff urls).2 whole

/-- One address with a blank in it is in order, and is encrypted like two. -/
theorem single_encrypted_like_pair :
    ∃ single pair : Config,
      Config.read (hostedInput ["https://a.example/s https://b.example/s"]) = .ok single ∧
      Config.read (hostedInput ["https://a.example/s", "https://b.example/s"]) = .ok pair ∧
      single.secretsUrls ≠ pair.secretsUrls ∧
      Plan.joined single.secretsUrls = Plan.joined pair.secretsUrls ∧
      pieces (Plan.joined single.secretsUrls) ≠ single.secretsUrls := by
  have hosted : (hostedConfig ["https://a.example/s https://b.example/s"]).secretsUrls ≠ [] :=
    List.cons_ne_nil _ _
  refine ⟨_, _, read_hostedInput_single, read_hostedInput_pair, by decide, by decide, ?_⟩
  rw [Plan.pieces_joined hosted, ne_eq, Plan.flatMap_pieces_eq_iff]
  decide

end Secrets

end ScriptOracle
