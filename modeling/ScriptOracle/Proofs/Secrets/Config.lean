import ScriptOracle.Proofs.Except
import ScriptOracle.Proofs.Json.Fields
import ScriptOracle.Secrets.Config

/-!
# What a configuration was read from

Every option that a configuration holds is the one that the object gives. Nothing is made up for an
option that counts as left out, and only the names of the secrets are put in order.
-/

namespace ScriptOracle

namespace Json

theorem isGiven_string {text : String} (some : text ≠ "") : (Json.string text).isGiven = true := by
  rw [isGiven, Bool.not_eq_true', Bool.eq_false_iff, ne_eq, String.isEmpty_iff]
  exact some

theorem eq_of_asString? {value : Json} {text : String} (found : value.asString? = some text) :
    value = .string text := by
  cases value with
  | string other => rw [Option.some.inj found]
  | null | bool | integer | double | array | object => cases found

theorem eq_of_asStrings? {items : List Json} {texts : List String}
    (found : asStrings? items = some texts) : .array items = ofStrings texts := by
  induction items generalizing texts with
  | nil =>
      cases found
      rfl
  | cons item rest ih =>
      obtain ⟨text, first, others⟩ := Option.bind_eq_some_iff.1 found
      obtain ⟨more, rests, built⟩ := Option.bind_eq_some_iff.1 others
      cases built
      rw [eq_of_asString? first, ofStrings, List.map_cons, Json.array.inj (ih rests)]

theorem asStrings?_map_string (texts : List String) :
    asStrings? (texts.map .string) = some texts := by
  induction texts with
  | nil => rfl
  | cons text rest ih =>
      rw [List.map_cons, asStrings?, ih]
      rfl

theorem asStrings?_eq_some_iff {items : List Json} {texts : List String} :
    asStrings? items = some texts ↔ .array items = ofStrings texts :=
  ⟨eq_of_asStrings?, fun same => by rw [Json.array.inj same, asStrings?_map_string]⟩

theorem eq_of_asStringFields? {fields : Fields Json} {texts : Fields String}
    (found : asStringFields? fields = some texts) : .object fields = ofStringFields texts := by
  induction fields generalizing texts with
  | nil =>
      cases found
      rfl
  | cons field rest ih =>
      obtain ⟨text, first, others⟩ := Option.bind_eq_some_iff.1 found
      obtain ⟨more, rests, built⟩ := Option.bind_eq_some_iff.1 others
      cases built
      rw [ofStringFields, List.map_cons, Json.object.inj (ih rests), ← eq_of_asString? first]

theorem asStringFields?_map_string (texts : Fields String) :
    asStringFields? (texts.map fun field => (field.1, .string field.2)) = some texts := by
  induction texts with
  | nil => rfl
  | cons field rest ih =>
      rw [List.map_cons, asStringFields?, ih]
      rfl

theorem asStringFields?_eq_some_iff {fields : Fields Json} {texts : Fields String} :
    asStringFields? fields = some texts ↔ .object fields = ofStringFields texts :=
  ⟨eq_of_asStringFields?, fun same => by rw [Json.object.inj same, asStringFields?_map_string]⟩

theorem ofStringFields_inj {fields others : Fields String}
    (same : ofStringFields fields = ofStringFields others) : fields = others := by
  refine List.map_inj_right ?_ |>.1 (Json.object.inj same)
  rintro ⟨name, text⟩ ⟨other, value⟩ equal
  cases equal
  rfl

end Json

namespace Secrets.Config

/-- The options of a configuration are those of the object that it was read from. -/
structure ReadFrom (input : Json) (config : Config) : Prop where
  source : input.get? "source" = some (.string config.source)
  args : input.given? "args" = config.args.map Json.ofStrings
  /-- An option that is left out is the empty list. -/
  secretsUrls : (input.given? "secretsURLs").getD (.array []) = .ofStrings config.secretsUrls
  secrets : ∃ fields : Option (Fields String),
    input.given? "secrets" = fields.map Json.ofStringFields ∧
      config.secrets = fields.map Fields.sorted
  walletKey : (input.get? "walletPrivateKey").bind Json.asString? = config.walletKey
  publicKey : input.given? "DONPublicKey" = config.publicKey.map Json.string

variable {input : Json}

theorem readSource_eq_ok {source : String} (done : readSource input = .ok source) :
    input.get? "source" = some (.string source) := by
  unfold readSource at done
  split at done
  next found => rw [found, Except.ok.inj done]
  next => cases done

theorem readArgs_eq_ok {args : Option (List String)} (done : readArgs input = .ok args) :
    input.given? "args" = args.map Json.ofStrings := by
  unfold readArgs at done
  split at done
  next absent =>
    cases done
    exact absent
  next items found =>
    split at done
    next texts all =>
      cases done
      rw [found, Json.eq_of_asStrings? all]
      rfl
    next => cases done
  next => cases done

theorem readUrlItems_eq_ok {items : List Json} {urls : List String}
    (done : readUrlItems items = .ok urls) : .array items = Json.ofStrings urls := by
  induction items generalizing urls with
  | nil =>
      cases done
      rfl
  | cons item rest ih =>
      cases item with
      | string text =>
          rw [readUrlItems] at done
          split at done
          next =>
            obtain ⟨others, rests, built⟩ := exists_of_bind_eq_ok done
            cases built
            rw [Json.ofStrings, List.map_cons, Json.array.inj (ih rests)]
          next => cases done
      | null | bool | integer | double | array | object => cases done

theorem readUrls_eq_ok {urls : List String} (done : readUrls input = .ok urls) :
    (input.given? "secretsURLs").getD (.array []) = .ofStrings urls := by
  unfold readUrls at done
  split at done
  next absent =>
    cases done
    rw [absent]
    rfl
  next items found =>
    rw [found]
    exact readUrlItems_eq_ok done
  next => cases done

theorem readSecrets_eq_ok {secrets : Option (Fields String)}
    (done : readSecrets input = .ok secrets) :
    ∃ fields : Option (Fields String), input.given? "secrets" = fields.map Json.ofStringFields ∧
      secrets = fields.map Fields.sorted := by
  unfold readSecrets at done
  split at done
  next absent =>
    cases done
    exact ⟨none, absent, rfl⟩
  next fields found =>
    split at done
    next texts all =>
      cases done
      exact ⟨some texts, by rw [found, Json.eq_of_asStringFields? all, Option.map_some], rfl⟩
    next => cases done
  next => cases done

theorem readWalletKey_eq_ok {key : Option String} (done : readWalletKey input = .ok key) :
    (input.get? "walletPrivateKey").bind Json.asString? = key := by
  unfold readWalletKey at done
  split at done
  case h_4 => cases done
  all_goals
    next found =>
      rw [found, ← Except.ok.inj done]
      rfl

theorem readPublicKey_eq_ok {key : Option String} (done : readPublicKey input = .ok key) :
    input.given? "DONPublicKey" = key.map Json.string := by
  unfold readPublicKey at done
  split at done
  case h_3 => cases done
  all_goals
    next found =>
      rw [found, ← Except.ok.inj done]
      rfl

/-- Each part of a configuration is what its reader makes of the object. -/
structure Parts (input : Json) (config : Config) : Prop where
  source : readSource input = .ok config.source
  quota : readNumber input "numAllowedQueries" = .ok config.quota
  secrets : readSecrets input = .ok config.secrets
  secretsUrls : readUrls input = .ok config.secretsUrls
  walletKey : readWalletKey input = .ok config.walletKey
  publicKey : readPublicKey input = .ok config.publicKey
  args : readArgs input = .ok config.args
  maxResponseBytes : readNumber input "maxResponseBytes" = .ok config.maxResponseBytes
  returnType : readReturnType input = .ok config.returnType

theorem parts_of_readFields {config : Config} (done : readFields input = .ok config) :
    Parts input config := by
  obtain ⟨_, -, done⟩ := exists_of_bind_eq_ok done
  obtain ⟨_, -, done⟩ := exists_of_bind_eq_ok done
  obtain ⟨source, sourceRead, done⟩ := exists_of_bind_eq_ok done
  obtain ⟨quota, quotaRead, done⟩ := exists_of_bind_eq_ok done
  obtain ⟨secrets, secretsRead, done⟩ := exists_of_bind_eq_ok done
  obtain ⟨urls, urlsRead, done⟩ := exists_of_bind_eq_ok done
  obtain ⟨walletKey, walletRead, done⟩ := exists_of_bind_eq_ok done
  obtain ⟨publicKey, publicRead, done⟩ := exists_of_bind_eq_ok done
  obtain ⟨_, -, done⟩ := exists_of_bind_eq_ok done
  obtain ⟨args, argsRead, done⟩ := exists_of_bind_eq_ok done
  obtain ⟨maxResponseBytes, maximumRead, done⟩ := exists_of_bind_eq_ok done
  obtain ⟨returnType, returnTypeRead, done⟩ := exists_of_bind_eq_ok done
  cases done
  exact {
    source := sourceRead
    quota := quotaRead
    secrets := secretsRead
    secretsUrls := urlsRead
    walletKey := walletRead
    publicKey := publicRead
    args := argsRead
    maxResponseBytes := maximumRead
    returnType := returnTypeRead }

/-- A configuration is read from an object whose names are all options, part by part. -/
theorem exists_fields_of_read {config : Config} (done : read input = .ok config) :
    ∃ fields, input = .object fields ∧ checkNames fields = .ok () ∧ Parts input config := by
  unfold read at done
  split at done
  next fields =>
    obtain ⟨_, known, done⟩ := exists_of_bind_eq_ok done
    exact ⟨fields, rfl, known, parts_of_readFields done⟩
  next => cases done

/-- A configuration that was found to be in order holds what it was given. -/
theorem readFrom_of_read {config : Config} (done : read input = .ok config) :
    ReadFrom input config := by
  obtain ⟨_, -, -, parts⟩ := exists_fields_of_read done
  exact {
    source := readSource_eq_ok parts.source
    args := readArgs_eq_ok parts.args
    secretsUrls := readUrls_eq_ok parts.secretsUrls
    secrets := readSecrets_eq_ok parts.secrets
    walletKey := readWalletKey_eq_ok parts.walletKey
    publicKey := readPublicKey_eq_ok parts.publicKey }

/-! ## Names -/

/-- The first name that is no option. -/
def stranger? (fields : Fields Json) : Option String :=
  (Fields.names fields).find? (!options.contains ·)

/-- An object is turned down for the first name that is no option. -/
theorem checkNames_eq_error {fields : Fields Json} {name : String}
    (strange : stranger? fields = some name) : checkNames fields = .error (.unrecognized name) := by
  rw [stranger?] at strange
  rw [checkNames, strange]

theorem checkNames_congr {fields others : Fields Json} (same : stranger? fields = stranger? others) :
    checkNames fields = checkNames others := by
  rw [stranger?, stranger?] at same
  rw [checkNames, checkNames, same]

theorem stranger?_append (front back : Fields Json) :
    stranger? (front ++ back) = (stranger? front).or (stranger? back) := by
  rw [stranger?, Fields.names, List.map_append, List.find?_append]
  rfl

theorem stranger?_cons (field : String × Json) (rest : Fields Json) :
    stranger? (field :: rest) = if field.1 ∈ options then stranger? rest else some field.1 := by
  rw [stranger?, Fields.names, List.map_cons, List.find?_cons]
  by_cases known : field.1 ∈ options <;> simp [known, stranger?, Fields.names]

theorem mem_of_stranger? {fields : Fields Json} {name : String}
    (strange : stranger? fields = some name) : name ∈ Fields.names fields :=
  List.mem_of_find?_eq_some strange

theorem checkNames_eq_ok {fields : Fields Json} (known : checkNames fields = .ok ()) :
    ∀ name ∈ fields.names, name ∈ options := by
  unfold checkNames at known
  split at known
  next => cases known
  next none =>
    intro name member
    simpa using List.find?_eq_none.mp none name member

/-! ## Order -/

/-- Apart from their names, the options are read one by one. -/
theorem readFields_congr {input other : Json} (same : ∀ name, input.get? name = other.get? name) :
    readFields input = readFields other := by
  simp only [readFields, checkChoice, readSource, readNumber, readSecrets, readUrls, readWalletKey,
    readPublicKey, readArgs, readReturnType, Json.given?, same]

/-- The order of the fields tells only which name is reported that is no option. -/
theorem read_of_perm {fields others : Fields Json} (distinct : (Fields.names fields).Nodup)
    (perm : fields.Perm others) (same : stranger? fields = stranger? others) :
    read (.object fields) = read (.object others) := by
  have found : ∀ name, (Json.object fields).get? name = (Json.object others).get? name :=
    Fields.get?_of_perm distinct perm
  rw [read, read, checkNames_congr same, readFields_congr found]

theorem read_of_stranger? {fields : Fields Json} {name : String}
    (strange : stranger? fields = some name) :
    read (.object fields) = .error (.unrecognized name) := by
  rw [read, checkNames_eq_error strange]
  rfl

end Secrets.Config

end ScriptOracle
