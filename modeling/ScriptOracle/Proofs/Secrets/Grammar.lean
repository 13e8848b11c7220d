import ScriptOracle.Proofs.Checks
import ScriptOracle.Proofs.Json.Given
import ScriptOracle.Proofs.Secrets.Config

/-!
# What a configuration may say

A configuration is in order if each option is as it has to be, and all that it holds is then what it was
given. Otherwise the option that is reported is the first one that is not in order: of the names that are no
options, the one that comes first, and then of the options in the order in which they are demanded here. A
private key is demanded twice, once to be a text, and once to be there if secrets are hosted.
-/

namespace ScriptOracle.Secrets.Config

/-! ## The grammar -/

/-- The one name that is allowed, or zero in its place. -/
def IsChoice (name : String) (value : Json) : Prop := value = .string name ∨ value = .integer 0

/-- A whole number of thirty-two bits, and not zero. -/
def IsCount (value : Json) : Prop := ∃ n : ℕ, 1 ≤ n ∧ n < 2 ^ 32 ∧ value = .integer n

def IsWebAddress (text : String) : Prop :=
  ∃ url, Url.read text = .ok url ∧ (url.scheme = "http" ∨ url.scheme = "https") ∧
    url.host.isSome = true

def IsUrlList (value : Json) : Prop :=
  ∃ urls, value = Json.ofStrings urls ∧ ∀ url ∈ urls, IsWebAddress url

def IsReturnType (value : Json) : Prop :=
  ∃ name ∈ ["uint256", "int256", "string", "Buffer"], value = .string name

def HostsSecrets (input : Json) : Prop :=
  ∃ first rest, input.get? "secretsURLs" = some (.array (first :: rest))

/-- What is demanded of a configuration, each under the option that is blamed, in the order in which it is
checked. -/
def demands (input : Json) : Demands :=
  match input with
  | .object fields =>
    (Fields.names fields).map (fun name => (name, name ∈ options)) ++ [
      ("codeLocation", input.Has "codeLocation" (IsChoice "Inline")),
      ("codeLanguage", input.Has "codeLanguage" (IsChoice "JavaScript")),
      ("source", input.Has "source" Json.IsText),
      ("numAllowedQueries", input.Allows "numAllowedQueries" IsCount),
      ("secrets", input.Allows "secrets" Json.IsTextMap),
      ("secretsURLs", input.Allows "secretsURLs" IsUrlList),
      ("walletPrivateKey",
        ∀ value, input.get? "walletPrivateKey" = some value → value = .null ∨ value.IsText),
      ("DONPublicKey", input.Allows "DONPublicKey" Json.IsText),
      ("walletPrivateKey", HostsSecrets input → input.Has "walletPrivateKey" Json.IsText),
      ("args", input.Allows "args" Json.IsTextList),
      ("maxResponseBytes", input.Allows "maxResponseBytes" IsCount),
      ("expectedReturnType", input.Allows "expectedReturnType" IsReturnType)]
  | _ => [("config", False)]

/-- All that a configuration holds is what it was given. -/
structure Stores (input : Json) (config : Config) : Prop where
  source : input.get? "source" = some (.string config.source)
  args : input.Keeps "args" (config.args.map Json.ofStrings)
  /-- Only the names are put in order. -/
  secrets : ∃ fields : Option (Fields String), input.Keeps "secrets" (fields.map Json.ofStringFields) ∧
    config.secrets = fields.map Fields.sorted
  secretsUrls : input.LeavesOut "secretsURLs" ∧ config.secretsUrls = [] ∨
    input.get? "secretsURLs" = some (.ofStrings config.secretsUrls)
  walletKey : ∀ key, config.walletKey = some key ↔ input.get? "walletPrivateKey" = some (.string key)
  publicKey : input.Keeps "DONPublicKey" (config.publicKey.map Json.string)
  maxResponseBytes : input.Keeps "maxResponseBytes" (config.maxResponseBytes.map Json.ofNat)
  quota : input.Keeps "numAllowedQueries" (config.quota.map Json.ofNat)
  returnType : input.Keeps "expectedReturnType" (config.returnType.map fun type => .string type.name)

/-! ## Option by option -/

variable {input : Json}

theorem exists_checkChoice_iff (option name : String) :
    (∃ done, checkChoice input option name = .ok done) ↔ input.Has option (IsChoice name) := by
  unfold checkChoice Json.Has IsChoice
  split
  next text found =>
    by_cases same : text = name <;> simp [found, same]
  next n found =>
    by_cases zero : n = 0 <;> simp [found, zero]
  next other number =>
    refine iff_of_false not_exists_error_eq_ok ?_
    rintro ⟨value, found, rfl | rfl⟩
    · exact other _ found
    · exact number _ found

theorem exists_readSource_iff :
    (∃ source, readSource input = .ok source) ↔ input.Has "source" Json.IsText := by
  constructor
  · rintro ⟨source, done⟩
    exact ⟨_, readSource_eq_ok done, source, rfl⟩
  · rintro ⟨_, found, source, rfl⟩
    exact ⟨source, by rw [readSource, found]⟩

theorem exists_readNumber_iff (option : String) :
    (∃ number, readNumber input option = .ok number) ↔ input.Allows option IsCount := by
  rw [Json.allows_iff, readNumber]
  cases given : input.given? option with
  | none => simp
  | some value =>
      have full := (Json.given?_eq_some_iff.1 given).2
      simp only [Option.some.injEq, forall_eq']
      cases value with
      | integer n =>
          have other : n ≠ 0 := fun zero => full (by simp [Json.IsBlank, Json.number?, zero])
          have range : IsCount (.integer n) ↔ 0 ≤ n ∧ n < (1 <<< 32 : ℕ) := by
            constructor
            · rintro ⟨m, least, greatest, same⟩
              cases same
              omega
            · rintro ⟨least, greatest⟩
              exact ⟨n.toNat, by omega, by omega, by rw [Int.toNat_of_nonneg least]⟩
          rw [range]
          exact exists_ite_eq_ok
      | _ => simp [IsCount]

theorem exists_readSecrets_iff :
    (∃ secrets, readSecrets input = .ok secrets) ↔ input.Allows "secrets" Json.IsTextMap := by
  rw [Json.allows_iff, readSecrets]
  cases given : input.given? "secrets" with
  | none => simp
  | some value =>
      simp only [Option.some.injEq, forall_eq']
      cases value with
      | object fields =>
          cases all : Json.asStringFields? fields with
          | none =>
              simp only [all]
              refine iff_of_false not_exists_error_eq_ok ?_
              rintro ⟨texts, same⟩
              cases all.symm.trans (Json.asStringFields?_eq_some_iff.2 same)
          | some texts =>
              simp only [all]
              exact iff_of_true ⟨_, rfl⟩ ⟨texts, Json.asStringFields?_eq_some_iff.1 all⟩
      | _ => simp [Json.IsTextMap, Json.ofStringFields]

theorem isWebUrl_iff (text : String) : isWebUrl text = true ↔ IsWebAddress text := by
  rw [isWebUrl, IsWebAddress]
  cases Url.read text with
  | ok url => simp
  | error fault => simp

theorem isUrlList_cons {item : Json} {rest : List Json} :
    IsUrlList (.array (item :: rest)) ↔
      (∃ text, item = .string text ∧ IsWebAddress text) ∧ IsUrlList (.array rest) := by
  constructor
  · rintro ⟨_ | ⟨text, urls⟩, same, good⟩ <;> cases same
    obtain ⟨first, others⟩ := List.forall_mem_cons.1 good
    exact ⟨⟨text, rfl, first⟩, urls, rfl, others⟩
  · rintro ⟨⟨text, rfl, first⟩, urls, same, others⟩
    exact ⟨text :: urls, by rw [Json.array.inj same]; rfl, List.forall_mem_cons.2 ⟨first, others⟩⟩

theorem exists_readUrlItems_iff (items : List Json) :
    (∃ urls, readUrlItems items = .ok urls) ↔ IsUrlList (.array items) := by
  induction items with
  | nil => exact iff_of_true ⟨[], rfl⟩ ⟨[], rfl, List.forall_mem_nil _⟩
  | cons item rest ih =>
      rw [isUrlList_cons, ← ih]
      constructor
      · rintro ⟨urls, done⟩
        cases item with
        | string text =>
            rw [readUrlItems] at done
            split at done
            next good =>
              obtain ⟨others, rests, -⟩ := exists_of_bind_eq_ok done
              exact ⟨⟨text, rfl, (isWebUrl_iff text).1 good⟩, others, rests⟩
            next => cases done
        | _ => cases done
      · rintro ⟨⟨text, rfl, good⟩, urls, rests⟩
        exact ⟨text :: urls, by rw [readUrlItems, if_pos ((isWebUrl_iff text).2 good), rests]; rfl⟩

theorem exists_readUrls_iff :
    (∃ urls, readUrls input = .ok urls) ↔ input.Allows "secretsURLs" IsUrlList := by
  rw [Json.allows_iff, readUrls]
  cases given : input.given? "secretsURLs" with
  | none => simp
  | some value =>
      simp only [Option.some.injEq, forall_eq']
      cases value with
      | array items => exact exists_readUrlItems_iff items
      | _ => simp [IsUrlList, Json.ofStrings]

theorem exists_readWalletKey_iff :
    (∃ key, readWalletKey input = .ok key) ↔
      ∀ value, input.get? "walletPrivateKey" = some value → value = .null ∨ value.IsText := by
  rw [readWalletKey]
  cases found : input.get? "walletPrivateKey" with
  | none => simp
  | some value => cases value <;> simp [Json.IsText]

theorem exists_readPublicKey_iff :
    (∃ key, readPublicKey input = .ok key) ↔ input.Allows "DONPublicKey" Json.IsText := by
  rw [Json.allows_iff, readPublicKey]
  cases given : input.given? "DONPublicKey" with
  | none => simp
  | some value => cases value <;> simp [Json.IsText]

theorem exists_readArgs_iff :
    (∃ args, readArgs input = .ok args) ↔ input.Allows "args" Json.IsTextList := by
  rw [Json.allows_iff, readArgs]
  cases given : input.given? "args" with
  | none => simp
  | some value =>
      simp only [Option.some.injEq, forall_eq']
      cases value with
      | array items =>
          cases all : Json.asStrings? items with
          | none =>
              simp only [all]
              refine iff_of_false not_exists_error_eq_ok ?_
              rintro ⟨texts, same⟩
              cases all.symm.trans (Json.asStrings?_eq_some_iff.2 same)
          | some texts =>
              simp only [all]
              exact iff_of_true ⟨_, rfl⟩ ⟨texts, Json.asStrings?_eq_some_iff.1 all⟩
      | _ => simp [Json.IsTextList, Json.ofStrings]

theorem ofName?_eq_some_iff {name : String} {type : ReturnType} :
    ReturnType.ofName? name = some type ↔ name = type.name := by
  refine ⟨fun found => ?_, fun same => same ▸ ReturnType.ofName?_name type⟩
  unfold ReturnType.ofName? at found
  split_ifs at found with unsigned signed text bytes <;> cases found
  · exact unsigned
  · exact signed
  · exact text
  · exact bytes

theorem isReturnType_iff {value : Json} :
    IsReturnType value ↔ ∃ type : ReturnType, value = .string type.name := by
  constructor
  · rintro ⟨name, member, rfl⟩
    rcases member with _ | ⟨_, _ | ⟨_, _ | ⟨_, _ | ⟨_, ⟨⟩⟩⟩⟩⟩
    exacts [⟨.unsigned, rfl⟩, ⟨.signed, rfl⟩, ⟨.text, rfl⟩, ⟨.bytes, rfl⟩]
  · rintro ⟨type, rfl⟩
    exact ⟨type.name, by cases type <;> decide, rfl⟩

theorem exists_readReturnType_iff :
    (∃ type, readReturnType input = .ok type) ↔ input.Allows "expectedReturnType" IsReturnType := by
  rw [Json.allows_iff, readReturnType]
  cases given : input.given? "expectedReturnType" with
  | none => simp
  | some value =>
      simp only [Option.some.injEq, forall_eq', isReturnType_iff]
      constructor
      · rintro ⟨done, read⟩
        split at read
        next type known =>
          obtain ⟨text, same, named⟩ := Option.bind_eq_some_iff.1 known
          exact ⟨type, by rw [Json.eq_of_asString? same, ofName?_eq_some_iff.1 named]⟩
        next => cases read
      · rintro ⟨type, rfl⟩
        exact ⟨some type, by simp [Json.asString?]⟩

/-! ## Who is blamed -/

section

variable {fault : ConfigFault}

theorem field_of_checkChoice {option name : String}
    (failed : checkChoice input option name = .error fault) : fault.field = option := by
  unfold checkChoice at failed
  split at failed
  · split at failed <;> cases failed
    rfl
  · split at failed <;> cases failed
    rfl
  · cases failed
    rfl

theorem field_of_readSource (failed : readSource input = .error fault) : fault.field = "source" := by
  unfold readSource at failed
  split at failed <;> cases failed
  rfl

theorem field_of_readNumber {option : String} (failed : readNumber input option = .error fault) :
    fault.field = option := by
  unfold readNumber at failed
  split at failed
  · cases failed
  · split at failed <;> cases failed
    rfl
  · cases failed
    rfl

theorem field_of_readSecrets (failed : readSecrets input = .error fault) : fault.field = "secrets" := by
  unfold readSecrets at failed
  split at failed
  · cases failed
  · split at failed <;> cases failed
    rfl
  · cases failed
    rfl

theorem field_of_readUrlItems {items : List Json} (failed : readUrlItems items = .error fault) :
    fault.field = "secretsURLs" := by
  induction items with
  | nil => cases failed
  | cons item rest ih =>
      cases item with
      | string text =>
          rw [readUrlItems] at failed
          split at failed
          · obtain rests | ⟨urls, -, done⟩ := or_of_bind_eq_error failed
            · exact ih rests
            · cases done
          · cases failed
            rfl
      | _ =>
          cases failed
          rfl

theorem field_of_readUrls (failed : readUrls input = .error fault) : fault.field = "secretsURLs" := by
  unfold readUrls at failed
  split at failed
  · cases failed
  · exact field_of_readUrlItems failed
  · cases failed
    rfl

theorem field_of_readWalletKey (failed : readWalletKey input = .error fault) :
    fault.field = "walletPrivateKey" := by
  unfold readWalletKey at failed
  split at failed <;> cases failed
  rfl

theorem field_of_readPublicKey (failed : readPublicKey input = .error fault) :
    fault.field = "DONPublicKey" := by
  unfold readPublicKey at failed
  split at failed <;> cases failed
  rfl

theorem field_of_checkWallet {urls : List String} {key : Option String}
    (failed : checkWallet urls key = .error fault) : fault.field = "walletPrivateKey" := by
  unfold checkWallet at failed
  split at failed <;> cases failed
  rfl

theorem field_of_readArgs (failed : readArgs input = .error fault) : fault.field = "args" := by
  unfold readArgs at failed
  split at failed
  · cases failed
  · split at failed <;> cases failed
    rfl
  · cases failed
    rfl

theorem field_of_readReturnType (failed : readReturnType input = .error fault) :
    fault.field = "expectedReturnType" := by
  unfold readReturnType at failed
  split at failed
  · cases failed
  · split at failed <;> cases failed
    rfl

end

/-! ## All options -/

theorem leavesOut_or_of_readUrls {urls : List String} (done : readUrls input = .ok urls) :
    input.LeavesOut "secretsURLs" ∧ urls = [] ∨ input.get? "secretsURLs" = some (.ofStrings urls) := by
  have same := readUrls_eq_ok done
  cases given : input.given? "secretsURLs" with
  | none =>
      rw [given] at same
      cases urls with
      | nil => exact .inl ⟨Json.given?_eq_none_iff.1 given, rfl⟩
      | cons first rest => cases same
  | some value =>
      rw [given, Option.getD_some] at same
      exact .inr (same ▸ (Json.given?_eq_some_iff.1 given).1)

theorem hostsSecrets_iff {urls : List String} (urlsRead : readUrls input = .ok urls) :
    HostsSecrets input ↔ urls ≠ [] := by
  obtain ⟨absent, rfl⟩ | found := leavesOut_or_of_readUrls urlsRead
  · refine iff_of_false ?_ fun other => other rfl
    rintro ⟨first, rest, found⟩
    obtain same | same | same | same := absent _ found <;> cases same
  · rw [HostsSecrets, found]
    cases urls with
    | nil =>
        refine iff_of_false ?_ fun other => other rfl
        rintro ⟨_, _, same⟩
        cases same
    | cons first rest => exact iff_of_true ⟨_, _, rfl⟩ (List.cons_ne_nil _ _)

theorem walletKey_eq_some_iff {key : Option String} (keyRead : readWalletKey input = .ok key)
    (text : String) : key = some text ↔ input.get? "walletPrivateKey" = some (.string text) := by
  rw [← readWalletKey_eq_ok keyRead, Option.bind_eq_some_iff]
  constructor
  · rintro ⟨value, found, same⟩
    rw [found, Json.eq_of_asString? same]
  · exact fun found => ⟨_, found, rfl⟩

/-- Who hosts secrets has to sign them. -/
theorem exists_checkWallet_iff {urls : List String} {key : Option String}
    (urlsRead : readUrls input = .ok urls) (keyRead : readWalletKey input = .ok key) :
    (∃ done, checkWallet urls key = .ok done) ↔
      (HostsSecrets input → input.Has "walletPrivateKey" Json.IsText) := by
  have signed : input.Has "walletPrivateKey" Json.IsText ↔ key ≠ none := by
    rw [Option.ne_none_iff_exists']
    constructor
    · rintro ⟨_, found, text, rfl⟩
      exact ⟨text, (walletKey_eq_some_iff keyRead text).2 found⟩
    · rintro ⟨text, same⟩
      exact ⟨_, (walletKey_eq_some_iff keyRead text).1 same, text, rfl⟩
  rw [hostsSecrets_iff urlsRead, signed, checkWallet]
  cases urls <;> cases key <;> simp

theorem meets_checkNames (fields : Fields Json) :
    Meets ConfigFault.field ((Fields.names fields).map fun name => (name, name ∈ options))
      (checkNames fields) := by
  have agree : ∀ name, (!options.contains name) = true ↔ ¬name ∈ options := by simp
  cases found : stranger? fields with
  | none =>
      have known : checkNames fields = .ok () := by
        rw [checkNames, ← stranger?, found]
      rw [known]
      exact .ok (Demands.met_of_find? agree found)
  | some name =>
      rw [checkNames_eq_error found]
      exact .error (Demands.firstUnmet_of_find? agree found)

theorem meets_read (input : Json) : Meets ConfigFault.field (demands input) (read input) := by
  cases input with
  | object fields =>
      rw [demands, read]
      refine (meets_checkNames fields).bind fun _ _ => ?_
      rw [readFields]
      refine .cons (.single (exists_checkChoice_iff _ _) fun _ => field_of_checkChoice) fun _ _ => ?_
      refine .cons (.single (exists_checkChoice_iff _ _) fun _ => field_of_checkChoice) fun _ _ => ?_
      refine .cons (.single exists_readSource_iff fun _ => field_of_readSource) fun _ _ => ?_
      refine .cons (.single (exists_readNumber_iff _) fun _ => field_of_readNumber) fun _ _ => ?_
      refine .cons (.single exists_readSecrets_iff fun _ => field_of_readSecrets) fun _ _ => ?_
      refine .cons (.single exists_readUrls_iff fun _ => field_of_readUrls) fun urls urlsRead => ?_
      refine .cons (.single exists_readWalletKey_iff fun _ => field_of_readWalletKey) fun key keyRead => ?_
      refine .cons (.single exists_readPublicKey_iff fun _ => field_of_readPublicKey) fun _ _ => ?_
      refine .cons (.single (exists_checkWallet_iff urlsRead keyRead) fun _ => field_of_checkWallet)
        fun _ _ => ?_
      refine .cons (.single exists_readArgs_iff fun _ => field_of_readArgs) fun _ _ => ?_
      refine .cons (.single (exists_readNumber_iff _) fun _ => field_of_readNumber) fun _ _ => ?_
      refine .cons (.single exists_readReturnType_iff fun _ => field_of_readReturnType) fun _ _ => ?_
      exact .ok (List.forall_mem_nil _)
  | _ =>
      refine .single (iff_of_false not_exists_error_eq_ok id) fun fault failed => ?_
      cases failed
      rfl

/-! ## What is stored -/

theorem readNumber_eq_ok {option : String} {number : Option ℕ}
    (done : readNumber input option = .ok number) : input.given? option = number.map Json.ofNat := by
  unfold readNumber at done
  split at done
  next absent =>
    cases done
    exact absent
  next n found =>
    split at done
    next range =>
      cases done
      rw [found, Option.map_some, Json.ofNat, Int.toNat_of_nonneg range.1]
    next => cases done
  next => cases done

theorem readReturnType_eq_ok {type : Option ReturnType} (done : readReturnType input = .ok type) :
    input.given? "expectedReturnType" = type.map fun type => .string type.name := by
  unfold readReturnType at done
  split at done
  next absent =>
    cases done
    exact absent
  next value found =>
    split at done
    next type known =>
      cases done
      obtain ⟨text, same, named⟩ := Option.bind_eq_some_iff.1 known
      rw [found, Json.eq_of_asString? same, Option.map_some, ofName?_eq_some_iff.1 named]
    next => cases done

theorem stores_of_read {config : Config} (done : read input = .ok config) : Stores input config := by
  obtain ⟨_, -, -, parts⟩ := exists_fields_of_read done
  obtain ⟨fields, given, kept⟩ := readSecrets_eq_ok parts.secrets
  exact {
    source := readSource_eq_ok parts.source
    args := Json.keeps_iff.2 (readArgs_eq_ok parts.args)
    secrets := ⟨fields, Json.keeps_iff.2 given, kept⟩
    secretsUrls := leavesOut_or_of_readUrls parts.secretsUrls
    walletKey := walletKey_eq_some_iff parts.walletKey
    publicKey := Json.keeps_iff.2 (readPublicKey_eq_ok parts.publicKey)
    maxResponseBytes := Json.keeps_iff.2 (readNumber_eq_ok parts.maxResponseBytes)
    quota := Json.keeps_iff.2 (readNumber_eq_ok parts.quota)
    returnType := Json.keeps_iff.2 (readReturnType_eq_ok parts.returnType) }

/-- A configuration is read if all that is demanded of it is met, and all that it holds is then what it was
given. Otherwise the option that is reported is the first that is not as it has to be. -/
theorem read_grammar (input : Json) :
    ((∃ config, read input = .ok config) ↔ (demands input).Met) ∧
    (∀ config, read input = .ok config → Stores input config) ∧
    ∀ option, (∃ fault, read input = .error fault ∧ fault.field = option) ↔
      (demands input).FirstUnmet option :=
  ⟨(meets_read input).exists_ok_iff, fun _ => stores_of_read, (meets_read input).exists_error_iff⟩

end ScriptOracle.Secrets.Config
