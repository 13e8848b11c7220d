import ScriptOracle.Proofs.Secrets.Faults
import ScriptOracle.Proofs.Secrets.Package

/-!
# What is settled before anything is done

A configuration that is at fault is found out before any document is asked for and before anything is drawn
or encrypted: the fault is the same whatever the servers do, whatever is drawn and whichever nodes are given,
and with any other keys in place of the given ones. Documents are asked for only if there are addresses,
nodes and both keys.
-/

namespace ScriptOracle.Secrets

/-! ## Other keys -/

/-- The value of a field, or another key if it is a key. An empty public key is none. -/
def otherKey (wallet receiver name : String) (value : Json) : Json :=
  match value with
  | .string text =>
    if name = "walletPrivateKey" then .string wallet
    else if name = "DONPublicKey" ∧ text ≠ "" then .string receiver
    else .string text
  | value => value

/-- An object with other keys in place of those that it gives. -/
def rekeyed (wallet receiver : String) (input : Json) : Json :=
  match input with
  | .object fields =>
    .object (fields.map fun field => (field.1, otherKey wallet receiver field.1 field.2))
  | input => input

/-- A configuration with other keys in place of those that it has. -/
def Config.rekeyed (wallet receiver : String) (config : Config) : Config :=
  { config with
    walletKey := config.walletKey.map fun _ => wallet
    publicKey := config.publicKey.map fun _ => receiver }

def Plan.rekeyed (wallet receiver : String) : Plan -> Plan
  | .nothing => .nothing
  | .hosted _ urls => .hosted receiver urls
  | .inline _ _ secrets => .inline wallet receiver secrets

section

variable (wallet receiver : String) (input : Json)

theorem get?_rekeyed (name : String) :
    (rekeyed wallet receiver input).get? name = (input.get? name).map (otherKey wallet receiver name) := by
  cases input with
  | object fields =>
      show Fields.get? (fields.map _) name = (Fields.get? fields name).map _
      induction fields with
      | nil => rfl
      | cons field rest ih =>
          obtain ⟨key, value⟩ := field
          rw [List.map_cons, Fields.get?_cons, Fields.get?_cons]
          split
          next same => rw [same, Option.map_some]
          next => exact ih
  | _ => rfl

variable {input}

theorem get?_rekeyed_of_ne {name : String} (other : name ≠ "walletPrivateKey")
    (others : name ≠ "DONPublicKey") :
    (rekeyed wallet receiver input).get? name = input.get? name := by
  have kept : otherKey wallet receiver name = id := by
    funext value
    cases value <;> simp [otherKey, other, others]
  rw [get?_rekeyed, kept, Option.map_id]
  rfl

namespace Config

theorem readWalletKey_rekeyed :
    readWalletKey (Secrets.rekeyed wallet receiver input) =
      Option.map (fun _ => wallet) <$> readWalletKey input := by
  rw [readWalletKey, readWalletKey, get?_rekeyed]
  cases input.get? "walletPrivateKey" with
  | none => rfl
  | some value => cases value <;> rfl

theorem isGiven_otherKey (given : receiver ≠ "") (value : Json) :
    (otherKey wallet receiver "DONPublicKey" value).isGiven = value.isGiven := by
  cases value with
  | string text =>
      by_cases empty : text = ""
      · rw [empty]
        rfl
      · have other : otherKey wallet receiver "DONPublicKey" (.string text) = .string receiver := by
          simp [otherKey, empty]
        rw [other, Json.isGiven_string given, Json.isGiven_string empty]
  | _ => rfl

theorem readPublicKey_rekeyed (given : receiver ≠ "") :
    readPublicKey (Secrets.rekeyed wallet receiver input) =
      Option.map (fun _ => receiver) <$> readPublicKey input := by
  rw [readPublicKey, readPublicKey, Json.given?, Json.given?, get?_rekeyed]
  cases input.get? "DONPublicKey" with
  | none => rfl
  | some value =>
      rw [Option.map_some, Option.filter_some, Option.filter_some, isGiven_otherKey wallet receiver given]
      cases full : value.isGiven with
      | false => rfl
      | true =>
          cases value with
          | string text =>
              have some : text ≠ "" := by rintro rfl; cases full
              simp [otherKey, some]
          | _ => rfl

@[simp] theorem checkWallet_map (urls : List String) (key : Option String) :
    checkWallet urls (key.map fun _ => wallet) = checkWallet urls key := by
  rw [checkWallet, checkWallet, Option.isNone_map]

theorem readFields_rekeyed (given : receiver ≠ "") :
    readFields (Secrets.rekeyed wallet receiver input) =
      Config.rekeyed wallet receiver <$> readFields input := by
  have other := @get?_rekeyed_of_ne wallet receiver input
  -- The keys are mapped where they are read, and every other reader looks at an option that is no key.
  simp only [readFields, readWalletKey_rekeyed, readPublicKey_rekeyed wallet receiver given, map_bind,
    bind_map_left, map_pure, checkWallet_map]
  simp (disch := decide) only [checkChoice, readSource, readNumber, readSecrets, readUrls, readArgs,
    readReturnType, Json.given?, other]
  rfl

theorem names_rekeyed (fields : Fields Json) :
    Fields.names (fields.map fun field => (field.1, otherKey wallet receiver field.1 field.2)) =
      Fields.names fields := by
  rw [Fields.names, Fields.names, List.map_map]
  rfl

/-- Other keys are read in place of those that are given, and nothing else is different. -/
theorem read_rekeyed (given : receiver ≠ "") :
    read (Secrets.rekeyed wallet receiver input) = Config.rekeyed wallet receiver <$> read input := by
  cases input with
  | object fields =>
      have same := checkNames_congr
        (show stranger? (fields.map fun field => (field.1, otherKey wallet receiver field.1 field.2)) =
          stranger? fields by rw [stranger?, stranger?, names_rekeyed])
      have options : readFields (Secrets.rekeyed wallet receiver (.object fields)) = _ :=
        readFields_rekeyed wallet receiver given
      rw [Secrets.rekeyed] at options ⊢
      rw [read, read, same, options, map_bind]
  | _ => rfl

theorem keys_rekeyed (config : Config) :
    (config.rekeyed wallet receiver).keys = (fun _ => (wallet, receiver)) <$> config.keys := by
  unfold keys Config.rekeyed
  cases config.walletKey with
  | none => rfl
  | some key => cases config.publicKey <;> rfl

theorem plan_rekeyed (config : Config) :
    (config.rekeyed wallet receiver).plan = Plan.rekeyed wallet receiver <$> config.plan := by
  have urls : (config.rekeyed wallet receiver).secretsUrls = config.secretsUrls := rfl
  have secrets : (config.rekeyed wallet receiver).secrets = config.secrets := rfl
  rw [plan, plan, urls, secrets, keys_rekeyed]
  split
  next => simp only [map_bind, bind_map_left, map_pure, Plan.rekeyed]
  next =>
    split
    next => rfl
    next => rfl
    next => simp only [map_bind, bind_map_left, map_pure, Plan.rekeyed]

end Config

end

/-! ## Before anything is done -/

/-- What is settled before anything is done: the configuration, and what has to be encrypted. -/
def prepare (input : Json) : Except ConfigFault (Config × Plan) := do
  let config ← Config.read input
  let plan ← config.plan
  pure (config, plan)

theorem prepare_rekeyed (wallet : String) {receiver : String} (given : receiver ≠ "") (input : Json) :
    prepare (rekeyed wallet receiver input) =
      (fun both => (both.1.rekeyed wallet receiver, both.2.rekeyed wallet receiver)) <$> prepare input := by
  simp only [prepare, Config.read_rekeyed wallet receiver given, Config.plan_rekeyed, map_bind, bind_map_left,
    map_pure]

theorem prepare_eq_ok_iff {input : Json} {config : Config} {plan : Plan} :
    prepare input = .ok (config, plan) ↔ Config.read input = .ok config ∧ config.plan = .ok plan := by
  constructor
  · intro prepared
    obtain ⟨config', read, prepared⟩ := exists_of_bind_eq_ok prepared
    obtain ⟨plan', planned, prepared⟩ := exists_of_bind_eq_ok prepared
    cases prepared
    exact ⟨read, planned⟩
  · rintro ⟨read, planned⟩
    simp only [prepare, read, planned, bind, Except.bind, pure, Except.pure]

namespace Package

variable {servers : Servers} {draw : Draw} {input : Json} {nodes : List String}

theorem build_of_prepare_error {fault : ConfigFault} (failed : prepare input = .error fault) :
    build servers draw input nodes = ([], .error (.config fault)) := by
  unfold build
  rw [← prepare, failed]

theorem build_of_prepare_ok {config : Config} {plan : Plan} (prepared : prepare input = .ok (config, plan)) :
    build servers draw input nodes = make servers draw config plan nodes := by
  obtain ⟨read, planned⟩ := prepare_eq_ok_iff.1 prepared
  exact build_of_plan read planned

/-- Nothing but what is settled beforehand is put down to the configuration. -/
theorem prepare_of_config_fault {fault : ConfigFault}
    (failed : (build servers draw input nodes).2 = .error (.config fault)) : prepare input = .error fault := by
  cases prepared : prepare input with
  | error other =>
      rw [build_of_prepare_error prepared] at failed
      cases failed
      rfl
  | ok both =>
      rw [build_of_prepare_ok prepared] at failed
      exact absurd failed (unblamed_make _ _ _ _ _ fault)

end Package

/-! ## What is asked for -/

theorem Config.exists_keys_iff (config : Config) :
    (∃ keys, config.keys = .ok keys) ↔ config.walletKey.isSome = true ∧ config.publicKey.isSome = true := by
  unfold keys
  cases config.walletKey <;> cases config.publicKey <;> simp

theorem Config.plan_of_hosted {config : Config} (hosted : config.secretsUrls ≠ []) :
    config.plan = (fun keys => .hosted keys.2 config.secretsUrls) <$> config.keys := by
  rw [plan, if_pos (bne_iff_ne.2 hosted)]
  cases config.keys <;> rfl

theorem Verifier.prefix_fetchAll (verifier : Verifier) (servers : Servers) (before urls : List String) :
    before <+: (verifier.fetchAll servers before urls).1 := by
  induction urls generalizing before with
  | nil => exact List.prefix_rfl
  | cons url rest ih =>
      have first : before <+: before ++ [url] := List.prefix_append _ _
      rw [fetchAll]
      cases verifier.fetch servers before url with
      | error fault => exact first
      | ok hosted => exact first.trans (ih _)

/-- Whoever checks documents asks at least for the first. -/
theorem Verifier.asked_of_check (verifier : Verifier) (servers : Servers) (nodes : List String)
    {urls : List String} (some : urls ≠ []) : (verifier.check servers urls nodes).1 ≠ [] := by
  obtain ⟨url, rest, rfl⟩ := List.exists_cons_of_ne_nil some
  show (verifier.fetchAll servers [] (url :: rest)).1 ≠ []
  rw [fetchAll]
  cases verifier.fetch servers [] url with
  | error fault => exact List.cons_ne_nil _ _
  | ok hosted =>
      have first := verifier.prefix_fetchAll servers [url] rest
      intro none
      have none : (verifier.fetchAll servers [url] rest).1 = [] := none
      rw [none] at first
      cases List.prefix_nil.1 first

theorem Plan.asked_hosted_iff (servers : Servers) (draw : Draw) (nodes : List String) (publicKey : String)
    {urls : List String} (some : urls ≠ []) :
    (carryOut servers draw nodes (.hosted publicKey urls)).1 ≠ [] ↔ nodes ≠ [] := by
  rw [carryOut]
  by_cases without : nodes = []
  · simp [without]
  · simp [without, Verifier.usual.asked_of_check servers nodes some]

namespace Package

variable {servers : Servers} {draw : Draw} {input : Json} {nodes : List String}

theorem asked_iff : (build servers draw input nodes).1 ≠ [] ↔
    nodes ≠ [] ∧ ∃ config, Config.read input = .ok config ∧ config.secretsUrls ≠ [] ∧
      config.walletKey.isSome = true ∧ config.publicKey.isSome = true := by
  constructor
  · intro asked
    cases prepared : prepare input with
    | error fault =>
        rw [build_of_prepare_error prepared] at asked
        exact absurd rfl asked
    | ok both =>
        obtain ⟨config, plan⟩ := both
        obtain ⟨read, planned⟩ := prepare_eq_ok_iff.1 prepared
        rw [build_of_prepare_ok prepared] at asked
        cases Config.plannedFor_of_plan planned with
        | nothing => exact absurd rfl asked
        | inline => exact absurd rfl asked
        | hosted publicKey hosted known =>
            obtain ⟨keys, found, -⟩ := exists_of_bind_eq_ok (Config.plan_of_hosted hosted ▸ planned)
            have given : nodes ≠ [] := (Plan.asked_hosted_iff servers draw nodes publicKey hosted).1 asked
            exact ⟨given, config, read, hosted, config.exists_keys_iff.1 ⟨keys, found⟩⟩
  · rintro ⟨given, config, read, hosted, keys⟩
    obtain ⟨⟨walletKey, publicKey⟩, found⟩ := config.exists_keys_iff.2 keys
    have planned : config.plan = .ok (.hosted publicKey config.secretsUrls) := by
      rw [Config.plan_of_hosted hosted, found]
      rfl
    rw [build_of_plan read planned]
    exact (Plan.asked_hosted_iff servers draw nodes publicKey hosted).2 given

/-- A configuration that is at fault is found out before anything is done. No document was asked for then,
and neither the nodes, the servers and what is drawn nor the keys have a part in the fault: it stays the same
with any others in their place. Documents are asked for if the configuration is in order, there are
addresses and nodes, and both keys are there, and never otherwise. -/
theorem config_fault_first (servers : Servers) (draw : Draw) (input : Json) (nodes : List String) :
    (∀ fault, (build servers draw input nodes).2 = .error (.config fault) →
      (build servers draw input nodes).1 = [] ∧
      ∀ (others : Servers) (drawn : Draw) (addresses : List String),
        build others drawn input addresses = ([], .error (.config fault)) ∧
        ∀ wallet receiver, receiver ≠ "" →
          build others drawn (rekeyed wallet receiver input) addresses = ([], .error (.config fault))) ∧
    ((build servers draw input nodes).1 ≠ [] ↔
      nodes ≠ [] ∧ ∃ config, Config.read input = .ok config ∧ config.secretsUrls ≠ [] ∧
        config.walletKey.isSome = true ∧ config.publicKey.isSome = true) := by
  refine ⟨fun fault failed => ⟨asked_of_config_fault failed, fun others drawn addresses => ?_⟩, asked_iff⟩
  have prepared := prepare_of_config_fault failed
  refine ⟨build_of_prepare_error prepared, fun wallet receiver given => build_of_prepare_error ?_⟩
  rw [prepare_rekeyed wallet given, prepared]
  rfl

/-- Secrets without a key to sign them. -/
example (servers : Servers) (draw : Draw) (nodes : List String) :
    build servers draw (.object [("codeLocation", .integer 0), ("codeLanguage", .integer 0),
      ("source", .string ""), ("secrets", .ofStringFields [("a", "1")])]) nodes =
        ([], .error (.config (.invalid "walletPrivateKey"))) := rfl

end Package

end ScriptOracle.Secrets
