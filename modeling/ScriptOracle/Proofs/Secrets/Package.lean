import ScriptOracle.Proofs.Secrets.Config
import ScriptOracle.Proofs.Secrets.Signing
import ScriptOracle.Secrets.Package

/-!
# What the nodes find in a package

The script and its arguments are sent as they are. Whoever holds the private key of the receiver finds
behind the rest either the addresses of hosted secrets, which were verified before anything was encrypted,
or the secrets themselves in an envelope whose signature names the holder of the wallet.
-/

namespace ScriptOracle.Secrets

open Crypto Crypto.Curve

/-! ## What is planned -/

/-- The plan for a configuration: nothing without secrets, the addresses if there are any, or else the
secrets. -/
inductive Config.PlannedFor (config : Config) : Plan -> Prop
  | nothing (urls : config.secretsUrls = []) (secrets : config.secrets.getD [] = []) :
      PlannedFor config .nothing
  | hosted (publicKey : String) (urls : config.secretsUrls ≠ [])
      (known : config.publicKey = some publicKey) :
      PlannedFor config (.hosted publicKey config.secretsUrls)
  | inline (walletKey publicKey : String) (secrets : Fields String) (urls : config.secretsUrls = [])
      (given : config.secrets = some secrets) (some : secrets ≠ [])
      (held : config.walletKey = .some walletKey) (known : config.publicKey = .some publicKey) :
      PlannedFor config (.inline walletKey publicKey secrets)

theorem Config.keys_eq_ok {config : Config} {walletKey publicKey : String}
    (found : config.keys = .ok (walletKey, publicKey)) :
    config.walletKey = some walletKey ∧ config.publicKey = some publicKey := by
  unfold keys at found
  split at found
  next => cases found
  next => cases found
  next wallet key held known =>
    cases found
    exact ⟨held, known⟩

theorem Config.plannedFor_of_plan {config : Config} {plan : Plan} (planned : config.plan = .ok plan) :
    config.PlannedFor plan := by
  unfold Config.plan at planned
  split at planned
  next given =>
    obtain ⟨⟨walletKey, publicKey⟩, found, built⟩ := exists_of_bind_eq_ok planned
    cases built
    exact .hosted publicKey (bne_iff_ne.1 given) (keys_eq_ok found).2
  next without =>
    have urls : config.secretsUrls = [] := by simpa using without
    split at planned
    next absent =>
      cases planned
      exact .nothing urls (by rw [absent]; rfl)
    next empty =>
      cases planned
      exact .nothing urls (by rw [empty]; rfl)
    next secret more given =>
      obtain ⟨⟨walletKey, publicKey⟩, found, built⟩ := exists_of_bind_eq_ok planned
      cases built
      obtain ⟨held, known⟩ := keys_eq_ok found
      exact .inline walletKey publicKey _ urls given (List.cons_ne_nil _ _) held known

namespace Plan

theorem marked_eq_ok {result : Except EncryptionFault String} {secrets : Option String}
    (done : marked result = .ok secrets) :
    ∃ text, result = .ok text ∧ secrets = some ("0x" ++ text) := by
  cases result with
  | error fault => cases done
  | ok text => exact ⟨text, rfl, (Except.ok.inj done).symm⟩

/-- Hosted secrets that are not verified are not encrypted, whatever is drawn. -/
theorem carryOut_of_check_error {servers : Servers} {nodes urls : List String} {fault : Fault}
    (given : nodes ≠ []) (failed : (Verifier.usual.check servers urls nodes).2 = .error fault)
    (draw : Draw) (publicKey : String) :
    (carryOut servers draw nodes (.hosted publicKey urls)).2 = .error fault := by
  simp only [carryOut, if_neg given, failed]
  rfl

theorem carryOut_hosted_eq_ok {servers : Servers} {draw : Draw} {nodes urls : List String}
    {publicKey : String} {secrets : Option String}
    (done : (carryOut servers draw nodes (.hosted publicKey urls)).2 = .ok secrets) :
    (∃ text, encrypt draw publicKey (joined urls) = .ok text ∧ secrets = some ("0x" ++ text)) ∧
      (nodes ≠ [] → ∃ agreement, (Verifier.usual.check servers urls nodes).2 = .ok agreement) := by
  by_cases without : nodes = []
  · simp only [carryOut, if_pos without, Except.bind] at done
    exact ⟨marked_eq_ok done, fun given => absurd without given⟩
  · cases verified : (Verifier.usual.check servers urls nodes).2 with
    | error fault =>
        rw [carryOut_of_check_error without verified draw publicKey] at done
        cases done
    | ok agreement =>
        simp only [carryOut, if_neg without, verified, Except.bind] at done
        exact ⟨marked_eq_ok done, fun _ => ⟨agreement, rfl⟩⟩

end Plan

/-! ## What is opened -/

/-- The holder of the receiver's key, and what is assumed of the curve for a draw. -/
structure Receives (draw : Draw) (receiver : PrivateKey) (privateText : String) : Prop where
  held : Spells privateText (Word256.bigEndian 32 receiver.value)
  shared : receiver.shared draw.key.publicKey = draw.key.shared receiver.publicKey
  recovered : PublicKey.ofBytes? draw.key.publicKey.compressed = some draw.key.publicKey

/-- What is encrypted is opened however it is spelled. -/
theorem Receives.opens {draw : Draw} {receiver : PrivateKey} {privateText publicText : String}
    (receives : Receives draw receiver privateText)
    (addressed : Key.readPublic publicText = .ok receiver.publicKey) {message text : String}
    (encrypted : encrypt draw publicText message = .ok text) :
    ∃ parts : Sealed, parts.Measured ∧ text = Hexadecimal.encode parts.toBytes ∧
      ∀ spelling, Spells spelling parts.toBytes → Secrets.decrypt privateText spelling = .ok message := by
  obtain ⟨key, found, built⟩ := exists_of_bind_eq_ok encrypted
  cases found.symm.trans addressed
  cases built
  have measured := Sealed.measured_make draw receiver.publicKey (Text.utf8 message)
  exact ⟨_, measured, rfl, fun _ spelled => decrypt_of_spells receives.held measured spelled
    (Sealed.reveal_make _ receives.shared receives.recovered)⟩

theorem Receives.decrypt {draw : Draw} {receiver : PrivateKey} {privateText publicText : String}
    (receives : Receives draw receiver privateText)
    (addressed : Key.readPublic publicText = .ok receiver.publicKey) {message text : String}
    (encrypted : encrypt draw publicText message = .ok text) :
    decrypt privateText ("0x" ++ text) = .ok message := by
  obtain ⟨parts, _, rfl, opened⟩ := receives.opens addressed encrypted
  exact opened _ (spells_marked parts.toBytes)

/-- A signed message is opened to an envelope that holds it and names its signer. -/
theorem Receives.decryptSigned {draw : Draw} {receiver : PrivateKey}
    {privateText publicText walletKey : String} (receives : Receives draw receiver privateText)
    (addressed : Key.readPublic publicText = .ok receiver.publicKey) {message text : String}
    (encrypted : encryptSigned draw walletKey publicText message = .ok text)
    (inverted : ∀ wallet, Key.readPrivate? walletKey = some wallet →
      (Signature.make wallet (digestOf message)).recover? (digestOf message) =
        some wallet.publicKey) :
    ∃ plain signature signer, Secrets.decrypt privateText ("0x" ++ text) = .ok plain ∧
      Envelope.ofText? plain = some ⟨message, some signature⟩ ∧
      Key.publish walletKey = .ok signer ∧ recover message signature = .ok signer := by
  rw [encryptSigned] at encrypted
  obtain ⟨signature, signed, encrypted⟩ := exists_of_bind_eq_ok encrypted
  obtain ⟨signer, published, named⟩ := recover_of_sign signed inverted
  exact ⟨_, signature, signer, receives.decrypt addressed encrypted,
    Envelope.ofText?_compact message signature, published, named⟩

theorem exists_encryptSigned {draw : Draw} {receiver : PublicKey}
    {walletKey publicText message signature : String}
    (signed : sign walletKey message = .ok signature)
    (addressed : Key.readPublic publicText = .ok receiver) :
    ∃ text, encryptSigned draw walletKey publicText message = .ok text := by
  simp only [encryptSigned, signed, encrypt, addressed, bind, Except.bind, pure, Except.pure]
  exact ⟨_, rfl⟩

/-- What the nodes find in a package that was made of a configuration. -/
structure Package.Carries (servers : Servers) (nodes : List String) (privateText : String)
    (config : Config) (package : Package) : Prop where
  source : package.source = config.source
  args : package.args = config.args
  present : package.secrets.isSome ↔ config.secretsUrls ≠ [] ∨ config.secrets.getD [] ≠ []
  hosted : config.secretsUrls ≠ [] →
    (∃ sealed, package.secrets = some sealed ∧
      decrypt privateText sealed = .ok (" ".intercalate config.secretsUrls)) ∧
    (nodes ≠ [] →
      ∃ agreement, (Verifier.usual.check servers config.secretsUrls nodes).2 = .ok agreement)
  inline : config.secretsUrls = [] → ∀ secrets, config.secrets = some secrets → secrets ≠ [] →
    ∃ sealed text message signature walletKey signer,
      package.secrets = some sealed ∧ decrypt privateText sealed = .ok text ∧
      Envelope.ofText? text = some ⟨message, some signature⟩ ∧
      Json.readText message = .ok (.ofStringFields secrets) ∧
      config.walletKey = some walletKey ∧ Key.publish walletKey = .ok signer ∧
      recover message signature = .ok signer

theorem Package.build_of_plan {servers : Servers} {draw : Draw} {input : Json}
    {nodes : List String} {config : Config} {plan : Plan} (read : Config.read input = .ok config)
    (planned : config.plan = .ok plan) :
    build servers draw input nodes = make servers draw config plan nodes := by
  simp only [build, read, planned, bind, Except.bind, pure, Except.pure]

theorem Package.build_inline (servers : Servers) {draw : Draw} {input : Json} (nodes : List String)
    {config : Config} {walletKey publicKey text : String} {secrets : Fields String}
    (read : Config.read input = .ok config)
    (planned : config.plan = .ok (.inline walletKey publicKey secrets))
    (encrypted : encryptSigned draw walletKey publicKey (secretsText secrets) = .ok text) :
    (build servers draw input nodes).2 = .ok ⟨config.source, some ("0x" ++ text), config.args⟩ := by
  rw [build_of_plan read planned]
  simp only [make, Plan.carryOut, encrypted, Plan.marked, Except.map]

theorem Package.build_eq_ok {servers : Servers} {draw : Draw} {input : Json} {nodes : List String}
    {package : Package} (built : (build servers draw input nodes).2 = .ok package) :
    ∃ config plan secrets, Config.read input = .ok config ∧ config.PlannedFor plan ∧
      (plan.carryOut servers draw nodes).2 = .ok secrets ∧
      package = ⟨config.source, secrets, config.args⟩ := by
  unfold build at built
  dsimp only at built
  split at built
  next => cases built
  next config plan prepared =>
    obtain ⟨config', read, prepared⟩ := exists_of_bind_eq_ok prepared
    obtain ⟨plan', planned, prepared⟩ := exists_of_bind_eq_ok prepared
    cases prepared
    cases carried : (plan.carryOut servers draw nodes).2 with
    | error fault =>
        simp only [make, carried] at built
        cases built
    | ok secrets =>
        simp only [make, carried] at built
        exact ⟨config, plan, secrets, read, Config.plannedFor_of_plan planned, carried,
          (Except.ok.inj built).symm⟩

/-- A package that is made at all carries the script, the arguments and the secrets of the configuration it
was made of. -/
theorem carries_of_build (servers : Servers) (draw : Draw) (input : Json) (nodes : List String)
    (package : Package) (built : (Package.build servers draw input nodes).2 = .ok package)
    {receiver : PrivateKey} {privateText : String} (receives : Receives draw receiver privateText)
    (addressed : ∀ text, input.given? "DONPublicKey" = some (.string text) →
      Key.readPublic text = .ok receiver.publicKey)
    (inverted : ∀ walletKey wallet secrets,
      input.get? "walletPrivateKey" = some (.string walletKey) →
      Key.readPrivate? walletKey = some wallet →
      input.given? "secrets" = some (.ofStringFields secrets) →
      let digest := digestOf (secretsText secrets)
      (Signature.make wallet digest).recover? digest = some wallet.publicKey) :
    ∃ config, Config.read input = .ok config ∧ config.ReadFrom input ∧
      package.Carries servers nodes privateText config := by
  obtain ⟨config, plan, secrets, read, planned, carried, rfl⟩ := Package.build_eq_ok built
  have options := Config.readFrom_of_read read
  refine ⟨config, read, options, ?_⟩
  have addressed' : ∀ publicKey, config.publicKey = some publicKey →
      Key.readPublic publicKey = .ok receiver.publicKey := by
    intro publicKey known
    refine addressed publicKey ?_
    rw [options.publicKey, known, Option.map_some]
  cases planned with
  | nothing urls none =>
      cases carried
      exact {
        source := rfl
        args := rfl
        present := by simp [urls, none]
        hosted := fun given => absurd urls given
        inline := fun _ secrets given some => absurd (by rwa [given] at none) some }
  | hosted publicKey given known =>
      obtain ⟨⟨text, encrypted, rfl⟩, verified⟩ := Plan.carryOut_hosted_eq_ok carried
      exact {
        source := rfl
        args := rfl
        present := by simp [given]
        hosted := fun _ => ⟨⟨_, rfl, receives.decrypt (addressed' publicKey known) encrypted⟩, verified⟩
        inline := fun none => absurd none given }
  | inline walletKey publicKey inlined urls given some held known =>
      simp only [Plan.carryOut] at carried
      obtain ⟨text, encrypted, rfl⟩ := Plan.marked_eq_ok carried
      -- The plan has the secrets in order and the input may not, but both make the same text to sign.
      obtain ⟨fields, written, sorted⟩ := options.secrets
      obtain ⟨fields, rfl, rfl⟩ := Option.map_eq_some_iff.1 (sorted.symm.trans given)
      have wallet : input.get? "walletPrivateKey" = .some (.string walletKey) := by
        obtain ⟨value, found, string⟩ := Option.bind_eq_some_iff.1 (options.walletKey.trans held)
        rw [found, Json.eq_of_asString? string]
      obtain ⟨plain, signature, signer, opened, envelope, published, named⟩ :=
        receives.decryptSigned (addressed' publicKey known) encrypted fun holder read =>
          secretsText_sorted fields ▸ inverted walletKey holder fields wallet read written
      exact {
        source := rfl
        args := rfl
        present := by simp [given, some]
        hosted := fun many => absurd urls many
        inline := by
          intro _ secrets same _
          cases given.symm.trans same
          exact ⟨_, plain, _, signature, walletKey, signer, rfl, opened, envelope,
            readText_secretsText (Fields.ascending_sorted fields), held, published, named⟩ }

/-! ## An example -/

def exampleWalletText : String :=
  "33333333333333333333333333333332f222f8faefdb533f265d461c29a47373"

def exampleReceiverText : String :=
  "024c7ff4f2ba8603998339c8e42675ceac23ef2e9623fdb260b24b1c944a2ea1a9"

/-- A configuration with secrets, for a wallet and a receiver whose keys are known. -/
def exampleConfig : Config where
  source := "return Functions.encodeString(secrets.a)"
  args := some ["one"]
  secrets := some (Fields.sorted exampleSecrets)
  secretsUrls := []
  walletKey := some exampleWalletText
  publicKey := some exampleReceiverText
  maxResponseBytes := none
  quota := none
  returnType := none

def exampleInput : Json := .object [
  ("codeLocation", .string "Inline"), ("codeLanguage", .string "JavaScript"),
  ("source", .string "return Functions.encodeString(secrets.a)"), ("args", .ofStrings ["one"]),
  ("secrets", .ofStringFields exampleSecrets), ("walletPrivateKey", .string exampleWalletText),
  ("DONPublicKey", .string exampleReceiverText)]

theorem read_exampleInput : Config.read exampleInput = .ok exampleConfig := rfl

theorem plan_exampleConfig : exampleConfig.plan =
    .ok (.inline exampleWalletText exampleReceiverText (Fields.sorted exampleSecrets)) := rfl

theorem spells_exampleWalletText :
    Spells exampleWalletText (Word256.bigEndian 32 exampleWallet.value) := by
  have digits : exampleWalletText = Hexadecimal.encode (Word256.bigEndian 32 exampleWallet.value) := by
    decide +kernel
  exact digits ▸ spells_encode _

theorem spells_exampleReceiverText :
    Spells exampleReceiverText largeKey.publicKey.compressed := by
  have digits : exampleReceiverText = Hexadecimal.encode largeKey.publicKey.compressed := by
    decide +kernel
  exact digits ▸ spells_encode _

theorem readPrivate?_exampleWalletText :
    Key.readPrivate? exampleWalletText = some exampleWallet :=
  Key.readPrivate?_of_spells spells_exampleWalletText

theorem readPublic_exampleReceiverText :
    Key.readPublic exampleReceiverText = .ok largeKey.publicKey := by
  have recovered : PublicKey.ofBytes? largeKey.publicKey.compressed = some largeKey.publicKey := by
    decide +kernel
  exact Key.readPublic_of_spells (Key.coordinates_lt largeKey) recovered
    (show largeKey.publicKey.compressed ∈ _ by simp [Key.forms]) spells_exampleReceiverText

theorem sign_exampleWalletText :
    sign exampleWalletText (secretsText (Fields.sorted exampleSecrets)) =
      .ok (signatureText exampleSignature) := by
  have made : Signature.make exampleWallet (digestOf (secretsText (Fields.sorted exampleSecrets))) =
      exampleSignature := by
    rw [secretsText_sorted, make_exampleWallet]
  exact sign_of_make readPrivate?_exampleWalletText made (by decide) (by decide)

/-- The package of the example is made, and its secrets are opened. -/
theorem carries_of_build_example :
    let servers : Servers := ⟨fun _ _ _ => .timedOut⟩
    let privateText := Hexadecimal.encode (Word256.bigEndian 32 largeKey.value)
    Receives ascendingDraw largeKey privateText ∧
    ∃ package, (Package.build servers ascendingDraw exampleInput []).2 = .ok package ∧
      ∃ config, Config.read exampleInput = .ok config ∧ config.ReadFrom exampleInput ∧
        package.Carries servers [] privateText config := by
  intro servers privateText
  have receives : Receives ascendingDraw largeKey privateText :=
    ⟨spells_encode _, by decide +kernel, by decide +kernel⟩
  obtain ⟨text, encrypted⟩ : ∃ text, encryptSigned ascendingDraw exampleWalletText
      exampleReceiverText (secretsText (Fields.sorted exampleSecrets)) = .ok text :=
    exists_encryptSigned sign_exampleWalletText readPublic_exampleReceiverText
  have built := Package.build_inline servers [] read_exampleInput plan_exampleConfig encrypted
  refine ⟨receives, _, built, carries_of_build _ _ _ _ _ built receives ?_ ?_⟩
  · intro text given
    cases given
    exact readPublic_exampleReceiverText
  · intro walletKey wallet secrets given read written
    cases given
    cases readPrivate?_exampleWalletText.symm.trans read
    cases Json.ofStringFields_inj (Option.some.inj written)
    dsimp only
    rw [make_exampleWallet, recover?_exampleSignature]

end ScriptOracle.Secrets
