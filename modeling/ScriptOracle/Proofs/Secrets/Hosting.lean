import ScriptOracle.Proofs.Secrets.Package
import ScriptOracle.Proofs.Secrets.Verdict
import ScriptOracle.Proofs.Text.Base64

/-!
# What is found where secrets are hosted

The document that is made for secrets has one entry, which counts for every node. Whoever holds the private
key of the receiver opens it to the secrets and learns who signed them. Hosted anywhere, the document passes
the check for any nodes, with a warning for each that has another address than the entry.
-/

namespace ScriptOracle.Secrets

open Crypto Crypto.Curve

/-! ## One document at many addresses -/

open Hosted (covers coversAll fallbacks Passes)

theorem check_of_coversAll {document : Json} (all : coversAll document = true) (urls nodes : List String) :
    Agreement.check (urls.map (⟨·, document⟩)) nodes =
      .ok ⟨urls.length, urls.flatMap fun url => fallbacks nodes ⟨url, document⟩⟩ := by
  have same : ∀ hosted ∈ urls.map (Hosted.mk · document), hosted.document = document := by
    intro hosted member
    obtain ⟨url, _, rfl⟩ := List.mem_map.1 member
    rfl
  have passed : ∀ first ∈ (urls.map (Hosted.mk · document)).head?,
      ∀ hosted ∈ urls.map (Hosted.mk · document), Passes first.document nodes hosted.document := by
    intro first leads hosted member
    rw [same hosted member, same first (List.mem_of_mem_head? leads)]
    exact ⟨rfl, fun _ _ => .inr ((Hosted.hasDefault_iff document).2 all)⟩
  rw [check_of_passed passed, List.length_map, List.flatMap_map]

/-! ## The entry for every node -/

def documentOf (entry : String) : Json := .object [("0x0", .string entry)]

theorem coversAll_documentOf {entry : String} (some : entry ≠ "") :
    coversAll (documentOf entry) = true := by
  have found : (documentOf entry).get? defaultEntry = .some (.string entry) := rfl
  rw [coversAll, Json.given?, found, Option.filter_some_pos (Json.isGiven_string some)]
  rfl

theorem asciiLowerCase_eq_defaultEntry (address : String) :
    Text.asciiLowerCase address = defaultEntry ↔ address = "0x0" ∨ address = "0X0" := by
  constructor
  · intro small
    have letters : address.toList.map Text.asciiLower = ['0', 'x', '0'] := by
      have same := congrArg String.toList small
      rwa [Text.asciiLowerCase, String.toList_ofList] at same
    obtain ⟨first, _, spelled, zero, letters⟩ := List.map_eq_cons_iff.1 letters
    obtain ⟨mark, _, rfl, x, letters⟩ := List.map_eq_cons_iff.1 letters
    obtain ⟨last, _, rfl, zero', letters⟩ := List.map_eq_cons_iff.1 letters
    obtain rfl := List.map_eq_nil_iff.1 letters
    obtain rfl : first = '0' := (Text.eq_or_eq_asciiUpper zero).elim id id
    obtain rfl : last = '0' := (Text.eq_or_eq_asciiUpper zero').elim id id
    obtain rfl | rfl := Text.eq_or_eq_asciiUpper x
    · exact .inl (String.toList_inj.1 spelled)
    · exact .inr (String.toList_inj.1 spelled)
  · rintro (rfl | rfl) <;> rfl

theorem covers_documentOf {entry : String} (some : entry ≠ "") (address : String) :
    covers (documentOf entry) (Text.lowerCase address) = true ↔ address = "0x0" ∨ address = "0X0" := by
  have own : ∀ c ∈ defaultEntry.toList, Text.IsOwn c := by
    simp [defaultEntry, Text.IsOwn]
  have name : Text.asciiLowerCase "0x0" = defaultEntry := rfl
  rw [← asciiLowerCase_eq_defaultEntry, ← Text.asciiLowerCase_lowerCase own]
  simp only [covers, documentOf, Hosted.entryOf?, List.find?_cons, Text.sameIgnoringAsciiCase, name]
  by_cases same : Text.asciiLowerCase (Text.lowerCase address) = defaultEntry
  · simp [same, Json.isGiven_string some]
  · have other : (defaultEntry == Text.asciiLowerCase (Text.lowerCase address)) = false :=
      beq_false_of_ne (Ne.symm same)
    simp [same, other]

/-- Everyone is warned of the entry but the nodes that have its name for an address. -/
theorem check_documentOf {entry : String} (some : entry ≠ "") (urls nodes : List String) :
    Agreement.check (urls.map (⟨·, documentOf entry⟩)) nodes =
      .ok ⟨urls.length, urls.flatMap fun url =>
        (nodes.filter fun address => address ≠ "0x0" ∧ address ≠ "0X0").map
          fun address => ⟨url, Text.lowerCase address⟩⟩ := by
  have others : ∀ address, (!covers (documentOf entry) (Text.lowerCase address)) =
      decide (address ≠ "0x0" ∧ address ≠ "0X0") := by
    intro address
    rw [Bool.eq_iff_iff, Bool.not_eq_true', Bool.eq_false_iff, ne_eq, covers_documentOf some, not_or,
      decide_eq_true_iff]
  simp only [check_of_coversAll (coversAll_documentOf some), fallbacks, others]

/-! ## What the entry holds -/

theorem toBytes_ne_nil {parts : Sealed} (measured : parts.Measured) : parts.toBytes ≠ [] := by
  have start := measured.start
  intro none
  simp only [Sealed.toBytes, List.append_eq_nil_iff] at none
  simp [none.1.1.1] at start

theorem hostedDocument_of_encryptSigned {draw : Draw} {walletText publicText : String}
    {secrets : Fields String} {bytes : Bytes}
    (encrypted : encryptSigned draw walletText publicText (secretsText secrets) =
      .ok (Hexadecimal.encode bytes)) :
    hostedDocument draw walletText publicText secrets = .ok (documentOf (Base64.encode bytes)) := by
  have read : Hexadecimal.decodeText (Hexadecimal.encode bytes) = .ok bytes :=
    Hexadecimal.decodeText_of_writes (Hexadecimal.writes_digits bytes)
  simp only [hostedDocument, encrypted, bind, Except.bind, read]
  rfl

/-- What the holder of a private key finds in an entry: the secrets, signed by the holder of a wallet. -/
def EntryOpens (privateText walletText : String) (secrets : Fields String) (entry : String) : Prop :=
  ∃ bytes text message signature signer, Base64.decodeText entry = .ok bytes ∧
    decrypt privateText (Hexadecimal.encode bytes) = .ok text ∧
    Envelope.ofText? text = some ⟨message, some signature⟩ ∧
    Json.readText message = .ok (.ofStringFields (Fields.sorted secrets)) ∧
    Key.publish walletText = .ok signer ∧ recover message signature = .ok signer

theorem exists_hostedDocument {wallet receiver : PrivateKey} {draw : Draw} {secrets : Fields String}
    {walletText privateText publicText : String} (signs : Signs wallet (secretsText secrets))
    (receives : Receives draw receiver privateText) (held : Key.readPrivate? walletText = some wallet)
    (addressed : Key.readPublic publicText = .ok receiver.publicKey) :
    ∃ entry, hostedDocument draw walletText publicText secrets = .ok (documentOf entry) ∧
      entry ≠ "" ∧ EntryOpens privateText walletText secrets entry := by
  have signed := signs.sign held
  obtain ⟨text, encrypted⟩ := exists_encryptSigned signed addressed
  obtain ⟨signature, same, sealed⟩ := exists_of_bind_eq_ok encrypted
  cases signed.symm.trans same
  -- From here on the layers come off in the order in which they were put on, each by its own lemma.
  obtain ⟨parts, measured, rfl, opened⟩ := receives.opens addressed sealed
  have read := readText_secretsText (Fields.ascending_sorted secrets)
  rw [secretsText_sorted] at read
  have named := recover_signatureText signs.isScalar.1 signs.isScalar.2 signs.inverted
  exact ⟨_, hostedDocument_of_encryptSigned encrypted,
    Base64.encode_ne_empty (toBytes_ne_nil measured),
    _, _, _, _, _, Base64.decodeText_encode _, opened _ (spells_encode _),
    Envelope.ofText?_compact _ _, read, publish_of_readPrivate? held, named⟩

/-- The document that is made for secrets opens to the secrets and their signer, and it passes the check
wherever it is hosted. -/
theorem hosted_secrets_open (wallet receiver : PrivateKey) (draw : Draw) (secrets : Fields String)
    {walletText privateText publicText : String} {form : Bytes}
    (signs : Signs wallet (secretsText secrets)) (receives : Receives draw receiver privateText)
    (recovered : PublicKey.ofBytes? receiver.publicKey.compressed = some receiver.publicKey)
    (held : Spells walletText (Word256.bigEndian 32 wallet.value))
    (listed : form ∈ Key.forms receiver.publicKey) (known : Spells publicText form) :
    (secrets.Ascending → Fields.sorted secrets = secrets) ∧
    ∃ entry,
      hostedDocument draw walletText publicText secrets = .ok (.object [("0x0", .string entry)]) ∧
      EntryOpens privateText walletText secrets entry ∧
      ∀ urls nodes : List String,
        Agreement.check (urls.map (⟨·, .object [("0x0", .string entry)]⟩)) nodes =
          .ok ⟨urls.length, urls.flatMap fun url =>
            (nodes.filter fun address => address ≠ "0x0" ∧ address ≠ "0X0").map
              fun address => ⟨url, Text.lowerCase address⟩⟩ := by
  obtain ⟨entry, made, some, opens⟩ := exists_hostedDocument signs receives
    (Key.readPrivate?_of_spells held)
    (Key.readPublic_of_spells (Key.coordinates_lt receiver) recovered listed known)
  exact ⟨Fields.sorted_of_ascending, entry, made, opens, check_documentOf some⟩

theorem receives_largeKey :
    Receives ascendingDraw largeKey (Hexadecimal.encode (Word256.bigEndian 32 largeKey.value)) :=
  ⟨spells_encode _, by decide +kernel, by decide +kernel⟩

/-- The secrets of the example at two addresses, for a node of another address and one with that of the
entry. -/
theorem hosted_secrets_open_twice :
    let privateText := Hexadecimal.encode (Word256.bigEndian 32 largeKey.value)
    let form := largeKey.publicKey.compressed
    Signs exampleWallet (secretsText exampleSecrets) ∧ Receives ascendingDraw largeKey privateText ∧
    PublicKey.ofBytes? form = some largeKey.publicKey ∧
    Spells exampleWalletText (Word256.bigEndian 32 exampleWallet.value) ∧
    form ∈ Key.forms largeKey.publicKey ∧ Spells exampleReceiverText form ∧
    ∃ entry, hostedDocument ascendingDraw exampleWalletText exampleReceiverText exampleSecrets =
        .ok (.object [("0x0", .string entry)]) ∧
      EntryOpens privateText exampleWalletText exampleSecrets entry ∧
      Agreement.check [⟨"https://a", .object [("0x0", .string entry)]⟩,
          ⟨"https://b", .object [("0x0", .string entry)]⟩] ["0xAb", "0x0"] =
        .ok ⟨2, [⟨"https://a", "0xab"⟩, ⟨"https://b", "0xab"⟩]⟩ := by
  intro privateText form
  have recovered : PublicKey.ofBytes? form = some largeKey.publicKey := by decide +kernel
  have listed : form ∈ Key.forms largeKey.publicKey := by simp [Key.forms, form]
  obtain ⟨_, entry, made, opens, passes⟩ := hosted_secrets_open exampleWallet largeKey ascendingDraw
    exampleSecrets signs_exampleWallet receives_largeKey recovered spells_exampleWalletText listed
    spells_exampleReceiverText
  exact ⟨signs_exampleWallet, receives_largeKey, recovered, spells_exampleWalletText, listed,
    spells_exampleReceiverText, entry, made, opens,
    passes ["https://a", "https://b"] ["0xAb", "0x0"]⟩

/-- Addresses are told apart without regard to the case of letters, so a node with the other spelling of the
entry is not warned of. -/
theorem no_warning_for_other_spelling :
    ∃ document, hostedDocument ascendingDraw exampleWalletText exampleReceiverText exampleSecrets =
        .ok document ∧ "0X0" ≠ "0x0" ∧
      Agreement.check [⟨"https://a", document⟩] ["0X0"] = .ok ⟨1, []⟩ ∧
      Agreement.check [⟨"https://a", document⟩] ["0X0"] ≠
        .ok ⟨1, [⟨"https://a", Text.lowerCase "0X0"⟩]⟩ := by
  obtain ⟨entry, made, some, _⟩ := exists_hostedDocument signs_exampleWallet receives_largeKey
    readPrivate?_exampleWalletText readPublic_exampleReceiverText
  have passes : Agreement.check [⟨"https://a", documentOf entry⟩] ["0X0"] = .ok ⟨1, []⟩ :=
    check_documentOf some ["https://a"] ["0X0"]
  refine ⟨documentOf entry, made, by decide, passes, ?_⟩
  rw [passes]
  decide

end ScriptOracle.Secrets
