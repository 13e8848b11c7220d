import ScriptOracle.Proofs.Except
import ScriptOracle.Proofs.Secrets.Hosting

/-!
# What can be opened

The parts of what was sent are cut off one behind the other, and nothing is cut that is not there. The body
is opened to a text only if it is what enciphering the text gives, and the voucher has to be the one for
this body. A private key, a start, a fresh key and a text therefore leave one way to write what was sent.
-/

namespace ScriptOracle.Secrets

open Crypto Crypto.Curve

/-! ## Cuts -/

/-- Bytes cut in two behind the first so many; nothing if there are fewer. -/
def cutAt? (count : Nat) (bytes : Bytes) : Option (Bytes × Bytes) :=
  if count ≤ bytes.length then some (bytes.take count, bytes.drop count) else none

theorem cutAt?_eq_some_iff {count : Nat} {bytes front rest : Bytes} :
    cutAt? count bytes = some (front, rest) ↔ bytes = front ++ rest ∧ front.length = count := by
  unfold cutAt?
  constructor
  · intro found
    split at found
    next enough =>
      cases found
      exact ⟨(List.take_append_drop count bytes).symm, List.length_take_of_le enough⟩
    next => cases found
  · rintro ⟨rfl, rfl⟩
    rw [if_pos (by simp), List.take_left, List.drop_left]

namespace Sealed

/-- The parts of bytes, each cut off from what is left by the one before. -/
def cut? (bytes : Bytes) : Option Sealed := do
  let (start, rest) ← cutAt? 16 bytes
  let (point, rest) ← cutAt? 33 rest
  let (tag, body) ← cutAt? 32 rest
  pure ⟨start, point, tag, body⟩

theorem cut?_toBytes {parts : Sealed} (measured : parts.Measured) : cut? parts.toBytes = some parts := by
  obtain ⟨start, point, tag, _⟩ := measured
  have first : cutAt? 16 parts.toBytes =
      some (parts.start, parts.point ++ (parts.tag ++ parts.body)) :=
    cutAt?_eq_some_iff.2 ⟨by simp only [toBytes, List.append_assoc], start⟩
  have second : cutAt? 33 (parts.point ++ (parts.tag ++ parts.body)) =
      some (parts.point, parts.tag ++ parts.body) := cutAt?_eq_some_iff.2 ⟨rfl, point⟩
  have third : cutAt? 32 (parts.tag ++ parts.body) = some (parts.tag, parts.body) :=
    cutAt?_eq_some_iff.2 ⟨rfl, tag⟩
  simp only [cut?, first, second, third, Option.bind_eq_bind, Option.bind_some, pure]

theorem ofBytes?_eq_some_iff {bytes : Bytes} {parts : Sealed} :
    ofBytes? bytes = some parts ↔ parts.Measured ∧ parts.toBytes = bytes := by
  constructor
  · intro read
    unfold ofBytes? at read
    split at read
    · cases read
    next long =>
      cases read
      simp only [minimum, Nat.not_lt] at long
      have tail : (bytes.drop 49).take 32 ++ bytes.drop 81 = bytes.drop 49 := by
        rw [show 81 = 49 + 32 from rfl, ← List.drop_drop, List.take_append_drop]
      have rest : (bytes.drop 16).take 33 ++ bytes.drop 49 = bytes.drop 16 := by
        rw [show 49 = 16 + 33 from rfl, ← List.drop_drop, List.take_append_drop]
      refine ⟨⟨?_, ?_, ?_, ?_⟩, ?_⟩
      · simp only [List.length_take]
        omega
      · simp only [List.length_take, List.length_drop]
        omega
      · simp only [List.length_take, List.length_drop]
        omega
      · simp only [List.length_drop]
        omega
      · rw [toBytes, List.append_assoc, List.append_assoc, tail, rest, List.take_append_drop]
  · rintro ⟨measured, rfl⟩
    exact ofBytes?_toBytes measured

theorem minimum_le_length_toBytes {parts : Sealed} (measured : parts.Measured) :
    minimum ≤ parts.toBytes.length := by
  obtain ⟨start, point, tag, body⟩ := measured
  simp only [toBytes, List.length_append, start, point, tag, minimum]
  omega

end Sealed

/-- Decrypts a message like `decrypt`, and comes to nothing where a cut would be behind the end of the
bytes that the text stands for. -/
def decryptWithin (privateKey text : String) : Option (Except DecryptionFault String) :=
  match Key.readPrivate? privateKey, Key.readBytes text with
  | none, _ => some (.error .badPrivateKey)
  | some _, .error fault => some (.error (.notHex fault))
  | some receiver, .ok bytes =>
    if bytes.length < Sealed.minimum then some (.error .tooShort)
    else do
      let parts ← Sealed.cut? bytes
      pure (parts.reveal receiver >>= plainText)

theorem decryptWithin_eq (privateText text : String) :
    decryptWithin privateText text = some (decrypt privateText text) := by
  unfold decryptWithin decrypt readSealed
  cases Key.readPrivate? privateText with
  | none => rfl
  | some receiver =>
      cases Key.readBytes text with
      | error fault => rfl
      | ok bytes =>
          dsimp only
          by_cases short : bytes.length < Sealed.minimum
          · rw [if_pos short, Sealed.ofBytes?, if_pos short]
            rfl
          · rw [if_neg short]
            obtain ⟨parts, read⟩ : ∃ parts, Sealed.ofBytes? bytes = some parts := by
              rw [Sealed.ofBytes?, if_neg short]
              exact ⟨_, rfl⟩
            obtain ⟨measured, rfl⟩ := Sealed.ofBytes?_eq_some_iff.1 read
            rw [Sealed.cut?_toBytes measured, read]
            rfl

/-! ## Faults -/

/-- What can be wrong with a text that is to be opened. -/
inductive Unopened : DecryptionFault -> Prop
  | badPrivateKey : Unopened .badPrivateKey
  | notHex (fault : Hexadecimal.Fault) : Unopened (.notHex fault)
  | tooShort : Unopened .tooShort
  | badEphemeralKey : Unopened .badEphemeralKey
  | badTag : Unopened .badTag
  | badPadding : Unopened .badPadding
  | notUtf8 : Unopened .notUtf8

theorem unopened_readSealed {text : String} {fault : DecryptionFault}
    (failed : readSealed text = .error fault) : Unopened fault := by
  unfold readSealed at failed
  split at failed
  · cases failed
    exact .notHex _
  · split at failed
    · cases failed
      exact .tooShort
    · cases failed

theorem Sealed.unopened_reveal {parts : Sealed} {receiver : PrivateKey} {fault : DecryptionFault}
    (failed : parts.reveal receiver = .error fault) : Unopened fault := by
  unfold reveal at failed
  split at failed
  · cases failed
    exact .badEphemeralKey
  · dsimp only at failed
    split at failed
    · cases failed
      exact .badTag
    · split at failed
      · cases failed
        exact .badPadding
      · cases failed

theorem unopened_decrypt {privateText text : String} {fault : DecryptionFault}
    (failed : decrypt privateText text = .error fault) : Unopened fault := by
  unfold decrypt at failed
  split at failed
  · cases failed
    exact .badPrivateKey
  · rcases or_of_bind_eq_error failed with unread | ⟨parts, _, failed⟩
    · exact unopened_readSealed unread
    · rcases or_of_bind_eq_error failed with unrevealed | ⟨plain, _, failed⟩
      · exact Sealed.unopened_reveal unrevealed
      · unfold plainText at failed
        split at failed
        · cases failed
        · cases failed
          exact .notUtf8

/-! ## Texts that are opened -/

/-- Parts are revealed as a text exactly if their body is the enciphered text and their tag the one for it. -/
theorem Sealed.reveal_eq_ok_iff {parts : Sealed} {receiver : PrivateKey} {plain : Bytes} :
    parts.reveal receiver = .ok plain ↔ ∃ point, PublicKey.ofBytes? parts.point = some point ∧
      parts.body = Chain.encipher (derivedKeys (receiver.shared point)).1 parts.start plain ∧
      parts.tag = tagOf (derivedKeys (receiver.shared point)).2 parts.start point parts.body := by
  unfold reveal
  cases PublicKey.ofBytes? parts.point with
  | none => exact ⟨nofun, nofun⟩
  | some point =>
      simp only [Option.some.injEq, exists_eq_left', ← Chain.decipher?_eq_some_iff, bne_iff_ne, ne_eq]
      by_cases vouched : tagOf (derivedKeys (receiver.shared point)).2 parts.start point parts.body =
          parts.tag
      · rw [if_neg (not_not_intro vouched), and_iff_left vouched.symm]
        cases Chain.decipher? (derivedKeys (receiver.shared point)).1 parts.start parts.body with
        | none => exact ⟨nofun, nofun⟩
        | some text => exact ⟨fun same => congrArg some (Except.ok.inj same), fun same =>
            congrArg Except.ok (Option.some.inj same)⟩
      · rw [if_pos vouched]
        exact ⟨nofun, fun both => absurd both.2.symm vouched⟩

theorem readSealed_eq_ok_iff {text : String} {parts : Sealed} :
    readSealed text = .ok parts ↔ Key.readBytes text = .ok parts.toBytes ∧ parts.Measured := by
  unfold readSealed
  cases Key.readBytes text with
  | error fault => exact ⟨nofun, nofun⟩
  | ok bytes =>
      dsimp only
      rw [Except.ok.injEq, and_comm, @eq_comm _ bytes, ← Sealed.ofBytes?_eq_some_iff]
      cases Sealed.ofBytes? bytes with
      | none => exact ⟨nofun, nofun⟩
      | some others => exact ⟨fun same => congrArg some (Except.ok.inj same), fun same =>
          congrArg Except.ok (Option.some.inj same)⟩

theorem plainText_eq_ok_iff {bytes : Bytes} {text : String} :
    plainText bytes = .ok text ↔ bytes = Text.utf8 text := by
  unfold plainText
  constructor
  · intro known
    split at known
    next read =>
      cases known
      exact (Text.utf8_of_ofUtf8? read).symm
    next => cases known
  · rintro rfl
    rw [Text.ofUtf8?_utf8]

theorem decrypt_eq_ok_iff {privateText text message : String} :
    decrypt privateText text = .ok message ↔ ∃ (receiver : PrivateKey) (parts : Sealed),
      Key.readPrivate? privateText = some receiver ∧ Key.readBytes text = .ok parts.toBytes ∧
        parts.Measured ∧ parts.reveal receiver = .ok (Text.utf8 message) := by
  constructor
  · intro opened
    unfold decrypt at opened
    split at opened
    · cases opened
    next receiver held =>
      obtain ⟨parts, read, opened⟩ := exists_of_bind_eq_ok opened
      obtain ⟨plain, revealed, opened⟩ := exists_of_bind_eq_ok opened
      obtain ⟨spelled, measured⟩ := readSealed_eq_ok_iff.1 read
      exact ⟨receiver, parts, held, spelled, measured, plainText_eq_ok_iff.1 opened ▸ revealed⟩
  · rintro ⟨receiver, parts, held, spelled, measured, revealed⟩
    simp only [decrypt, held, readSealed_eq_ok_iff.2 ⟨spelled, measured⟩, bind, Except.bind, revealed,
      plainText_eq_ok_iff.2 rfl]

/-- Whether a private key opens bytes to a message, in some spelling. -/
def Opens (privateText : String) (bytes : Bytes) (message : String) : Prop :=
  ∃ text, Key.readBytes text = .ok bytes ∧ decrypt privateText text = .ok message

theorem Opens.exists_sealed {privateText message : String} {bytes : Bytes}
    (opened : Opens privateText bytes message) :
    ∃ (receiver : PrivateKey) (parts : Sealed),
      Key.readPrivate? privateText = some receiver ∧ bytes = parts.toBytes ∧
      parts.Measured ∧ parts.reveal receiver = .ok (Text.utf8 message) := by
  obtain ⟨text, spelled, opened⟩ := opened
  obtain ⟨receiver, parts, held, read, measured, revealed⟩ := decrypt_eq_ok_iff.1 opened
  exact ⟨receiver, parts, held, Except.ok.inj (spelled.symm.trans read), measured, revealed⟩

/-! ## One way to write it -/

namespace Sealed

variable {parts others : Sealed}

theorem take_toBytes (measured : parts.Measured) : parts.toBytes.take 49 = parts.start ++ parts.point := by
  have front : (parts.start ++ parts.point).length = 49 := by
    rw [List.length_append, measured.start, measured.point]
  rw [toBytes, List.append_assoc, List.take_left' front]

theorem drop_toBytes (measured : parts.Measured) : parts.toBytes.drop 81 = parts.body := by
  have front : (parts.start ++ parts.point ++ parts.tag).length = 81 := by
    rw [List.length_append, List.length_append, measured.start, measured.point, measured.tag]
  rw [toBytes, List.drop_left' front]

theorem front_inj (measured : parts.Measured) (measured' : others.Measured)
    (same : parts.toBytes.take 49 = others.toBytes.take 49) :
    parts.start = others.start ∧ parts.point = others.point := by
  rw [take_toBytes measured, take_toBytes measured'] at same
  exact List.append_inj same (measured.start.trans measured'.start.symm)

variable {receiver : PrivateKey} {plain plain' : Bytes}

theorem eq_of_body (revealed : parts.reveal receiver = .ok plain)
    (revealed' : others.reveal receiver = .ok plain') (starts : parts.start = others.start)
    (points : parts.point = others.point) (bodies : parts.body = others.body) : parts = others := by
  obtain ⟨point, found, _, tag⟩ := reveal_eq_ok_iff.1 revealed
  obtain ⟨point', found', _, tag'⟩ := reveal_eq_ok_iff.1 revealed'
  cases found.symm.trans (points ▸ found')
  have tags : parts.tag = others.tag := by rw [tag, tag', starts, bodies]
  cases parts
  cases others
  exact Sealed.mk.injEq .. ▸ ⟨starts, points, tags, bodies⟩

/-- With the same start and fresh key, a text is revealed from one body only. -/
theorem eq_of_plain (revealed : parts.reveal receiver = .ok plain)
    (revealed' : others.reveal receiver = .ok plain) (starts : parts.start = others.start)
    (points : parts.point = others.point) : parts = others := by
  obtain ⟨point, found, body, _⟩ := reveal_eq_ok_iff.1 revealed
  obtain ⟨point', found', body', _⟩ := reveal_eq_ok_iff.1 revealed'
  cases found.symm.trans (points ▸ found')
  exact eq_of_body revealed revealed' starts points (by rw [body, body', starts])

theorem exists_blocks (revealed : parts.reveal receiver = .ok plain) :
    ∃ count, 0 < count ∧ parts.body.length = 16 * count := by
  obtain ⟨point, _, body, _⟩ := reveal_eq_ok_iff.1 revealed
  have some := Chain.width_le_length_padded plain
  obtain ⟨count, length⟩ := Chain.dvd_length_padded plain
  rw [length, Chain.width] at some
  refine ⟨count, by omega, ?_⟩
  rw [body, Chain.length_encipher, length, Chain.width]

end Sealed

/-- Bytes that are opened with one key, and have one start and one fresh key, differ in tag and body only. -/
theorem Opens.exists_pair {privateText message other : String} {bytes others : Bytes}
    (opened : Opens privateText bytes message) (opened' : Opens privateText others other)
    (front : bytes.take 49 = others.take 49) :
    ∃ (receiver : PrivateKey) (parts parts' : Sealed),
      (bytes = parts.toBytes ∧ parts.Measured ∧ parts.reveal receiver = .ok (Text.utf8 message)) ∧
      (others = parts'.toBytes ∧ parts'.Measured ∧ parts'.reveal receiver = .ok (Text.utf8 other)) ∧
      parts.start = parts'.start ∧ parts.point = parts'.point := by
  obtain ⟨receiver, parts, held, rfl, measured, revealed⟩ := opened.exists_sealed
  obtain ⟨receiver', parts', held', rfl, measured', revealed'⟩ := opened'.exists_sealed
  cases held.symm.trans held'
  exact ⟨receiver, parts, parts', ⟨rfl, measured, revealed⟩, ⟨rfl, measured', revealed'⟩,
    Sealed.front_inj measured measured' front⟩

/-- No text is read beyond its end, and one that is not opened has a fault of its own. One that is opened
holds at least one whole block behind its tag. What it was sealed with and the message fix every byte of it:
another tag, or another body with another tag, is not opened to the same message, and no other tag is taken
for the same body. -/
theorem opened_rigid (privateText : String) :
    (∀ text, decryptWithin privateText text = some (decrypt privateText text)) ∧
    (∀ text fault, decrypt privateText text = .error fault →
      Unopened fault ∧ (Fault.decryption fault).name = "DecryptionError") ∧
    (∀ text message, decrypt privateText text = .ok message →
      ∃ bytes, Key.readBytes text = .ok bytes ∧ 97 ≤ bytes.length ∧
        ∃ count, 0 < count ∧ (bytes.drop 81).length = 16 * count) ∧
    (∀ bytes others message, Opens privateText bytes message → Opens privateText others message →
      bytes.take 49 = others.take 49 → bytes = others) ∧
    ∀ bytes others message other, Opens privateText bytes message → Opens privateText others other →
      bytes.take 49 = others.take 49 → bytes.drop 81 = others.drop 81 → bytes = others := by
  refine ⟨decryptWithin_eq privateText, fun text fault failed => ⟨unopened_decrypt failed, rfl⟩, ?_, ?_, ?_⟩
  · intro text message opened
    obtain ⟨receiver, parts, _, spelled, measured, revealed⟩ := decrypt_eq_ok_iff.1 opened
    refine ⟨_, spelled, Sealed.minimum_le_length_toBytes measured, ?_⟩
    rw [Sealed.drop_toBytes measured]
    exact Sealed.exists_blocks revealed
  · intro bytes others message opened opened' front
    obtain ⟨receiver, parts, parts', ⟨rfl, _, revealed⟩, ⟨rfl, _, revealed'⟩, starts, points⟩ :=
      opened.exists_pair opened' front
    rw [Sealed.eq_of_plain revealed revealed' starts points]
  · intro bytes others message other opened opened' front back
    obtain ⟨receiver, parts, parts', ⟨rfl, measured, revealed⟩, ⟨rfl, measured', revealed'⟩, starts,
      points⟩ := opened.exists_pair opened' front
    rw [Sealed.drop_toBytes measured, Sealed.drop_toBytes measured'] at back
    rw [Sealed.eq_of_body revealed revealed' starts points back]

/-- A message that was sealed is opened, and nothing else behind the same start and fresh key is opened to
it. -/
theorem opened_rigid_sealed :
    let privateText := Hexadecimal.encode (Word256.bigEndian 32 largeKey.value)
    ∃ bytes, Opens privateText bytes "Grüße 16 bytes" ∧ ∀ others, others ≠ bytes →
      others.take 49 = bytes.take 49 → ¬ Opens privateText others "Grüße 16 bytes" := by
  intro privateText
  have receives : Receives ascendingDraw largeKey privateText := receives_largeKey
  have measured := Sealed.measured_make ascendingDraw largeKey.publicKey (Text.utf8 "Grüße 16 bytes")
  have revealed := Sealed.reveal_make (Text.utf8 "Grüße 16 bytes") receives.shared receives.recovered
  have opens : Opens privateText _ "Grüße 16 bytes" := ⟨_, Key.readBytes_of_spells (spells_encode _),
    decrypt_of_spells receives.held measured (spells_encode _) revealed⟩
  exact ⟨_, opens, fun others other front opened =>
    other ((opened_rigid privateText).2.2.2.1 _ _ _ opened opens front)⟩

end ScriptOracle.Secrets
