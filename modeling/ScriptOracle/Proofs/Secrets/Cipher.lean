import ScriptOracle.Proofs.Crypto.Chain
import ScriptOracle.Proofs.Secrets.Key
import ScriptOracle.Secrets.Cipher

/-!
# What the holder of a key reads

What is sent falls into its parts again, both sides find the same keys, the voucher fits, and the text
comes out of the blocks. This needs of the curve that the two keys share one secret whichever side finds
it, and that a key is found again from its first coordinate.
-/

namespace ScriptOracle.Crypto

theorem Sha256.length_words (state : Sha256.State) :
    (state.words.flatMap fun word => Word256.bigEndian 4 word.toNat).length = 32 := by
  simp [Sha256.State.words]

theorem Sha256.length_hash (message : Bytes) : (Sha256.hash message).length = 32 :=
  Sha256.length_words _

theorem Hmac.length_hash (key message : Bytes) : (Hmac.hash key message).length = 32 :=
  Sha256.length_hash _

end ScriptOracle.Crypto

namespace ScriptOracle.Secrets

open Crypto Crypto.Curve

namespace Sealed

/-- The parts of what is sent have the lengths by which they are told apart. -/
structure Measured (parts : Sealed) : Prop where
  start : parts.start.length = 16
  point : parts.point.length = 33
  tag : parts.tag.length = 32
  body : 16 ≤ parts.body.length

theorem measured_make (draw : Draw) (receiver : PublicKey) (plain : Bytes) :
    Measured (make draw receiver plain) := by
  constructor
  · exact draw.length_start
  · simp [make, PublicKey.compressed]
  · exact Hmac.length_hash _ _
  · show 16 ≤ (Chain.encipher _ _ _).length
    rw [Chain.length_encipher]
    exact Chain.width_le_length_padded plain

theorem ofBytes?_toBytes {parts : Sealed} (measured : parts.Measured) :
    ofBytes? parts.toBytes = some parts := by
  obtain ⟨start, point, tag, body⟩ := measured
  have pointFrom : parts.toBytes.drop 16 = parts.point ++ (parts.tag ++ parts.body) := by
    rw [toBytes, List.append_assoc, List.append_assoc, List.drop_left' start]
  have tagFrom : parts.toBytes.drop 49 = parts.tag ++ parts.body := by
    rw [show 49 = 16 + 33 from rfl, ← List.drop_drop, pointFrom, List.drop_left' point]
  have bodyFrom : parts.toBytes.drop 81 = parts.body := by
    rw [show 81 = 49 + 32 from rfl, ← List.drop_drop, tagFrom, List.drop_left' tag]
  have startOf : parts.toBytes.take 16 = parts.start := by
    rw [toBytes, List.append_assoc, List.append_assoc, List.take_left' start]
  have long : ¬ parts.toBytes.length < minimum := by
    simp only [toBytes, List.length_append, start, point, tag, minimum]
    omega
  rw [ofBytes?, if_neg long, startOf, pointFrom, tagFrom, bodyFrom, List.take_left' point,
    List.take_left' tag]

theorem reveal_make {draw : Draw} {receiver : PrivateKey} (plain : Bytes)
    (shared : receiver.shared draw.key.publicKey = draw.key.shared receiver.publicKey)
    (recovered : PublicKey.ofBytes? draw.key.publicKey.compressed = some draw.key.publicKey) :
    (make draw receiver.publicKey plain).reveal receiver = .ok plain := by
  simp only [reveal, make, recovered, shared, bne_self_eq_false, Bool.false_eq_true, ↓reduceIte,
    Chain.decipher?_encipher]

end Sealed

theorem readSealed_of_spells {text : String} {parts : Sealed} (measured : parts.Measured)
    (spelled : Spells text parts.toBytes) : readSealed text = .ok parts := by
  unfold readSealed
  rw [Key.readBytes_of_spells spelled]
  dsimp only
  rw [Sealed.ofBytes?_toBytes measured]

theorem decrypt_of_spells {privateText text message : String} {receiver : PrivateKey}
    {parts : Sealed} (held : Spells privateText (Word256.bigEndian 32 receiver.value))
    (measured : parts.Measured) (spelled : Spells text parts.toBytes)
    (revealed : parts.reveal receiver = .ok (Text.utf8 message)) :
    decrypt privateText text = .ok message := by
  unfold decrypt
  rw [Key.readPrivate?_of_spells held, readSealed_of_spells measured spelled]
  change (parts.reveal receiver).bind plainText = _
  rw [revealed]
  change plainText (Text.utf8 message) = _
  rw [plainText, Text.ofUtf8?_utf8]

/-- Whoever holds the private key reads what was encrypted for the public one, however the keys and what
was sent are spelled. -/
theorem decrypt_encrypt (receiver : PrivateKey) (draw : Draw) (message : String)
    (shared : receiver.shared draw.key.publicKey = draw.key.shared receiver.publicKey)
    (recovered : ∀ key ∈ [receiver.publicKey, draw.key.publicKey],
      PublicKey.ofBytes? key.compressed = some key)
    {privateText publicText : String} {form : Bytes}
    (held : Spells privateText (Word256.bigEndian 32 receiver.value))
    (listed : form ∈ Key.forms receiver.publicKey) (known : Spells publicText form) :
    ∃ bytes, encrypt draw publicText message = .ok (Hexadecimal.encode bytes) ∧
      decrypt privateText (Hexadecimal.encode bytes) = .ok message ∧
      ∀ text, Spells text bytes → decrypt privateText text = .ok message := by
  obtain ⟨ours, theirs⟩ := List.forall_mem_cons.1 recovered
  have fresh := theirs draw.key.publicKey List.mem_cons_self
  have encrypted : encrypt draw publicText message = .ok (Hexadecimal.encode
      (Sealed.make draw receiver.publicKey (Text.utf8 message)).toBytes) := by
    rw [encrypt, Key.readPublic_of_spells (Key.coordinates_lt receiver) ours listed known]
    rfl
  have decrypted : ∀ text,
      Spells text (Sealed.make draw receiver.publicKey (Text.utf8 message)).toBytes →
        decrypt privateText text = .ok message := fun _ spelled =>
    decrypt_of_spells held (Sealed.measured_make draw _ _) spelled (Sealed.reveal_make _ shared fresh)
  exact ⟨_, encrypted, decrypted _ (spells_encode _), decrypted⟩

def largeKey : PrivateKey := ⟨order / 3, by decide, by decide⟩

/-- A draw of another key and a start of ascending bytes. -/
def ascendingDraw : Draw :=
  ⟨⟨order - 11, by decide, by decide⟩, (List.range 16).map UInt8.ofNat, by decide⟩

/-- A message that fills one block comes back, when the key is spelled in capitals and shortened to its
first coordinate. -/
theorem decrypt_encrypt_shortened :
    let form := largeKey.publicKey.compressed
    let digits := (Hexadecimal.digits form).map Text.asciiUpper
    let publicText := String.ofList (['\t', ' '] ++ (['0', 'X'] ++ digits) ++ ['\n'])
    let privateText := Hexadecimal.encode (Word256.bigEndian 32 largeKey.value)
    Text.byteCount "Grüße 16 bytes" = 16 ∧
    largeKey.shared ascendingDraw.key.publicKey = ascendingDraw.key.shared largeKey.publicKey ∧
    (∀ key ∈ [largeKey.publicKey, ascendingDraw.key.publicKey],
      PublicKey.ofBytes? key.compressed = some key) ∧
    Spells privateText (Word256.bigEndian 32 largeKey.value) ∧ Spells publicText form ∧
    ∃ bytes, encrypt ascendingDraw publicText "Grüße 16 bytes" = .ok (Hexadecimal.encode bytes) ∧
      decrypt privateText (Hexadecimal.encode bytes) = .ok "Grüße 16 bytes" ∧
      ∀ text, Spells text bytes → decrypt privateText text = .ok "Grüße 16 bytes" := by
  intro form digits publicText privateText
  have shared : largeKey.shared ascendingDraw.key.publicKey =
      ascendingDraw.key.shared largeKey.publicKey := by decide +kernel
  have recovered : ∀ key ∈ [largeKey.publicKey, ascendingDraw.key.publicKey],
      PublicKey.ofBytes? key.compressed = some key := by decide +kernel
  have held : Spells privateText (Word256.bigEndian 32 largeKey.value) := spells_encode _
  have known : Spells publicText form :=
    .intro (List.all_eq_true.1 rfl) (by decide) (show digits.map Text.asciiLower = _ by decide +kernel)
  have listed : form ∈ Key.forms largeKey.publicKey :=
    List.mem_cons_of_mem _ (List.mem_cons_of_mem _ List.mem_cons_self)
  exact ⟨by decide, shared, recovered, held, known,
    decrypt_encrypt largeKey ascendingDraw _ shared recovered held listed known⟩

end ScriptOracle.Secrets
