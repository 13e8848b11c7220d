import ScriptOracle.Proofs.Json.Reader
import ScriptOracle.Proofs.Secrets.Cipher
import ScriptOracle.Secrets.Envelope

/-!
# Signatures and envelopes read back

A signature is read back from its text to the numbers and the mark that it was made of, and an envelope
from its text to the message and the signature. That the signer's key is found again from them is what
recovery is for, and is assumed of the curve.
-/

namespace ScriptOracle.Secrets

open Crypto Crypto.Curve

theorem spells_marked (bytes : Bytes) : Spells ("0x" ++ Hexadecimal.encode bytes) bytes := by
  have marked : Spells (String.ofList ([] ++ (['0', 'x'] ++ Hexadecimal.digits bytes) ++ [])) bytes :=
    .intro nofun (by decide) (Hexadecimal.writes_digits bytes)
  rwa [List.nil_append, List.append_nil, String.ofList_append] at marked

/-! ## Signatures -/

theorem readMark_written (signature : Signature) :
    readMark (UInt8.ofNat (markBase + signature.mark)) = .ok signature.mark := by
  obtain ⟨r, s, isOdd, isReduced⟩ := signature
  cases isOdd <;> cases isReduced <;> rfl

/-- A signature tells its mark. -/
theorem Signature.eq_of_mark (signature : Signature) :
    signature = ⟨signature.r, signature.s, signature.mark % 2 == 1, 2 ≤ signature.mark⟩ := by
  obtain ⟨r, s, isOdd, isReduced⟩ := signature
  cases isOdd <;> cases isReduced <;> simp [Signature.mark]

theorem ofBigEndian_scalar {n : Nat} (scalar : isScalar n = true) :
    Word256.ofBigEndian (Word256.bigEndian 32 n) = n := by
  have below : n < order := by
    rw [isScalar, Bool.and_eq_true, decide_eq_true_iff, decide_eq_true_iff] at scalar
    exact scalar.2
  rw [Word256.ofBigEndian_bigEndian, Nat.mod_eq_of_lt (Nat.lt_trans below (by decide))]

theorem readSignature_signatureText {signature : Signature} (r : isScalar signature.r = true)
    (s : isScalar signature.s = true) :
    readSignature (signatureText signature) = .ok signature := by
  have length : (signatureBytes signature).length = 65 := by simp [signatureBytes]
  have first : (signatureBytes signature).take 32 = Word256.bigEndian 32 signature.r := by
    rw [signatureBytes, List.append_assoc, List.take_left' (Word256.length_bigEndian 32 _)]
  have second : ((signatureBytes signature).drop 32).take 32 = Word256.bigEndian 32 signature.s := by
    rw [signatureBytes, List.append_assoc, List.drop_left' (Word256.length_bigEndian 32 _),
      List.take_left' (Word256.length_bigEndian 32 _)]
  have last : (signatureBytes signature).getLastD 0 = UInt8.ofNat (markBase + signature.mark) := by
    rw [signatureBytes, List.getLastD_concat]
  rw [readSignature, signatureText, Key.readBytes_of_spells (spells_marked _)]
  simp only [bind, Except.bind, pure, Except.pure, length, first, second, last,
    ofBigEndian_scalar r, ofBigEndian_scalar s, r, s, readMark_written, bne_self_eq_false,
    Bool.and_self, Bool.not_true, Bool.false_eq_true, if_false]
  exact congrArg Except.ok (Signature.eq_of_mark signature).symm

theorem sign_eq_ok {walletKey message signature : String}
    (signed : sign walletKey message = .ok signature) :
    ∃ wallet, Key.readPrivate? walletKey = some wallet ∧
      let made := Signature.make wallet (digestOf message)
      isScalar made.r = true ∧ isScalar made.s = true ∧ signature = signatureText made := by
  unfold sign at signed
  split at signed
  next => cases signed
  next bytes held =>
    split at signed
    next => cases signed
    next wallet found =>
      dsimp only at signed
      split at signed
      next scalars =>
        obtain ⟨r, s⟩ := Bool.and_eq_true_iff.1 scalars
        refine ⟨wallet, ?_, r, s, (Except.ok.inj signed).symm⟩
        rw [Key.readPrivate?, held, Option.bind_some, found]
      next => cases signed

theorem publish_of_readPrivate? {walletKey : String} {wallet : PrivateKey}
    (held : Key.readPrivate? walletKey = some wallet) :
    Key.publish walletKey = .ok (Key.publicText wallet.publicKey) := by
  unfold Key.publish
  rw [held]

theorem recover_signatureText {message : String} {signature : Signature} {key : PublicKey}
    (r : isScalar signature.r = true) (s : isScalar signature.s = true)
    (found : signature.recover? (digestOf message) = some key) :
    recover message (signatureText signature) = .ok (Key.publicText key) := by
  rw [recover, readSignature_signatureText r s]
  simp only [bind, Except.bind, found, pure, Except.pure]

/-- If recovery gives the key of a signature's maker, the signer of a message is told from the text of the
signature. -/
theorem recover_of_sign {walletKey message signature : String}
    (signed : sign walletKey message = .ok signature)
    (inverted : ∀ wallet, Key.readPrivate? walletKey = some wallet →
      (Signature.make wallet (digestOf message)).recover? (digestOf message) =
        some wallet.publicKey) :
    ∃ key, Key.publish walletKey = .ok key ∧ recover message signature = .ok key := by
  obtain ⟨wallet, held, r, s, text⟩ := sign_eq_ok signed
  have recovered := recover_signatureText r s (inverted wallet held)
  exact ⟨_, publish_of_readPrivate? held, text ▸ recovered⟩

theorem sign_of_make {walletKey message : String} {wallet : PrivateKey} {made : Signature}
    (held : Key.readPrivate? walletKey = some wallet)
    (signature : Signature.make wallet (digestOf message) = made)
    (r : isScalar made.r = true) (s : isScalar made.s = true) :
    sign walletKey message = .ok (signatureText made) := by
  obtain ⟨bytes, digits, inRange⟩ := Option.bind_eq_some_iff.1 held
  unfold sign
  simp only [digits, inRange, signature, r, s, Bool.and_self, if_true]

/-- Taking the lower of the two second numbers keeps a signature in range. -/
theorem lowered_lt_order {r s : Nat} (isOdd isReduced : Bool) (below : r < order ∧ s < order) :
    let lowered : Signature :=
      if Signature.isHigh s then ⟨r, order - s, !isOdd, isReduced⟩ else ⟨r, s, isOdd, isReduced⟩
    lowered.r < order ∧ lowered.s < order := by
  intro lowered
  by_cases high : Signature.isHigh s = true
  · have above : 0 < s := Nat.lt_of_le_of_lt (Nat.zero_le _) (of_decide_eq_true high)
    rw [show lowered = _ from if_pos high]
    exact ⟨below.1, Nat.sub_lt (by decide) above⟩
  · rw [show lowered = _ from if_neg high]
    exact below

theorem make_lt_order (wallet : PrivateKey) (digest : Bytes) :
    (Signature.make wallet digest).r < order ∧ (Signature.make wallet digest).s < order := by
  rw [Signature.make]
  exact lowered_lt_order _ _ ⟨Nat.mod_lt _ (by decide), Nat.mod_lt _ (by decide)⟩

/-- A wallet signs a message, and is found again from the signature. -/
structure Signs (wallet : PrivateKey) (message : String) : Prop where
  nonzero : (Signature.make wallet (digestOf message)).r ≠ 0 ∧
    (Signature.make wallet (digestOf message)).s ≠ 0
  inverted : (Signature.make wallet (digestOf message)).recover? (digestOf message) =
    some wallet.publicKey

theorem Signs.isScalar {wallet : PrivateKey} {message : String} (signs : Signs wallet message) :
    isScalar (Signature.make wallet (digestOf message)).r = true ∧
      isScalar (Signature.make wallet (digestOf message)).s = true := by
  obtain ⟨r, s⟩ := make_lt_order wallet (digestOf message)
  simp only [Secrets.isScalar, Bool.and_eq_true, decide_eq_true_iff]
  exact ⟨⟨Nat.pos_of_ne_zero signs.nonzero.1, r⟩, Nat.pos_of_ne_zero signs.nonzero.2, s⟩

theorem Signs.sign {wallet : PrivateKey} {walletKey message : String} (signs : Signs wallet message)
    (held : Key.readPrivate? walletKey = some wallet) :
    sign walletKey message = .ok (signatureText (Signature.make wallet (digestOf message))) :=
  sign_of_make held rfl signs.isScalar.1 signs.isScalar.2

/-! ## Envelopes -/

theorem Envelope.ofText?_compact (message signature : String) :
    ofText? (toJson ⟨message, some signature⟩).compact = some ⟨message, some signature⟩ := by
  have distinct : (Fields.names [("message", message), ("signature", signature)]).Nodup :=
    show ["message", "signature"].Nodup by decide
  have written := (Json.exact_ofStringFields 0 distinct).readWritten (by decide)
  rw [ofText?, show toJson ⟨message, some signature⟩ =
    Json.ofStringFields [("message", message), ("signature", signature)] from rfl, written]
  rfl

/-- The text of secrets does not depend on their order. -/
theorem secretsText_sorted (secrets : Fields String) :
    secretsText (Fields.sorted secrets) = secretsText secrets := by
  rw [secretsText, Fields.sorted_sorted, ← secretsText]

/-- The text of secrets is the object of their names and values. -/
theorem readText_secretsText {secrets : Fields String} (ascending : secrets.Ascending) :
    Json.readText (secretsText secrets) = .ok (.ofStringFields secrets) := by
  rw [secretsText, Fields.sorted_of_ascending ascending,
    (Json.exact_ofStringFields 0 ascending.nodup).readText (by decide)]

/-! ## A signature -/

def exampleWallet : PrivateKey := ⟨order / 5, by decide, by decide⟩

/-- Secrets that have to be escaped, with names out of order. -/
def exampleSecrets : Fields String := [("b", "\"\\"), ("a", "grün\n")]

def exampleSignature : Signature where
  r := 8116640153645565177437859856431020632475820816489380892002040269138283045049
  s := 25421410313544778602829322813561430249186719164748302024067380659265868037748
  isOdd := true
  isReduced := false

def exampleDigest : Bytes :=
  Word256.bigEndian 32 0x61ED4B3089EBA59339D68D31686071AE7C04408DD0397905ADABE39CC50F2220

/-- The hashes that lead to the number which the signature needs, in the order in which they are made. -/
def exampleHash : Nat -> Bytes
  | 0 => Word256.bigEndian 32 0x8796498F0FF0825DE952547F50B5541B30FA1EC05E13F8E59E8F4C01E07C04A4
  | 1 => Word256.bigEndian 32 0x51CC8FDA0B2C6B29B7EEB97F65F3FA81C2B51A909C428D5103FE2FD6AAC8A5B4
  | 2 => Word256.bigEndian 32 0x4E85A9E3E241902AE819A0BA673AF717D6A48D2AEE982639AC24DABD15131526
  | 3 => Word256.bigEndian 32 0x62AAB3609E2A7986AD301ED2BFE4F07F15A5417E516652F933087F7CAD21E1B2
  | _ => Word256.bigEndian 32 0x0DEA6E52B081B774ABCFF36BB18CC6A5900C9DC9E978DA52E14C90C8FF66C8C3

def exampleSeed : Bytes :=
  Signature.scalarBytes exampleWallet.value ++
    Signature.scalarBytes (Word256.ofBigEndian exampleDigest)

theorem digestOf_exampleSecrets : digestOf (secretsText exampleSecrets) = exampleDigest := by
  decide +kernel

/-- Each of the hashes is made from those before it. -/
theorem exampleHash_made :
    Hmac.hash (List.replicate 32 0x00) (List.replicate 32 0x01 ++ 0x00 :: exampleSeed) =
      exampleHash 0 ∧
    Hmac.hash (exampleHash 0) (List.replicate 32 0x01) = exampleHash 1 ∧
    Hmac.hash (exampleHash 0) (exampleHash 1 ++ 0x01 :: exampleSeed) = exampleHash 2 ∧
    Hmac.hash (exampleHash 2) (exampleHash 1) = exampleHash 3 ∧
    Hmac.hash (exampleHash 2) (exampleHash 3) = exampleHash 4 := by
  -- One after the other, since the kernel keeps all that it computes for one.
  refine ⟨?_, ?_, ?_, ?_, ?_⟩ <;> decide +kernel

theorem nonce_exampleWallet :
    Signature.nonce exampleWallet exampleDigest = Word256.ofBigEndian (exampleHash 4) := by
  obtain ⟨zero, one, two, three, four⟩ := exampleHash_made
  have drawn : Signature.drawFrom 100 (exampleHash 2) (exampleHash 3) =
      Word256.ofBigEndian (exampleHash 4) := by
    rw [Signature.drawFrom, four]
    exact if_pos (by decide +kernel)
  rw [← drawn, ← three, ← two, ← one, ← zero]
  rfl

theorem make_exampleWallet :
    Signature.make exampleWallet (digestOf (secretsText exampleSecrets)) = exampleSignature := by
  rw [digestOf_exampleSecrets, Signature.make, nonce_exampleWallet]
  decide +kernel

theorem recover?_exampleSignature :
    exampleSignature.recover? (digestOf (secretsText exampleSecrets)) =
      some exampleWallet.publicKey := by
  rw [digestOf_exampleSecrets]
  decide +kernel

theorem signs_exampleWallet : Signs exampleWallet (secretsText exampleSecrets) := by
  constructor
  · rw [make_exampleWallet]
    decide
  · rw [make_exampleWallet, recover?_exampleSignature]

end ScriptOracle.Secrets
