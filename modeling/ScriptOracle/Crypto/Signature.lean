import ScriptOracle.Crypto.Curve
import ScriptOracle.Crypto.Sha256

/-!
# Signatures

A signature of a digest is two numbers and a mark from which the signer's key can be found again. The
number that every signature needs once is drawn from the key and the digest, so that signing the same
digest twice gives the same signature. Of the two signatures that verify, the one with the lower second
number is made, and only such are taken.
-/

namespace ScriptOracle.Crypto

open Curve

structure Signature where
  r : Nat
  s : Nat
  /-- Whether the second coordinate of the point behind `r` is odd. -/
  isOdd : Bool
  /-- Whether the first coordinate of that point is beyond the number of points. -/
  isReduced : Bool
deriving DecidableEq, Repr

namespace Signature

/-- A number modulo the number of points as thirty-two bytes. -/
def scalarBytes (n : Nat) : Bytes := Word256.bigEndian 32 (n % order)

/-- Draws numbers until one is in range. -/
def drawFrom : Nat -> Bytes -> Bytes -> Nat
  | 0, _, _ => 1
  | fuel + 1, key, value =>
    let value := Hmac.hash key value
    let n := Word256.ofBigEndian value
    if 0 < n ∧ n < order then n
    else
      let key := Hmac.hash key (value ++ [0x00])
      drawFrom fuel key (Hmac.hash key value)

def nonce (secret : PrivateKey) (digest : Bytes) : Nat :=
  let seed := scalarBytes secret.value ++ scalarBytes (Word256.ofBigEndian digest)
  let value := List.replicate 32 0x01
  let key := Hmac.hash (List.replicate 32 0x00) (value ++ 0x00 :: seed)
  let value := Hmac.hash key value
  let key := Hmac.hash key (value ++ 0x01 :: seed)
  drawFrom 100 key (Hmac.hash key value)

def isHigh (s : Nat) : Bool := order / 2 < s

def make (secret : PrivateKey) (digest : Bytes) : Signature :=
  let k := nonce secret digest
  let point := PublicKey.ofPoint (Point.base.multiply k)
  let r := point.x % order
  let z := Word256.ofBigEndian digest % order
  let s := inverse order k * ((z + r * secret.value) % order) % order
  let isOdd := point.y % 2 == 1
  let isReduced := order ≤ point.x
  if isHigh s then ⟨r, order - s, !isOdd, isReduced⟩ else ⟨r, s, isOdd, isReduced⟩

/-- The mark of a signature, from 0 to 3. -/
def mark (signature : Signature) : Nat :=
  (if signature.isOdd then 1 else 0) + if signature.isReduced then 2 else 0

def recover? (signature : Signature) (digest : Bytes) : Option PublicKey :=
  let x := if signature.isReduced then signature.r + order else signature.r
  match decompress? x signature.isOdd with
  | none => none
  | some point =>
    if isHigh signature.s then none
    else
      let z := Word256.ofBigEndian digest % order
      let inverseR := inverse order signature.r
      let u := (order - inverseR * z % order) % order
      let v := inverseR * signature.s % order
      match (Point.base.multiply u).add (point.point.multiply v) with
      | .zero => none
      | .at x y => some ⟨x, y⟩

end Signature

end ScriptOracle.Crypto
