import ScriptOracle.Word256

/-!
# The curve of the keys

Points of the curve `y ^ 2 = x ^ 3 + 7` over the numbers modulo a prime. The multiples of `Point.base`
are the public keys. Points are added in coordinates with a common denominator, so that only the result
has to be divided.
-/

namespace ScriptOracle.Crypto.Curve

def prime : Nat := (1 <<< 256) - (1 <<< 32) - 977

def order : Nat :=
  0xFFFFFFFFFFFFFFFFFFFFFFFFFFFFFFFEBAAEDCE6AF48A03BBFD25E8CD0364141

/-- A power modulo a number, for exponents below `2 ^ fuel`. -/
def powerFuel (modulus : Nat) : Nat -> Nat -> Nat -> Nat -> Nat
  | 0, _, _, result => result
  | fuel + 1, base, exponent, result =>
    if exponent = 0 then result
    else
      powerFuel modulus fuel (base * base % modulus) (exponent / 2)
        (if exponent % 2 = 1 then result * base % modulus else result)

/-- A power modulo a number, for exponents of 256 bits. -/
def power (modulus base exponent : Nat) : Nat := powerFuel modulus 256 base exponent (1 % modulus)

def inverse (modulus n : Nat) : Nat := power modulus n (modulus - 2)

def minus (a b : Nat) : Nat := (a + (prime - b % prime)) % prime

inductive Point where
  | zero
  | at (x y : Nat)
deriving DecidableEq, Repr

/-- A point in coordinates with a common denominator: `x / z ^ 2` and `y / z ^ 3`. -/
structure Projective where
  x : Nat
  y : Nat
  z : Nat

namespace Projective

def zero : Projective := ⟨1, 1, 0⟩

def doubled (p : Projective) : Projective :=
  if p.z = 0 ∨ p.y = 0 then zero
  else
    let ySquare := p.y * p.y % prime
    let s := 4 * p.x * ySquare % prime
    let m := 3 * p.x * p.x % prime
    let x := minus (m * m) (2 * s)
    let y := minus (m * minus s x) (8 * ySquare * ySquare)
    ⟨x, y, 2 * p.y * p.z % prime⟩

def add (p q : Projective) : Projective :=
  if p.z = 0 then q
  else if q.z = 0 then p
  else
    let pz := p.z * p.z % prime
    let qz := q.z * q.z % prime
    let u := p.x * qz % prime
    let v := q.x * pz % prime
    let s := p.y * (qz * q.z % prime) % prime
    let t := q.y * (pz * p.z % prime) % prime
    if u = v then if s = t then doubled p else zero
    else
      let h := minus v u
      let r := minus t s
      let hSquare := h * h % prime
      let hCube := hSquare * h % prime
      let w := u * hSquare % prime
      let x := minus (r * r) (hCube + 2 * w)
      let y := minus (r * minus w x) (s * hCube)
      ⟨x, y, p.z * q.z % prime * h % prime⟩

def toPoint (p : Projective) : Point :=
  if p.z = 0 then .zero
  else
    let i := inverse prime p.z
    let square := i * i % prime
    .at (p.x * square % prime) (p.y * (square * i % prime) % prime)

/-- Adds a multiple of a point, for factors below `2 ^ fuel`. -/
def multiplyFuel : Nat -> Projective -> Nat -> Projective -> Projective
  | 0, _, _, result => result
  | fuel + 1, p, n, result =>
    if n = 0 then result
    else multiplyFuel fuel (doubled p) (n / 2) (if n % 2 = 1 then add result p else result)

end Projective

namespace Point

def toProjective : Point -> Projective
  | .zero => .zero
  | .at x y => ⟨x, y, 1⟩

def base : Point :=
  .at 0x79BE667EF9DCBBAC55A06295CE870B07029BFCDB2DCE28D959F2815B16F81798
    0x483ADA7726A3C4655DA4FBFC0E1108A8FD17B448A68554199C47D08FFB10D4B8

def add (p q : Point) : Point := (p.toProjective.add q.toProjective).toPoint

/-- A multiple of a point, for factors of 256 bits. -/
def multiply (n : Nat) (p : Point) : Point :=
  (Projective.multiplyFuel 256 p.toProjective n .zero).toPoint

end Point

/-- A point of the curve that is not zero. -/
structure PublicKey where
  x : Nat
  y : Nat
deriving DecidableEq, Repr

structure PrivateKey where
  value : Nat
  positive : 0 < value
  below : value < order
deriving DecidableEq, Repr

def PrivateKey.ofNat? (value : Nat) : Option PrivateKey :=
  if h : 0 < value ∧ value < order then some ⟨value, h.1, h.2⟩ else none

def PrivateKey.ofBytes? (bytes : Bytes) : Option PrivateKey := ofNat? (Word256.ofBigEndian bytes)

/-- The key of a point; zero has none, and stands for coordinates that belong to no point. -/
def PublicKey.ofPoint : Point -> PublicKey
  | .zero => ⟨0, 0⟩
  | .at x y => ⟨x, y⟩

def PublicKey.point (key : PublicKey) : Point := .at key.x key.y

def PrivateKey.publicKey (key : PrivateKey) : PublicKey :=
  .ofPoint (Point.base.multiply key.value)

/-- The secret that two keys share: the first coordinate of the common multiple. -/
def PrivateKey.shared (key : PrivateKey) (other : PublicKey) : Bytes :=
  Word256.bigEndian 32 (PublicKey.ofPoint (other.point.multiply key.value)).x

/-- The second coordinate to a first one, even or odd, if there is a point. -/
def decompress? (x : Nat) (isOdd : Bool) : Option PublicKey :=
  if prime ≤ x then none
  else
    let square := (x * x % prime * x + 7) % prime
    let root := power prime square ((prime + 1) / 4)
    if root * root % prime != square then none
    else if root % 2 = (if isOdd then 1 else 0) then some ⟨x, root⟩
    else some ⟨x, (prime - root) % prime⟩

namespace PublicKey

def uncompressed (key : PublicKey) : Bytes :=
  0x04 :: (Word256.bigEndian 32 key.x ++ Word256.bigEndian 32 key.y)

/-- A key with its first coordinate and whether the second is odd. -/
def compressed (key : PublicKey) : Bytes :=
  (if key.y % 2 = 1 then 0x03 else 0x02) :: Word256.bigEndian 32 key.x

/-- The key of two coordinates, if they belong to a point. -/
def ofCoordinates? (x y : Nat) : Option PublicKey :=
  (decompress? x (y % 2 = 1)).filter (·.y == y)

/-- Reads a key. A first byte of four announces both coordinates, two or three the first one and
whether the second is odd, and five the first one with an even second one. -/
def ofBytes? (bytes : Bytes) : Option PublicKey :=
  match bytes with
  | [] => none
  | mark :: rest =>
    if mark = 0x04 ∧ rest.length = 64 then
      ofCoordinates? (Word256.ofBigEndian (rest.take 32)) (Word256.ofBigEndian (rest.drop 32))
    else if rest.length = 32 ∧ (mark = 0x02 ∨ mark = 0x03 ∨ mark = 0x05) then
      decompress? (Word256.ofBigEndian rest) (mark = 0x03)
    else none

end PublicKey

end ScriptOracle.Crypto.Curve
