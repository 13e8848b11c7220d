import ScriptOracle.Url.Percent

/-!
# Form encoding

Pairs of texts joined by `&`, each with `=` between name and value. A blank is written as `+`, and
every byte that is no letter, digit, `*`, `-`, `.` or `_` as a percent sign and two digits. `parse`
reads the pairs back.
-/

namespace ScriptOracle.Form

/-- Whether a byte stands for itself. -/
def unreserved (byte : UInt8) : Bool :=
  (0x30 ≤ byte && byte ≤ 0x39) || (0x41 ≤ byte && byte ≤ 0x5A) || (0x61 ≤ byte && byte ≤ 0x7A)
    || byte == 0x2A || byte == 0x2D || byte == 0x2E || byte == 0x5F

def encodeByte (byte : UInt8) : List Char :=
  if unreserved byte then [Char.ofNat byte.toNat]
  else if byte = 0x20 then ['+']
  else Percent.triple byte

def encode (text : String) : List Char := (Text.utf8 text).flatMap encodeByte

def encodePair (pair : String × String) : List Char := encode pair.1 ++ '=' :: encode pair.2

def append (soFar : List Char) (pair : String × String) : List Char :=
  if soFar.isEmpty then encodePair pair else soFar ++ '&' :: encodePair pair

def extend (soFar : List Char) (pairs : List (String × String)) : List Char :=
  pairs.foldl append soFar

def render (pairs : List (String × String)) : String := String.ofList (extend [] pairs)

def splitAll (mark : UInt8) : Bytes -> List Bytes
  | [] => [[]]
  | byte :: rest =>
    if byte = mark then [] :: splitAll mark rest
    else
      match splitAll mark rest with
      | [] => [[byte]]
      | piece :: pieces => (byte :: piece) :: pieces

def decode (bytes : Bytes) : String :=
  Text.ofUtf8Lossy (Percent.decode (bytes.map fun byte => if byte = 0x2B then 0x20 else byte))

/-- A pair, split at its first `=`. -/
def parsePair (bytes : Bytes) : String × String :=
  (decode (bytes.takeWhile (· != 0x3D)), decode ((bytes.dropWhile (· != 0x3D)).drop 1))

/-- The pairs of a form; empty pieces hold no pair. -/
def parse (bytes : Bytes) : List (String × String) :=
  ((splitAll 0x26 bytes).filter (!·.isEmpty)).map parsePair

end ScriptOracle.Form
