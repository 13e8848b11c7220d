import ScriptOracle.Text.Case
import ScriptOracle.Url.Percent

/-!
# Hosts

A host is a name, four bytes, or eight words. Names of web addresses are brought into ASCII: capitals
become small, letters beyond ASCII become the `xn--` form, and characters that no host may hold are
refused. Of letters beyond ASCII the case and the width are looked at, and not whether they may stand in a
name or how else they could be written. A name whose last part is a number is read as four bytes.
-/

namespace ScriptOracle.Url

inductive Fault where
  | emptyHost
  | badName
  | badPort
  | badV4
  | badV6
  | badNameCharacter
  | relative
deriving DecidableEq, Repr

def Fault.message : Fault -> String
  | .emptyHost => "empty host"
  | .badName => "invalid international domain name"
  | .badPort => "invalid port number"
  | .badV4 => "invalid IPv4 address"
  | .badV6 => "invalid IPv6 address"
  | .badNameCharacter => "invalid domain character"
  | .relative => "relative URL without a base"

inductive Host where
  | name (text : String)
  | v4 (address : Nat)
  | v6 (words : List Nat)
deriving DecidableEq, Repr

def splitAll (mark : Char) : List Char -> List (List Char)
  | [] => [[]]
  | c :: rest =>
    if c = mark then [] :: splitAll mark rest
    else
      match splitAll mark rest with
      | [] => [[c]]
      | piece :: pieces => (c :: piece) :: pieces

def joinAll (mark : Char) : List (List Char) -> List Char
  | [] => []
  | [piece] => piece
  | piece :: rest => piece ++ mark :: joinAll mark rest

namespace Punycode

/-- The digit of a number below thirty-six. -/
def digit (value : Nat) : Char :=
  if value < 26 then Char.ofNat (0x61 + value) else Char.ofNat (0x16 + value)

def value? (c : Char) : Option Nat :=
  if 'a' ≤ c ∧ c ≤ 'z' then some (c.toNat - 0x61)
  else if '0' ≤ c ∧ c ≤ '9' then some (c.toNat - 0x30 + 26)
  else none

/-- Halves the skew until it is small; each round counts thirty-six. -/
def settle : Nat -> Nat -> Nat -> Nat
  | 0, rounds, delta => rounds * 36 + 36 * delta / (delta + 38)
  | fuel + 1, rounds, delta =>
    if 455 < delta then settle fuel (rounds + 1) (delta / 35)
    else rounds * 36 + 36 * delta / (delta + 38)

def adapt (delta points : Nat) (first : Bool) : Nat :=
  let delta := if first then delta / 700 else delta / 2
  settle 64 0 (delta + delta / points)

/-- The least digit that goes on at a place. -/
def threshold (place bias : Nat) : Nat :=
  if place ≤ bias then 1 else if bias + 26 ≤ place then 26 else place - bias

def digits : Nat -> Nat -> Nat -> Nat -> List Char
  | 0, _, _, _ => []
  | fuel + 1, place, bias, value =>
    let t := threshold place bias
    if value < t then [digit value]
    else digit (t + (value - t) % (36 - t)) :: digits fuel (place + 36) bias ((value - t) / (36 - t))

/-- The state of the writer: skew, count so far, whether none was written, output. -/
structure Writer where
  delta : Nat
  bias : Nat
  handled : Nat
  first : Bool
  output : List Char

/-- Passes over the characters of a name once for one code. -/
def writeCode (code : Nat) (w : Writer) (c : Char) : Writer :=
  if c.toNat < code then { w with delta := w.delta + 1 }
  else if c.toNat = code then
    { delta := 0, bias := adapt w.delta (w.handled + 1) w.first, handled := w.handled + 1,
      first := false, output := w.output ++ digits 64 36 w.bias w.delta }
  else w

/-- Writes the codes of a name in ascending order. -/
def writeCodes (chars : List Char) : List Nat -> Nat -> Writer -> Writer
  | [], _, w => w
  | code :: codes, least, w =>
    let w := { w with delta := w.delta + (code - least) * (w.handled + 1) }
    let w := chars.foldl (writeCode code) w
    writeCodes chars codes (code + 1) { w with delta := w.delta + 1 }

def insertCode (code : Nat) : List Nat -> List Nat
  | [] => [code]
  | other :: rest =>
    if code < other then code :: other :: rest
    else if code = other then other :: rest
    else other :: insertCode code rest

/-- The ASCII form of a name part, without its mark. -/
def encode (chars : List Char) : List Char :=
  let plain := chars.filter (·.toNat < 0x80)
  let codes := (chars.filter (0x80 ≤ ·.toNat)).foldl (fun codes c => insertCode c.toNat codes) []
  let start := if plain.isEmpty then [] else plain ++ ['-']
  (writeCodes chars codes 0x80 ⟨0, 72, plain.length, true, start⟩).output

def readNumber : List Char -> Nat -> Nat -> Nat -> Nat -> Option (Nat × List Char)
  | [], _, _, _, _ => none
  | c :: rest, place, bias, weight, total => do
    let d ← value? c
    let total := total + d * weight
    let t := threshold place bias
    if d < t then pure (total, rest)
    else readNumber rest (place + 36) bias (weight * (36 - t)) total

/-- Reads the numbers after the plain characters and inserts the characters they stand for. -/
def readNumbers : Nat -> List Char -> List Char -> Nat -> Nat -> Nat -> Bool -> Option (List Char)
  | 0, _, output, _, _, _, _ => some output
  | fuel + 1, rest, output, code, bias, index, first =>
    if rest.isEmpty then some output
    else do
      let (step, rest) ← readNumber rest 36 bias 1 0
      let count := output.length + 1
      let total := index + step
      let code := code + total / count
      let place := total % count
      if 0x110000 ≤ code ∨ (0xD800 ≤ code ∧ code ≤ 0xDFFF) then none
      else
        readNumbers fuel rest (output.take place ++ Char.ofNat code :: output.drop place) code
          (adapt step count first) (place + 1) false

def decode (chars : List Char) : Option (List Char) :=
  let tail := (chars.reverse.takeWhile (· != '-')).reverse
  let head := chars.take (chars.length - tail.length - 1)
  readNumbers (chars.length + 1) (if tail.length = chars.length then chars else tail) head 0x80 72 0
    true

end Punycode

def barredInName (c : Char) : Bool :=
  c.toNat ≤ 0x20 || (0x7F ≤ c.toNat && c.toNat ≤ 0x9F)
    || ['#', '%', '/', ':', '<', '>', '?', '@', '[', '\\', ']', '^', '|'].contains c

/-- A character brought to its plain form: small, of ordinary width; some are left out. -/
def foldChar (c : Char) : List Char :=
  let code := c.toNat
  if code == 0xAD || code == 0x200B || code == 0x2060 || code == 0xFEFF
      || (0xFE00 ≤ code && code ≤ 0xFE0F) then []
  else if code == 0x3002 || code == 0xFF0E || code == 0xFF61 then ['.']
  else if 0xFF01 ≤ code && code ≤ 0xFF5E then [Text.asciiLower (Char.ofNat (code - 0xFEE0))]
  else if code == 0x1E9E then ['s', 's']
  else if code == 0x130 then ['i', '\u0307']
  else if code < 0x80 then [Text.asciiLower c]
  else [Text.moved Letter.toSmall c]

/-- The ASCII form of a part of a name between dots. A part that bears the mark already must be the
form of something beyond ASCII. -/
def asciiPart (part : List Char) : Except Fault (List Char) :=
  if part.all (·.toNat < 0x80) then
    if part.take 4 = ['x', 'n', '-', '-'] then
      match Punycode.decode (part.drop 4) with
      | some plain =>
        if plain.any (0x80 ≤ ·.toNat) && plain.flatMap foldChar == plain
            && !plain.any barredInName then .ok part
        else .error .badName
      | none => .error .badName
    else .ok part
  else .ok (['x', 'n', '-', '-'] ++ Punycode.encode part)

def asciiParts : List (List Char) -> Except Fault (List (List Char))
  | [] => .ok []
  | part :: rest => do
    let part ← asciiPart part
    let rest ← asciiParts rest
    pure (part :: rest)

def asciiName (chars : List Char) : Except Fault (List Char) :=
  let folded := chars.flatMap foldChar
  if folded.any barredInName then .error .badName
  else do
    let parts ← asciiParts (splitAll '.' folded)
    pure (joinAll '.' parts)

/-- A number in base `radix` whose digits have passed the test. -/
def ofDigits (radix : Nat) (digits : List Char) : Nat :=
  digits.foldl (fun total c => total * radix + (Percent.value? (UInt8.ofNat c.toNat)).getD 0) 0

/-- A part of an address of four bytes: hexadecimal after `0x`, octal after `0`, else decimal. -/
def v4Number? (part : List Char) : Option Nat :=
  match part with
  | [] => none
  | '0' :: 'x' :: digits | '0' :: 'X' :: digits =>
    if digits.all fun c => c.toNat < 0x80 && (Percent.value? (UInt8.ofNat c.toNat)).isSome then
      some (ofDigits 16 digits)
    else none
  | '0' :: d :: digits =>
    if (d :: digits).all fun c => '0' ≤ c && c ≤ '7' then some (ofDigits 8 (d :: digits)) else none
  | digits => if digits.all Char.isDigit then some (ofDigits 10 digits) else none

/-- Whether the last part of a name, not counting an empty one, is a number. -/
def endsInNumber (chars : List Char) : Bool :=
  let parts := (splitAll '.' chars).reverse
  let last :=
    match parts with
    | [] :: [] => none
    | [] :: part :: _ => some part
    | part :: _ => some part
    | [] => none
  match last with
  | none => false
  | some part => (!part.isEmpty && part.all Char.isDigit) || (v4Number? part).isSome

def v4Numbers : List (List Char) -> Option (List Nat)
  | [] => some []
  | part :: rest => do
    let number ← v4Number? part
    let numbers ← v4Numbers rest
    pure (number :: numbers)

/-- An address of four bytes. The last number fills the bytes that the others leave. -/
def v4? (chars : List Char) : Option Nat := do
  let parts := splitAll '.' chars
  let parts := if parts.getLast? = some [] then parts.dropLast else parts
  if 4 < parts.length then none
  let numbers ← v4Numbers parts
  let last ← numbers.getLast?
  let front := numbers.dropLast
  if front.any (255 < ·) || Nat.pow 256 (4 - front.length) ≤ last then none
  let high := front.foldl (fun total n => total * 256 + n) 0
  pure (high * Nat.pow 256 (4 - front.length) + last)

def v4Text (address : Nat) : List Char :=
  joinAll '.' ([3, 2, 1, 0].map fun k => Nat.toDigits 10 (address / Nat.pow 256 k % 256))

/-- A number from zero to 255 without leading zeros. -/
def byteNumber? (digits : List Char) : Option Nat :=
  match digits with
  | [] => none
  | '0' :: _ :: _ => none
  | digits =>
    if digits.all Char.isDigit && digits.length ≤ 3 && ofDigits 10 digits ≤ 255 then
      some (ofDigits 10 digits)
    else none

/-- The two words of an address of four bytes at the end of one of eight words. -/
def v4Words? (chars : List Char) : Option (List Nat) := do
  match splitAll '.' chars with
  | [a, b, c, d] =>
    let a ← byteNumber? a
    let b ← byteNumber? b
    let c ← byteNumber? c
    let d ← byteNumber? d
    pure [a * 256 + b, c * 256 + d]
  | _ => none

def word? (digits : List Char) : Option Nat :=
  if !digits.isEmpty && digits.length ≤ 4
      && digits.all fun c => c.toNat < 0x80 && (Percent.value? (UInt8.ofNat c.toNat)).isSome then
    some (ofDigits 16 digits)
  else none

/-- The words of a list of pieces; the last one may be four bytes. -/
def v6Words (lastMayBeV4 : Bool) : List (List Char) -> Option (List Nat)
  | [] => some []
  | [piece] => if lastMayBeV4 && piece.contains '.' then v4Words? piece else (word? piece).map ([·])
  | piece :: rest => do
    let word ← word? piece
    let words ← v6Words lastMayBeV4 rest
    pure (word :: words)

/-- Splits at the first pair of colons. -/
def splitGap : List Char -> Option (List Char × List Char)
  | [] => none
  | ':' :: ':' :: rest => some ([], rest)
  | c :: rest => (splitGap rest).map fun halves => (c :: halves.1, halves.2)

/-- The words of a side of an address; a side may be empty. -/
def v6Side (lastMayBeV4 : Bool) (chars : List Char) : Option (List Nat) :=
  if chars.isEmpty then some [] else v6Words lastMayBeV4 (splitAll ':' chars)

/-- An address of eight words; two colons stand for as many zeros as are missing. -/
def v6? (chars : List Char) : Option (List Nat) :=
  match splitGap chars with
  | none => do
    let words ← v6Side true chars
    if words.length = 8 then pure words else none
  | some (left, right) => do
    let front ← v6Side false left
    let back ← v6Side true right
    if front.length + back.length < 8 then
      pure (front ++ List.replicate (8 - front.length - back.length) 0 ++ back)
    else none

def zeroRun (words : List Nat) : Nat := (words.takeWhile (· == 0)).length

/-- Where the longest run of zeros starts and how long it is; of two the first. -/
def longestRun : List Nat -> Nat -> Nat × Nat
  | [], _ => (0, 0)
  | word :: rest, place =>
    let best := longestRun rest (place + 1)
    let here := zeroRun (word :: rest)
    if best.2 ≤ here then (place, here) else best

/-- The words of an address, the longest run of two and more zeros left out. -/
def v6Text (words : List Nat) : List Char :=
  let hex := fun (words : List Nat) => joinAll ':' (words.map fun word => Nat.toDigits 16 word)
  let run := longestRun words 0
  if run.2 < 2 then hex words
  else hex (words.take run.1) ++ [':', ':'] ++ hex (words.drop (run.1 + run.2))

def Host.text : Host -> List Char
  | .name text => text.toList
  | .v4 address => v4Text address
  | .v6 words => '[' :: v6Text words ++ [']']

def bracketed (chars : List Char) : Except Fault Host :=
  if chars.getLast? = some ']' then
    match v6? (chars.drop 1).dropLast with
    | some words => .ok (.v6 words)
    | none => .error .badV6
  else .error .badV6

def Host.ofWeb (chars : List Char) : Except Fault Host :=
  if chars.head? = some '[' then bracketed chars
  else
    match Text.ofUtf8? (Percent.decode (Text.utf8 (String.ofList chars))) with
    | none => .error .badName
    | some text => do
      let name ← asciiName text.toList
      if name.isEmpty then throw .emptyHost
      if endsInNumber name then
        match v4? name with
        | some address => pure (.v4 address)
        | none => throw .badV4
      else pure (.name (String.ofList name))

/-- The host of any other address, which is kept as it is written. -/
def Host.ofOther (chars : List Char) : Except Fault Host :=
  if chars.head? = some '[' then bracketed chars
  else if chars.any fun c =>
      ['\x00', '\t', '\n', '\r', ' ', '#', '/', ':', '<', '>', '?', '@', '[', '\\', ']', '^',
        '|'].contains c then
    .error .badNameCharacter
  else .ok (.name (String.ofList (Percent.encode Percent.inPlain chars)))

end ScriptOracle.Url
