import ScriptOracle.Text.Letter

/-!
# Capitals and small letters

`upperCase` and `lowerCase` map whole texts, so that one letter may become several and the small
sigma takes its final form at the end of a word. `asciiLowerCase` leaves all but the twenty-six
letters as they are. `trim` drops the blanks on both sides.
-/

namespace ScriptOracle.Text

def shiftOf? (rows : List Letter.Row) (code : Nat) : Option Int :=
  match rows with
  | [] => none
  | (first, last, step, shift) :: rest =>
    if first ≤ code ∧ code ≤ last ∧ (code - first) % step = 0 then some shift
    else shiftOf? rest code

def inRanges (ranges : List (Nat × Nat)) (code : Nat) : Bool :=
  ranges.any fun range => range.1 ≤ code && code ≤ range.2

def moved (rows : List Letter.Row) (c : Char) : Char :=
  match shiftOf? rows c.toNat with
  | some shift => Char.ofNat ((c.toNat : Int) + shift).toNat
  | none => c

/-- The small letter among the twenty-six; any other character is kept. -/
def asciiLower (c : Char) : Char :=
  if 'A' ≤ c ∧ c ≤ 'Z' then Char.ofNat (c.toNat + 32) else c

/-- The capital among the twenty-six; any other character is kept. -/
def asciiUpper (c : Char) : Char :=
  if 'a' ≤ c ∧ c ≤ 'z' then Char.ofNat (c.toNat - 32) else c

/-- The text with the twenty-six letters made small. -/
def asciiLowerCase (text : String) : String := String.ofList (text.toList.map asciiLower)

/-- Whether two texts differ at most in the case of the twenty-six letters. -/
def sameIgnoringAsciiCase (a b : String) : Bool := asciiLowerCase a == asciiLowerCase b

def capitals (c : Char) : List Char :=
  if c.toNat < 0x80 then [asciiUpper c]
  else
    match Letter.toCapitals.find? (·.1 == c.toNat) with
    | some row => row.2.map Char.ofNat
    | none => [moved Letter.toCapital c]

def upperCase (text : String) : String := String.ofList (text.toList.flatMap capitals)

/-- Whether the nearest character that is not passed over has a case. -/
def casedNext (chars : List Char) : Bool :=
  match chars.dropWhile (fun c => inRanges Letter.passedOver c.toNat) with
  | [] => false
  | c :: _ => inRanges Letter.cased c.toNat

/-- The small letters of a character between the text before it, in reverse, and the text after
it. -/
def smallLetters (before : List Char) (c : Char) (after : List Char) : List Char :=
  if c.toNat < 0x80 then [asciiLower c]
  else if c = 'Σ' then if casedNext before && !casedNext after then ['ς'] else ['σ']
  else if c = 'İ' then ['i', '\u0307']
  else [moved Letter.toSmall c]

def lowerChars (before : List Char) : List Char -> List Char
  | [] => []
  | c :: after => smallLetters before c after ++ lowerChars (c :: before) after

def lowerCase (text : String) : String := String.ofList (lowerChars [] text.toList)

def isBlank (c : Char) : Bool :=
  let code := c.toNat
  (0x09 ≤ code && code ≤ 0x0D) || code == 0x20 || code == 0x85 || code == 0xA0 || code == 0x1680
    || (0x2000 ≤ code && code ≤ 0x200A) || code == 0x2028 || code == 0x2029 || code == 0x202F
    || code == 0x205F || code == 0x3000

/-- The characters without blanks on either side. -/
def trimChars (chars : List Char) : List Char :=
  ((chars.dropWhile isBlank).reverse.dropWhile isBlank).reverse

def trim (text : String) : String := String.ofList (trimChars text.toList)

end ScriptOracle.Text
