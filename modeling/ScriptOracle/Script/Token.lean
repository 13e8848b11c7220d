import ScriptOracle.Number.Decimal
import ScriptOracle.Script.Numeral
import ScriptOracle.Script.Syntax
import ScriptOracle.Text.Case
import ScriptOracle.Text.Hexadecimal

/-!
# Tokens

The text of a program is cut into words, literals, marks and the pieces of templates. Blanks and
comments fall away, but a token remembers whether a line ended before it, because a line end can stand
for a semicolon.
-/

namespace ScriptOracle.Script

inductive Malformed where
  | unexpectedEnd
  | unexpected (shown : String)
  | unterminated (shown : String)
  | badCharacter (c : Char)
  | badNumber
  | badEscape
  | repeatedName (name : String)
  | missingValue (name : String)
  | misplaced (word : String)
  | badTarget
deriving DecidableEq, Repr

def Malformed.message : Malformed -> String
  | .unexpectedEnd => "abrupt end"
  | .unexpected shown => s!"unexpected token '{shown}'"
  | .unterminated shown => s!"unterminated {shown}"
  | .badCharacter c => s!"unexpected '{c}'"
  | .badNumber => "malformed number"
  | .badEscape => "malformed escape sequence"
  | .repeatedName name => s!"redeclaration of '{name}'"
  | .missingValue name => s!"expected initializer for const declaration '{name}'"
  | .misplaced word => s!"'{word}' is not allowed here"
  | .badTarget => "invalid assignment target"

/-- Tokens. A piece of a template tells whether it is the first and whether it is the last one. -/
inductive Token where
  | word (name : String)
  | literal (value : Literal)
  | mark (text : String)
  | piece (isFirst isLast : Bool) (units : Units)

structure Lexeme where
  token : Token
  isFresh : Bool

def Token.shown : Token -> String
  | .word name => name
  | .literal _ => "literal"
  | .mark text => text
  | .piece _ _ _ => "template"

namespace Token

def isLineEnd (c : Char) : Bool :=
  c == '\n' || c == '\r' || c == Char.ofNat 0x2028 || c == Char.ofNat 0x2029

/-- Whether a character separates tokens within a line. -/
def isSpace (c : Char) : Bool :=
  c == Char.ofNat 0xFEFF || (c != Char.ofNat 0x85 && Text.isBlank c)

def letterRanges : List (Nat × Nat) := [
  (0xAA, 0xAA), (0xB5, 0xB5), (0xBA, 0xBA), (0xC0, 0xD6), (0xD8, 0xF6), (0xF8, 0x2C1),
  (0x370, 0x373), (0x376, 0x377), (0x37A, 0x37D), (0x37F, 0x37F), (0x386, 0x386), (0x388, 0x3FF),
  (0x400, 0x481), (0x48A, 0x52F), (0x531, 0x556), (0x560, 0x588), (0x5D0, 0x5EA), (0x620, 0x64A),
  (0x671, 0x6D3), (0x904, 0x939), (0xE01, 0xE30), (0x10A0, 0x10FF), (0x1100, 0x1248),
  (0x1E00, 0x1FBC), (0x2071, 0x2071), (0x207F, 0x207F), (0x210A, 0x2113), (0x2C00, 0x2CE4),
  (0x3005, 0x3007), (0x3041, 0x3096), (0x30A1, 0x30FA), (0x3105, 0x312F), (0x3131, 0x318E),
  (0x3400, 0x4DBF), (0x4E00, 0xA48C), (0xAC00, 0xD7A3), (0xF900, 0xFA6D), (0xFF21, 0xFF3A),
  (0xFF41, 0xFF5A), (0xFF66, 0xFFBE), (0x20000, 0x2FA1D)]

def isWordStart (c : Char) : Bool :=
  c.isAlpha || c == '$' || c == '_' || Text.inRanges letterRanges c.toNat

def isWordPart (c : Char) : Bool :=
  isWordStart c || c.isDigit || c == Char.ofNat 0x200C || c == Char.ofNat 0x200D ||
    Text.inRanges [(0x300, 0x36F)] c.toNat

inductive Gap where
  | blank
  | line
  | block
deriving DecidableEq, Repr

/-- Skips blanks and comments and tells whether a line ended; nothing if a comment is not closed. -/
def skipGap : Gap -> Bool -> List Char -> Option (Bool × List Char)
  | .blank, broken, '/' :: '/' :: rest => skipGap .line broken rest
  | .blank, broken, '/' :: '*' :: rest => skipGap .block broken rest
  | .blank, broken, c :: rest =>
    if isLineEnd c then skipGap .blank true rest
    else if isSpace c then skipGap .blank broken rest
    else some (broken, c :: rest)
  | .line, broken, c :: rest =>
    if isLineEnd c then skipGap .blank true rest else skipGap .line broken rest
  | .block, broken, '*' :: '/' :: rest => skipGap .blank broken rest
  | .block, broken, c :: rest => skipGap .block (broken || isLineEnd c) rest
  | .block, _, [] => none
  | _, broken, [] => some (broken, [])

def hexNumber? (digits : List Char) : Option Nat :=
  if digits.isEmpty then none
  else
    digits.foldl (fun n c => n.bind fun n =>
      (Hexadecimal.value? (UInt8.ofNat (min c.toNat 255))).map fun d => 16 * n + d) (some 0)

def codeUnits? (code : Nat) : Option Units :=
  if code < 0x10000 then some [UInt16.ofNat code]
  else if code < 0x110000 then some (Units.ofChar (Char.ofNat code))
  else none

/-- The units of an escape whose first digits or braces follow, and the rest. -/
def unicodeEscape (chars : List Char) : Except Malformed (Units × List Char) :=
  match chars with
  | '\x7b' :: rest =>
    match (hexNumber? (rest.takeWhile (· != '\x7d'))).bind codeUnits?,
        rest.dropWhile (· != '\x7d') with
    | some units, _ :: rest => .ok (units, rest)
    | _, _ => .error .badEscape
  | a :: b :: c :: d :: rest =>
    match hexNumber? [a, b, c, d] with
    | some code => .ok ([UInt16.ofNat code], rest)
    | none => .error .badEscape
  | _ => .error .badEscape

/-- The units of an escape, given the text behind its backslash, and the rest. -/
def escape (chars : List Char) : Except Malformed (Units × List Char) :=
  match chars with
  | 'n' :: rest => .ok ([0x0A], rest)
  | 't' :: rest => .ok ([0x09], rest)
  | 'r' :: rest => .ok ([0x0D], rest)
  | 'b' :: rest => .ok ([0x08], rest)
  | 'f' :: rest => .ok ([0x0C], rest)
  | 'v' :: rest => .ok ([0x0B], rest)
  | 'x' :: a :: b :: rest =>
    match hexNumber? [a, b] with
    | some code => .ok ([UInt16.ofNat code], rest)
    | none => .error .badEscape
  | 'x' :: _ => .error .badEscape
  | 'u' :: rest => unicodeEscape rest
  | '\r' :: '\n' :: rest => .ok ([], rest)
  | '0' :: rest => if rest.head?.any Char.isDigit then .error .badEscape else .ok ([0], rest)
  | c :: rest =>
    if isLineEnd c then .ok ([], rest)
    else if c.isDigit then .error .badEscape
    else .ok (Units.ofChar c, rest)
  | [] => .error (.unterminated "string literal")

/-- Reads a text up to its quote, behind units that are kept in reverse. -/
def scanText (quote : Char) : Nat -> List Char -> Units -> Except Malformed (Units × List Char)
  | 0, _, _ => .error (.unterminated "string literal")
  | _, [], _ => .error (.unterminated "string literal")
  | fuel + 1, c :: rest, soFar =>
    if c = quote then .ok (soFar.reverse, rest)
    else if c = '\\' then
      match escape rest with
      | .error fault => .error fault
      | .ok (units, rest) => scanText quote fuel rest (units.reverse ++ soFar)
    else if c = '\n' ∨ c = '\r' then .error (.unterminated "string literal")
    else scanText quote fuel rest ((Units.ofChar c).reverse ++ soFar)

/-- Reads a piece of a template, up to the end of the template or to a value inside it. -/
def scanPiece (isFirst : Bool) : Nat -> List Char -> Units -> Except Malformed (Token × List Char)
  | 0, _, _ => .error (.unterminated "template literal")
  | _, [], _ => .error (.unterminated "template literal")
  | _, '\x60' :: rest, soFar => .ok (.piece isFirst true soFar.reverse, rest)
  | _, '$' :: '\x7b' :: rest, soFar => .ok (.piece isFirst false soFar.reverse, rest)
  | fuel + 1, '\\' :: rest, soFar =>
    match escape rest with
    | .error fault => .error fault
    | .ok (units, rest) => scanPiece isFirst fuel rest (units.reverse ++ soFar)
  | fuel + 1, '\r' :: '\n' :: rest, soFar => scanPiece isFirst fuel rest (0x0A :: soFar)
  | fuel + 1, c :: rest, soFar =>
    if c = '\r' then scanPiece isFirst fuel rest (0x0A :: soFar)
    else scanPiece isFirst fuel rest ((Units.ofChar c).reverse ++ soFar)

def isSpaced : List Char -> Bool
  | [] => true
  | '_' :: _ => false
  | c :: rest =>
    match rest with
    | ['_'] => false
    | '_' :: '_' :: _ => false
    | '_' :: d :: more => c != '_' && isSpaced (d :: more)
    | rest => isSpaced rest

def plainDigits? (chars : List Char) : Option (List Char) :=
  if chars.isEmpty || !isSpaced chars then none else some (chars.filter (· != '_'))

def baseNumber? (base : Nat) (digits : List Char) : Option Nat :=
  digits.foldl (fun n c => n.bind fun n =>
    ((Hexadecimal.value? (UInt8.ofNat (min c.toNat 255))).filter (· < base)).map fun d =>
      base * n + d) (some 0)

def ofNumeral : Numeral -> Literal
  | .int n => .int n
  | .float x => .float x

def ofNat (n : Nat) : Literal := ofNumeral (.ofInt n)

def markedLiteral? (base : Nat) (chars : List Char) : Option Literal :=
  match chars.reverse with
  | 'n' :: digits =>
    (plainDigits? digits.reverse).bind fun digits => (baseNumber? base digits).map fun n =>
      .bigint n
  | _ => (plainDigits? chars).bind fun digits => (baseNumber? base digits).map ofNat

def isDigitPart (c : Char) : Bool := c.isDigit || c == '_'

/-- The fraction behind a point, if there is one, and the rest. -/
def splitFraction : List Char -> List Char × List Char
  | '.' :: rest => ('.' :: rest.takeWhile isDigitPart, rest.dropWhile isDigitPart)
  | chars => ([], chars)

/-- The exponent, if there is one, and the rest. -/
def splitExponent : List Char -> List Char × List Char
  | e :: sign :: rest =>
    if e = 'e' ∨ e = 'E' then
      if sign = '+' ∨ sign = '-' then
        (e :: sign :: rest.takeWhile isDigitPart, rest.dropWhile isDigitPart)
      else (e :: (sign :: rest).takeWhile isDigitPart, (sign :: rest).dropWhile isDigitPart)
    else ([], e :: sign :: rest)
  | chars => ([], chars)

/-- Whether a part of a number is missing or has its digits spaced well. -/
def isSpacedPart (part : List Char) : Bool :=
  isSpaced (part.dropWhile fun c => !isDigitPart c)

def decimalLiteral? (whole fraction exponent : List Char) : Option Literal :=
  if !(isSpaced whole && isSpacedPart fraction && isSpacedPart exponent) then none
  else if exponent != [] && !exponent.any Char.isDigit then none
  else
    (Double.read? ((whole ++ fraction ++ exponent).filter (· != '_'))).map fun x =>
      ofNumeral (.ofWhole x)

def scanNumber (chars : List Char) : Option (Literal × List Char) :=
  let marked (base : Nat) (rest : List Char) :=
    (markedLiteral? base (rest.takeWhile isWordPart)).map fun value =>
      (value, rest.dropWhile isWordPart)
  match chars with
  | '0' :: 'x' :: rest | '0' :: 'X' :: rest => marked 16 rest
  | '0' :: 'o' :: rest | '0' :: 'O' :: rest => marked 8 rest
  | '0' :: 'b' :: rest | '0' :: 'B' :: rest => marked 2 rest
  | chars =>
    let whole := chars.takeWhile isDigitPart
    let rest := chars.dropWhile isDigitPart
    match whole, rest with
    | '0' :: _ :: _, _ =>
      if whole.all fun c => '0' ≤ c && c < '8' then (baseNumber? 8 whole).map fun n => (ofNat n, rest)
      else none
    | _, 'n' :: rest =>
      (plainDigits? whole).bind fun digits => (baseNumber? 10 digits).map fun n =>
        (.bigint n, rest)
    | _, _ =>
      let (fraction, rest) := splitFraction rest
      let (exponent, rest) := splitExponent rest
      (decimalLiteral? whole fraction exponent).map fun value => (value, rest)

def marks : List String := [
  "...", "===", "!==", "**=", "&&=", "||=", "??=", "=>", "==", "!=", "<=", ">=", "&&", "||", "??",
  "++", "--", "+=", "-=", "*=", "/=", "%=", "**", "\x7b", "\x7d", "(", ")", "[", "]", ";", ",", "<",
  ">", "+", "-", "*", "/", "%", "!", "?", ":", "=", ".", "&", "|", "^", "~"]

def behind? : List Char -> List Char -> Option (List Char)
  | [], rest => some rest
  | _ :: _, [] => none
  | c :: start, d :: rest => if c = d then behind? start rest else none

def scanMark (chars : List Char) : Option (String × List Char) :=
  marks.findSome? fun text => (behind? text.toList chars).map fun rest => (text, rest)

/-- What is open around a token, innermost first: braces, or the value of a template. -/
abbrev Nest := List Bool

def Nest.after (nest : Nest) (text : String) : Nest :=
  if text = "\x7b" then false :: nest else if text = "\x7d" then nest.tail else nest

def Nest.afterPiece (nest : Nest) : Token -> Nest
  | .piece _ false _ => true :: nest
  | _ => nest

def scan (nest : Nest) (chars : List Char) : Except Malformed (Token × List Char × Nest) := do
  match chars with
  | [] => throw .unexpectedEnd
  | '\x27' :: rest =>
    let (units, rest) ← scanText '\x27' rest.length rest []
    pure (.literal (.text units), rest, nest)
  | '\x22' :: rest =>
    let (units, rest) ← scanText '\x22' rest.length rest []
    pure (.literal (.text units), rest, nest)
  | '\x60' :: rest =>
    let (part, rest) ← scanPiece true rest.length rest []
    pure (part, rest, nest.afterPiece part)
  | c :: rest =>
    if c.isDigit || (c == '.' && rest.head?.any Char.isDigit) then
      match scanNumber chars with
      | none => throw .badNumber
      | some (value, rest) =>
        if rest.head?.any isWordPart then throw .badNumber
        pure (.literal value, rest, nest)
    else if isWordStart c then
      pure (.word (String.ofList (chars.takeWhile isWordPart)), chars.dropWhile isWordPart, nest)
    else if c = '\x7d' ∧ nest.head? = some true then
      let (part, rest) ← scanPiece false rest.length rest []
      pure (part, rest, Nest.afterPiece nest.tail part)
    else
      match scanMark chars with
      | some (found, rest) => pure (.mark found, rest, nest.after found)
      | none => throw (.badCharacter c)

/-- Reads all tokens, behind those that are kept in reverse. -/
def scanAll : Nat -> Nest -> List Char -> List Lexeme -> Except Malformed (List Lexeme)
  | 0, _, _, _ => .error .unexpectedEnd
  | fuel + 1, nest, chars, soFar =>
    match skipGap .blank false chars with
    | none => .error (.unterminated "multi-line comment")
    | some (_, []) => .ok soFar.reverse
    | some (isFresh, chars) =>
      match scan nest chars with
      | .error fault => .error fault
      | .ok (token, rest, nest) => scanAll fuel nest rest (⟨token, isFresh⟩ :: soFar)

def ofText (text : String) : Except Malformed (List Lexeme) :=
  scanAll (text.length + 1) [] text.toList []

end Token

end ScriptOracle.Script
