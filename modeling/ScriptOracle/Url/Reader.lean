import ScriptOracle.Url.Basic

/-!
# Reading addresses

Blanks and control characters on both sides and tabs and line breaks everywhere are dropped. An
address must name its scheme. Web schemes always have a host and a path, take a backslash for a
slash, and leave their usual port out.
-/

namespace ScriptOracle.Url

inductive Kind where
  | file
  | web
  | other
deriving DecidableEq, Repr

def Kind.ofScheme (scheme : List Char) : Kind :=
  match String.ofList scheme with
  | "file" => .file
  | "http" | "https" | "ws" | "wss" | "ftp" => .web
  | _ => .other

def Kind.isSpecial : Kind -> Bool
  | .other => false
  | _ => true

def usualPort? (scheme : List Char) : Option Nat :=
  match String.ofList scheme with
  | "http" | "ws" => some 80
  | "https" | "wss" => some 443
  | "ftp" => some 21
  | _ => none

def cleaned (text : String) : List Char :=
  let chars := (text.toList.dropWhile (·.toNat ≤ 0x20)).reverse
  ((chars.dropWhile (·.toNat ≤ 0x20)).reverse).filter fun c => c ≠ '\t' ∧ c ≠ '\n' ∧ c ≠ '\r'

/-- Whether a character may stand in a scheme behind its first letter. -/
def inScheme (c : Char) : Bool :=
  c.isAlphanum || c == '+' || c == '-' || c == '.'

/-- The scheme, in small letters, and what follows its colon. -/
def splitScheme (chars : List Char) : Option (List Char × List Char) :=
  match chars with
  | [] => none
  | first :: _ =>
    if !first.isAlpha then none
    else
      match chars.dropWhile inScheme with
      | ':' :: rest => some ((chars.takeWhile inScheme).map Text.asciiLower, rest)
      | _ => none

/-- Whether a character separates the parts of a path. -/
def isSlash (special : Bool) (c : Char) : Bool := c == '/' || (special && c == '\\')

def endsAuthority (special : Bool) (c : Char) : Bool :=
  c == '/' || c == '?' || c == '#' || (special && c == '\\')

/-- Splits at the last occurrence of a character. -/
def splitLast (mark : Char) (chars : List Char) : Option (List Char × List Char) :=
  let after := (chars.reverse.takeWhile (· != mark)).reverse
  if after.length = chars.length then none
  else some (chars.take (chars.length - after.length - 1), after)

def hostChars (inBrackets : Bool) : List Char -> List Char × List Char
  | [] => ([], [])
  | c :: rest =>
    if c = ':' ∧ !inBrackets then ([], c :: rest)
    else
      let inside := if c = '[' then true else if c = ']' then false else inBrackets
      let more := hostChars inside rest
      (c :: more.1, more.2)

/-- The port behind the host; the usual one is left out. -/
def readPort (scheme digits : List Char) : Except Fault (Option Nat) :=
  if digits.isEmpty then .ok none
  else if digits.all Char.isDigit ∧ ofDigits 10 digits ≤ 65535 then
    let port := ofDigits 10 digits
    .ok (if usualPort? scheme = some port then none else some port)
  else .error .badPort

structure Authority where
  user : List Char
  password : List Char
  host : Host
  port : Option Nat

/-- The name and password in front of a host. -/
def readUser (chars : List Char) : List Char × List Char :=
  (Percent.encode Percent.inUserInfo (chars.takeWhile (· != ':')),
    Percent.encode Percent.inUserInfo ((chars.dropWhile (· != ':')).drop 1))

/-- Reads what stands between the slashes and the path; `more` tells that something follows. -/
def readAuthority (kind : Kind) (scheme chars : List Char) (more : Bool) :
    Except Fault Authority := do
  let (info, place) := (splitLast '@' chars).getD ([], chars)
  if chars = ['@'] ∧ more then throw .emptyHost
  let (user, password) := readUser info
  let (name, after) := hostChars false place
  let host ←
    if kind = .web then if name.isEmpty then throw .emptyHost else Host.ofWeb name
    else Host.ofOther name
  if name.isEmpty ∧ !after.isEmpty then throw .emptyHost
  let port ← readPort scheme (after.drop 1)
  if name.isEmpty ∧ !(user.isEmpty && password.isEmpty) then throw .emptyHost
  pure ⟨user, password, host, port⟩

/-- Whether a part of a path stays where it is. -/
def isHere (part : List Char) : Bool :=
  ["." , "%2e"].contains (String.ofList (part.map Text.asciiLower))

def isUp (part : List Char) : Bool :=
  ["..", ".%2e", "%2e.", "%2e%2e"].contains (String.ofList (part.map Text.asciiLower))

def isDrive (part : List Char) : Bool :=
  match part with
  | [letter, mark] => letter.isAlpha && (mark == ':' || mark == '|')
  | _ => false

/-- Leaves the last part out, except a drive at the front of a file path. -/
def shorten (kind : Kind) (parts : List (List Char)) : List (List Char) :=
  match kind, parts with
  | .file, [[letter, ':']] => if letter.isAlpha then [[letter, ':']] else []
  | _, parts => parts.dropLast

/-- Adds a part to a path; `last` tells that no slash follows it. -/
def addPart (kind : Kind) (parts : List (List Char)) (part : List Char) (last : Bool) :
    List (List Char) :=
  if isUp part then
    let parts := shorten kind parts
    if last then parts ++ [[]] else parts
  else if isHere part then if last then parts ++ [[]] else parts
  else if kind = .file ∧ parts.isEmpty ∧ isDrive part then parts ++ [[part.headD 'c', ':']]
  else parts ++ [part]

def splitSlashes (special : Bool) : List Char -> List (List Char)
  | [] => [[]]
  | c :: rest =>
    if isSlash special c then [] :: splitSlashes special rest
    else
      match splitSlashes special rest with
      | [] => [[c]]
      | piece :: pieces => (c :: piece) :: pieces

def addParts (kind : Kind) (parts : List (List Char)) : List (List Char) -> List (List Char)
  | [] => parts
  | [part] => addPart kind parts part true
  | part :: rest => addParts kind (addPart kind parts part false) rest

/-- The parts of a path, from behind its first slash on. A file path does not start with empty
parts. -/
def readParts (kind : Kind) (chars : List Char) : List (List Char) :=
  let pieces := (splitSlashes kind.isSpecial chars).map (Percent.encode Percent.inPath)
  let parts := addParts kind [] pieces
  if kind = .file then
    let kept := parts.dropWhile (·.isEmpty)
    if kept.isEmpty then [[]] else kept
  else parts

def readPathAfterHost (kind : Kind) (chars : List Char) : Path :=
  match chars with
  | [] => if kind.isSpecial then .rooted [[]] else .rooted []
  | c :: rest =>
    if isSlash kind.isSpecial c then .rooted (readParts kind rest) else .rooted (readParts kind chars)

def readTail (kind : Kind) (chars : List Char) : Option (List Char) × Option (List Char) :=
  let queryPart := chars.takeWhile (· != '#')
  let fragmentPart := chars.dropWhile (· != '#')
  let allowed := if kind.isSpecial then Percent.inWebQuery else Percent.inQuery
  (match queryPart with
    | [] => none
    | _ :: query => some (Percent.encode allowed query),
   match fragmentPart with
    | [] => none
    | _ :: fragment => some (Percent.encode Percent.inFragment fragment))

def assemble (kind : Kind) (scheme : List Char) (place : Option Authority) (path : Path)
    (tail : List Char) : Url :=
  let ends := readTail kind tail
  { scheme := String.ofList scheme
    user := (place.map Authority.user).getD []
    password := (place.map Authority.password).getD []
    host := place.map Authority.host
    port := (place.map Authority.port).getD none
    path := path
    query := ends.1
    fragment := ends.2 }

/-- Reads an address from behind the slashes that announce a host. -/
def readWithHost (kind : Kind) (scheme chars : List Char) : Except Fault Url := do
  let front := chars.takeWhile (!endsAuthority kind.isSpecial ·)
  let rest := chars.dropWhile (!endsAuthority kind.isSpecial ·)
  let place ← readAuthority kind scheme front (!rest.isEmpty)
  let pathChars := rest.takeWhile fun c => c != '?' && c != '#'
  let tail := rest.dropWhile fun c => c != '?' && c != '#'
  pure (assemble kind scheme (some place) (readPathAfterHost kind pathChars) tail)

/-- The host of a file address; the local one is left out. -/
def readFileHost (name : List Char) : Except Fault (Option Authority) :=
  if name.isEmpty then .ok none
  else do
    let host ← Host.ofWeb name
    if host = .name "localhost" then pure none else pure (some ⟨[], [], host, none⟩)

def readFile (scheme chars : List Char) : Except Fault Url := do
  let pathPart := chars.takeWhile fun c => c != '?' && c != '#'
  let tail := chars.dropWhile fun c => c != '?' && c != '#'
  match pathPart with
  | a :: b :: rest =>
    if isSlash true a && isSlash true b then
      let name := rest.takeWhile (!isSlash true ·)
      let after := rest.dropWhile (!isSlash true ·)
      if isDrive name then
        pure (assemble .file scheme none (.rooted (readParts .file rest)) tail)
      else
        let host ← readFileHost name
        let parts := readParts .file (after.drop 1)
        let host := match parts with
          | [letter, ':'] :: _ => if letter.isAlpha then none else host
          | _ => host
        pure (assemble .file scheme host (.rooted parts) tail)
    else if isSlash true a then
      pure (assemble .file scheme none (.rooted (readParts .file (b :: rest))) tail)
    else pure (assemble .file scheme none (.rooted (readParts .file (a :: b :: rest))) tail)
  | [a] =>
    pure (assemble .file scheme none
      (.rooted (readParts .file (if isSlash true a then [] else [a]))) tail)
  | [] => pure (assemble .file scheme none (.rooted [[]]) tail)

def readOther (scheme chars : List Char) : Except Fault Url :=
  match chars with
  | '/' :: '/' :: rest => readWithHost .other scheme rest
  | _ =>
    let pathPart := chars.takeWhile fun c => c != '?' && c != '#'
    let tail := chars.dropWhile fun c => c != '?' && c != '#'
    match pathPart with
    | '/' :: rest => .ok (assemble .other scheme none (.rooted (readParts .other rest)) tail)
    | _ =>
      .ok (assemble .other scheme none (.plain (Percent.encode Percent.inPlain pathPart)) tail)

def read (text : String) : Except Fault Url :=
  match splitScheme (cleaned text) with
  | none => .error .relative
  | some (scheme, rest) =>
    match Kind.ofScheme scheme with
    | .file => readFile scheme rest
    | .web => readWithHost .web scheme (rest.dropWhile (isSlash true))
    | .other => readOther scheme rest

end ScriptOracle.Url
