import ScriptOracle.Script.Token

/-!
# Programs from text

A reader takes tokens from the front. Each reader of the grammar has fuel, of which it hands less to
the readers inside it; `Program.ofText` starts with enough for any text of that length. What can be told
to be wrong without running the program is told here: names that are declared twice, constants without
a value, assignments to what is no variable, and jumps out of nothing.

The grammar is that of a part of the language: variables and constants of a block, functions and those that
wait, conditions, loops, exceptions, objects, lists and templates. A text outside of it is no program here, be
it a class, a `switch`, a pattern or a `var`.
-/

namespace ScriptOracle.Script

abbrev Reader (α : Type) := StateT (List Lexeme) (Except Malformed) α

/-- Where a piece of a program stands: what may be done there. -/
structure Place where
  isAsync : Bool
  isFunction : Bool
  isLoop : Bool

namespace Reader

/-- The complaint about the token that comes next. -/
def reject {α : Type} : Reader α := fun lexemes =>
  match lexemes with
  | [] => .error .unexpectedEnd
  | lexeme :: _ => .error (.unexpected lexeme.token.shown)

def sees (text : String) : Reader Bool := fun lexemes =>
  match lexemes with
  | ⟨.mark found, _⟩ :: _ => .ok (found == text, lexemes)
  | _ => .ok (false, lexemes)

/-- Takes a certain mark if it comes next, and tells whether it did. -/
def takes (text : String) : Reader Bool := fun lexemes =>
  match lexemes with
  | ⟨.mark found, isFresh⟩ :: rest =>
    if found = text then .ok (true, rest) else .ok (false, ⟨.mark found, isFresh⟩ :: rest)
  | _ => .ok (false, lexemes)

def mark (text : String) : Reader Unit := do
  if !(← takes text) then reject

def seesWord (text : String) : Reader Bool := fun lexemes =>
  match lexemes with
  | ⟨.word found, _⟩ :: _ => .ok (found == text, lexemes)
  | _ => .ok (false, lexemes)

/-- Takes a certain word if it comes next, and tells whether it did. -/
def takesWord (text : String) : Reader Bool := fun lexemes =>
  match lexemes with
  | ⟨.word found, isFresh⟩ :: rest =>
    if found = text then .ok (true, rest) else .ok (false, ⟨.word found, isFresh⟩ :: rest)
  | _ => .ok (false, lexemes)

def skip : Reader Unit := fun lexemes => .ok ((), lexemes.tail)

/-- Whether the token that comes next stands on the line of the one before it. -/
def isSameLine : Reader Bool := fun lexemes =>
  match lexemes with
  | ⟨_, isFresh⟩ :: _ => .ok (!isFresh, lexemes)
  | [] => .ok (false, lexemes)

/-- Whether the statement has come to its end: at a semicolon, before a closing brace, at the end of
the text, or before a new line. -/
def isAtEnd : Reader Bool := fun lexemes =>
  match lexemes with
  | [] => .ok (true, lexemes)
  | ⟨.mark ";", _⟩ :: _ => .ok (true, lexemes)
  | ⟨.mark "\x7d", _⟩ :: _ => .ok (true, lexemes)
  | ⟨_, isFresh⟩ :: _ => .ok (isFresh, lexemes)

def statementEnd : Reader Unit := do
  if !(← isAtEnd) then reject
  let _ ← takes ";"
  pure ()

end Reader

namespace Grammar

def reserved : List String := [
  "break", "case", "catch", "class", "const", "continue", "debugger", "default", "delete", "do",
  "else", "enum", "export", "extends", "false", "finally", "for", "function", "if", "import", "in",
  "instanceof", "new", "null", "return", "super", "switch", "this", "throw", "true", "try", "typeof",
  "var", "void", "while", "with"]

def isName (place : Place) (word : String) : Bool :=
  !reserved.contains word && !(place.isAsync && word == "await")

def name (place : Place) : Reader String := fun lexemes =>
  match lexemes with
  | ⟨.word word, isFresh⟩ :: rest =>
    if isName place word then .ok (word, rest) else Reader.reject (⟨.word word, isFresh⟩ :: rest)
  | _ => Reader.reject lexemes

/-- The names of parameters, behind the opening bracket. -/
def paramsFrom (place : Place) : List Lexeme -> Option (List String × List Lexeme)
  | ⟨.mark ")", _⟩ :: rest => some ([], rest)
  | ⟨.word word, _⟩ :: ⟨.mark ")", _⟩ :: rest =>
    if isName place word then some ([word], rest) else none
  | ⟨.word word, _⟩ :: ⟨.mark ",", _⟩ :: rest =>
    if isName place word then
      (paramsFrom place rest).map fun (words, rest) => (word :: words, rest)
    else none
  | _ => none

def params (place : Place) : Reader (List String) := do
  Reader.mark "("
  let lexemes ← get
  match paramsFrom place lexemes with
  | some (words, rest) => do
    set rest
    pure words
  | none => Reader.reject

/-- The parameters of an arrow function, and what stands behind its arrow. -/
def arrowParams? (place : Place) (lexemes : List Lexeme) : Option (List String × List Lexeme) :=
  let found := match lexemes with
    | ⟨.word word, _⟩ :: rest => if isName place word then some ([word], rest) else none
    | ⟨.mark "(", _⟩ :: rest => paramsFrom place rest
    | _ => none
  match found with
  | some (words, ⟨.mark "=>", false⟩ :: rest) => some (words, rest)
  | _ => none

/-- The start of an arrow function: whether it may await, its parameters, and what stands behind its
arrow. -/
def arrow? (place : Place) (lexemes : List Lexeme) : Option (Bool × List String × List Lexeme) :=
  match arrowParams? place lexemes with
  | some found => some (false, found)
  | none =>
    match lexemes with
    | ⟨.word "async", _⟩ :: ⟨token, false⟩ :: rest =>
      (arrowParams? { place with isAsync := true } (⟨token, false⟩ :: rest)).map fun found =>
        (true, found)
    | _ => none

/-- How tightly an operator binds, and the expression that it makes. -/
def operator? (mark : String) : Option (Nat × (Expr -> Expr -> Expr)) :=
  match mark with
  | "??" => some (1, .logical .ifNothing)
  | "||" => some (1, .logical .either)
  | "&&" => some (2, .logical .both)
  | "==" => some (3, .binary .equal)
  | "!=" => some (3, .binary .unequal)
  | "===" => some (3, .binary .same)
  | "!==" => some (3, .binary .different)
  | "<" => some (4, .binary .less)
  | ">" => some (4, .binary .greater)
  | "<=" => some (4, .binary .atMost)
  | ">=" => some (4, .binary .atLeast)
  | "+" => some (5, .binary .add)
  | "-" => some (5, .binary .subtract)
  | "*" => some (6, .binary .multiply)
  | "/" => some (6, .binary .divide)
  | "%" => some (6, .binary .remainder)
  | _ => none

/-- The operator of an assignment; nothing inside if it only assigns. -/
def assignment? (mark : String) : Option (Option BinaryOp) :=
  match mark with
  | "=" => some none
  | "+=" => some (some .add)
  | "-=" => some (some .subtract)
  | "*=" => some (some .multiply)
  | "/=" => some (some .divide)
  | "%=" => some (some .remainder)
  | "**=" => some (some .power)
  | _ => none

def unaryOp? (token : Token) : Option UnaryOp :=
  match token with
  | .mark "-" => some .negate
  | .mark "+" => some .plus
  | .mark "!" => some .not
  | .word "typeof" => some .typeOf
  | .word "void" => some .discard
  | _ => none

def isTarget : Expr -> Bool
  | .name _ => true
  | .member _ _ => true
  | _ => false

/-- Complains about an expression that nothing can be assigned to. -/
def needTarget (target : Expr) : Reader Unit :=
  if isTarget target then pure () else throw .badTarget

/-- Complains about a name that is declared twice. -/
def needDistinct : List String -> Reader Unit
  | [] => pure ()
  | name :: rest => if rest.contains name then throw (.repeatedName name) else needDistinct rest

def variableNames (body : List Stmt) : List String := (body.flatMap Stmt.declared).map (·.1)

def functions (body : List Stmt) : List String :=
  (body.filterMap Stmt.declaredFunction).map fun code => code.name.getD ""

/-- Complains if a block declares a variable twice. -/
def needBlock (outer : List String) (body : List Stmt) : Reader Unit := do
  let names := variableNames body
  needDistinct names
  match names.find? fun name => outer.contains name || (functions body).contains name with
  | some name => throw (.repeatedName name)
  | none => pure ()

def numberKey : Literal -> Units
  | .int n => Units.ofInt n
  | .float x => (Numeral.float x).text
  | .bigint n => Units.ofInt n
  | .text units => units
  | _ => []

/-- Whether the token after a word like `get` shows that the word is a field's own name. -/
def endsKey : List Lexeme -> Bool
  | ⟨.mark ":", _⟩ :: _ => true
  | ⟨.mark ",", _⟩ :: _ => true
  | ⟨.mark "(", _⟩ :: _ => true
  | ⟨.mark "\x7d", _⟩ :: _ => true
  | [] => true
  | _ => false

/-- Takes a certain word unless it is a field's own name. -/
def takesMarker (word : String) : Reader Bool := fun lexemes =>
  match lexemes with
  | ⟨.word found, isFresh⟩ :: rest =>
    if found = word ∧ !endsKey rest then .ok (true, rest)
    else .ok (false, ⟨.word found, isFresh⟩ :: rest)
  | _ => .ok (false, lexemes)

def inside (isAsync : Bool) : Place := ⟨isAsync, true, false⟩

/-- Whether a declaration of variables comes next, and whether it is of constants. -/
def declaration? (lexemes : List Lexeme) : Option Bool :=
  match lexemes with
  | ⟨.word "const", _⟩ :: _ => some true
  | ⟨.word "let", _⟩ :: ⟨.word _, _⟩ :: _ => some false
  | _ => none

/-- Whether a declaration of a function comes next, and whether that may await. -/
def functionStart? (lexemes : List Lexeme) : Option (Bool × List Lexeme) :=
  match lexemes with
  | ⟨.word "function", _⟩ :: rest => some (false, rest)
  | ⟨.word "async", _⟩ :: ⟨.word "function", false⟩ :: rest => some (true, rest)
  | _ => none

def constant? (word : String) : Option Expr :=
  match word with
  | "null" => some (.literal .null)
  | "true" => some (.literal (.bool true))
  | "false" => some (.literal (.bool false))
  | "this" => some .this
  | _ => none

mutual

def expression (place : Place) : Nat -> Reader Expr
  | 0 => Reader.reject
  | fuel + 1 => do
    let first ← assignment place fuel
    expressionRest place first fuel

def expressionRest (place : Place) (first : Expr) : Nat -> Reader Expr
  | 0 => Reader.reject
  | fuel + 1 => do
    if ← Reader.takes "," then
      let second ← assignment place fuel
      expressionRest place (.sequence first second) fuel
    else pure first

def assignment (place : Place) : Nat -> Reader Expr
  | 0 => Reader.reject
  | fuel + 1 => do
    match arrow? place (← get) with
    | some (isAsync, words, rest) => do
      set rest
      let body ← arrowBody isAsync words fuel
      pure (.function (.mk none words body isAsync true))
    | none => do
      let target ← conditional place fuel
      match ← get with
      | ⟨.mark text, _⟩ :: rest =>
        match assignment? text with
        | some op => do
          needTarget target
          set rest
          let value ← assignment place fuel
          pure (.assign target op value)
        | none => pure target
      | _ => pure target

def arrowBody (isAsync : Bool) (words : List String) : Nat -> Reader (List Stmt)
  | 0 => Reader.reject
  | fuel + 1 => do
    if ← Reader.sees "\x7b" then functionBody (inside isAsync) words fuel
    else
      let value ← assignment (inside isAsync) fuel
      pure [.give (some value)]

def conditional (place : Place) : Nat -> Reader Expr
  | 0 => Reader.reject
  | fuel + 1 => do
    let test ← operation place 1 fuel
    if ← Reader.takes "?" then
      let yes ← assignment place fuel
      Reader.mark ":"
      let no ← assignment place fuel
      pure (.conditional test yes no)
    else pure test

/-- Operators that bind at least as tightly as `level`. -/
def operation (place : Place) (level : Nat) : Nat -> Reader Expr
  | 0 => Reader.reject
  | fuel + 1 => do
    let left ← power place fuel
    operationRest place level left fuel

/-- More operators behind the first value. -/
def operationRest (place : Place) (level : Nat) (left : Expr) : Nat -> Reader Expr
  | 0 => Reader.reject
  | fuel + 1 => do
    match ← get with
    | ⟨.mark text, _⟩ :: rest =>
      match operator? text with
      | some (found, make) =>
        if level ≤ found then do
          set rest
          let right ← operation place (found + 1) fuel
          operationRest place level (make left right) fuel
        else pure left
      | none => pure left
    | _ => pure left

/-- A value, perhaps to a power. A value behind an operator of its own has none. -/
def power (place : Place) : Nat -> Reader Expr
  | 0 => Reader.reject
  | fuel + 1 => do
    let isPlain := match ← get with
      | ⟨token, _⟩ :: _ => (unaryOp? token).isNone
      | [] => true
    let isAwait ← Reader.seesWord "await"
    let base ← unary place fuel
    if isPlain && !(place.isAsync && isAwait) then
      if ← Reader.takes "**" then
        let exponent ← power place fuel
        pure (.binary .power base exponent)
      else pure base
    else pure base

def unary (place : Place) : Nat -> Reader Expr
  | 0 => Reader.reject
  | fuel + 1 => do
    match ← get with
    | ⟨.mark "++", _⟩ :: rest => do
      set rest
      let target ← unary place fuel
      needTarget target
      pure (.step target true true)
    | ⟨.mark "--", _⟩ :: rest => do
      set rest
      let target ← unary place fuel
      needTarget target
      pure (.step target false true)
    | ⟨token, _⟩ :: rest =>
      match unaryOp? token with
      | some op => do
        set rest
        let value ← unary place fuel
        pure (.unary op value)
      | none => do
        if (← Reader.seesWord "await") && place.isAsync then
          Reader.skip
          let value ← unary place fuel
          pure (.await value)
        else postfixed place fuel
    | [] => Reader.reject

/-- A value, perhaps counted up or down. -/
def postfixed (place : Place) : Nat -> Reader Expr
  | 0 => Reader.reject
  | fuel + 1 => do
    let target ← value place fuel
    match ← get with
    | ⟨.mark "++", false⟩ :: rest => do
      needTarget target
      set rest
      pure (.step target true false)
    | ⟨.mark "--", false⟩ :: rest => do
      needTarget target
      set rest
      pure (.step target false false)
    | _ => pure target

def value (place : Place) : Nat -> Reader Expr
  | 0 => Reader.reject
  | fuel + 1 => do
    let first ← head place fuel
    members place true first fuel

/-- The start of a value: a new object or something plain. -/
def head (place : Place) : Nat -> Reader Expr
  | 0 => Reader.reject
  | fuel + 1 => do
    if ← Reader.takesWord "new" then
      let first ← head place fuel
      let callee ← members place false first fuel
      if ← Reader.takes "(" then
        let values ← items place ")" fuel
        pure (.create callee values)
      else pure (.create callee [])
    else primary place fuel

/-- The members and, if they are allowed, the calls behind a value. -/
def members (place : Place) (calls : Bool) (target : Expr) : Nat -> Reader Expr
  | 0 => Reader.reject
  | fuel + 1 => do
    match ← get with
    | ⟨.mark ".", _⟩ :: ⟨.word word, _⟩ :: rest => do
      set rest
      members place calls (.member target (.literal (.text (Units.ofText word)))) fuel
    | ⟨.mark "[", _⟩ :: rest => do
      set rest
      let key ← expression place fuel
      Reader.mark "]"
      members place calls (.member target key) fuel
    | ⟨.mark "(", _⟩ :: rest =>
      if calls then do
        set rest
        let values ← items place ")" fuel
        members place calls (.call target values) fuel
      else pure target
    | _ => pure target

def items (place : Place) (close : String) : Nat -> Reader (List Expr)
  | 0 => Reader.reject
  | fuel + 1 => do
    if ← Reader.takes close then pure []
    else
      let first ← assignment place fuel
      if ← Reader.takes "," then
        let rest ← items place close fuel
        pure (first :: rest)
      else
        Reader.mark close
        pure [first]

def primary (place : Place) : Nat -> Reader Expr
  | 0 => Reader.reject
  | fuel + 1 => do
    match functionStart? (← get) with
    | some (isAsync, rest) => do
      set rest
      let code ← function place isAsync fuel
      pure (.function code)
    | none =>
      match ← get with
      | ⟨.literal found, _⟩ :: rest => do
        set rest
        pure (.literal found)
      | ⟨.piece true isLast units, _⟩ :: rest => do
        set rest
        let more ← pieces place isLast fuel
        pure (.template units more)
      | ⟨.mark "(", _⟩ :: rest => do
        set rest
        let inner ← expression place fuel
        Reader.mark ")"
        pure inner
      | ⟨.mark "[", _⟩ :: rest => do
        set rest
        let values ← items place "]" fuel
        pure (.list values)
      | ⟨.mark "\x7b", _⟩ :: rest => do
        set rest
        let fields ← fields place fuel
        pure (.object fields)
      | ⟨.word word, _⟩ :: rest =>
        match constant? word with
        | some found => do
          set rest
          pure found
        | none => do
          let word ← name place
          pure (.name word)
      | _ => Reader.reject

/-- The values and pieces of a template behind its first piece. -/
def pieces (place : Place) (isLast : Bool) : Nat -> Reader (List (Expr × Units))
  | 0 => Reader.reject
  | fuel + 1 => do
    if isLast then pure []
    else
      let first ← expression place fuel
      match ← get with
      | ⟨.piece false isLast units, _⟩ :: rest => do
        set rest
        let more ← pieces place isLast fuel
        pure ((first, units) :: more)
      | _ => Reader.reject

def fieldKey (place : Place) : Nat -> Reader Expr
  | 0 => Reader.reject
  | fuel + 1 => do
    match ← get with
    | ⟨.word word, _⟩ :: rest => do
      set rest
      pure (.literal (.text (Units.ofText word)))
    | ⟨.literal found, _⟩ :: rest => do
      set rest
      pure (.literal (.text (numberKey found)))
    | ⟨.mark "[", _⟩ :: rest => do
      set rest
      let key ← assignment place fuel
      Reader.mark "]"
      pure key
    | _ => Reader.reject

def fields (place : Place) : Nat -> Reader (List Field)
  | 0 => Reader.reject
  | fuel + 1 => do
    if ← Reader.takes "\x7d" then pure []
    else
      let first ← field place fuel
      if ← Reader.takes "," then
        let rest ← fields place fuel
        pure (first :: rest)
      else
        Reader.mark "\x7d"
        pure [first]

def field (place : Place) : Nat -> Reader Field
  | 0 => Reader.reject
  | fuel + 1 => do
    if ← takesMarker "get" then
      let key ← fieldKey place fuel
      let code ← method false fuel
      pure (.getter key code)
    else if ← takesMarker "set" then
      let key ← fieldKey place fuel
      let code ← method false fuel
      pure (.setter key code)
    else if ← takesMarker "async" then
      let key ← fieldKey place fuel
      let code ← method true fuel
      pure (.value key (.function code))
    else
      let lexemes ← get
      let key ← fieldKey place fuel
      if ← Reader.takes ":" then
        let found ← assignment place fuel
        pure (.value key found)
      else if ← Reader.sees "(" then
        let code ← method false fuel
        pure (.value key (.function code))
      else
        let rest ← get
        set lexemes
        let word ← name place
        set rest
        pure (.value key (.name word))

/-- The parameters and the body of a function that is a field. -/
def method (isAsync : Bool) : Nat -> Reader Code
  | 0 => Reader.reject
  | fuel + 1 => do
    let words ← params (inside isAsync)
    let body ← functionBody (inside isAsync) words fuel
    pure (.mk none words body isAsync false)

def function (place : Place) (isAsync : Bool) : Nat -> Reader Code
  | 0 => Reader.reject
  | fuel + 1 => do
    let word ← if ← Reader.sees "(" then pure none
      else do
        let word ← name { place with isAsync := place.isAsync || isAsync }
        pure (some word)
    let words ← params (inside isAsync)
    let body ← functionBody (inside isAsync) words fuel
    pure (.mk word words body isAsync false)

def functionBody (place : Place) (words : List String) : Nat -> Reader (List Stmt)
  | 0 => Reader.reject
  | fuel + 1 => do
    Reader.mark "\x7b"
    let body ← statements place fuel
    Reader.mark "\x7d"
    needBlock words body
    pure body

/-- Statements up to a closing brace or the end of the text. -/
def statements (place : Place) : Nat -> Reader (List Stmt)
  | 0 => Reader.reject
  | fuel + 1 => do
    match ← get with
    | [] => pure []
    | ⟨.mark "\x7d", _⟩ :: _ => pure []
    | _ => do
      let first ← item place fuel
      let rest ← statements place fuel
      pure (first :: rest)

def item (place : Place) : Nat -> Reader Stmt
  | 0 => Reader.reject
  | fuel + 1 => do
    let lexemes ← get
    match declaration? lexemes, functionStart? lexemes with
    | some isConstant, _ => do
      Reader.skip
      let names ← declarations place isConstant fuel
      Reader.statementEnd
      pure (.declare isConstant names)
    | none, some (isAsync, rest) => do
      set rest
      if ← Reader.sees "(" then Reader.reject
      let code ← function place isAsync fuel
      pure (.function code)
    | none, none => statement place fuel

def declarations (place : Place) (isConstant : Bool) : Nat -> Reader (List (String × Option Expr))
  | 0 => Reader.reject
  | fuel + 1 => do
    let word ← name place
    if word = "let" then throw (.misplaced "let")
    let first ← if ← Reader.takes "=" then do
        let found ← assignment place fuel
        pure (some found)
      else if isConstant then throw (.missingValue word)
      else pure none
    if ← Reader.takes "," then
      let rest ← declarations place isConstant fuel
      pure ((word, first) :: rest)
    else pure [(word, first)]

def block (place : Place) (outer : List String) : Nat -> Reader (List Stmt)
  | 0 => Reader.reject
  | fuel + 1 => do
    Reader.mark "\x7b"
    let body ← statements place fuel
    Reader.mark "\x7d"
    needBlock outer body
    pure body

def statement (place : Place) : Nat -> Reader Stmt
  | 0 => Reader.reject
  | fuel + 1 => do
    match ← get with
    | ⟨.mark "\x7b", _⟩ :: _ => do
      let body ← block place [] fuel
      pure (.block body)
    | ⟨.mark ";", _⟩ :: rest => do
      set rest
      pure .empty
    | ⟨.word "if", _⟩ :: rest => do
      set rest
      branch place fuel
    | ⟨.word "for", _⟩ :: rest => do
      set rest
      forLoop place fuel
    | ⟨.word "while", _⟩ :: rest => do
      set rest
      Reader.mark "("
      let test ← expression place fuel
      Reader.mark ")"
      let body ← statement { place with isLoop := true } fuel
      pure (.whileLoop test body)
    | ⟨.word "try", _⟩ :: rest => do
      set rest
      attempt place fuel
    | ⟨.word "throw", _⟩ :: rest => do
      set rest
      if !(← Reader.isSameLine) then Reader.reject
      let found ← expression place fuel
      Reader.statementEnd
      pure (.raise found)
    | ⟨.word "return", _⟩ :: rest => do
      if !place.isFunction then throw (.misplaced "return")
      set rest
      if ← Reader.isAtEnd then
        Reader.statementEnd
        pure (.give none)
      else
        let found ← expression place fuel
        Reader.statementEnd
        pure (.give (some found))
    | ⟨.word "break", _⟩ :: rest => do
      if !place.isLoop then throw (.misplaced "break")
      set rest
      Reader.statementEnd
      pure .leave
    | ⟨.word "continue", _⟩ :: rest => do
      if !place.isLoop then throw (.misplaced "continue")
      set rest
      Reader.statementEnd
      pure .again
    | lexemes => do
      if (functionStart? lexemes).isSome then Reader.reject
      let found ← expression place fuel
      Reader.statementEnd
      pure (.expression found)

def branch (place : Place) : Nat -> Reader Stmt
  | 0 => Reader.reject
  | fuel + 1 => do
    Reader.mark "("
    let test ← expression place fuel
    Reader.mark ")"
    let yes ← statement place fuel
    if ← Reader.takesWord "else" then
      let no ← statement place fuel
      pure (.branch test yes (some no))
    else pure (.branch test yes none)

/-- A loop with a start, a test and an update, behind its word. -/
def forLoop (place : Place) : Nat -> Reader Stmt
  | 0 => Reader.reject
  | fuel + 1 => do
    Reader.mark "("
    let start ← loopStart place fuel
    let test ← upTo place ";" fuel
    let update ← upTo place ")" fuel
    let body ← statement { place with isLoop := true } fuel
    pure (.forLoop start test update body)

def loopStart (place : Place) : Nat -> Reader (Option Stmt)
  | 0 => Reader.reject
  | fuel + 1 => do
    match declaration? (← get) with
    | some isConstant => do
      Reader.skip
      let names ← declarations place isConstant fuel
      Reader.mark ";"
      needBlock [] [.declare isConstant names]
      pure (some (.declare isConstant names))
    | none => do
      let found ← upTo place ";" fuel
      pure (found.map .expression)

def upTo (place : Place) (close : String) : Nat -> Reader (Option Expr)
  | 0 => Reader.reject
  | fuel + 1 => do
    if ← Reader.takes close then pure none
    else
      let found ← expression place fuel
      Reader.mark close
      pure (some found)

/-- A block with what catches its errors and what comes last, behind its word. -/
def attempt (place : Place) : Nat -> Reader Stmt
  | 0 => Reader.reject
  | fuel + 1 => do
    let body ← block place [] fuel
    let caught ← if ← Reader.takesWord "catch" then do
        let word ← if ← Reader.takes "(" then do
            let word ← name place
            Reader.mark ")"
            pure (some word)
          else pure none
        let body ← block place word.toList fuel
        pure (some (word, body))
      else pure none
    let last ← if ← Reader.takesWord "finally" then do
        let body ← block place [] fuel
        pure (some body)
      else pure none
    if caught.isNone && last.isNone then Reader.reject
    pure (.attempt body caught last)

end

def program (fuel : Nat) : Reader Program := do
  let body ← statements ⟨false, false, false⟩ fuel
  needBlock [] body
  match ← get with
  | [] => pure body
  | _ => Reader.reject

end Grammar

def Program.ofText (text : String) : Except Malformed Program := do
  let lexemes ← Token.ofText text
  let (program, _) ← Grammar.program (16 * lexemes.length + 16) lexemes
  pure program

end ScriptOracle.Script
