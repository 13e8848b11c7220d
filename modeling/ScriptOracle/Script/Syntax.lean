import ScriptOracle.Script.Units

/-!
# Programs

The language of scripts: numbers, texts, templates, lists, objects, functions, requests that are
awaited, loops, exceptions. A program is a list of statements.
-/

namespace ScriptOracle.Script

inductive UnaryOp where
  | negate
  | plus
  | not
  | typeOf
  | discard
deriving DecidableEq, Repr

inductive BinaryOp where
  | add
  | subtract
  | multiply
  | divide
  | remainder
  | power
  | less
  | greater
  | atMost
  | atLeast
  | equal
  | unequal
  | same
  | different
deriving DecidableEq, Repr

inductive LogicalOp where
  | both
  | either
  | ifNothing
deriving DecidableEq, Repr

inductive Literal where
  | null
  | bool (value : Bool)
  | int (value : Int)
  | float (value : Float)
  | bigint (value : Int)
  | text (value : Units)

mutual

inductive Expr where
  | literal (value : Literal)
  | template (first : Units) (rest : List (Expr × Units))
  | name (name : String)
  | this
  | list (items : List Expr)
  | object (fields : List Field)
  | member (object key : Expr)
  | call (callee : Expr) (args : List Expr)
  | create (callee : Expr) (args : List Expr)
  | unary (op : UnaryOp) (value : Expr)
  | binary (op : BinaryOp) (left right : Expr)
  | logical (op : LogicalOp) (left right : Expr)
  | conditional (test yes no : Expr)
  | sequence (first second : Expr)
  | assign (target : Expr) (op : Option BinaryOp) (value : Expr)
  | step (target : Expr) (up before : Bool)
  | await (value : Expr)
  | function (code : Code)

/-- Fields of an object: a name, and a value or a function that computes one. -/
inductive Field where
  | value (key value : Expr)
  | getter (key : Expr) (code : Code)
  | setter (key : Expr) (code : Code)

inductive Code where
  | mk (name : Option String) (params : List String) (body : List Stmt)
      (isAsync isArrow : Bool)

inductive Stmt where
  | declare (isConstant : Bool) (names : List (String × Option Expr))
  | function (code : Code)
  | expression (value : Expr)
  | give (value : Option Expr)
  | raise (value : Expr)
  | branch (test : Expr) (yes : Stmt) (no : Option Stmt)
  | forLoop (start : Option Stmt) (test update : Option Expr) (body : Stmt)
  | whileLoop (test : Expr) (body : Stmt)
  | attempt (body : List Stmt) (caught : Option (Option String × List Stmt))
      (final : Option (List Stmt))
  | block (body : List Stmt)
  | leave
  | again
  | empty

end

abbrev Program := List Stmt

namespace Code

def name : Code -> Option String
  | .mk name _ _ _ _ => name

def params : Code -> List String
  | .mk _ params _ _ _ => params

def body : Code -> List Stmt
  | .mk _ _ body _ _ => body

def isAsync : Code -> Bool
  | .mk _ _ _ isAsync _ => isAsync

/-- Whether the function has no `this` of its own. -/
def isArrow : Code -> Bool
  | .mk _ _ _ _ isArrow => isArrow

/-- The function under a name, if it has none. -/
def named (code : Code) (name : String) : Code :=
  match code with
  | .mk none params body isAsync isArrow => .mk (some name) params body isAsync isArrow
  | code => code

end Code

namespace Stmt

/-- The names that a statement declares in the block around it, and whether they are constant. -/
def declared : Stmt -> List (String × Bool)
  | .declare isConstant names => names.map fun entry => (entry.1, isConstant)
  | _ => []

def declaredFunction : Stmt -> Option Code
  | .function code => some code
  | _ => none

end Stmt

end ScriptOracle.Script
