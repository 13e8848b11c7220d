import ScriptOracle.Script.Operator

/-!
# Running programs

Every expression and every statement is a task. Names are looked up in the scopes around them and then
among the global ones. Functions are called and loops are repeated by whoever runs the tasks, so that
each task follows the program text alone.
-/

namespace ScriptOracle.Script

/-- Where a piece of a program stands. -/
structure Env where
  scope : Nat
  this : Value

namespace Eval

def readName (env : Env) (name : String) : Task Value := do
  match ← Task.look fun heap => heap.find? env.scope name with
  | some (_, ⟨some value, _⟩) => pure value
  | some (_, ⟨none, _⟩) => Task.raise .reference "access of uninitialized binding"
  | none =>
    match ← Task.look fun heap => heap.property? Root.global.ref (Units.ofText name) with
    | some property => property.read (.object Root.global.ref)
    | none => Task.raise .reference s!"{name} is not defined"

def typeOfName (env : Env) (name : String) : Task Value := do
  let known ← Task.look fun heap =>
    (heap.find? env.scope name).isSome ||
      (heap.property? Root.global.ref (Units.ofText name)).isSome
  if known then
    let value ← readName env name
    Operator.unary .typeOf value
  else pure (.ofText "undefined")

/-- Gives a name a value. A name that does not exist becomes a global one. -/
def writeName (env : Env) (name : String) (value : Value) : Task Unit := do
  match ← Task.look fun heap => heap.find? env.scope name with
  | some (_, ⟨none, _⟩) => Task.raise .reference "access of uninitialized binding"
  | some (_, ⟨some _, true⟩) => raiseType s!"cannot mutate an immutable binding '{name}'"
  | some (scope, ⟨some _, false⟩) => Task.change fun heap => heap.assign scope name value
  | none => setProperty (.object Root.global.ref) (Units.ofText name) value

/-- The name of a property that a value stands for. -/
def toKey (value : Value) : Task Units := toUnits value

/-- A new function. One that may make objects gets an object for them to take properties from. -/
def makeFunction (env : Env) (code : Code) (name : String) : Task Value := Task.update fun heap =>
  let this := if code.isArrow then some env.this else none
  let (heap, function) :=
    heap.allocFunction (.closure code env.scope this) code.params.length name
  match function with
  | .object ref =>
    if code.isArrow || code.isAsync then (heap, function)
    else
      let (heap, proto) :=
        heap.allocFields [(Units.ofText "constructor", .data function true)]
      (heap.put ref (Units.ofText "prototype") (.data proto true), function)
  | _ => (heap, function)

/-- A new function that is part of an expression. Its own name, if it has one, is known inside. -/
def functionValue (env : Env) (code : Code) (inferred : String) : Task Value :=
  match code.name with
  | none => makeFunction env code inferred
  | some name => do
    let scope ← Task.update fun heap =>
      heap.allocScope ⟨[(name, ⟨none, false⟩)], some env.scope⟩
    let function ← makeFunction { env with scope := scope } code name
    Task.change fun heap => heap.assign scope name function
    pure function

/-- The names that statements declare, without values yet. -/
def declaredNames (body : List Stmt) : List (String × Binding) :=
  (body.flatMap Stmt.declared).map (fun entry => (entry.1, ⟨none, entry.2⟩))
    ++ (body.filterMap Stmt.declaredFunction).map
      fun code => (code.name.getD "", ⟨some .undefined, false⟩)

def hoist (env : Env) : List Code -> Task Unit
  | [] => pure ()
  | code :: rest => do
    let name := code.name.getD ""
    let function ← makeFunction env code name
    Task.change fun heap => heap.assign env.scope name function
    hoist env rest

def openScope (env : Env) (names : List (String × Binding)) : Task Env := do
  let scope ← Task.update fun heap => heap.allocScope ⟨names, some env.scope⟩
  pure { env with scope := scope }

/-- Opens the scope of a block, if the block declares anything. -/
def openBlock (env : Env) (body : List Stmt) : Task Env := do
  let names := declaredNames body
  if names.isEmpty then pure env
  else
    let env ← openScope env names
    hoist env (body.filterMap Stmt.declaredFunction)
    pure env

def copyScope (scope : Nat) : Task Nat := Task.update fun heap =>
  heap.allocScope (heap.scopes.getD scope ⟨[], none⟩)

def withAccessor (old : Option Property) (isGetter : Bool) (function : Value) : Property :=
  match old with
  | some (.accessor getter setter) =>
    if isGetter then .accessor (some function) setter else .accessor getter (some function)
  | _ => if isGetter then .accessor (some function) none else .accessor none (some function)

/-- Writes a computed property of a new object. -/
def putAccessor (ref : Ref) (name : Units) (isGetter : Bool) (function : Value) : Task Unit :=
  Task.change fun heap =>
    heap.put ref name (withAccessor ((heap.get ref).own? name) isGetter function)

def afterLoop : Flow -> Flow
  | .give value => .give value
  | _ => .next none

def afterBody (scope : Nat) : Flow -> Flow
  | .next _ => .again scope
  | .skip => .again scope
  | flow => flow

/-- The value of an expression that gets a name. Only a function takes the name as its own. -/
def named (env : Env) (name : String) (expr : Expr) (computed : Task Value) : Task Value :=
  match expr with
  | .function code => functionValue env code name
  | _ => computed

mutual

def eval (env : Env) : Expr -> Task Value
  | .literal value => pure (.ofLiteral value)
  | .template first rest => do
    let units ← evalPieces env rest
    pure (.text (first ++ units))
  | .name name => readName env name
  | .this => pure env.this
  | .list items => do
    let values ← evalAll env items
    Task.update fun heap => heap.allocList values
  | .object fields => do
    let ref ← Task.update fun heap => heap.alloc (.ofKind .plain Root.object.ref)
    evalFields env ref fields
    pure (.object ref)
  | .member object key => do
    let target ← eval env object
    let name ← eval env key
    let name ← toKey name
    getProperty target name
  | .call (.member object key) args => do
    let target ← eval env object
    let name ← eval env key
    let name ← toKey name
    let callee ← getProperty target name
    let values ← evalAll env args
    Task.call callee target values
  | .call callee args => do
    let callee ← eval env callee
    let values ← evalAll env args
    Task.call callee .undefined values
  | .create callee args => do
    let callee ← eval env callee
    let values ← evalAll env args
    Task.create callee values
  | .unary .typeOf (.name name) => typeOfName env name
  | .unary op value => do
    let value ← eval env value
    Operator.unary op value
  | .binary op left right => do
    let a ← eval env left
    let b ← eval env right
    Operator.binary op a b
  | .logical op left right => do
    let a ← eval env left
    let goesOn : Bool := match op with
      | .both => a.isTrue
      | .either => !a.isTrue
      | .ifNothing => decide (a = .undefined ∨ a = .null)
    if goesOn then eval env right else pure a
  | .conditional test yes no => do
    let found ← eval env test
    if found.isTrue then eval env yes else eval env no
  | .sequence first second => do
    let _ ← eval env first
    eval env second
  | .assign (.name name) none value => do
    let value ← named env name value (eval env value)
    writeName env name value
    pure value
  | .assign (.name name) (some op) value => do
    let old ← readName env name
    let operand ← eval env value
    let value ← Operator.binary op old operand
    writeName env name value
    pure value
  | .assign (.member object key) none value => do
    let target ← eval env object
    let name ← eval env key
    let value ← eval env value
    let name ← toKey name
    setProperty target name value
    pure value
  | .assign (.member object key) (some op) value => do
    let target ← eval env object
    let name ← eval env key
    let name ← toKey name
    let old ← getProperty target name
    let operand ← eval env value
    let value ← Operator.binary op old operand
    setProperty target name value
    pure value
  | .assign _ _ _ => Task.raise .reference "invalid assignment target"
  | .step (.name name) up before => do
    let old ← readName env name
    let old ← Operator.toNumeric old
    let new := Operator.stepped up old
    writeName env name new.value
    pure (if before then new.value else old.value)
  | .step (.member object key) up before => do
    let target ← eval env object
    let name ← eval env key
    let name ← toKey name
    let old ← getProperty target name
    let old ← Operator.toNumeric old
    let new := Operator.stepped up old
    setProperty target name new.value
    pure (if before then new.value else old.value)
  | .step _ _ _ => Task.raise .reference "invalid assignment target"
  | .await value => do
    let value ← eval env value
    Task.wait value
  | .function code => functionValue env code ""

def evalAll (env : Env) : List Expr -> Task (List Value)
  | [] => pure []
  | first :: rest => do
    let value ← eval env first
    let values ← evalAll env rest
    pure (value :: values)

def evalPieces (env : Env) : List (Expr × Units) -> Task Units
  | [] => pure []
  | (value, units) :: rest => do
    let value ← eval env value
    let text ← toUnits value
    let more ← evalPieces env rest
    pure (text ++ units ++ more)

def evalFields (env : Env) (ref : Ref) : List Field -> Task Unit
  | [] => pure ()
  | .value key value :: rest => do
    let name ← eval env key
    let name ← toKey name
    let value ← named env (Units.toText name) value (eval env value)
    Task.change fun heap => heap.put ref name (.data value true)
    evalFields env ref rest
  | .getter key code :: rest => do
    let name ← eval env key
    let name ← toKey name
    let function ← makeFunction env code ("get " ++ Units.toText name)
    putAccessor ref name true function
    evalFields env ref rest
  | .setter key code :: rest => do
    let name ← eval env key
    let name ← toKey name
    let function ← makeFunction env code ("set " ++ Units.toText name)
    putAccessor ref name false function
    evalFields env ref rest

def evalOption (env : Env) : Option Expr -> Task Value
  | none => pure .undefined
  | some value => eval env value

/-- Computes a condition that may be missing and then holds. -/
def evalTest (env : Env) : Option Expr -> Task Bool
  | none => pure true
  | some test => do
    let value ← eval env test
    pure value.isTrue

/-- Gives declared names their first values. -/
def execNames (env : Env) : List (String × Option Expr) -> Task Unit
  | [] => pure ()
  | (name, none) :: rest => do
    Task.change fun heap => heap.assign env.scope name .undefined
    execNames env rest
  | (name, some value) :: rest => do
    let value ← named env name value (eval env value)
    Task.change fun heap => heap.assign env.scope name value
    execNames env rest

def execOption (env : Env) : Option Stmt -> Task Flow
  | none => pure (.next none)
  | some statement => exec env statement

def exec (env : Env) : Stmt -> Task Flow
  | .declare _ names => do
    execNames env names
    pure (.next none)
  | .function _ => pure (.next none)
  | .expression value => do
    let value ← eval env value
    pure (.next (some value))
  | .give value => do
    let value ← evalOption env value
    pure (.give value)
  | .raise value => do
    let value ← eval env value
    Task.raiseValue value
  | .branch test yes no => do
    let found ← eval env test
    if found.isTrue then exec env yes else execOption env no
  | .forLoop start test update body => do
    let names := match start with
      | some statement => statement.declared
      | none => []
    let env ← if names.isEmpty then pure env
      else openScope env (names.map fun entry => (entry.1, ⟨none, entry.2⟩))
    let _ ← execOption env start
    let copies := names.any fun entry => !entry.2
    let flow ← Task.loop env.scope fun first scope => do
      let scope ← if first then pure scope
        else do
          Task.count
          let scope ← if copies then copyScope scope else pure scope
          let _ ← evalOption { env with scope := scope } update
          pure scope
      let env := { env with scope := scope }
      if ← evalTest env test then
        let flow ← exec env body
        pure (afterBody scope flow)
      else pure .leave
    pure (afterLoop flow)
  | .whileLoop test body => do
    let flow ← Task.loop env.scope fun _ scope => do
      Task.count
      let found ← eval env test
      if found.isTrue then
        let flow ← exec env body
        pure (afterBody scope flow)
      else pure .leave
    pure (afterLoop flow)
  | .attempt body caught final => do
    let result ← Task.attempt do
      let env ← openBlock env body
      execAll env none body
    let result ← match result with
      | .error (.thrown value) => execCaught env value caught
      | result => pure result
    match result with
    | .error (.limit limit) => Task.halt (.limit limit)
    | result => execFinal env result final
  | .block body => do
    let env ← openBlock env body
    execAll env none body
  | .leave => pure .leave
  | .again => pure .skip
  | .empty => pure (.next none)

def execCaught (env : Env) (value : Value) :
    Option (Option String × List Stmt) -> Task (Except Halt Flow)
  | none => pure (.error (.thrown value))
  | some (none, body) => Task.attempt do
    let env ← openBlock env body
    execAll env none body
  | some (some name, body) => Task.attempt do
    let env ← openScope env [(name, ⟨some value, false⟩)]
    let env ← openBlock env body
    execAll env none body

/-- Runs what comes last in any case, and goes on as before unless that leaves in its own way. -/
def execFinal (env : Env) (result : Except Halt Flow) : Option (List Stmt) -> Task Flow
  | none => Task.ofResult result
  | some body => do
    let inner ← openBlock env body
    match ← execAll inner none body with
    | .next _ => Task.ofResult result
    | flow => pure flow

/-- Runs statements in order; the last value is kept. -/
def execAll (env : Env) (last : Option Value) : List Stmt -> Task Flow
  | [] => pure (.next last)
  | first :: rest => do
    match ← exec env first with
    | .next none => execAll env last rest
    | .next (some value) => execAll env (some value) rest
    | flow => pure flow

end

def bindParams : List String -> List Value -> List (String × Binding)
  | [], _ => []
  | name :: names, [] => (name, ⟨some .undefined, false⟩) :: bindParams names []
  | name :: names, value :: values => (name, ⟨some value, false⟩) :: bindParams names values

def body (code : Code) (scope : Nat) (this : Value) (args : List Value) : Task Flow := do
  let env ← openScope ⟨scope, this⟩ (bindParams code.params args ++ declaredNames code.body)
  hoist env (code.body.filterMap Stmt.declaredFunction)
  execAll env none code.body

def program (program : Program) : Task Flow := do
  let env ← openBlock ⟨0, .object Root.global.ref⟩ program
  execAll env none program

end Eval

end ScriptOracle.Script
