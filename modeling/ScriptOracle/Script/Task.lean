import ScriptOracle.Gate.Basic
import ScriptOracle.Script.Heap

/-!
# What a script does next

Running a piece of a script changes the heap until it needs something from outside itself: to call a
function, to start a loop, to wait, to send a request, to print a line. `Act` is that next thing
together with how to go on from its result. A `Task` is a piece of a script that hands its result to
whatever comes behind it; tasks are put together with `do`, and `Task.attempt` looks at a failure.
-/

namespace ScriptOracle.Script

inductive Limit where
  | loops (maximum : Nat)
  | depth
deriving DecidableEq, Repr

def Limit.message : Limit -> String
  | .loops maximum => s!"Maximum loop iteration limit {maximum} exceeded"
  | .depth => "exceeded maximum number of recursive calls"

/-- Why a piece of a script does not go on: a value was thrown, or a limit was exceeded, which the
script cannot catch. -/
inductive Halt where
  | thrown (value : Value)
  | limit (limit : Limit)
deriving DecidableEq

inductive Flow where
  | next (value : Option Value)
  | again (scope : Nat)
  | leave
  | skip
  | give (value : Value)
deriving DecidableEq

inductive Act where
  /-- The innermost call or round of a loop ends. -/
  | finish (heap : Heap) (result : Except Halt Flow)
  /-- A function is called. -/
  | call (heap : Heap) (callee this : Value) (args : List Value)
      (after : Heap -> Except Halt Value -> Act)
  /-- A function makes an object. -/
  | create (heap : Heap) (callee : Value) (args : List Value)
      (after : Heap -> Except Halt Value -> Act)
  /-- A loop starts in a scope; a round is told whether it is the first, and its scope. -/
  | loop (heap : Heap) (scope : Nat) (round : Bool -> Nat -> Heap -> Act)
      (after : Heap -> Except Halt Flow -> Act)
  /-- A round of a loop is counted. -/
  | count (heap : Heap) (after : Heap -> Except Halt Unit -> Act)
  /-- The function waits for a promise. -/
  | wait (heap : Heap) (value : Value) (after : Heap -> Except Halt Value -> Act)
  /-- A request goes to the gate. -/
  | request (heap : Heap) (call : Gate.Call) (after : Heap -> Gate.Outcome -> Act)
  /-- Something that is no request goes to the gate. -/
  | refuse (heap : Heap) (url method : String) (refusal : Gate.Refusal)
      (after : Heap -> Gate.Outcome -> Act)
  /-- A line is printed. -/
  | print (heap : Heap) (line : String) (after : Heap -> Act)
  /-- The script goes on at once. -/
  | pause (heap : Heap) (after : Heap -> Act)
  /-- The host breaks down over a value. -/
  | crash (heap : Heap) (value : Value)

def Task (α : Type) : Type := Heap -> (Heap -> Except Halt α -> Act) -> Act

namespace Task

variable {α β : Type}

/-- A task that does nothing. -/
protected def pure (value : α) : Task α := fun heap after => after heap (.ok value)

protected def bind (task : Task α) (next : α -> Task β) : Task β := fun heap after =>
  task heap fun heap result =>
    match result with
    | .ok value => next value heap after
    | .error halt => after heap (.error halt)

instance : Monad Task where
  pure := Task.pure
  bind := Task.bind

def halt (halt : Halt) : Task α := fun heap after => after heap (.error halt)

def raiseValue (value : Value) : Task α := halt (.thrown value)

def raise (kind : ErrorKind) (message : String) : Task α := fun heap after =>
  let (heap, error) := heap.allocError kind message
  after heap (.error (.thrown error))

def attempt (task : Task α) : Task (Except Halt α) := fun heap after =>
  task heap fun heap result => after heap (.ok result)

def ofResult (result : Except Halt α) : Task α := fun heap after => after heap result

def look (f : Heap -> α) : Task α := fun heap after =>
  let value := f heap
  after heap (.ok value)

def change (f : Heap -> Heap) : Task Unit := fun heap after => after (f heap) (.ok ())

def update (f : Heap -> Heap × α) : Task α := fun heap after =>
  let (heap, value) := f heap
  after heap (.ok value)

def call (callee this : Value) (args : List Value) : Task Value := fun heap after =>
  .call heap callee this args after

def create (callee : Value) (args : List Value) : Task Value := fun heap after =>
  .create heap callee args after

def count : Task Unit := fun heap after => .count heap after

def wait (value : Value) : Task Value := fun heap after => .wait heap value after

def request (call : Gate.Call) : Task Gate.Outcome := fun heap after =>
  .request heap call fun heap outcome => after heap (.ok outcome)

def refuse (url method : String) (refusal : Gate.Refusal) : Task Gate.Outcome :=
  fun heap after =>
    .refuse heap url method refusal fun heap outcome => after heap (.ok outcome)

def print (line : String) : Task Unit := fun heap after =>
  .print heap line fun heap => after heap (.ok ())

/-- Goes on at once, without anything being nested. -/
def pause : Task Unit := fun heap after => .pause heap fun heap => after heap (.ok ())

def crash (value : Value) : Task α := fun heap _ => .crash heap value

/-- The act of a task whose end is the end of a call or of a round. -/
def toAct (task : Task Flow) (heap : Heap) : Act := task heap .finish

def loop (scope : Nat) (round : Bool -> Nat -> Task Flow) : Task Flow := fun heap after =>
  .loop heap scope (fun first scope heap => (round first scope).toAct heap) after

/-- Does a task for each item, in order. -/
def each (f : α -> Task β) : List α -> Task (List β)
  | [] => pure []
  | item :: rest => do
    let value ← f item
    let values ← each f rest
    pure (value :: values)

end Task

end ScriptOracle.Script
