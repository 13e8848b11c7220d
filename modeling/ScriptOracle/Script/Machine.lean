import ScriptOracle.Script.Eval

/-!
# The machine

The machine carries out what tasks ask for. It keeps the calls and loops that are under way on a list
of frames, the functions that wait for a promise in a table, the gate, and the lines that were printed.
`Machine.step` takes one act; `Machine.run` takes acts until the task ends, `Machine.drain` also does
the jobs that are left behind.
-/

namespace ScriptOracle.Script

/-- Everything around a run that does not change. -/
structure Engine where
  /-- How many rounds of loops a call may make before the next check stops it. -/
  loops : Nat
  /-- How many calls may be under way. -/
  depth : Nat
  /-- How many acts a run may take. -/
  budget : Nat
  transport : Gate.Transport
  /-- Whether the host gives up on the run before the next request, given what was attempted. -/
  abandons : List Gate.LogEntry -> Bool

def Engine.usual (transport : Gate.Transport) : Engine where
  loops := 10000000
  depth := 512
  budget := 1000000000000000000
  transport := transport
  abandons := fun _ => false

inductive Frame where
  /-- A call, and the rounds of loops that its caller has made. -/
  | call (after : Heap -> Except Halt Value -> Act) (rounds : Nat)
  /-- A call of a function that may wait. Once it has waited it has no caller any more. -/
  | waiting (promise : Ref) (caller : Option (Heap -> Except Halt Value -> Act)) (rounds : Nat)
  | loop (round : Bool -> Nat -> Heap -> Act) (after : Heap -> Except Halt Flow -> Act)

/-- A function that waits: how it goes on, its loops, and the promise of its result. -/
structure Suspension where
  after : Heap -> Except Halt Value -> Act
  loops : List Frame
  promise : Ref
  rounds : Nat

/-- What changes during a run, besides the heap. -/
structure Machine where
  gate : Gate
  /-- The lines that were printed. -/
  lines : List String
  frames : List Frame
  /-- How many calls are under way. -/
  depth : Nat
  /-- How many rounds of loops the innermost call has made. -/
  rounds : Nat
  suspended : Array Suspension

def Machine.start (gate : Gate) : Machine := ⟨gate, [], [], 0, 0, #[]⟩

inductive Ending where
  | finished (heap : Heap) (result : Except Halt Flow)
  /-- The host broke down. -/
  | crashed
  /-- The budget was used up. -/
  | exhausted

inductive Step where
  | next (machine : Machine) (act : Act)
  | done (machine : Machine) (ending : Ending)

def Flow.value : Flow -> Value
  | .give value => value
  | _ => .undefined

def Flow.lastValue : Flow -> Value
  | .next (some value) => value
  | flow => flow.value

def callResult : Except Halt Flow -> Except Halt Value
  | .ok flow => .ok flow.value
  | .error halt => .error halt

namespace Machine

/-- The loops of the function that is about to wait, its promise, its caller, and the frames around
it. -/
def splitFrames : List Frame ->
    Option (List Frame × Ref × Option (Heap -> Except Halt Value -> Act) × Nat × List Frame)
  | [] => none
  | .call _ _ :: _ => none
  | .waiting promise caller rounds :: rest => some ([], promise, caller, rounds, rest)
  | .loop round after :: rest =>
    (splitFrames rest).map fun (loops, found) => (.loop round after :: loops, found)

def leave (machine : Machine) (frames : List Frame) (rounds : Nat) : Machine :=
  { machine with frames := frames, depth := machine.depth - 1, rounds := rounds }

def enter (machine : Machine) (frame : Frame) : Machine :=
  { machine with frames := frame :: machine.frames, depth := machine.depth + 1, rounds := 0 }

/-- Goes on with the caller of a function that waits, or ends the job if it has none. -/
def toCaller (machine : Machine) (heap : Heap)
    (caller : Option (Heap -> Except Halt Value -> Act)) (result : Except Halt Value) : Step :=
  match caller, result with
  | some caller, result => .next machine (caller heap result)
  | none, .ok _ => .done machine (.finished heap (.ok (.next none)))
  | none, .error halt => .done machine (.finished heap (.error halt))

def settle (machine : Machine) (heap : Heap) (promise : Ref)
    (caller : Option (Heap -> Except Halt Value -> Act)) (result : Except Halt Flow) : Step :=
  match result with
  | .ok flow =>
    machine.toCaller (heap.resolve promise (.ok flow.value)) caller (.ok (.object promise))
  | .error (.thrown reason) =>
    machine.toCaller (heap.resolve promise (.error reason)) caller (.ok (.object promise))
  | .error (.limit limit) => machine.toCaller heap caller (.error (.limit limit))

def finish (machine : Machine) (heap : Heap) (result : Except Halt Flow) : Step :=
  match machine.frames with
  | [] => .done machine (.finished heap result)
  | .call after rounds :: rest => .next (machine.leave rest rounds) (after heap (callResult result))
  | .waiting promise caller rounds :: rest =>
    (machine.leave rest rounds).settle heap promise caller result
  | .loop round after :: rest =>
    match result with
    | .ok (.again scope) => .next machine (round false scope heap)
    | result => .next { machine with frames := rest } (after heap result)

def raise (machine : Machine) (heap : Heap) (message : String)
    (after : Heap -> Except Halt Value -> Act) : Step :=
  let (heap, error) := heap.allocError .type message
  .next machine (after heap (.error (.thrown error)))

/-- What a function that is called on `value` finds as `this`. -/
def thisOf : Value -> Value
  | .undefined => .object Root.global.ref
  | .null => .object Root.global.ref
  | value => value

def callClosure (machine : Machine) (heap : Heap) (code : Code) (scope : Nat) (this : Value)
    (args : List Value) (after : Heap -> Except Halt Value -> Act) : Step :=
  let body := (Eval.body code scope this args).toAct
  if code.isAsync then
    let (heap, promise) := heap.allocPromise (.pending [])
    .next (machine.enter (.waiting promise (some after) machine.rounds)) (body heap)
  else .next (machine.enter (.call after machine.rounds)) (body heap)

def call (engine : Engine) (machine : Machine) (heap : Heap) (callee this : Value)
    (args : List Value) (after : Heap -> Except Halt Value -> Act) : Step :=
  match heap.function? callee with
  | none => machine.raise heap "not a callable function" after
  | some function =>
    if engine.depth ≤ machine.depth then .next machine (after heap (.error (.limit .depth)))
    else
      match function with
      | .native native => .next machine (native.call this args heap after)
      | .closure code scope outer =>
        machine.callClosure heap code scope (outer.getD (thisOf this)) args after

/-- The object that a function takes the properties of new objects from. -/
def prototypeOf (heap : Heap) (callee : Value) : Ref :=
  match callee with
  | .object ref =>
    match heap.property? ref (Units.ofText "prototype") with
    | some (.data (.object proto) _) => proto
    | _ => Root.object.ref
  | _ => Root.object.ref

/-- What `new` gives: the object that the function gave, or else the new one. -/
def created (this : Value) : Except Halt Value -> Except Halt Value
  | .ok (.object ref) => .ok (.object ref)
  | .ok _ => .ok this
  | .error halt => .error halt

def create (engine : Engine) (machine : Machine) (heap : Heap) (callee : Value)
    (args : List Value) (after : Heap -> Except Halt Value -> Act) : Step :=
  match heap.function? callee with
  | none => machine.raise heap "not a constructor" after
  | some function =>
    if engine.depth ≤ machine.depth then .next machine (after heap (.error (.limit .depth)))
    else
      match function with
      | .native native => .next machine (native.create args heap after)
      | .closure code scope _ =>
        if code.isArrow || code.isAsync then machine.raise heap "not a constructor" after
        else
          let (heap, this) := heap.allocValue (.ofKind .plain (prototypeOf heap callee))
          machine.callClosure heap code scope this args fun heap result =>
            after heap (created this result)

def count (engine : Engine) (machine : Machine) (heap : Heap)
    (after : Heap -> Except Halt Unit -> Act) : Step :=
  if engine.loops < machine.rounds then
    .next machine (after heap (.error (.limit (.loops engine.loops))))
  else .next { machine with rounds := machine.rounds + 1 } (after heap (.ok ()))

/-- The promise that a function waits for when it awaits a value. -/
def promiseOf (heap : Heap) (value : Value) : Heap × Ref :=
  match heap.promiseState? value with
  | some (promise, _) => (heap, promise)
  | none => heap.allocPromise (.fulfilled value)

def wait (machine : Machine) (heap : Heap) (value : Value)
    (after : Heap -> Except Halt Value -> Act) : Step :=
  match splitFrames machine.frames with
  | none => machine.raise heap "nothing here can wait" after
  | some (loops, promise, caller, rounds, rest) =>
    let (heap, awaited) := promiseOf heap value
    let heap := heap.subscribe awaited (.resume machine.suspended.size)
    let suspension := ⟨after, loops, promise, machine.rounds⟩
    let machine := { machine with suspended := machine.suspended.push suspension }
    (machine.leave rest rounds).toCaller heap caller (.ok (.object promise))

def nextGate (engine : Engine) (machine : Machine) : Gate :=
  if engine.abandons machine.gate.log then machine.gate.abort else machine.gate

def step (engine : Engine) (machine : Machine) : Act -> Step
  | .finish heap result => machine.finish heap result
  | .call heap callee this args after => machine.call engine heap callee this args after
  | .create heap callee args after => machine.create engine heap callee args after
  | .loop heap scope round after =>
    .next { machine with frames := .loop round after :: machine.frames } (round true scope heap)
  | .count heap after => machine.count engine heap after
  | .wait heap value after => machine.wait heap value after
  | .request heap call after =>
    let (outcome, gate) := (machine.nextGate engine).perform engine.transport call
    .next { machine with gate := gate } (after heap outcome)
  | .refuse heap url method refusal after =>
    let (outcome, gate) := (machine.nextGate engine).reject url method refusal
    .next { machine with gate := gate } (after heap outcome)
  | .print heap line after => .next { machine with lines := machine.lines ++ [line] } (after heap)
  | .pause heap after => .next machine (after heap)
  | .crash _ _ => .done machine .crashed

/-- Takes acts until the task ends, but no more than `fuel`. -/
def steps (engine : Engine) : Nat -> Machine -> Act -> Machine × Ending
  | 0, machine, _ => (machine, .exhausted)
  | fuel + 1, machine, act =>
    match machine.step engine act with
    | .next machine act => steps engine fuel machine act
    | .done machine ending => (machine, ending)

/-- Carries a task out, from no calls at all or from the depth of a program. -/
def run (engine : Engine) (machine : Machine) (depth : Nat) (act : Act) : Machine × Ending :=
  steps engine engine.budget { machine with frames := [], depth := depth, rounds := 0 } act

def perform (engine : Engine) (machine : Machine) (heap : Heap) (task : Task Value) :
    Machine × Ending :=
  machine.run engine 0 ((do let value ← task; pure (.give value) : Task Flow).toAct heap)

def thrownInto : Except Value Value -> Except Halt Value
  | .ok value => .ok value
  | .error reason => .error (.thrown reason)

def resume (engine : Engine) (machine : Machine) (heap : Heap) (suspension : Nat)
    (result : Except Value Value) : Machine × Ending :=
  match machine.suspended[suspension]? with
  | none => (machine, .finished heap (.ok (.next none)))
  | some found =>
    steps engine engine.budget
      { machine with
        frames := found.loops ++ [.waiting found.promise none 0]
        depth := 1
        rounds := found.rounds }
      (found.after heap (thrownInto result))

def work (engine : Engine) (machine : Machine) (heap : Heap) : Job -> Machine × Ending
  | .resume suspension result => machine.resume engine heap suspension result
  | .settle promise result => (machine, .finished (heap.resolve promise result) (.ok (.next none)))
  | .adopt followed follower =>
    (machine, .finished (heap.subscribe followed (.follow follower)) (.ok (.next none)))

/-- Does the jobs of the heap in order, with those that they add, but no more than `fuel`. A limit that
is exceeded ends them all. -/
def drainAll (engine : Engine) : Nat -> Machine -> Heap -> Machine × Ending
  | 0, machine, _ => (machine, .exhausted)
  | fuel + 1, machine, heap =>
    match heap.jobs with
    | [] => (machine, .finished heap (.ok (.next none)))
    | job :: jobs =>
      match machine.work engine { heap with jobs := jobs } job with
      | (machine, .finished heap (.ok _)) => drainAll engine fuel machine heap
      | (machine, .finished heap (.error _)) =>
        (machine, .finished { heap with jobs := [] } (.ok (.next none)))
      | stopped => stopped

def drain (engine : Engine) (machine : Machine) (heap : Heap) : Machine × Ending :=
  drainAll engine engine.budget machine heap

end Machine

end ScriptOracle.Script
