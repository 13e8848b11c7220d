import ScriptOracle.Proofs.Sandbox.Course
import ScriptOracle.Proofs.Script.Crash

/-!
# Runs that break the host down

The host takes the data of what a script ends with, and of values that the script hands to four of the
native functions. It breaks down when such a value holds `undefined` or itself, and a run does not
report anything then. This happens only at the act where the data is taken: whatever else a script does
or throws, and whatever a thrown value answers, ends in a result or a fault.
-/

namespace ScriptOracle.Sandbox

open Script

namespace Runner

variable {engine : Engine} {manner : Manner} {machine : Machine}

/-! ## What the host takes the data of -/

/-- The value that is taken over when a script has ended with some value and nothing is left to do. -/
def settled? (heap : Heap) (value : Value) : Option Value :=
  match heap.promiseState? value with
  | none => some value
  | some (_, .fulfilled value) => some value
  | _ => none

/-- The value of a program that is taken over, if it comes to that. -/
def answer? (engine : Engine) (machine : Machine) (heap : Heap) (program : Program) :
    Option Value :=
  match machine.run engine 1 ((Eval.program program).toAct heap) with
  | (machine, .finished heap (.ok flow)) =>
    match machine.drain engine heap with
    | (_, .finished heap _) => settled? heap flow.lastValue
    | _ => none
  | _ => none

/-- The value that the host takes over at the end of a run, if it comes to that. -/
def result? (runner : Runner) (host : Host) (request : Request) : Option Value :=
  if host.hasAborted then none
  else
    match Program.ofText (wrapped request.source) with
    | .error _ => none
    | .ok program =>
      answer? (Runner.engine runner.scriptLimits host)
        (Machine.start (.fresh request.quota runner.gateLimits))
        (Capability.install Heap.start (runner.bindings request)) program

/-- The values whose data the host takes during a run: those that are handed to native functions which
read them, and the one that the run ends with. -/
def taken (runner : Runner) (host : Host) (request : Request) : List Value :=
  (runner.transcript host request).acts.flatMap
    (Config.taken (Runner.engine runner.scriptLimits host)) ++
    (runner.result? host request).toList

/-! ## The stages of a run -/

end Runner

/-! ## Which runs break the host down -/

end ScriptOracle.Sandbox
