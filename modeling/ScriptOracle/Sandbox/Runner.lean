import ScriptOracle.Sandbox.Fault
import ScriptOracle.Sandbox.Request
import ScriptOracle.Sandbox.Scratch
import ScriptOracle.Script.Grammar

/-!
# Running a script

A runner takes a request from source to result. It holds the scratch directory for the time of the run,
reads the script, lets the machine carry it out, waits until nothing is left to do, and takes over what
the script ended with. Each run has a heap, a machine and a gate of its own.
-/

namespace ScriptOracle.Sandbox

inductive RunState where
  | idle
  | preparing
  | running
  | succeeded
  | failed
deriving DecidableEq, Repr

def RunState.name : RunState -> String
  | .idle => "Idle"
  | .preparing => "Preparing"
  | .running => "Running"
  | .succeeded => "Succeeded"
  | .failed => "Failed"

structure ScriptLimits where
  loops : Nat
  depth : Nat
deriving DecidableEq, Repr

def ScriptLimits.usual : ScriptLimits := ⟨10000000, 512⟩

/-- The limits for a host that gives up after so many milliseconds: a thousand rounds for each, as far
as sixty-four bits reach, and one at least. -/
def ScriptLimits.forTimeout (ms : Nat) : ScriptLimits :=
  { ScriptLimits.usual with loops := max 1 (min (ms * 1000) ((1 <<< 64) - 1)) }

/-- What surrounds a run: the network, and the moment at which the host gives up on it. -/
structure Host where
  transport : Gate.Transport
  /-- Whether the host has given up before the run starts. -/
  hasAborted : Bool
  /-- Whether the host gives up before the next request, given what was attempted. -/
  abandons : List Gate.LogEntry -> Bool

/-- A host that never gives up. -/
def Host.patient (transport : Gate.Transport) : Host := ⟨transport, false, fun _ => false⟩

inductive Verdict where
  | succeeded (result : Script.Result) (log : List Gate.LogEntry)
  | failed (fault : Fault)
  /-- The host broke down. -/
  | crashed
  /-- The run did not come to an end within the budget of the machine. -/
  | exhausted

def Verdict.isSuccess : Verdict -> Bool
  | .succeeded _ _ => true
  | _ => false

def Verdict.fault? : Verdict -> Option Fault
  | .failed fault => some fault
  | _ => none

def Verdict.outcome? : Verdict -> Option RunState
  | .succeeded _ _ => some .succeeded
  | .failed _ => some .failed
  | .crashed => none
  | .exhausted => none

def Verdict.lastStates (verdict : Verdict) : List RunState :=
  match verdict.outcome? with
  | some outcome => [outcome, .idle]
  | none => []

structure Report where
  verdict : Verdict
  /-- The requests that were handed to the transport. -/
  sent : List Gate.Prepared
  /-- The lines that the script printed. -/
  lines : List String
  /-- The states that the run passed through. -/
  states : List RunState

structure Runner where
  scratch : Scratch
  gateLimits : Gate.Limits
  scriptLimits : ScriptLimits
  /-- Whether the lines of the console are shown. -/
  logging : Bool
  state : RunState
  lastOutcome : Option RunState

/-- A runner before its first run. -/
def Runner.start (scratch : Scratch) : Runner :=
  ⟨scratch, .usual, .usual, false, .idle, none⟩

namespace Runner

open Script

/-- The text around a script that makes it a program. -/
def wrapped (source : String) : String :=
  "(async function () \x7b\n" ++ source ++ "\n\x7d)()"

def engine (limits : ScriptLimits) (host : Host) : Engine :=
  { Engine.usual host.transport with
    loops := limits.loops
    depth := limits.depth
    abandons := host.abandons }

def malformed (fault : Malformed) : Complaint :=
  let name := ErrorKind.malformed.name
  ⟨name, fault.message, s!"{name}: {fault.message}"⟩

/-- What a run leaves behind: what the machine went through, and what came of it. -/
abbrev Run := Machine × Verdict

/-- The report on a halt, with the log as it was when the run ended. -/
def failed (engine : Engine) (machine : Machine) (heap : Heap) (halt : Halt) : Run :=
  let log := machine.gate.log
  match machine.complain engine heap halt with
  | (machine, .value complaint) => (machine, .failed (.runtime complaint log))
  | (machine, .exhausted) => (machine, .exhausted)
  | (machine, _) => (machine, .crashed)

def accept (engine : Engine) (machine : Machine) (heap : Heap) (value : Value) : Run :=
  match machine.read engine heap (Result.collect value) Result.ofValue with
  | (machine, .value result) => (machine, .succeeded result machine.gate.log)
  | (machine, .halted heap halt) => failed engine machine heap halt
  | (machine, .crashed) => (machine, .crashed)
  | (machine, .exhausted) => (machine, .exhausted)

/-- Looks at the value of a program once nothing is left to do. -/
def settle (engine : Engine) (machine : Machine) (heap : Heap) (value : Value) : Run :=
  match heap.promiseState? value with
  | none => accept engine machine heap value
  | some (_, .fulfilled value) => accept engine machine heap value
  | some (_, .rejected reason) => failed engine machine heap (.thrown reason)
  | some (_, .pending _) =>
    let (heap, error) := heap.allocError .error "script did not settle"
    failed engine machine heap (.thrown error)

def carryOut (engine : Engine) (machine : Machine) (heap : Heap) (program : Program) : Run :=
  match machine.run engine 1 ((Eval.program program).toAct heap) with
  | (machine, .finished heap (.ok flow)) =>
    match machine.drain engine heap with
    | (machine, .finished heap _) => settle engine machine heap flow.lastValue
    | (machine, .crashed) => (machine, .crashed)
    | (machine, .exhausted) => (machine, .exhausted)
  | (machine, .finished heap (.error halt)) => failed engine machine heap halt
  | (machine, .crashed) => (machine, .crashed)
  | (machine, .exhausted) => (machine, .exhausted)

def bindings (runner : Runner) (request : Request) : Bindings :=
  ⟨request.args, request.secrets, runner.logging⟩

/-- Runs a script, which is read first. The states that this passes through come with it. -/
def perform (runner : Runner) (host : Host) (request : Request) : List RunState × Run :=
  let machine := Machine.start (.fresh request.quota runner.gateLimits)
  match Program.ofText (wrapped request.source) with
  | .error fault => ([], (machine, .failed (.compile (malformed fault))))
  | .ok program =>
    let heap := Capability.install Heap.start (runner.bindings request)
    ([.running], carryOut (engine runner.scriptLimits host) machine heap program)

/-- What comes of a request, given that the scratch directory is held. -/
def attempt (runner : Runner) (host : Host) (request : Request) : List RunState × Run :=
  if host.hasAborted then
    ([], (Machine.start (.fresh request.quota runner.gateLimits), .failed .abandoned))
  else runner.perform host request

/-- Runs a request. The scratch directory is held from the first state to the last, and is given back even
if the host breaks down. A run that breaks down, or never ends, leaves the runner in the state that it had
come to. -/
def evaluate (runner : Runner) (host : Host) (disk : Disk) (request : Request) :
    Report × Runner × Disk :=
  let disk := runner.scratch.lease disk
  let (states, machine, verdict) := runner.attempt host request
  let disk := runner.scratch.release disk
  let states := .preparing :: states ++ verdict.lastStates
  ({ verdict := verdict
     sent := machine.gate.sent
     lines := machine.lines
     states := states },
    { runner with
      state := states.getLastD .idle
      lastOutcome := verdict.outcome?.or runner.lastOutcome },
    disk)

end Runner

end ScriptOracle.Sandbox
