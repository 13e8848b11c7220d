import ScriptOracle.Proofs.Gate.Quota
import ScriptOracle.Proofs.Script.Breakdown
import ScriptOracle.Proofs.Script.Heap
import ScriptOracle.Proofs.Script.Requests
import ScriptOracle.Sandbox.Runner

/-!
# Every call of the functions that send requests is answered

A script may call `Functions.makeHttpRequest` and `Functions.performRequest` with whatever it likes. The call
takes two acts: one that reads the argument, one that asks the gate. So it always gives an object that tells
whether something went wrong, and leaves one entry in the log; only what reads as a request and passes
the first checks is counted. The invariant of a sequence of calls is that the gate has counted those of them,
up to its quota.
-/

namespace ScriptOracle.Script

open Gate (Ask Limits Outcome)

/-! ## Arguments -/

/-- Whether a value is put together from values without parts in finitely many steps. An object that holds
itself is not. A function that can make objects is one of those, since its prototype holds the function. -/
inductive Heap.Built (heap : Heap) : Value -> Prop
  | null : heap.Built .null
  | bool (b : Bool) : heap.Built (.bool b)
  | number (n : Numeral) : heap.Built (.number n)
  | bigint (n : Int) : heap.Built (.bigint n)
  | text (units : Units) : heap.Built (.text units)
  | symbol : heap.Built .symbol
  | object (ref : Ref) (parts : ∀ part, some part ∈ (heap.get ref).places -> heap.Built part) :
      heap.Built (.object ref)

/-- A call of a function of the object `Functions`, with the heap that it is made in and the number of calls
that are under way. -/
structure Plea where
  name : String
  heap : Heap
  value : Value
  depth : Nat

namespace Plea

def task (plea : Plea) : Task Value := do
  let functions ← getProperty (.object Root.global.ref) (Units.ofText "Functions")
  let function ← getProperty functions (Units.ofText plea.name)
  Task.call function functions [plea.value]

/-- The request that the argument describes: that of an object, but no function, whose data can be read as
one. -/
def call? (plea : Plea) : Option Gate.Call :=
  match plea.value with
  | .object _ =>
    if plea.heap.isCallable plea.value then none
    else
      match plea.heap.data plea.value with
      | .ok data => (Gate.Call.read data).toOption
      | .error _ => none
  | _ => none

/-- Whether the argument describes a request that passes the checks before the quota. -/
def isEligible (limits : Limits) (plea : Plea) : Bool :=
  plea.call?.any fun call => (Gate.preflight limits call).isOk

inductive Puts (plea : Plea) : Ask -> Prop
  | request (call : Gate.Call) (known : plea.call? = some call) : plea.Puts (.request call)
  | refuse (url reason : String) (unknown : plea.call? = none) :
      plea.Puts (.refuse url "GET" (.invalidRequest reason))

end Plea

/-- What an object tells of an outcome: whether it is an error, and of which name. -/
structure Heap.Tells (heap : Heap) (ref : Ref) (outcome : Outcome) : Prop where
  error : heap.property? ref (Units.ofText "error") =
    some (.data (.bool !outcome.isAnswered) true)
  name : ∀ name, outcome.errorName? = some name ->
    heap.property? ref (Units.ofText "name") = some (.data (.ofText name) true)

variable {heap : Heap} {value : Value} {plea : Plea} {engine : Engine} {machine : Machine} {gate : Gate}
  {ask : Ask} {transport : Gate.Transport} {limits : Limits}

/-! ## What is asked -/

/-- A function has a length and a name, and no other parts before some are written. -/
theorem built_allocFunction (heap : Heap) (function : Function) (arity : Nat) (name : String) :
    (heap.allocFunction function arity name).1.Built (heap.allocFunction function arity name).2 := by
  have places : ((heap.allocFunction function arity name).1.get heap.objects.size).places =
      [some (.int arity), some (.ofText name)] := by
    rw [show (heap.allocFunction function arity name).1.get heap.objects.size = _ from
      Heap.get_alloc heap _]
    rfl
  refine .object heap.objects.size fun part member => ?_
  have parts : part = .int arity ∨ part = .ofText name := by
    rw [places] at member
    simpa using member
  rcases parts with rfl | rfl
  · exact .number _
  · exact .text _

theorem built_allocBytes (heap : Heap) (content : Bytes) :
    (heap.allocBytes content).1.Built (heap.allocBytes content).2 := by
  refine .object _ fun part member => ?_
  rw [show (heap.allocBytes content).1.get heap.objects.size = _ from Heap.get_alloc heap _] at member
  cases member

theorem isOk_preflight {call : Gate.Call} :
    (Gate.preflight limits call).isOk = (Gate.objections limits false call).isEmpty := by
  unfold Gate.preflight Gate.objections
  by_cases slow : limits.maxTimeoutMs < call.timeoutMs
  · simp [slow, Except.isOk, Except.toBool]
  · by_cases long : limits.maxUrlLength < Text.byteCount call.url <;>
      simp [slow, long, Except.isOk, Except.toBool]

/-- A gate whose host has not given up finds the eligible requests eligible. -/
theorem Plea.Puts.isEligible_visit (puts : plea.Puts ask) (transport : Gate.Transport)
    (calm : gate.aborted = false) :
    (Gate.visit transport gate ask).isEligible = plea.isEligible gate.limits := by
  cases puts with
  | request call known =>
      rw [Plea.isEligible, known, Option.any_some, isOk_preflight]
      simp only [Gate.Visit.isEligible, Gate.visit, calm]
  | refuse url reason unknown =>
      rw [Plea.isEligible, unknown]
      rfl

/-! ## What comes back -/

/-- What a gate whose host has not given up knows of the calls so far. -/
structure Tallied (quota : Nat) (limits : Limits) (gate : Gate) (pleas : List Plea) : Prop where
  calm : gate.aborted = false
  quota_eq : gate.quota = quota
  limits_eq : gate.limits = limits
  length_log : gate.log.length = pleas.length
  used_eq : gate.used = min quota (pleas.countP (Plea.isEligible limits))

/-- What a visit does to the count, seen from the call that pays it. -/
theorem used_visit {quota : Nat} {pleas : List Plea} (tallied : Tallied quota limits gate pleas)
    (puts : plea.Puts ask) :
    (Gate.visit transport gate ask).left.used =
      if plea.isEligible limits ∧ gate.used < quota then gate.used + 1 else gate.used := by
  have used := (Gate.served transport gate ask).used_eq
  have same := puts.isEligible_visit transport tallied.calm
  rw [tallied.limits_eq] at same
  rw [used, tallied.quota_eq, ← same]
  rfl

/-- No request is interrupted, so that a gate never learns that the host gave up. -/
theorem calm_visit (uninterrupted : ∀ earlier request, transport.interrupts earlier request = false)
    (calm : gate.aborted = false) (ask : Ask) :
    (Gate.visit transport gate ask).left.aborted = false := by
  have way := Gate.served transport gate ask
  generalize (Gate.visit transport gate ask).left = left at way ⊢
  generalize (Gate.visit transport gate ask).outcome = outcome at way
  cases way with
  | refused | turnedAway | unprepared => exact calm
  | handedOver => simp [calm, uninterrupted]

theorem Tallied.visit {quota : Nat} {pleas : List Plea} (tallied : Tallied quota limits gate pleas)
    (uninterrupted : ∀ earlier request, transport.interrupts earlier request = false)
    (puts : plea.Puts ask) :
    Tallied quota limits (Gate.visit transport gate ask).left (pleas ++ [plea]) where
  calm := calm_visit uninterrupted tallied.calm ask
  quota_eq := (Gate.served transport gate ask).quota_eq.trans tallied.quota_eq
  limits_eq := (Gate.served transport gate ask).limits_eq.trans tallied.limits_eq
  length_log := by
    rw [(Gate.served transport gate ask).log_eq, List.length_append, List.length_append,
      tallied.length_log, List.length_singleton, List.length_singleton]
  used_eq := by
    rw [used_visit tallied puts, List.countP_append, List.countP_singleton, tallied.used_eq]
    by_cases eligible : plea.isEligible limits
    · simp only [eligible, true_and, if_true]
      split <;> omega
    · simp only [eligible, Bool.false_eq_true, false_and, if_false, Nat.add_zero]

end ScriptOracle.Script
