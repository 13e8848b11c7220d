import ScriptOracle.Proofs.Script.Manner.Programs
import ScriptOracle.Proofs.Script.Trail

/-!
# The manner of a machine

A machine that carries out something which keeps to a manner does so itself at every step, as long as the
functions that the script calls are allowed what they do. The invariant is on all that is under way or
suspended: it goes on in this manner, and what is lowest of all that is under way ends as the whole is
to end.
-/

namespace ScriptOracle.Script

/-! ## The invariant -/

/-- How what is on top of some frames may end, if the whole is to end in some way. -/
def Ends.above (ends : Ends) : List Frame -> Ends
  | [] => ends
  | _ :: _ => .any

@[simp] theorem Ends.any_above (frames : List Frame) : Ends.any.above frames = .any := by
  cases frames <;> rfl

variable {engine : Engine} {manner : Manner} {ends : Ends} {machine : Machine} {heap : Heap}
  {rest : List Frame}

/-- What goes on with the value of a call, on top of some frames. -/
def Returns (manner : Manner) (ends : Ends) (rest : List Frame)
    (after : Heap -> Except Halt Value -> Act) : Prop :=
  ∀ heap result, (after heap result).Keeps manner (ends.above rest)

def CallerKeeps (manner : Manner) (ends : Ends) (rest : List Frame) :
    Option (Heap -> Except Halt Value -> Act) -> Prop
  | some after => Returns manner ends rest after
  | none => ∀ result, ends result

def Frame.Keeps (manner : Manner) (ends : Ends) (rest : List Frame) : Frame -> Prop
  | .call after _ => Returns manner ends rest after
  | .waiting _ caller _ => CallerKeeps manner ends rest caller
  | .loop round after =>
    (∀ first scope heap, (round first scope heap).Keeps manner .any) ∧
      ∀ heap result, (after heap result).Keeps manner (ends.above rest)

def FramesKeep (manner : Manner) (ends : Ends) : List Frame -> Prop
  | [] => True
  | frame :: rest => frame.Keeps manner ends rest ∧ FramesKeep manner ends rest

/-- A function that waits goes on in a manner. The loops are above a frame of the function. -/
structure Suspension.Keeps (manner : Manner) (suspension : Suspension) : Prop where
  behind : ∀ heap result, (suspension.after heap result).Keeps manner .any
  loops : FramesKeep manner .any suspension.loops

def Machine.Resumes (manner : Manner) (machine : Machine) : Prop :=
  ∀ suspension ∈ machine.suspended, suspension.Keeps manner

/-- All that is under way or suspended goes on in a manner. -/
structure Machine.Keeps (manner : Manner) (ends : Ends) (machine : Machine) : Prop where
  frames : FramesKeep manner ends machine.frames
  suspended : machine.Resumes manner

def Ending.Keeps (ends : Ends) : Ending -> Prop
  | .finished _ result => ends result
  | _ => True

def Step.Keeps (manner : Manner) (ends : Ends) : Step -> Prop
  | .next machine act =>
    machine.Keeps manner ends ∧ act.Keeps manner (ends.above machine.frames)
  | .done machine ending => machine.Resumes manner ∧ ending.Keeps ends

theorem resumes_start (gate : Gate) : (Machine.start gate).Resumes manner := by
  intro suspension found
  cases found with | mk found => cases found

theorem framesKeep_append_waiting {loops : List Frame} (keeps : FramesKeep manner .any loops)
    {promise : Ref} {rounds : Nat} :
    FramesKeep manner .any (loops ++ [.waiting promise none rounds]) := by
  induction loops with
  | nil => exact ⟨fun _ => trivial, trivial⟩
  | cons frame loops ih =>
      refine ⟨?_, ih keeps.2⟩
      have first := keeps.1
      cases frame <;> simpa [Frame.Keeps, CallerKeeps, Returns] using first

/-! ## The ways to go on -/

theorem keeps_toCaller (still : machine.Keeps manner ends) (heap : Heap)
    {caller : Option (Heap -> Except Halt Value -> Act)}
    (behind : CallerKeeps manner ends machine.frames caller) (result : Except Halt Value) :
    (machine.toCaller heap caller result).Keeps manner ends := by
  cases caller with
  | some caller => exact ⟨still, behind heap result⟩
  | none => cases result <;> exact ⟨still.suspended, behind _⟩

theorem keeps_settle (still : machine.Keeps manner ends) (heap : Heap) (promise : Ref)
    {caller : Option (Heap -> Except Halt Value -> Act)}
    (behind : CallerKeeps manner ends machine.frames caller) (result : Except Halt Flow) :
    (machine.settle heap promise caller result).Keeps manner ends := by
  cases result with
  | ok flow => exact keeps_toCaller still _ behind _
  | error halt => cases halt <;> exact keeps_toCaller still _ behind _

theorem keeps_finish (still : machine.Keeps manner ends) (heap : Heap) {result : Except Halt Flow}
    (ended : ends.above machine.frames result) :
    (machine.finish heap result).Keeps manner ends := by
  have frames := still.frames
  unfold Machine.finish
  split
  case h_1 found =>
    rw [found] at ended
    exact ⟨still.suspended, ended⟩
  case h_2 after rounds rest found =>
    rw [found] at frames
    exact ⟨⟨frames.2, still.suspended⟩, frames.1 _ _⟩
  case h_3 promise caller rounds rest found =>
    rw [found] at frames
    have left : (machine.leave rest rounds).Keeps manner ends := ⟨frames.2, still.suspended⟩
    exact keeps_settle left heap promise frames.1 result
  case h_4 round after rest found =>
    rw [found] at frames
    -- A loop stays where it is for another round, or is left.
    split
    · refine ⟨still, ?_⟩
      rw [found]
      exact frames.1.1 _ _ _
    · exact ⟨⟨frames.2, still.suspended⟩, frames.1.2 _ _⟩

theorem keeps_raised (still : machine.Keeps manner ends) (heap : Heap) (message : String)
    {after : Heap -> Except Halt Value -> Act}
    (behind : Returns manner ends machine.frames after) :
    (machine.raise heap message after).Keeps manner ends :=
  ⟨still, behind _ _⟩

theorem keeps_callClosure (still : machine.Keeps manner ends) (heap : Heap) (code : Code)
    (scope : Nat) (this : Value) (args : List Value) {after : Heap -> Except Halt Value -> Act}
    (behind : Returns manner ends machine.frames after) :
    (machine.callClosure heap code scope this args after).Keeps manner ends := by
  have body := Task.keeps_toAct (Eval.keeps_body code scope this args : Task.Keeps manner _)
  unfold Machine.callClosure
  split
  · exact ⟨⟨⟨behind, still.frames⟩, still.suspended⟩, body _⟩
  · exact ⟨⟨⟨behind, still.frames⟩, still.suspended⟩, body _⟩

/-- A native function that is called is to be allowed what it does. -/
theorem keeps_called (still : machine.Keeps manner ends) (heap : Heap) (callee this : Value)
    {args : List Value} {after : Heap -> Except Halt Value -> Act}
    (behind : Returns manner ends machine.frames after)
    (allowed : ∀ native, heap.function? callee = some (.native native) ->
      ¬engine.depth ≤ machine.depth ->
      (native = .makeRequest -> manner.asks) ∧ ∀ value ∈ native.taken args, manner.takes value) :
    (machine.call engine heap callee this args after).Keeps manner ends := by
  unfold Machine.call
  split
  case h_1 => exact keeps_raised still heap _ behind
  case h_2 function found =>
    split
    next => exact ⟨still, behind _ _⟩
    next shallow =>
      cases function with
      | native native =>
          obtain ⟨asks, takes⟩ := allowed native found shallow
          exact ⟨still, Native.keeps_call asks this takes _ heap after behind⟩
      | closure code scope outer => exact keeps_callClosure still heap _ _ _ args behind

theorem keeps_made (still : machine.Keeps manner ends) (heap : Heap) (callee : Value)
    (args : List Value) {after : Heap -> Except Halt Value -> Act}
    (behind : Returns manner ends machine.frames after) :
    (machine.create engine heap callee args after).Keeps manner ends := by
  unfold Machine.create
  split
  · exact keeps_raised still heap _ behind
  · split
    · exact ⟨still, behind _ _⟩
    · split
      · exact ⟨still, Native.keeps_create _ args _ heap after behind⟩
      · split
        · exact keeps_raised still heap _ behind
        · exact keeps_callClosure still _ _ _ _ args fun heap result => behind heap _

/-- The loops and the caller that waiting takes off the frames keep to the manner of the frames. Below
the loops is the function that waits. -/
theorem keeps_splitFrames {frames : List Frame} (keeps : FramesKeep manner ends frames)
    {loops rest : List Frame} {promise : Ref}
    {caller : Option (Heap -> Except Halt Value -> Act)} {rounds : Nat}
    (split : Machine.splitFrames frames = some (loops, promise, caller, rounds, rest)) :
    ends.above frames = .any ∧ FramesKeep manner .any loops ∧ FramesKeep manner ends rest ∧
      CallerKeeps manner ends rest caller := by
  induction frames generalizing loops with
  | nil => cases split
  | cons frame frames ih =>
      obtain ⟨first, others⟩ := keeps
      cases frame with
      | call after rounds => cases split
      | waiting promise caller rounds =>
          cases split
          exact ⟨rfl, trivial, others, first⟩
      | loop round after =>
          rw [Machine.splitFrames, Option.map_eq_some_iff] at split
          obtain ⟨⟨inner, found⟩, inside, same⟩ := split
          cases same
          obtain ⟨above, kept, left, called⟩ := ih others inside
          refine ⟨rfl, ⟨⟨first.1, fun heap result => ?_⟩, kept⟩, left, called⟩
          rw [Ends.any_above, ← above]
          exact first.2 heap result

theorem keeps_waited (still : machine.Keeps manner ends) (heap : Heap) (value : Value)
    {after : Heap -> Except Halt Value -> Act}
    (behind : Returns manner ends machine.frames after) :
    (machine.wait heap value after).Keeps manner ends := by
  unfold Machine.wait
  split
  case h_1 => exact keeps_raised still heap _ behind
  case h_2 loops promise caller rounds rest split =>
    obtain ⟨above, kept, left, called⟩ := keeps_splitFrames still.frames split
    have waits : Machine.Keeps manner ends (Machine.leave { machine with
        suspended := machine.suspended.push ⟨after, loops, promise, machine.rounds⟩ } rest rounds) := by
      refine ⟨left, fun suspension found => ?_⟩
      rcases Array.mem_push.mp found with before | rfl
      · exact still.suspended suspension before
      · exact ⟨fun heap result => above ▸ behind heap result, kept⟩
    exact keeps_toCaller waits _ called _

theorem keeps_counted (still : machine.Keeps manner ends) (heap : Heap)
    {after : Heap -> Except Halt Unit -> Act}
    (behind : ∀ heap result, (after heap result).Keeps manner (ends.above machine.frames)) :
    (machine.count engine heap after).Keeps manner ends := by
  unfold Machine.count
  split
  · exact ⟨still, behind _ _⟩
  · exact ⟨⟨still.frames, still.suspended⟩, behind _ _⟩

/-! ## One step -/

/-- The values whose data the host is about to take at an act, which is the call of a native function and
not one too many. -/
def Config.taken (engine : Engine) (config : Config) : List Value :=
  match config.act with
  | .call heap callee _ args _ =>
    match heap.function? callee with
    | some (.native native) =>
      if engine.depth ≤ config.machine.depth then [] else native.taken args
    | _ => []
  | _ => []

/-- A manner allows the data that is taken along a trail. -/
def Manner.Allows (manner : Manner) (engine : Engine) (trail : List Config) : Prop :=
  ∀ config ∈ trail, ∀ value ∈ config.taken engine, manner.takes value

end ScriptOracle.Script
