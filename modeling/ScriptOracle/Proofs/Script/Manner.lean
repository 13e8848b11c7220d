import ScriptOracle.Script.Data

/-!
# Tasks that keep to a manner

A manner says what a task may do apart from its work on the heap: whether it may ask the gate, and of
which values it may take the data. An act keeps to a manner if it does so itself and in all that it goes
on to, and if it ends as it is supposed to end. A task keeps to a manner if it does so whatever comes
behind it, however that is to end. The ways to put tasks together preserve this.
-/

namespace ScriptOracle.Script

structure Manner where
  /-- Whether the gate may be asked. -/
  asks : Prop
  /-- The values whose data may be taken, which may break the host down. -/
  takes : Value -> Prop

abbrev Ends : Type := Except Halt Flow -> Prop

def Ends.any : Ends := fun _ => True

/-- An act that keeps to a manner, however it goes on. -/
inductive Act.Keeps (manner : Manner) : Ends -> Act -> Prop
  | finish {ends : Ends} {heap : Heap} {result : Except Halt Flow} (ended : ends result) :
      Keeps manner ends (.finish heap result)
  | call {ends : Ends} {heap : Heap} {callee this : Value} {args : List Value}
      {after : Heap -> Except Halt Value -> Act}
      (behind : ∀ heap result, (after heap result).Keeps manner ends) :
      Keeps manner ends (.call heap callee this args after)
  | create {ends : Ends} {heap : Heap} {callee : Value} {args : List Value}
      {after : Heap -> Except Halt Value -> Act}
      (behind : ∀ heap result, (after heap result).Keeps manner ends) :
      Keeps manner ends (.create heap callee args after)
  | loop {ends : Ends} {heap : Heap} {scope : Nat} {round : Bool -> Nat -> Heap -> Act}
      {after : Heap -> Except Halt Flow -> Act}
      (inside : ∀ first scope heap, (round first scope heap).Keeps manner .any)
      (behind : ∀ heap result, (after heap result).Keeps manner ends) :
      Keeps manner ends (.loop heap scope round after)
  | count {ends : Ends} {heap : Heap} {after : Heap -> Except Halt Unit -> Act}
      (behind : ∀ heap result, (after heap result).Keeps manner ends) :
      Keeps manner ends (.count heap after)
  | wait {ends : Ends} {heap : Heap} {value : Value} {after : Heap -> Except Halt Value -> Act}
      (behind : ∀ heap result, (after heap result).Keeps manner ends) :
      Keeps manner ends (.wait heap value after)
  | request {ends : Ends} {heap : Heap} {made : Gate.Call} {after : Heap -> Gate.Outcome -> Act}
      (allowed : manner.asks) (behind : ∀ heap outcome, (after heap outcome).Keeps manner ends) :
      Keeps manner ends (.request heap made after)
  | refuse {ends : Ends} {heap : Heap} {url method : String} {refusal : Gate.Refusal}
      {after : Heap -> Gate.Outcome -> Act} (allowed : manner.asks)
      (behind : ∀ heap outcome, (after heap outcome).Keeps manner ends) :
      Keeps manner ends (.refuse heap url method refusal after)
  | print {ends : Ends} {heap : Heap} {line : String} {after : Heap -> Act}
      (behind : ∀ heap, (after heap).Keeps manner ends) :
      Keeps manner ends (.print heap line after)
  | pause {ends : Ends} {heap : Heap} {after : Heap -> Act}
      (behind : ∀ heap, (after heap).Keeps manner ends) : Keeps manner ends (.pause heap after)
  | crash {ends : Ends} {heap : Heap} {value : Value} (allowed : manner.takes value)
      (broken : heap.data value = .error .breakdown) : Keeps manner ends (.crash heap value)

namespace Task

variable {α β : Type} {manner : Manner}

def Keeps (manner : Manner) (task : Task α) : Prop :=
  ∀ ends heap after, (∀ heap result, (after heap result).Keeps manner ends) ->
    (task heap after).Keeps manner ends

theorem keeps_pure (value : α) : (pure value : Task α).Keeps manner :=
  fun _ heap _ behind => behind heap (.ok value)

theorem keeps_bind {task : Task α} {next : α -> Task β} (first : task.Keeps manner)
    (second : ∀ value, (next value).Keeps manner) : (task >>= next).Keeps manner := by
  intro ends heap after behind
  refine first ends heap _ fun heap result => ?_
  cases result with
  | ok value => exact second value ends heap after behind
  | error halt => exact behind heap (.error halt)

/-- Two ways to come to the same task. -/
theorem keeps_choice {choice : Prop} [Decidable choice] {task other : Task α} {next : α -> Task β}
    (first : task.Keeps manner) (second : other.Keeps manner)
    (behind : ∀ value, (next value).Keeps manner) :
    (if choice then task >>= next else other >>= next).Keeps manner := by
  split
  · exact keeps_bind first behind
  · exact keeps_bind second behind

theorem keeps_halt (halt : Halt) : (Task.halt halt : Task α).Keeps manner :=
  fun _ heap _ behind => behind heap (.error halt)

theorem keeps_raiseValue (value : Value) : (raiseValue value : Task α).Keeps manner :=
  keeps_halt (.thrown value)

theorem keeps_raise (kind : ErrorKind) (message : String) :
    (raise kind message : Task α).Keeps manner :=
  fun _ _ _ behind => behind _ _

theorem keeps_attempt {task : Task α} (keeps : task.Keeps manner) : task.attempt.Keeps manner :=
  fun _ heap _ behind => keeps _ heap _ fun heap result => behind heap (.ok result)

theorem keeps_ofResult (result : Except Halt α) : (ofResult result).Keeps manner :=
  fun _ heap _ behind => behind heap result

theorem keeps_look (f : Heap -> α) : (look f).Keeps manner := fun _ _ _ behind => behind _ _

theorem keeps_change (f : Heap -> Heap) : (change f).Keeps manner := fun _ _ _ behind => behind _ _

theorem keeps_update (f : Heap -> Heap × α) : (update f).Keeps manner :=
  fun _ _ _ behind => behind _ _

theorem keeps_call (callee this : Value) (args : List Value) : (call callee this args).Keeps manner :=
  fun _ _ _ behind => .call behind

theorem keeps_create (callee : Value) (args : List Value) : (create callee args).Keeps manner :=
  fun _ _ _ behind => .create behind

theorem keeps_count : count.Keeps manner := fun _ _ _ behind => .count behind

theorem keeps_wait (value : Value) : (wait value).Keeps manner := fun _ _ _ behind => .wait behind

theorem keeps_print (line : String) : (print line).Keeps manner :=
  fun _ _ _ behind => .print fun heap => behind heap (.ok ())

theorem keeps_request (allowed : manner.asks) (made : Gate.Call) : (request made).Keeps manner :=
  fun _ _ _ behind => .request allowed fun heap outcome => behind heap (.ok outcome)

theorem keeps_refuse (allowed : manner.asks) (url method : String) (refusal : Gate.Refusal) :
    (refuse url method refusal).Keeps manner :=
  fun _ _ _ behind => .refuse allowed fun heap outcome => behind heap (.ok outcome)

theorem keeps_pause : pause.Keeps manner :=
  fun _ _ _ behind => .pause fun heap => behind heap (.ok ())

theorem keeps_toAct {task : Task Flow} (keeps : task.Keeps manner) (heap : Heap) :
    (task.toAct heap).Keeps manner .any :=
  keeps .any heap .finish fun _ _ => .finish trivial

theorem keeps_loop (scope : Nat) {round : Bool -> Nat -> Task Flow}
    (keeps : ∀ first scope, (round first scope).Keeps manner) : (loop scope round).Keeps manner :=
  fun _ _ _ behind => .loop (fun first scope heap => keeps_toAct (keeps first scope) heap) behind

theorem keeps_each {f : α -> Task β} {items : List α}
    (keeps : ∀ item ∈ items, (f item).Keeps manner) : (each f items).Keeps manner := by
  induction items with
  | nil => exact keeps_pure _
  | cons item rest ih =>
      obtain ⟨first, others⟩ := List.forall_mem_cons.mp keeps
      exact keeps_bind first fun _ => keeps_bind (ih others) fun _ => keeps_pure _

/-! ## Tasks that do not halt -/

/-- A task that keeps to a manner, and goes on to what is behind it only with a value. -/
def Sure (manner : Manner) (task : Task α) : Prop :=
  ∀ ends heap after, (∀ heap value, (after heap (.ok value)).Keeps manner ends) ->
    (task heap after).Keeps manner ends

theorem Sure.keeps {task : Task α} (sure : task.Sure manner) : task.Keeps manner :=
  fun ends heap after behind => sure ends heap after fun heap value => behind heap (.ok value)

theorem sure_pure (value : α) : (pure value : Task α).Sure manner :=
  fun _ heap _ behind => behind heap value

theorem sure_bind {task : Task α} {next : α -> Task β} (first : task.Sure manner)
    (second : ∀ value, (next value).Sure manner) : (task >>= next).Sure manner :=
  fun ends heap after behind =>
    first ends heap _ fun heap value => second value ends heap after behind

theorem sure_attempt {task : Task α} (keeps : task.Keeps manner) : task.attempt.Sure manner :=
  fun _ heap _ behind => keeps _ heap _ fun heap result => behind heap result

theorem sure_update (f : Heap -> Heap × α) : (update f).Sure manner :=
  fun _ _ _ behind => behind _ _

end Task

end ScriptOracle.Script
