import ScriptOracle.Proofs.Script.Access

/-!
# What a task comes to

A task comes to a result if every run that starts with the task goes on, some acts later, with what comes
behind the task. That holds for everything that may come behind it, so that tasks that are put together come
to what their parts come to, one part after the other.
-/

namespace ScriptOracle.Script

/-- A point of a run: all that changes during it. -/
structure Moment where
  machine : Machine
  heap : Heap

def Moment.withHeap (moment : Moment) (heap : Heap) : Moment := ⟨moment.machine, heap⟩

namespace Task

variable {α β : Type}

/-- After exactly `count` acts a task has come from one moment to another, with a result for what comes
behind it. -/
def Comes (engine : Engine) (before : Moment) (task : Task α) (count : Nat) (last : Moment)
    (result : Except Halt α) : Prop :=
  ∀ after fuel, before.machine.steps engine (fuel + count) (task before.heap after) =
    last.machine.steps engine fuel (after last.heap result)

variable {engine : Engine} {before between last : Moment} {count more : Nat} {task : Task α}
  {next : α -> Task β} {value : α} {halt : Halt} {result : Except Halt β}

/-! ## Tasks that are put together -/

theorem comes_pure (before : Moment) (value : α) :
    (pure value : Task α).Comes engine before 0 before (.ok value) := fun _ _ => rfl

theorem Comes.bind (first : task.Comes engine before count between (.ok value))
    (second : (next value).Comes engine between more last result) :
    (task >>= next).Comes engine before (count + more) last result := by
  intro after fuel
  rw [Nat.add_comm count more, ← Nat.add_assoc]
  exact (first _ (fuel + more)).trans (second after fuel)

/-- What stops a task stops all that is put behind it. -/
theorem Comes.stop (first : task.Comes engine before count last (.error halt)) (next : α -> Task β) :
    (task >>= next).Comes engine before count last (.error halt) := fun _ fuel => first _ fuel

/-- A part that takes no acts counts for nothing. -/
theorem Comes.bind_zero (first : task.Comes engine before 0 between (.ok value))
    (second : (next value).Comes engine between more last result) :
    (task >>= next).Comes engine before more last result := Nat.zero_add more ▸ first.bind second

/-- A last part that takes no acts counts for nothing. -/
theorem Comes.then_zero (first : task.Comes engine before count between (.ok value))
    (second : (next value).Comes engine between 0 last result) :
    (task >>= next).Comes engine before count last result := first.bind second

/-! ## Tasks of the heap -/

theorem comes_look (before : Moment) (f : Heap -> α) :
    (look f).Comes engine before 0 before (.ok (f before.heap)) := fun _ _ => rfl

theorem comes_update (before : Moment) (f : Heap -> Heap × α) :
    (update f).Comes engine before 0 (before.withHeap (f before.heap).1) (.ok (f before.heap).2) :=
  fun _ _ => rfl

/-- A task comes to a new error in the heap of a moment. -/
def Throws (engine : Engine) (before : Moment) (task : Task α) (count : Nat) (last : Moment)
    (kind : ErrorKind) (message : String) : Prop :=
  task.Comes engine before count (last.withHeap (last.heap.allocError kind message).1)
    (.error (.thrown (last.heap.allocError kind message).2))

theorem throws_raise (before : Moment) (kind : ErrorKind) (message : String) :
    (raise kind message : Task α).Throws engine before 0 before kind message := fun _ _ => rfl

/-! ## Tasks that take an act -/

theorem comes_pause (before : Moment) : pause.Comes engine before 1 before (.ok ()) :=
  fun _ _ => rfl

/-- A call of a native function takes one act more than the function. -/
theorem Comes.call {native : Native} {callee this : Value} {args : List Value}
    {given : Except Halt Value} (found : before.heap.function? callee = some (.native native))
    (shallow : before.machine.depth < engine.depth)
    (comes : (native.call this args).Comes engine before count last given) :
    (Task.call callee this args).Comes engine before (count + 1) last given := by
  intro after fuel
  have taken : before.machine.step engine (Task.call callee this args before.heap after) =
      .next before.machine (native.call this args before.heap after) := by
    rw [Task.call, Machine.step, Machine.call, found]
    exact if_neg (Nat.not_le.2 shallow)
  exact (steps_of_next _ taken).trans (comes after fuel)

/-! ## Tasks for each item -/

/-- Tasks that leave the moment as it is can be done for each item. -/
theorem comes_each {f : α -> Task β} {items : List α} {values : List β}
    (each : List.Forall₂ (fun item value => ∃ count, (f item).Comes engine before count before (.ok value))
      items values) :
    ∃ count, (Task.each f items).Comes engine before count before (.ok values) := by
  induction each with
  | nil => exact ⟨0, comes_pure before []⟩
  | cons here _ ih =>
      obtain ⟨count, first⟩ := here
      obtain ⟨more, rest⟩ := ih
      exact ⟨count + more, first.bind (rest.then_zero (comes_pure before _))⟩

end Task

/-! ## Properties -/

variable {engine : Engine} {before last : Moment} {ref : Ref} {name : Units} {value : Value}

/-- A property that holds a value is read at once. -/
theorem comes_getProperty {writable : Bool}
    (found : before.heap.property? ref name = some (.data value writable)) :
    (getProperty (.object ref) name).Comes engine before 0 before (.ok value) :=
  fun after fuel => congrArg (before.machine.steps engine fuel) (getProperty_object found after)

/-- A property that a function gives takes the acts of a call. -/
theorem comes_getProperty_accessor {getter : Value} {setter : Option Value} {count : Nat}
    {given : Except Halt Value}
    (found : before.heap.property? ref name = some (.accessor (some getter) setter))
    (comes : (Task.call getter (.object ref) []).Comes engine before count last given) :
    (getProperty (.object ref) name).Comes engine before count last given := by
  intro after fuel
  rw [getProperty_read found]
  exact comes after fuel

end ScriptOracle.Script
