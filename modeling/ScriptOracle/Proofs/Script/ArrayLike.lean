import ScriptOracle.Proofs.Script.Progress
import ScriptOracle.Proofs.Script.Wrapping

/-!
# Objects that are like lists

The bytes of an object are those of its elements. All of them are read, once and in order, by whatever
functions give them; a list, or an array of bytes, gives them in place. An object that is too long is refused
before any of its elements is read, and an element that counts as no number right after it was read.
-/

namespace ScriptOracle.Script

/-! ## Elements as numbers -/

namespace Value

def numeral? : Value -> Option Numeral
  | .undefined => some (.float Double.nan)
  | .null => some (.int 0)
  | .bool b => some (.int (if b then 1 else 0))
  | .number n => some n
  | .text units => some (numeralOfText units)
  | .bigint _ | .symbol | .object _ => none

theorem numeral?_int (n : ℤ) : (Value.int n).numeral? = some (.ofInt n) := rfl

/-- What is said of an element that is never taken for a number. -/
def refusal? : Value -> Option String
  | .bigint _ => some "argument must not be a bigint"
  | .symbol => some "argument must not be a symbol"
  | _ => none

end Value

def Moment.withBytes (moment : Moment) (bytes : Bytes) : Moment :=
  moment.withHeap (moment.heap.allocBytes bytes).1

def Moment.newBytes (moment : Moment) : Value := .object moment.heap.objects.size

variable {engine : Engine} {before measured between last : Moment} {ref : Ref} {object value : Value}
  {values : List Value} {numerals : List Numeral} {index length count more : Nat} {bytes : Bytes}

theorem comes_newBytes (before : Moment) (bytes : Bytes) :
    (Modules.newBytes bytes).Comes engine before 0 (before.withBytes bytes) (.ok before.newBytes) :=
  Task.comes_update before fun heap => heap.allocBytes bytes

theorem comes_toNumeral {n : Numeral} (counts : value.numeral? = some n) :
    (toNumeral value).Comes engine before 0 before (.ok n) := by
  cases value with
  | bigint | symbol | object => cases counts
  | _ =>
      cases counts
      exact fun after fuel => rfl

theorem comes_toByte {n : Numeral} (counts : value.numeral? = some n) :
    (toByte value).Comes engine before 0 before (.ok n.toByte) :=
  (comes_toNumeral counts).then_zero (Task.comes_pure before _)

theorem throws_toByte {message : String} (refused : value.refusal? = some message) :
    (toByte value).Throws engine before 0 before .type message := by
  cases value with
  | bigint | symbol =>
      cases refused
      exact fun after fuel => rfl
  | _ => cases refused

/-! ## Elements that are read -/

/-- The elements of an object from an index on, as they are read one after the other. -/
inductive Reads (engine : Engine) (object : Value) : Nat -> Moment -> List Value -> Nat -> Moment -> Prop
  | none (index : Nat) (before : Moment) : Reads engine object index before [] 0 before
  | next {index count more : Nat} {before between last : Moment} {value : Value} {values : List Value}
      (read : (getProperty object (Units.ofNat index)).Comes engine before count between (.ok value))
      (rest : Reads engine object (index + 1) between values more last) :
      Reads engine object index before (value :: values) (1 + count + more) last

theorem bytesFrom_succ (object : Value) (count index : Nat) (soFar : Bytes) :
    bytesFrom object (count + 1) index soFar = (do
      Task.pause
      let value ← getProperty object (Units.ofNat index)
      let byte ← toByte value
      bytesFrom object count (index + 1) (byte :: soFar)) := rfl

/-- One element after the other is taken over, and then the elements behind them. -/
theorem Reads.comes_bytesFrom_add (reads : Reads engine object index before values count between)
    (counted : values.map Value.numeral? = numerals.map some) {soFar : Bytes} {left : Nat}
    {result : Except Halt Bytes}
    (behind : (bytesFrom object left (index + values.length)
      ((numerals.map Numeral.toByte).reverse ++ soFar)).Comes engine between more last result) :
    (bytesFrom object (values.length + left) index soFar).Comes engine before (count + more) last
      result := by
  induction reads generalizing numerals soFar with
  | none index before =>
      cases numerals with
      | nil => simpa using behind
      | cons numeral numerals => cases counted
  | @next index count further before between last value values read rest ih =>
      cases numerals with
      | nil => cases counted
      | cons numeral numerals =>
          obtain ⟨counts, others⟩ := List.cons.inj counted
          have rounds : (value :: values).length + left = values.length + left + 1 := by
            rw [List.length_cons]
            omega
          rw [rounds, bytesFrom_succ, Nat.add_assoc (1 + count), Nat.add_assoc 1]
          -- A round pauses, reads and converts; the rounds behind it find its byte in front of `soFar`.
          refine (Task.comes_pause before).bind (read.bind ((comes_toByte counts).bind_zero (ih others ?_)))
          have place : index + 1 + values.length = index + (value :: values).length := by
            rw [List.length_cons]
            omega
          rw [place]
          simpa using behind

theorem Reads.comes_bytesFrom (reads : Reads engine object 0 before values count last)
    (counted : values.map Value.numeral? = numerals.map some) :
    (bytesFrom object values.length 0 []).Comes engine before count last
      (.ok (numerals.map Numeral.toByte)) := by
  have nothing : (bytesFrom object 0 (0 + values.length)
      ((numerals.map Numeral.toByte).reverse ++ [])).Comes engine last 0 last
      (.ok (numerals.map Numeral.toByte)) := by
    rw [List.append_nil, bytesFrom, List.reverse_reverse]
    exact Task.comes_pure last _
  exact reads.comes_bytesFrom_add counted nothing

/-- An element that is never taken for a number ends it. -/
theorem Reads.throws_bytesFrom (reads : Reads engine object 0 before values count between)
    (counted : values.map Value.numeral? = numerals.map some) (inside : values.length < length)
    (read : (getProperty object (Units.ofNat values.length)).Comes engine between more last (.ok value))
    {message : String} (refused : value.refusal? = some message) :
    (bytesFrom object length 0 []).Throws engine before (count + (1 + more)) last .type message := by
  obtain ⟨left, rfl⟩ : ∃ left, length = values.length + (left + 1) :=
    ⟨length - values.length - 1, by omega⟩
  refine reads.comes_bytesFrom_add counted ?_
  rw [bytesFrom_succ, Nat.zero_add]
  exact (Task.comes_pause between).bind (read.then_zero ((throws_toByte refused).stop _))

/-! ## Objects that are long -/

theorem maxBytes_lt : maxBytes < 2 ^ 31 := by decide

theorem maxBytes_le_indexBound : maxBytes ≤ Units.indexBound := by decide

theorem maxBytes_le_maxArraySize : maxBytes ≤ Builtin.maxArraySize := by decide

theorem bytesOf_of_lengthOf {result : Except Halt Bytes}
    (measures : (lengthOf object).Comes engine before count measured (.ok length))
    (fits : length ≤ maxBytes)
    (taken : (bytesFrom object length 0 []).Comes engine measured more last result) :
    (bytesOf object).Comes engine before (count + more) last result := by
  refine measures.bind ?_
  rw [if_neg (Nat.not_lt.2 fits)]
  exact taken

def tooLong : String := s!"byte array longer than {maxBytes}"

theorem throws_bytesOf (measures : (lengthOf object).Comes engine before count measured (.ok length))
    (long : maxBytes < length) : (bytesOf object).Throws engine before count measured .range tooLong := by
  refine measures.then_zero ?_
  rw [if_pos long]
  exact Task.throws_raise measured .range tooLong

/-- A new byte array takes the elements over in the same way. -/
theorem create_bytes_of_lengthOf
    (measures : (lengthOf (.object ref)).Comes engine before count measured (.ok length))
    (fits : length ≤ maxBytes)
    (taken : (bytesFrom (.object ref) length 0 []).Comes engine measured more last (.ok bytes))
    (rest : List Value) :
    (Native.bytes.create (.object ref :: rest)).Comes engine before (count + more) (last.withBytes bytes)
      (.ok last.newBytes) := by
  refine measures.bind ?_
  rw [if_neg (Nat.not_lt.2 (Nat.le_trans fits maxBytes_le_maxArraySize))]
  exact taken.then_zero (comes_newBytes last bytes)

/-! ## Elements in place -/

namespace Heap

variable {heap other : Heap} {items : List Value}

/-- An object holds its elements as values of properties. -/
def Spreads (heap : Heap) (ref : Ref) (items : List Value) : Prop :=
  ∀ index item, items[index]? = some item →
    ∃ writable, heap.property? ref (Units.ofNat index) = some (.data item writable)

/-- An object holds its length and its elements as values of properties. -/
structure Lists (heap : Heap) (ref : Ref) (items : List Value) : Prop where
  length : ∃ writable, heap.property? ref Object.lengthName = some (.data (.int items.length) writable)
  spreads : heap.Spreads ref items

/-- The length of an object is what the function for byte arrays gives. -/
def Gauges (heap : Heap) (found : Option Property) : Prop :=
  ∃ getter setter, found = some (.accessor (some getter) setter) ∧
    heap.function? getter = some (.native .bytesLength)

/-- A byte array with these bytes, whose length can be found. -/
structure Carries (heap : Heap) (ref : Ref) (bytes : Bytes) : Prop where
  kind : (heap.get ref).kind = .bytes bytes.toArray
  length : heap.Gauges (heap.property? ref Object.lengthName)

/-- Byte arrays find their length where they find all that they share. -/
structure Measures (heap : Heap) : Prop where
  inside : Root.bytes.ref < heap.objects.size
  length : heap.Gauges ((heap.get Root.bytes.ref).own? Object.lengthName)

theorem Gauges.grown {found : Option Property} (gauges : heap.Gauges found) (grows : Grows heap other) :
    other.Gauges found := by
  obtain ⟨getter, setter, read, function⟩ := gauges
  exact ⟨getter, setter, read, function?_grown function grows⟩

theorem Measures.kept (measures : heap.Measures) (leaves : Leaves Root.bytes.ref heap other)
    (grows : Grows heap other) : other.Measures where
  inside := Nat.lt_of_lt_of_le measures.inside leaves.size
  length := by
    rw [leaves.same measures.inside]
    exact measures.length.grown grows

theorem Measures.alloc (measures : heap.Measures) (object : Object) : (heap.alloc object).1.Measures :=
  measures.kept (leaves_alloc heap object) (grows_alloc heap object)

theorem own?_of_list {ref : Ref} (kind : (heap.get ref).kind = .list (items.map some).toArray)
    {index : Nat} {item : Value} (small : index < Units.indexBound) (found : items[index]? = some item) :
    (heap.get ref).own? (Units.ofNat index) = some (.data item true) := by
  rw [Object.own?, kind]
  simp only [Units.index?_ofNat small]
  simp [Array.getD_eq_getD_getElem?, found]

/-- A list without gaps holds its elements in place. -/
theorem lists_of_kind {ref : Ref} (kind : (heap.get ref).kind = .list (items.map some).toArray)
    (small : items.length ≤ Units.indexBound) : heap.Lists ref items where
  length := by
    refine ⟨true, property?_of_own? ?_⟩
    have noIndex : Units.index? Object.lengthName = none := by decide
    rw [Object.own?, kind]
    simp [noIndex]
  spreads index item found :=
    have inside : index < items.length := (List.getElem?_eq_some_iff.1 found).1
    ⟨true, property?_of_own? (own?_of_list kind (Nat.lt_of_lt_of_le inside small) found)⟩

def elementsOf (bytes : Bytes) : List Value := bytes.map fun byte => .int byte.toNat

theorem Carries.spreads (carries : heap.Carries ref bytes) (small : bytes.length ≤ Units.indexBound) :
    heap.Spreads ref (elementsOf bytes) := by
  intro index item found
  obtain ⟨byte, inBytes, rfl⟩ := Option.map_eq_some_iff.1 (List.getElem?_map.symm.trans found)
  have inside : index < bytes.length := (List.getElem?_eq_some_iff.1 inBytes).1
  refine ⟨true, property?_of_own? ?_⟩
  rw [Object.own?, carries.kind]
  simp [Units.index?_ofNat (Nat.lt_of_lt_of_le inside small), inBytes]

/-- A new byte array can be measured. -/
theorem Measures.carries_allocBytes (measures : heap.Measures) (bytes : Bytes) :
    (heap.allocBytes bytes).1.Carries heap.objects.size bytes := by
  -- The new object has no length of its own, so that it is looked for where byte arrays share theirs.
  let object := Object.ofKind (.bytes bytes.toArray) Root.bytes.ref
  let grown := (heap.alloc object).1
  have made : grown.get heap.objects.size = object := get_alloc heap object
  have noIndex : Units.index? Object.lengthName = none := by decide
  have absent : object.own? Object.lengthName = none := by
    rw [Object.own?]
    simp only [object, Object.ofKind, noIndex]
    rfl
  obtain ⟨getter, setter, found, function⟩ := (measures.alloc object).length
  refine ⟨congrArg Object.kind made, getter, setter, ?_, function⟩
  obtain ⟨fuel, size⟩ : ∃ fuel, grown.objects.size = fuel + 1 := ⟨_, size_alloc heap object⟩
  show grown.property? heap.objects.size Object.lengthName = _
  have own : (grown.get Root.bytes.ref).own? Object.lengthName = some (.accessor (some getter) setter) := found
  rw [property?, size, lookup?, made]
  simp only [absent]
  rw [show object.proto = some Root.bytes.ref from rfl]
  simp only [lookup?, own]

end Heap

theorem Heap.Spreads.reads_from {items : List Value} (spreads : before.heap.Spreads ref items) :
    ∀ {rest : List Value} {index : Nat}, items.drop index = rest →
      Reads engine (.object ref) index before rest rest.length before := by
  intro rest
  induction rest with
  | nil => exact fun _ => .none _ before
  | cons item rest ih =>
      intro index front
      have here : items[index]? = some item := by rw [← List.head?_drop, front]; rfl
      obtain ⟨writable, found⟩ := spreads index item here
      have behind : items.drop (index + 1) = rest := by rw [← List.tail_drop, front]; rfl
      rw [List.length_cons, Nat.add_comm]
      exact .next (comes_getProperty found) (ih behind)

/-- Elements in place are read without any change. -/
theorem Heap.Spreads.reads {items : List Value} (spreads : before.heap.Spreads ref items) :
    Reads engine (.object ref) 0 before items items.length before := spreads.reads_from rfl

theorem Numeral.ofInt_of_lt {n : Nat} (small : n < 2 ^ 31) : Numeral.ofInt n = .int n := by
  refine if_pos ?_
  simp only [fits, Bool.and_eq_true, decide_eq_true_eq]
  omega

theorem Numeral.toLength_ofInt {n : Nat} (small : n < 2 ^ 31) : (Numeral.ofInt n).toLength = n := by
  rw [ofInt_of_lt small]
  exact Nat.min_eq_left (small.le.trans (by decide))

theorem Numeral.toByte_ofInt (byte : UInt8) : (Numeral.ofInt (byte.toNat : ℤ)).toByte = byte := by
  have small : byte.toNat < 256 := byte.toNat_lt
  rw [ofInt_of_lt (by omega), toByte, truncate?]
  simp only [Nat.one_shiftLeft]
  rw [min_eq_left (by omega), max_eq_right (by omega), Int.emod_eq_of_lt (by omega) (by omega)]
  exact UInt8.ofNat_toNat

theorem Heap.Lists.comes_lengthOf {items : List Value} (lists : before.heap.Lists ref items)
    (small : items.length < 2 ^ 31) :
    (lengthOf (.object ref)).Comes engine before 0 before (.ok items.length) := by
  obtain ⟨writable, found⟩ := lists.length
  have numeral : (Value.int items.length).numeral? = some (.ofInt items.length) := rfl
  refine (comes_getProperty found).bind_zero ((comes_toNumeral numeral).bind_zero ?_)
  rw [Numeral.toLength_ofInt small]
  exact Task.comes_pure before _

theorem Heap.Carries.comes_lengthOf (carries : before.heap.Carries ref bytes)
    (small : bytes.length < 2 ^ 31) (shallow : before.machine.depth < engine.depth) :
    (lengthOf (.object ref)).Comes engine before 1 before (.ok bytes.length) := by
  obtain ⟨getter, setter, found, function⟩ := carries.length
  have given : (Native.bytesLength.call (.object ref) []).Comes engine before 0 before
      (.ok (.int bytes.length)) := by
    refine (Task.comes_look before fun heap => (heap.get ref).kind).bind_zero ?_
    simp only [carries.kind]
    exact Task.comes_pure before _
  have numeral : (Value.int bytes.length).numeral? = some (.ofInt bytes.length) := rfl
  refine (comes_getProperty_accessor found (given.call function shallow)).then_zero
    ((comes_toNumeral numeral).bind_zero ?_)
  rw [Numeral.toLength_ofInt small]
  exact Task.comes_pure before _

/-- A new list holds its elements in place. -/
theorem Heap.lists_allocList (heap : Heap) {items : List Value} (small : items.length ≤ Units.indexBound) :
    (heap.allocList items).1.Lists heap.objects.size items :=
  lists_of_kind (congrArg Object.kind (get_alloc heap _)) small

/-- Elements in place are taken over without any change. -/
theorem Heap.Spreads.comes_bytesOf {items : List Value} (spreads : before.heap.Spreads ref items)
    (measures : (lengthOf (.object ref)).Comes engine before count before (.ok items.length))
    (fits : items.length ≤ maxBytes) (counted : items.map Value.numeral? = numerals.map some) :
    (bytesOf (.object ref)).Comes engine before (count + items.length) before
      (.ok (numerals.map Numeral.toByte)) :=
  bytesOf_of_lengthOf measures fits (spreads.reads.comes_bytesFrom counted)

theorem Heap.Lists.comes_bytesOf {items : List Value} (lists : before.heap.Lists ref items)
    (fits : items.length ≤ maxBytes) (counted : items.map Value.numeral? = numerals.map some) :
    (bytesOf (.object ref)).Comes engine before items.length before (.ok (numerals.map Numeral.toByte)) := by
  have small : items.length < 2 ^ 31 := Nat.lt_of_le_of_lt fits maxBytes_lt
  exact Nat.zero_add items.length ▸ lists.spreads.comes_bytesOf (lists.comes_lengthOf small) fits counted

/-- The bytes of a byte array are what it holds. -/
theorem Heap.Carries.comes_bytesOf (carries : before.heap.Carries ref bytes)
    (fits : bytes.length ≤ maxBytes) (shallow : before.machine.depth < engine.depth) :
    (bytesOf (.object ref)).Comes engine before (1 + bytes.length) before (.ok bytes) := by
  let numerals : List Numeral := bytes.map fun byte => .ofInt (byte.toNat : ℤ)
  have counted : (elementsOf bytes).map Value.numeral? = numerals.map some := by
    simp only [numerals, elementsOf, List.map_map, Function.comp_def, Value.numeral?_int]
  have same : numerals.map Numeral.toByte = bytes := by
    simp only [numerals, List.map_map, Function.comp_def, Numeral.toByte_ofInt, List.map_id']
  have size : (elementsOf bytes).length = bytes.length := List.length_map _
  have measures := carries.comes_lengthOf (Nat.lt_of_le_of_lt fits maxBytes_lt) shallow
  have taken := (carries.spreads (Nat.le_trans fits maxBytes_le_indexBound)).comes_bytesOf
    (size ▸ measures) (size ▸ fits) counted
  rwa [same, size] at taken

/-! ## What is taken over -/

/-- An object that is like a list gives one byte for each of its elements, in their order. A new byte array made
from the object holds the same bytes, and gives them again. The byte of an element is the number it counts as,
without its fraction and modulo 256, exactly if that number is not `2 ^ 63` or more, for which it is 255 in
place of 0. A longer object is refused before any of its elements is read, and the first element that is a
bigint or a symbol right after it was read. -/
theorem elements_taken_over (engine : Engine) (before measured : Moment) (ref : Ref) (length count : Nat)
    (measures : (lengthOf (.object ref)).Comes engine before count measured (.ok length)) :
    (maxBytes < length → (bytesOf (.object ref)).Throws engine before count measured .range tooLong) ∧
    (length ≤ maxBytes →
      ∀ (values : List Value) (numerals : List Numeral) (more : Nat) (between : Moment),
        Reads engine (.object ref) 0 measured values more between →
        values.map Value.numeral? = numerals.map some →
        let bytes := numerals.map Numeral.toByte
        (values.length = length →
          bytes.length = length ∧
          (bytesOf (.object ref)).Comes engine before (count + more) between (.ok bytes) ∧
          (∀ rest, (Native.bytes.create (.object ref :: rest)).Comes engine before (count + more)
            (between.withBytes bytes) (.ok between.newBytes)) ∧
          (between.heap.Measures → between.machine.depth < engine.depth →
            (bytesOf between.newBytes).Comes engine (between.withBytes bytes) (1 + length)
              (between.withBytes bytes) (.ok bytes)) ∧
          ∀ n ∈ numerals, n.IsKept →
            (n.toByte = n.wrapped ↔ ¬n.Exceeds) ∧ (n.Exceeds → n.toByte = 255 ∧ n.wrapped = 0)) ∧
        ∀ (value : Value) (further : Nat) (last : Moment) (message : String), values.length < length →
          (getProperty (.object ref) (Units.ofNat values.length)).Comes engine between further last
            (.ok value) →
          value.refusal? = some message →
          (bytesOf (.object ref)).Throws engine before (count + (more + (1 + further))) last .type message) := by
  refine ⟨throws_bytesOf measures, fun fits values numerals more between reads counted => ?_⟩
  intro bytes
  refine ⟨fun all => ?taken, fun value further last message inside read refused => ?refused⟩
  case taken =>
    have size : bytes.length = length := by
      have same := congrArg List.length counted
      rw [List.length_map, List.length_map] at same
      rw [List.length_map, ← same, all]
    have taken : (bytesFrom (.object ref) length 0 []).Comes engine measured more between (.ok bytes) :=
      all ▸ reads.comes_bytesFrom counted
    refine ⟨size, bytesOf_of_lengthOf measures fits taken, create_bytes_of_lengthOf measures fits taken,
      fun finds shallow => ?again, fun n _ kept => ?each⟩
    case again =>
      have carries : (between.withBytes bytes).heap.Carries between.heap.objects.size bytes :=
        finds.carries_allocBytes bytes
      exact size ▸ carries.comes_bytesOf (size ▸ fits) shallow
    case each =>
      exact ⟨Numeral.toByte_eq_wrapped_iff kept, fun exceeds =>
        ⟨Numeral.toByte_of_exceeds exceeds, Numeral.wrapped_of_exceeds kept exceeds⟩⟩
  case refused =>
    exact bytesOf_of_lengthOf measures fits (reads.throws_bytesFrom counted inside read refused)

/-- A number above a byte, a text that is none, one with a fraction below zero, and then a bigint. -/
theorem elements_taken_over_mixed :
    let items : List Value := [.int 257, .ofText "x", .bool true, .undefined,
      .number (.float (Float.ofBits 0xBFF8000000000000))]
    let engine := Engine.usual (.fixed (.error (.http "down")) [])
    let machine := Machine.start (.fresh 0 .usual)
    let list : Ref := Heap.start.objects.size
    let whole : Moment := ⟨machine, (Heap.start.allocList items).1⟩
    let spoilt : Moment := ⟨machine, (Heap.start.allocList (items ++ [.bigint 3])).1⟩
    (bytesOf (.object list)).Comes engine whole 5 whole (.ok [1, 0, 1, 0, 255]) ∧
      (bytesOf (.object list)).Throws engine spoilt 6 spoilt .type "argument must not be a bigint" := by
  intro items engine machine list whole spoilt
  let numerals : List Numeral := [.int 257, .float Double.nan, .int 1, .float Double.nan,
    .float (Float.ofBits 0xBFF8000000000000)]
  have counted : items.map Value.numeral? = numerals.map some := rfl
  have bytes : numerals.map Numeral.toByte = [1, 0, 1, 0, 255] := by decide +kernel
  constructor
  · have lists : whole.heap.Lists list items := Heap.start.lists_allocList (by decide)
    have measures : (lengthOf (.object list)).Comes engine whole 0 whole (.ok 5) :=
      lists.comes_lengthOf (by decide)
    obtain ⟨-, taken⟩ := elements_taken_over engine whole whole list 5 0 measures
    obtain ⟨all, -⟩ := taken (by decide) items numerals 5 whole lists.spreads.reads counted
    exact bytes ▸ (all rfl).2.1
  · have lists : spoilt.heap.Lists list (items ++ [.bigint 3]) := Heap.start.lists_allocList (by decide)
    have measures : (lengthOf (.object list)).Comes engine spoilt 0 spoilt (.ok 6) :=
      lists.comes_lengthOf (by decide)
    have front : spoilt.heap.Spreads list items := fun index item found =>
      lists.spreads index item (List.getElem?_append_left (List.getElem?_eq_some_iff.1 found).1 ▸ found)
    obtain ⟨writable, last⟩ := lists.spreads 5 (.bigint 3) rfl
    obtain ⟨-, taken⟩ := elements_taken_over engine spoilt spoilt list 6 0 measures
    obtain ⟨-, refused⟩ := taken (by decide) items numerals 5 spoilt front.reads counted
    exact refused (.bigint 3) 0 spoilt _ (by decide) (comes_getProperty last) rfl

/-- The least number that is too large is worth a multiple of 256, and still gives the byte 255. -/
theorem byte_cut_off :
    let n : Numeral := .float (Float.ofBits 0x43E0000000000000)
    let list := Heap.start.allocList [.number n]
    n.worth? = some (2 ^ 63) ∧ n.wrapped = 0 ∧
      ∀ (engine : Engine) (machine : Machine),
        (bytesOf list.2).Comes engine ⟨machine, list.1⟩ 1 ⟨machine, list.1⟩ (.ok [255]) := by
  intro n list
  have parts : Double.dyadic? (Float.ofBits 0x43E0000000000000) = some ⟨false, 2 ^ 52, 11⟩ := by
    decide +kernel
  have worth : n.worth? = some (2 ^ 63) := by
    rw [Numeral.worth?, Double.value?_eq, parts, Option.map_some, Double.Dyadic.value, Double.Dyadic.signed]
    norm_num
  have exceeds : n.Exceeds := ⟨2 ^ 63, worth, le_rfl⟩
  refine ⟨worth, Numeral.wrapped_of_exceeds trivial exceeds, fun engine machine => ?_⟩
  let before : Moment := ⟨machine, list.1⟩
  have lists : before.heap.Lists Heap.start.objects.size [.number n] := Heap.start.lists_allocList (by decide)
  have taken : (bytesOf list.2).Comes engine before 1 before (.ok ([n].map Numeral.toByte)) :=
    lists.comes_bytesOf (by decide) rfl
  rwa [List.map_singleton, Numeral.toByte_of_exceeds exceeds] at taken

end ScriptOracle.Script
