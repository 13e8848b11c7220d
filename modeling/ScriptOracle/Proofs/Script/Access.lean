import Mathlib.Algebra.Group.Nat.Defs
import ScriptOracle.Proofs.Script.Given

/-!
# How a script gets at what it is given

A script names an argument by its index and a secret by its name, and encodes it in one call.
-/

namespace ScriptOracle.Script

variable {heap : Heap} {ref : Ref} {name : Units} {value : Value} {writable : Bool} {env : Env}
  {key : Literal} {args : List String} {secrets : Fields String}

/-! ## Properties -/

theorem Heap.Stores.property?_eq {object : Object} {property : Property}
    (stores : heap.Stores ref object) (own : object.own? name = some property) :
    heap.property? ref name = some property := Heap.property?_of_own? (stores.found ▸ own)

theorem own?_ofArgs {i : Nat} {text : String} (small : i < Units.indexBound)
    (found : args[i]? = some text) :
    (Object.ofArgs args).own? (Units.ofNat i) = some (.data (.ofText text) true) := by
  rw [Object.own?, Object.ofArgs, Object.ofKind]
  simp [Units.index?_ofNat small, found]

theorem own?_ofArgs_length (args : List String) :
    (Object.ofArgs args).own? Object.lengthName = some (.data (.int args.length) true) := by
  have noIndex : Units.index? Object.lengthName = none := by decide
  rw [Object.own?, Object.ofArgs, Object.ofKind]
  simp [noIndex]

theorem own?_ofSecrets (secrets : Fields String) (name : String) :
    (Object.ofSecrets secrets).own? (Units.ofText name) =
      (secrets.get? name).map fun text => .data (.ofText text) true := by
  rw [Object.own?, Object.ofSecrets]
  induction secrets with
  | nil => rfl
  | cons secret rest ih =>
      obtain ⟨other, text⟩ := secret
      rw [Fields.get?_cons, List.map_cons, Object.find?]
      by_cases same : other = name
      · rw [if_pos same, if_pos (congrArg Units.ofText same)]
        rfl
      · rw [if_neg same, if_neg (same <| Units.ofText_inj.1 ·)]
        exact ih

/-- Secrets are found under their own names only. -/
theorem isSome_own?_ofSecrets (secrets : Fields String) (name : Units) :
    ((Object.ofSecrets secrets).own? name).isSome ↔
      ∃ text ∈ Fields.names secrets, name = Units.ofText text := by
  rw [Object.own?, Object.ofSecrets]
  induction secrets with
  | nil => simp [Object.find?, Fields.names]
  | cons secret rest ih =>
      rw [List.map_cons, Object.find?]
      by_cases same : Units.ofText secret.1 = name
      · simp [Fields.names, same]
      · simp only [Fields.names, if_neg same, List.map_cons, List.mem_cons, exists_eq_or_imp,
          Ne.symm same, false_or]
        exact ih

/-! ## Expressions -/

/-- The name of a property that is written out in a program. -/
inductive Literal.Names : Literal -> Units -> Prop
  | text (name : Units) : Names (.text name) name
  | int {n : Nat} (small : n < 2 ^ 31) : Names (.int n) (Units.ofNat n)

theorem toKey_ofLiteral (names : key.Names name) (after : Heap -> Except Halt Units -> Act) :
    Eval.toKey (.ofLiteral key) heap after = after heap (.ok name) := by
  cases names with
  | text => rfl
  | @int n small =>
      have fits : Numeral.fits (n : Int) = true := by
        simp only [Numeral.fits, Bool.and_eq_true, decide_eq_true_eq]
        omega
      have whole : Numeral.ofInt n = .int n := if_pos fits
      change after heap (.ok (Numeral.ofInt n).text) = _
      rw [whole, Numeral.text, Units.ofInt, if_neg (by omega), Int.natAbs_natCast]

theorem eval_name {name : String} (free : heap.Free name env.scope)
    (owns : heap.Owns Root.global.ref (Units.ofText name) (.data value writable))
    (after : Heap -> Except Halt Value -> Act) :
    Eval.eval env (.name name) heap after = after heap (.ok value) := by
  rw [Eval.eval, Eval.readName]
  simp only [bind, Task.bind, Task.look, free.find?_eq, owns.property?_eq]
  rfl

theorem eval_member {object : Expr}
    (known : ∀ after, Eval.eval env object heap after = after heap (.ok (.object ref)))
    (names : key.Names name) (found : heap.property? ref name = some (.data value writable))
    (after : Heap -> Except Halt Value -> Act) :
    Eval.eval env (.member object (.literal key)) heap after = after heap (.ok value) := by
  rw [Eval.eval, Eval.eval]
  simp only [bind, Task.bind, known]
  exact (toKey_ofLiteral names _).trans (getProperty_object found after)

/-- The expression `Functions.encodeString(object[key])`. -/
def Expr.encoded (object : String) (key : Literal) : Expr :=
  .call (.member (.name "Functions") (.literal (.text (Units.ofText "encodeString"))))
    [.member (.name object) (.literal key)]

/-- The program `(async function () { return value; })()`. -/
def Program.returning (value : Expr) : Program :=
  [.expression (.call (.function (.mk none [] [.give (some value)] true false)) [])]

/-- The text that a script finds under a name, in what it is given. -/
inductive Given (args : List String) (secrets : Fields String) : String -> Units -> String -> Prop
  | arg {i : Nat} {text : String} (found : args[i]? = some text) :
      Given args secrets "args" (Units.ofNat i) text
  | secret {name text : String} (found : secrets.get? name = some text) :
      Given args secrets "secrets" (Units.ofText name) text

namespace Heap

variable {scope : Nat} {object text : String}

/-- What is given is found under its name. -/
theorem Shows.eval_given (shows : heap.Shows env.scope args secrets) (fits : args.length < 2 ^ 32)
    (given : Given args secrets object name text) (names : key.Names name)
    (after : Heap -> Except Halt Value -> Act) :
    Eval.eval env (.member (.name object) (.literal key)) heap after =
      after heap (.ok (.ofText text)) := by
  cases given with
  | @arg i _ found =>
      obtain ⟨ref, owns, stores⟩ := shows.args
      have inside : i < args.length := (List.getElem?_eq_some_iff.1 found).1
      have small : i < Units.indexBound := Nat.lt_of_lt_of_le inside (Nat.le_of_lt_succ fits)
      exact eval_member (eval_name (shows.free _ (by decide)) owns) names
        (stores.property?_eq (own?_ofArgs small found)) after
  | secret found =>
      obtain ⟨ref, owns, stores⟩ := shows.secrets
      have own := (own?_ofSecrets secrets _).trans (congrArg _ found)
      exact eval_member (eval_name (shows.free _ (by decide)) owns) names (stores.property?_eq own) after

/-- To encode what is given is to call the function that encodes texts with it. -/
theorem Shows.eval_encoded (shows : heap.Shows env.scope args secrets) (fits : args.length < 2 ^ 32)
    (given : Given args secrets object name text) (names : key.Names name) :
    ∃ callee this, heap.function? callee = some (.native (.encode .text)) ∧
      ∀ after, Eval.eval env (.encoded object key) heap after =
        .call heap callee this [.ofText text] after := by
  obtain ⟨functions, owns, serves⟩ := shows.functions
  obtain ⟨callee, served, found⟩ := serves.owns
  refine ⟨callee, .object functions, found, fun after => ?_⟩
  have named (after) : Eval.eval env (.name "Functions") heap after =
      after heap (.ok (.object functions)) := eval_name (shows.free _ (by decide)) owns after
  have argument := shows.eval_given fits given names
  have method := getProperty_object served.property?_eq
  rw [Expr.encoded, Eval.eval]
  simp only [bind, Task.bind, named, Eval.evalAll]
  rw [Eval.eval]
  exact (method _).trans (argument _)

/-- The call gives a new byte array that holds the UTF-8 form. -/
theorem Shows.step_encoded (shows : heap.Shows env.scope args secrets) (fits : args.length < 2 ^ 32)
    (given : Given args secrets object name text) (names : key.Names name) {engine : Engine}
    {machine : Machine} (shallow : machine.depth < engine.depth)
    (after : Heap -> Except Halt Value -> Act) :
    machine.step engine (Eval.eval env (.encoded object key) heap after) =
      .next machine (after (heap.allocBytes (Text.utf8 text)).1
        (.ok (heap.allocBytes (Text.utf8 text)).2)) := by
  obtain ⟨callee, this, found, called⟩ := shows.eval_encoded fits given names
  rw [called, Machine.step, Machine.call, found]
  simp only [if_neg (Nat.not_le.2 shallow)]
  rw [← encodedText_ofText]
  rfl

end Heap

/-! ## Runs -/

/-- The function that a program calls at once. -/
def Code.returning (value : Expr) : Code := .mk none [] [.give (some value)] true false

theorem toAct_returning (heap : Heap) (value : Expr) :
    ∃ after : Heap -> Except Halt Value -> Act,
      (∀ heap result, after heap (.ok result) = .finish heap (.ok (.next (some result)))) ∧
      (Eval.program (.returning value)).toAct heap =
        .call (heap.allocFunction (.closure (.returning value) 0 none) 0 "").1
          (heap.allocFunction (.closure (.returning value) 0 none) 0 "").2 .undefined [] after := by
  refine ⟨?after, ?finishes, ?calls⟩
  case calls =>
    change Eval.execAll ⟨0, .object Root.global.ref⟩ none (Program.returning value) heap .finish = _
    rw [Program.returning]
    simp only [Eval.execAll, Eval.exec, Eval.eval, Eval.evalAll, bind, Task.bind]
    rfl
  case finishes => exact fun heap result => rfl

/-- The promise of a function that a program calls at once, in a heap that holds both. -/
def Heap.promised (heap : Heap) (value : Expr) : Heap × Ref :=
  (heap.allocFunction (.closure (.returning value) 0 none) 0 "").1.allocPromise (.pending [])

def Heap.inBody (heap : Heap) (value : Expr) : Heap × Nat :=
  (heap.promised value).1.allocScope ⟨[], some 0⟩

/-- The body of the function evaluates the expression. -/
theorem toAct_body_returning (heap : Heap) (value : Expr) (this : Value) :
    ∃ after : Heap -> Except Halt Value -> Act,
      (∀ heap result, after heap (.ok result) = .finish heap (.ok (.give result))) ∧
      (Eval.body (.returning value) 0 this []).toAct (heap.promised value).1 =
        Eval.eval ⟨(heap.inBody value).2, this⟩ value (heap.inBody value).1 after := by
  refine ⟨?after, ?finishes, ?evaluates⟩
  case evaluates =>
    change Eval.execAll ⟨(heap.inBody value).2, this⟩ none [.give (some value)] (heap.inBody value).1
      .finish = _
    simp only [Eval.execAll, Eval.exec, Eval.evalOption, bind, Task.bind]
    rfl
  case finishes => exact fun heap result => rfl

theorem steps_of_next {engine : Engine} {machine later : Machine} {act next : Act} (fuel : Nat)
    (taken : machine.step engine act = .next later next) :
    machine.steps engine (fuel + 1) act = later.steps engine fuel next := by
  rw [Machine.steps, taken]

theorem Heap.HoldsBytes.promiseState?_eq {bytes : Bytes} (holds : heap.HoldsBytes value bytes) :
    heap.promiseState? value = none := by
  obtain ⟨ref, rfl, kind⟩ := holds
  rw [Heap.promiseState?, kind]

/-- A promise that nothing waits for is just fulfilled. -/
theorem resolve_eq_modify {promise : Ref}
    (pending : (heap.get promise).kind = .promise (.pending [])) (plain : heap.promiseState? value = none) :
    heap.resolve promise (.ok value) =
      heap.modify promise fun object => { object with kind := .promise (.fulfilled value) } := by
  rw [Heap.resolve, plain]
  simp [Heap.conclude, pending, Heap.modify]

/-- A byte array fulfils a promise, and holds what it held. -/
theorem Heap.HoldsBytes.fulfils {bytes : Bytes} {promise : Ref} (holds : heap.HoldsBytes value bytes)
    (waiting : heap.Stores promise (.ofKind (.promise (.pending [])) Root.promise.ref)) :
    ((heap.resolve promise (.ok value)).get promise).kind = .promise (.fulfilled value) ∧
      (heap.resolve promise (.ok value)).HoldsBytes value bytes := by
  have pending : (heap.get promise).kind = .promise (.pending []) := congrArg Object.kind waiting.found
  rw [resolve_eq_modify pending holds.promiseState?_eq]
  refine ⟨congrArg Object.kind (Heap.get_modify_self waiting.inside _), ?_⟩
  obtain ⟨ref, same, kind⟩ := holds
  have apart : promise ≠ ref := by
    rintro rfl
    cases pending.symm.trans kind
  exact ⟨ref, same, (congrArg Object.kind (Heap.get_modify_of_ne apart _)).trans kind⟩

theorem Heap.Shows.inBody (shows : heap.Shows 0 args secrets) (value : Expr) :
    (heap.inBody value).1.Shows (heap.inBody value).2 args secrets :=
  ((shows.alloc _).alloc _).opened fun _ _ => rfl

theorem Heap.stores_promised_inBody (heap : Heap) (value : Expr) :
    (heap.inBody value).1.Stores (heap.promised value).2
      (.ofKind (.promise (.pending [])) Root.promise.ref) :=
  (Heap.stores_alloc _ _).left (Heap.leaves_allocScope _ _)

/-- If one step evaluates the expression, the run ends with the promise of what it gives. -/
theorem run_returning {expr : Expr} {grown : Heap} {engine : Engine} (deep : 2 < engine.depth)
    (patient : 4 ≤ engine.budget)
    (evaluated : ∀ machine : Machine, machine.depth < engine.depth → ∀ after,
      machine.step engine (Eval.eval ⟨(heap.inBody expr).2, Machine.thisOf .undefined⟩ expr
        (heap.inBody expr).1 after) = .next machine (after grown (.ok value)))
    (machine : Machine) :
    ∃ left, machine.run engine 1 ((Eval.program (.returning expr)).toAct heap) =
      (left, .finished (grown.resolve (heap.promised expr).2 (.ok value))
        (.ok (.next (some (.object (heap.promised expr).2))))) := by
  obtain ⟨fuel, budget⟩ := Nat.exists_eq_add_of_le' patient
  let code := Code.returning expr
  let made := heap.allocFunction (.closure code 0 none) 0 ""
  let promise := (heap.promised expr).2
  have callable : made.1.function? made.2 = some (.closure code 0 none) :=
    Heap.function?_of_kind (congrArg Object.kind (Heap.get_alloc heap _))
  obtain ⟨finish, finishes, calls⟩ := toAct_returning heap expr
  obtain ⟨give, gives, evaluates⟩ := toAct_body_returning heap expr (Machine.thisOf .undefined)
  let first : Machine := { machine with frames := [], depth := 1, rounds := 0 }
  let entered := first.enter (.waiting promise (some finish) 0)
  have entering : first.step engine (.call made.1 made.2 .undefined [] finish) =
      .next entered (Eval.eval ⟨(heap.inBody expr).2, Machine.thisOf .undefined⟩ expr
        (heap.inBody expr).1 give) := by
    rw [← evaluates, Machine.step, Machine.call, callable]
    exact if_neg (Nat.not_le.2 (Nat.lt_of_succ_lt deep))
  have leaving : entered.step engine (give grown (.ok value)) =
      .next (entered.leave [] 0) (.finish (grown.resolve promise (.ok value))
        (.ok (.next (some (.object promise))))) := by
    rw [gives, ← finishes]
    rfl
  refine ⟨entered.leave [] 0, ?_⟩
  rw [Machine.run, budget, calls, steps_of_next _ entering, steps_of_next _ (evaluated entered deep give),
    steps_of_next _ leaving]
  rfl

/-- A run of the function ends with a promise of a byte array that holds the UTF-8 form. -/
theorem run_returning_encoded (shows : heap.Shows 0 args secrets) (fits : args.length < 2 ^ 32)
    {object text : String} (given : Given args secrets object name text) (names : key.Names name)
    {engine : Engine} (deep : 2 < engine.depth) (patient : 4 ≤ engine.budget) (machine : Machine) :
    ∃ left last promise value,
      machine.run engine 1 ((Eval.program (.returning (.encoded object key))).toAct heap) =
        (left, .finished last (.ok (.next (some (.object promise))))) ∧
      (last.get promise).kind = .promise (.fulfilled value) ∧ last.HoldsBytes value (Text.utf8 text) := by
  let expr : Expr := .encoded object key
  let inner : Heap := (heap.inBody expr).1
  let bytes : Heap × Value := inner.allocBytes (Text.utf8 text)
  have encoded : ∀ machine : Machine, machine.depth < engine.depth → ∀ after,
      machine.step engine (Eval.eval ⟨(heap.inBody expr).2, Machine.thisOf .undefined⟩ expr inner after) =
        .next machine (after bytes.1 (.ok bytes.2)) :=
    fun machine shallow => (shows.inBody expr).step_encoded fits given names shallow
  obtain ⟨left, ends⟩ := run_returning deep patient encoded machine
  have waiting : bytes.1.Stores (heap.promised expr).2 (.ofKind (.promise (.pending [])) Root.promise.ref) :=
    (heap.stores_promised_inBody expr).left (Heap.leaves_alloc inner _)
  obtain ⟨fulfilled, held⟩ := (inner.holdsBytes_allocBytes (Text.utf8 text)).fulfils waiting
  exact ⟨left, _, _, _, ends, fulfilled, held⟩

/-- Every run starts with what its caller gave, and as long as that is not written over, a script finds all
arguments and exactly the secrets that were given. Each encodes to its UTF-8 form, whether this is done
along the way or is all that the script does. -/
theorem texts_handed_over (args : List String) (secrets : Option (Fields String)) (logging : Bool)
    (fits : args.length < 2 ^ 32) :
    let known := secrets.getD []
    let start := Capability.install Heap.start ⟨args, secrets, logging⟩
    start.Shows 0 args known ∧
    (∀ (heap : Heap) (env : Env), heap.Shows env.scope args known →
      (∀ after, Eval.eval env (.member (.name "args") (.literal (.text Object.lengthName))) heap after =
        after heap (.ok (.int args.length))) ∧
      (∃ ref, (∀ after, Eval.eval env (.name "secrets") heap after = after heap (.ok (.object ref))) ∧
        (heap.get ref).kind = .plain ∧
        ∀ name, ((heap.get ref).own? name).isSome ↔
          ∃ text ∈ Fields.names known, name = Units.ofText text) ∧
      ∀ (object text : String) (name : Units) (key : Literal),
        Given args known object name text → key.Names name →
        ∃ (grown : Heap) (value : Value),
          grown.HoldsBytes value (Text.utf8 text) ∧ grown.Shows env.scope args known ∧
          ∀ (engine : Engine) (machine : Machine), machine.depth < engine.depth → ∀ after,
            machine.step engine (Eval.eval env (.encoded object key) heap after) =
              .next machine (after grown (.ok value))) ∧
    ∀ (object text : String) (name : Units) (key : Literal),
      Given args known object name text → key.Names name →
      ∀ (engine : Engine) (machine : Machine), 2 < engine.depth → 4 ≤ engine.budget →
        ∃ (left : Machine) (last : Heap) (promise : Ref) (value : Value),
          machine.run engine 1 ((Eval.program (.returning (.encoded object key))).toAct start) =
            (left, .finished last (.ok (.next (some (.object promise))))) ∧
          (last.get promise).kind = .promise (.fulfilled value) ∧
          last.HoldsBytes value (Text.utf8 text) := by
  intro known start
  have shows : start.Shows 0 args known := Heap.shows_install Heap.isPlain_start rfl args secrets logging
  refine ⟨shows, fun heap env shows => ⟨?length, ?secrets, ?encoded⟩, ?runs⟩
  case length =>
    obtain ⟨ref, owns, stores⟩ := shows.args
    exact eval_member (eval_name (shows.free _ (by decide)) owns) (.text _)
      (stores.property?_eq (own?_ofArgs_length args))
  case secrets =>
    obtain ⟨ref, owns, stores⟩ := shows.secrets
    refine ⟨ref, eval_name (shows.free _ (by decide)) owns, congrArg Object.kind stores.found, ?_⟩
    rw [stores.found]
    exact isSome_own?_ofSecrets known
  case encoded =>
    intro object text name key given names
    exact ⟨_, _, heap.holdsBytes_allocBytes _, shows.alloc _, fun engine machine shallow =>
      shows.step_encoded fits given names shallow⟩
  case runs =>
    intro object text name key given names engine machine deep patient
    exact run_returning_encoded shows fits given names deep patient machine

/-- A secret under a name that is also an index, one under no letters at all, and an argument that takes two
units for a character. -/
theorem texts_handed_over_odd :
    let args := ["\x00😀", "\\uD800"]
    let secrets := [("7", "\x0a"), ("", "\\x41")]
    let start := Capability.install Heap.start ⟨args, some secrets, false⟩
    let engine := Engine.usual (.fixed (.error (.http "down")) [])
    let machine := Machine.start (.fresh 0 .usual)
    ∀ entry ∈ [("args", Literal.int 0, "\x00😀"), ("args", .text (Units.ofText "1"), "\\uD800"),
        ("secrets", .int 7, "\x0a"), ("secrets", .text [], "\\x41")],
      ∃ (left : Machine) (last : Heap) (promise : Ref) (value : Value),
        machine.run engine 1 ((Eval.program (.returning (.encoded entry.1 entry.2.1))).toAct start) =
          (left, .finished last (.ok (.next (some (.object promise))))) ∧
        (last.get promise).kind = .promise (.fulfilled value) ∧
        last.HoldsBytes value (Text.utf8 entry.2.2) := by
  intro args secrets start engine machine
  obtain ⟨-, -, runs⟩ := texts_handed_over args (some secrets) false (by decide)
  have deep : 2 < engine.depth := by decide
  have patient : 4 ≤ engine.budget := by decide
  have first : Given args secrets "args" (Units.ofNat 0) "\x00😀" := .arg rfl
  have second : Given args secrets "args" (Units.ofNat 1) "\\uD800" := .arg rfl
  have third : Given args secrets "secrets" (Units.ofText "7") "\x0a" := .secret (by decide)
  have fourth : Given args secrets "secrets" (Units.ofText "") "\\x41" := .secret (by decide)
  have zero : Literal.Names (.int 0) (Units.ofNat 0) := .int (by decide)
  have one : Literal.Names (.text (Units.ofText "1")) (Units.ofNat 1) := .text _
  have seven : Literal.Names (.int 7) (Units.ofText "7") := .int (by decide)
  have empty : Literal.Names (.text []) (Units.ofText "") := .text _
  simp only [List.forall_mem_cons]
  exact ⟨runs _ _ _ _ first zero engine machine deep patient,
    runs _ _ _ _ second one engine machine deep patient,
    runs _ _ _ _ third seven engine machine deep patient,
    runs _ _ _ _ fourth empty engine machine deep patient, fun _ none => nomatch none⟩

end ScriptOracle.Script
