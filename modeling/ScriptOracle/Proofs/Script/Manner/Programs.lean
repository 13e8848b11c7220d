import ScriptOracle.Proofs.Script.Manner.Natives
import ScriptOracle.Script.Result

/-!
# The manner of programs

Whatever is written in a script, running it asks the gate and takes data only through the functions that
it calls. The host takes the data of a result; when it asks a thrown value for its name it takes none,
and goes on whatever it is answered.
-/

namespace ScriptOracle.Script

open ScriptOracle.Script.Task

variable {manner : Manner}

/-! ## Operators -/

namespace Operator

theorem keeps_toNumeric (value : Value) : (toNumeric value).Keeps manner := by
  refine keeps_bind (keeps_toPlain _ _) fun plain => ?_
  split
  · exact keeps_pure _
  · exact keeps_bind (keeps_plainNumeral _) fun _ => keeps_pure _

theorem keeps_bigPower (a b : Int) : (bigPower a b).Keeps manner := by
  unfold bigPower
  split
  · exact keeps_raise _ _
  · split
    · exact keeps_raise _ _
    · split <;> exact keeps_pure _

theorem keeps_onBigints (op : BinaryOp) (a b : Int) : (onBigints op a b).Keeps manner := by
  unfold onBigints
  split
  · exact keeps_pure _
  · exact keeps_pure _
  · exact keeps_pure _
  · split
    · exact keeps_raise _ _
    · exact keeps_pure _
  · split
    · exact keeps_raise _ _
    · exact keeps_pure _
  · exact keeps_bigPower a b

theorem keeps_calculate (op : BinaryOp) (left right : Value) :
    (calculate op left right).Keeps manner := by
  refine keeps_bind (keeps_toNumeric left) fun a => ?_
  refine keeps_bind (keeps_toNumeric right) fun b => ?_
  split
  · exact keeps_pure _
  · exact keeps_onBigints _ _ _
  · exact keeps_raise _ _

theorem keeps_add (left right : Value) : (add left right).Keeps manner := by
  refine keeps_bind (keeps_toPlain _ _) fun a => ?_
  refine keeps_bind (keeps_toPlain _ _) fun b => ?_
  split
  · exact keeps_bind (keeps_plainText _) fun _ => keeps_bind (keeps_plainText _) fun _ => keeps_pure _
  · exact keeps_calculate _ _ _

theorem keeps_order (left right : Value) : (order left right).Keeps manner := by
  refine keeps_bind (keeps_toPlain _ _) fun a => ?_
  refine keeps_bind (keeps_toPlain _ _) fun b => ?_
  split
  · exact keeps_pure _
  · exact keeps_pure _
  · exact keeps_pure _
  · exact keeps_bind (keeps_toNumeric _) fun _ => keeps_bind (keeps_toNumeric _) fun _ => keeps_pure _

theorem keeps_equal (left right : Value) : (equal left right).Keeps manner := by
  unfold equal
  split
  · exact keeps_pure _
  · exact keeps_pure _
  · exact keeps_pure _
  · exact keeps_pure _
  · exact keeps_pure _
  · exact keeps_bind (keeps_toPlain _ _) fun _ => keeps_pure _
  · exact keeps_bind (keeps_toPlain _ _) fun _ => keeps_pure _
  · exact keeps_pure _

theorem keeps_binary (op : BinaryOp) (left right : Value) : (binary op left right).Keeps manner := by
  cases op with
  | add => exact keeps_add left right
  | less | greater | atMost | atLeast => exact keeps_bind (keeps_order left right) fun _ => keeps_pure _
  | equal | unequal => exact keeps_bind (keeps_equal left right) fun _ => keeps_pure _
  | same | different => exact keeps_pure _
  | subtract | multiply | divide | remainder | power => exact keeps_calculate _ left right

theorem keeps_unary (op : UnaryOp) (value : Value) : (unary op value).Keeps manner := by
  cases op with
  | not | discard => exact keeps_pure _
  | plus => exact keeps_bind (keeps_toNumeral value) fun _ => keeps_pure _
  | typeOf => exact keeps_look _
  | negate =>
      refine keeps_bind (keeps_toNumeric value) fun n => ?_
      cases n <;> exact keeps_pure _

end Operator

/-! ## Writing -/

theorem keeps_writeItem (ref : Ref) (index : Nat) (value : Value) :
    (writeItem ref index value).Keeps manner := by
  refine keeps_bind (keeps_look _) fun size => ?_
  split
  · exact keeps_raise _ _
  · exact keeps_change _

theorem keeps_writeLength (ref : Ref) (value : Value) : (writeLength ref value).Keeps manner := by
  refine keeps_bind (keeps_toNumeral value) fun n => ?_
  dsimp only
  split
  · exact keeps_raise _ _
  · exact keeps_change _

theorem keeps_writeOwn (ref : Ref) (name : Units) (value : Value) :
    (writeOwn ref name value).Keeps manner := by
  refine keeps_bind (keeps_look _) fun kind => ?_
  split
  · exact keeps_writeItem _ _ _
  · split
    · exact keeps_writeLength _ _
    · exact keeps_change _
  · exact keeps_bind (keeps_toByte _) fun _ => keeps_change _
  · exact keeps_change _

theorem keeps_setProperty (target : Value) (name : Units) (value : Value) :
    (setProperty target name value).Keeps manner := by
  unfold setProperty
  split
  · refine keeps_bind (keeps_look _) fun found => ?_
    split
    · exact keeps_bind (Task.keeps_call _ _ _) fun _ => keeps_pure _
    · exact keeps_pure _
    · exact keeps_pure _
    · exact keeps_writeOwn _ _ _
  · exact keeps_raiseType _
  · exact keeps_raiseType _
  · exact keeps_pure _

/-! ## Names and functions -/

namespace Eval

theorem keeps_readName (env : Env) (name : String) : (readName env name).Keeps manner := by
  refine keeps_bind (keeps_look _) fun found => ?_
  split
  · exact keeps_pure _
  · exact keeps_raise _ _
  · refine keeps_bind (keeps_look _) fun property => ?_
    split
    · exact keeps_read _ _
    · exact keeps_raise _ _

theorem keeps_typeOfName (env : Env) (name : String) : (typeOfName env name).Keeps manner := by
  refine keeps_bind (keeps_look _) fun known => ?_
  split
  · exact keeps_bind (keeps_readName env name) fun value => Operator.keeps_unary _ value
  · exact keeps_pure _

theorem keeps_writeName (env : Env) (name : String) (value : Value) :
    (writeName env name value).Keeps manner := by
  refine keeps_bind (keeps_look _) fun found => ?_
  split
  · exact keeps_raise _ _
  · exact keeps_raiseType _
  · exact keeps_change _
  · exact keeps_setProperty _ _ _

theorem keeps_toKey (value : Value) : (toKey value).Keeps manner := keeps_toUnits value

theorem keeps_makeFunction (env : Env) (code : Code) (name : String) :
    (makeFunction env code name).Keeps manner :=
  keeps_update _

theorem keeps_functionValue (env : Env) (code : Code) (inferred : String) :
    (functionValue env code inferred).Keeps manner := by
  unfold functionValue
  split
  · exact keeps_makeFunction _ _ _
  · exact keeps_bind (keeps_update _) fun _ => keeps_bind (keeps_makeFunction _ _ _) fun _ =>
      keeps_bind (keeps_change _) fun _ => keeps_pure _

theorem keeps_hoist (env : Env) (codes : List Code) : (hoist env codes).Keeps manner := by
  induction codes with
  | nil => exact keeps_pure _
  | cons code rest ih =>
      exact keeps_bind (keeps_makeFunction _ _ _) fun _ => keeps_bind (keeps_change _) fun _ => ih

theorem keeps_openScope (env : Env) (names : List (String × Binding)) :
    (openScope env names).Keeps manner :=
  keeps_bind (keeps_update _) fun _ => keeps_pure _

theorem keeps_openBlock (env : Env) (body : List Stmt) : (openBlock env body).Keeps manner := by
  unfold openBlock
  dsimp only
  split
  · exact keeps_pure _
  · exact keeps_bind (keeps_openScope _ _) fun _ => keeps_bind (keeps_hoist _ _) fun _ => keeps_pure _

/-! ## Expressions -/

theorem keeps_named (env : Env) (name : String) (expr : Expr) {computed : Task Value}
    (keeps : computed.Keeps manner) : (named env name expr computed).Keeps manner := by
  unfold named
  split
  · exact keeps_functionValue env _ name
  · exact keeps

/-- The induction follows the four functions that compute expressions, case by case. -/
theorem keeps_expressions (env : Env) :
    (∀ expr, (eval env expr).Keeps manner) ∧
    (∀ ref fields, (evalFields env ref fields).Keeps manner) ∧
    (∀ exprs, (evalAll env exprs).Keeps manner) ∧
    ∀ pieces, (evalPieces env pieces).Keeps manner := by
  refine eval.mutual_induct _ _ _ _ ?literal ?template ?name ?this ?list ?object ?member ?method
    ?call ?create ?typeOf ?unary ?binary ?logical ?conditional ?sequence ?assignName ?updateName
    ?assignMember ?updateMember ?assignOther ?stepName ?stepMember ?stepOther ?await ?function
    ?noPieces ?morePieces ?noExprs ?moreExprs ?noFields ?field ?getter ?setter
  case literal =>
    intro value
    rw [eval]
    exact keeps_pure _
  case template =>
    intro first rest pieces
    rw [eval]
    exact keeps_bind pieces fun _ => keeps_pure _
  case name =>
    intro name
    rw [eval]
    exact keeps_readName env name
  case this =>
    rw [eval]
    exact keeps_pure _
  case list =>
    intro items values
    rw [eval]
    exact keeps_bind values fun _ => keeps_update _
  case object =>
    intro fields written
    rw [eval]
    exact keeps_bind (keeps_update _) fun ref => keeps_bind (written ref) fun _ => keeps_pure _
  case member =>
    intro object key target name
    rw [eval]
    exact keeps_bind target fun _ => keeps_bind name fun _ => keeps_bind (keeps_toKey _) fun _ =>
      keeps_getProperty _ _
  case method =>
    intro object key args target name values
    rw [eval]
    exact keeps_bind target fun _ => keeps_bind name fun _ => keeps_bind (keeps_toKey _) fun _ =>
      keeps_bind (keeps_getProperty _ _) fun _ => keeps_bind values fun _ => keeps_call _ _ _
  case call =>
    intro callee args other function values
    rw [eval]
    · exact keeps_bind function fun _ => keeps_bind values fun _ => keeps_call _ _ _
    · exact other
  case create =>
    intro callee args function values
    rw [eval]
    exact keeps_bind function fun _ => keeps_bind values fun _ => keeps_create _ _
  case typeOf =>
    intro name
    rw [eval]
    exact keeps_typeOfName env name
  case unary =>
    intro op value other operand
    rw [eval]
    · exact keeps_bind operand fun _ => Operator.keeps_unary _ _
    · exact other
  case binary =>
    intro op left right first second
    rw [eval]
    exact keeps_bind first fun _ => keeps_bind second fun _ => Operator.keeps_binary _ _ _
  case logical =>
    intro op left right first second
    rw [eval]
    have either (a : Value) (goesOn : Bool) :
        (if goesOn then eval env right else pure a).Keeps manner := by
      cases goesOn with
      | true => exact second
      | false => exact keeps_pure a
    exact keeps_bind first fun a => either a _
  case conditional =>
    intro test yes no found first second
    rw [eval]
    refine keeps_bind found fun value => ?_
    split
    · exact first
    · exact second
  case sequence =>
    intro first second before behind
    rw [eval]
    exact keeps_bind before fun _ => behind
  case assignName =>
    intro name value operand
    rw [eval]
    exact keeps_bind (keeps_named env name value operand) fun _ =>
      keeps_bind (keeps_writeName _ _ _) fun _ => keeps_pure _
  case updateName =>
    intro name op value operand
    rw [eval]
    exact keeps_bind (keeps_readName _ _) fun _ => keeps_bind operand fun _ =>
      keeps_bind (Operator.keeps_binary _ _ _) fun _ => keeps_bind (keeps_writeName _ _ _) fun _ =>
      keeps_pure _
  case assignMember =>
    intro object key value target name operand
    rw [eval]
    exact keeps_bind target fun _ => keeps_bind name fun _ => keeps_bind operand fun _ =>
      keeps_bind (keeps_toKey _) fun _ => keeps_bind (keeps_setProperty _ _ _) fun _ => keeps_pure _
  case updateMember =>
    intro object key op value target name operand
    rw [eval]
    exact keeps_bind target fun _ => keeps_bind name fun _ => keeps_bind (keeps_toKey _) fun _ =>
      keeps_bind (keeps_getProperty _ _) fun _ => keeps_bind operand fun _ =>
      keeps_bind (Operator.keeps_binary _ _ _) fun _ =>
      keeps_bind (keeps_setProperty _ _ _) fun _ => keeps_pure _
  case assignOther =>
    intro target op value noName noUpdate noMember noMemberUpdate
    rw [eval]
    · exact keeps_raise _ _
    · exact noName
    · exact noUpdate
    · exact noMember
    · exact noMemberUpdate
  case stepName =>
    intro name up before
    rw [eval]
    exact keeps_bind (keeps_readName _ _) fun _ => keeps_bind (Operator.keeps_toNumeric _) fun _ =>
      keeps_bind (keeps_writeName _ _ _) fun _ => keeps_pure _
  case stepMember =>
    intro object key up before target name
    rw [eval]
    exact keeps_bind target fun _ => keeps_bind name fun _ => keeps_bind (keeps_toKey _) fun _ =>
      keeps_bind (keeps_getProperty _ _) fun _ => keeps_bind (Operator.keeps_toNumeric _) fun _ =>
      keeps_bind (keeps_setProperty _ _ _) fun _ => keeps_pure _
  case stepOther =>
    intro target up before noName noMember
    rw [eval]
    · exact keeps_raise _ _
    · exact noName
    · exact noMember
  case await =>
    intro value operand
    rw [eval]
    exact keeps_bind operand fun _ => keeps_wait _
  case function =>
    intro code
    rw [eval]
    exact keeps_functionValue env code ""
  case noPieces =>
    rw [evalPieces]
    exact keeps_pure _
  case morePieces =>
    intro value units rest computed more
    rw [evalPieces]
    exact keeps_bind computed fun _ => keeps_bind (keeps_toUnits _) fun _ => keeps_bind more fun _ =>
      keeps_pure _
  case noExprs =>
    rw [evalAll]
    exact keeps_pure _
  case moreExprs =>
    intro first rest computed more
    rw [evalAll]
    exact keeps_bind computed fun _ => keeps_bind more fun _ => keeps_pure _
  case noFields =>
    intro ref
    rw [evalFields]
    exact keeps_pure _
  case field =>
    intro ref key value rest name operand more
    rw [evalFields]
    exact keeps_bind name fun _ => keeps_bind (keeps_toKey _) fun name =>
      keeps_bind (keeps_named env _ value operand) fun _ => keeps_bind (keeps_change _) fun _ => more
  case getter | setter =>
    intro ref key code rest name more
    rw [evalFields]
    exact keeps_bind name fun _ => keeps_bind (keeps_toKey _) fun _ =>
      keeps_bind (keeps_makeFunction _ _ _) fun _ => keeps_bind (keeps_change _) fun _ => more

theorem keeps_eval (env : Env) (expr : Expr) : (eval env expr).Keeps manner :=
  (keeps_expressions env).1 expr

theorem keeps_evalOption (env : Env) (expr : Option Expr) : (evalOption env expr).Keeps manner := by
  cases expr with
  | none =>
      rw [evalOption]
      exact keeps_pure _
  | some expr =>
      rw [evalOption]
      exact keeps_eval env expr

theorem keeps_evalTest (env : Env) (test : Option Expr) : (evalTest env test).Keeps manner := by
  cases test with
  | none =>
      rw [evalTest]
      exact keeps_pure _
  | some test =>
      rw [evalTest]
      exact keeps_bind (keeps_eval env test) fun _ => keeps_pure _

theorem keeps_execNames (env : Env) (names : List (String × Option Expr)) :
    (execNames env names).Keeps manner := by
  induction names with
  | nil =>
      rw [execNames]
      exact keeps_pure _
  | cons entry rest ih =>
      obtain ⟨name, value⟩ := entry
      cases value with
      | none =>
          rw [execNames]
          exact keeps_bind (keeps_change _) fun _ => ih
      | some value =>
          rw [execNames]
          exact keeps_bind (keeps_named env name value (keeps_eval env value)) fun _ =>
            keeps_bind (keeps_change _) fun _ => ih

/-! ## Statements -/

mutual

theorem keeps_exec (env : Env) : (statement : Stmt) -> (exec env statement).Keeps manner
  | .declare _ names => by
      rw [exec]
      exact keeps_bind (keeps_execNames env names) fun _ => keeps_pure _
  | .function _ => by
      rw [exec]
      exact keeps_pure _
  | .expression value => by
      rw [exec]
      exact keeps_bind (keeps_eval env value) fun _ => keeps_pure _
  | .give value => by
      rw [exec]
      exact keeps_bind (keeps_evalOption env value) fun _ => keeps_pure _
  | .raise value => by
      rw [exec]
      exact keeps_bind (keeps_eval env value) fun _ => keeps_raiseValue _
  | .branch test yes no => by
      rw [exec]
      refine keeps_bind (keeps_eval env test) fun found => ?_
      split
      · exact keeps_exec env yes
      · exact keeps_execOption env no
  | .forLoop start test update body => by
      have round (env : Env) (scope : Nat) :
          (do if ← evalTest env test then
                let flow ← exec env body
                pure (afterBody scope flow)
              else pure .leave : Task Flow).Keeps manner := by
        refine keeps_bind (keeps_evalTest env test) fun found => ?_
        split
        · exact keeps_bind (keeps_exec env body) fun _ => keeps_pure _
        · exact keeps_pure _
      unfold exec
      dsimp only
      refine keeps_choice (keeps_pure _) (keeps_openScope _ _) fun env => ?_
      refine keeps_bind (keeps_execOption env start) fun _ => ?_
      refine keeps_bind (keeps_loop _ fun first scope => ?_) fun _ => keeps_pure _
      split
      · exact keeps_bind (keeps_pure _) fun scope => round _ scope
      · exact keeps_bind keeps_count fun _ => keeps_choice (keeps_update _) (keeps_pure _) fun scope =>
          keeps_bind (keeps_evalOption _ update) fun _ => keeps_bind (keeps_pure _) fun scope =>
          round _ scope
  | .whileLoop test body => by
      rw [exec]
      refine keeps_bind (keeps_loop _ fun first scope => ?_) fun _ => keeps_pure _
      refine keeps_bind keeps_count fun _ => keeps_bind (keeps_eval env test) fun found => ?_
      split
      · exact keeps_bind (keeps_exec env body) fun _ => keeps_pure _
      · exact keeps_pure _
  | .attempt body caught final => by
      have last (result : Except Halt Flow) :
          (match result with
            | .error (.limit limit) => Task.halt (.limit limit)
            | result => execFinal env result final).Keeps manner := by
        split
        · exact keeps_halt _
        · exact keeps_execFinal env _ final
      unfold exec
      dsimp only
      refine keeps_bind (keeps_attempt ?_) fun result => ?_
      · exact keeps_bind (keeps_openBlock env body) fun env => keeps_execAll env none body
      · split
        · exact keeps_bind (keeps_execCaught env _ caught) fun result => last result
        · exact keeps_bind (keeps_pure _) fun result => last result
  | .block body => by
      rw [exec]
      exact keeps_bind (keeps_openBlock env body) fun env => keeps_execAll env none body
  | .leave => by
      rw [exec]
      exact keeps_pure _
  | .again => by
      rw [exec]
      exact keeps_pure _
  | .empty => by
      rw [exec]
      exact keeps_pure _

theorem keeps_execOption (env : Env) :
    (statement : Option Stmt) -> (execOption env statement).Keeps manner
  | none => by
      rw [execOption]
      exact keeps_pure _
  | some statement => by
      rw [execOption]
      exact keeps_exec env statement

theorem keeps_execCaught (env : Env) (value : Value) :
    (caught : Option (Option String × List Stmt)) -> (execCaught env value caught).Keeps manner
  | none => by
      rw [execCaught]
      exact keeps_pure _
  | some (none, body) => by
      rw [execCaught]
      exact keeps_attempt (keeps_bind (keeps_openBlock env body) fun env => keeps_execAll env none body)
  | some (some name, body) => by
      rw [execCaught]
      exact keeps_attempt (keeps_bind (keeps_openScope _ _) fun env =>
        keeps_bind (keeps_openBlock env body) fun env => keeps_execAll env none body)

theorem keeps_execFinal (env : Env) (result : Except Halt Flow) :
    (final : Option (List Stmt)) -> (execFinal env result final).Keeps manner
  | none => by
      rw [execFinal]
      exact keeps_ofResult _
  | some body => by
      rw [execFinal]
      refine keeps_bind (keeps_openBlock env body) fun inner => ?_
      refine keeps_bind (keeps_execAll inner none body) fun flow => ?_
      split
      · exact keeps_ofResult _
      · exact keeps_pure _

theorem keeps_execAll (env : Env) (last : Option Value) :
    (statements : List Stmt) -> (execAll env last statements).Keeps manner
  | [] => by
      rw [execAll]
      exact keeps_pure _
  | first :: rest => by
      rw [execAll]
      refine keeps_bind (keeps_exec env first) fun flow => ?_
      split
      · exact keeps_execAll env last rest
      · exact keeps_execAll env _ rest
      · exact keeps_pure _

end

theorem keeps_body (code : Code) (scope : Nat) (this : Value) (args : List Value) :
    (body code scope this args).Keeps manner :=
  keeps_bind (keeps_openScope _ _) fun env => keeps_bind (keeps_hoist env _) fun _ =>
    keeps_execAll env none code.body

theorem keeps_program (statements : Program) : (program statements).Keeps manner :=
  keeps_bind (keeps_openBlock _ statements) fun env => keeps_execAll env none statements

end Eval

/-! ## What the host asks -/

theorem Result.keeps_collect (value : Value) (taken : manner.takes value) :
    (Result.collect value).Keeps manner := by
  unfold Result.collect
  split
  · refine keeps_bind (keeps_look _) fun found => ?_
    split
    · exact keeps_bind (keeps_bytesOf _) fun bytes => Modules.keeps_newBytes bytes
    · exact keeps_bind (keeps_toData taken) fun _ => keeps_pure _
  · exact keeps_bind (keeps_toData taken) fun _ => keeps_pure _
  · exact keeps_pure _

theorem sure_textProperty? (object : Value) (name : String) :
    (textProperty? object name).Sure manner := by
  refine sure_bind (sure_attempt (keeps_getProperty _ _)) fun found => ?_
  split
  · exact sure_pure _
  · exact sure_pure _
  · refine sure_bind (sure_attempt (keeps_toText _)) fun text => ?_
    cases text <;> exact sure_pure _

/-- Whatever a thrown value answers, or throws instead, the host goes on. -/
theorem Complaint.sure_collect (value : Value) : (Complaint.collect value).Sure manner := by
  cases value with
  | object ref =>
      exact sure_bind (sure_textProperty? _ _) fun _ => sure_bind (sure_textProperty? _ _) fun _ =>
        sure_bind (sure_textProperty? _ _) fun _ => sure_update _
  | _ => exact sure_pure _

end ScriptOracle.Script
