import ScriptOracle.Proofs.Script.Manner
import ScriptOracle.Script.Native

/-!
# The manner of native functions

One native function asks the gate, and four take the data of values that they are called with. All
others keep to any manner.
-/

namespace ScriptOracle.Script

open ScriptOracle.Script.Task

variable {manner : Manner}

/-! ## Conversions -/

theorem keeps_read (property : Property) (this : Value) : (property.read this).Keeps manner := by
  cases property with
  | data value _ => exact keeps_pure value
  | accessor getter _ =>
      cases getter with
      | some getter => exact keeps_call getter this []
      | none => exact keeps_pure _

theorem keeps_getFrom (ref : Ref) (this : Value) (name : Units) :
    (getFrom ref this name).Keeps manner := by
  refine keeps_bind (keeps_look _) fun found => ?_
  cases found with
  | some property => exact keeps_read property this
  | none => exact keeps_pure _

theorem keeps_getProperty (value : Value) (name : Units) : (getProperty value name).Keeps manner := by
  unfold getProperty
  split
  · exact keeps_getFrom _ _ _
  · split
    · exact keeps_pure _
    · exact keeps_getFrom _ _ _
    · exact keeps_raise _ _

theorem keeps_askMethods (object : Value) (names : List String) :
    (askMethods object names).Keeps manner := by
  induction names with
  | nil => exact keeps_raise _ _
  | cons name rest ih =>
      refine keeps_bind (keeps_getProperty _ _) fun method => ?_
      refine keeps_bind (keeps_look _) fun callable => ?_
      split
      · refine keeps_bind (keeps_call _ _ _) fun value => ?_
        split
        · exact ih
        · exact keeps_pure _
      · exact ih

theorem keeps_toPlain (hint : Hint) (value : Value) : (toPlain hint value).Keeps manner := by
  unfold toPlain
  split
  · exact keeps_askMethods _ _
  · exact keeps_pure _

theorem keeps_plainText (value : Value) : (plainText value).Keeps manner := by
  cases value with
  | symbol => exact keeps_raise _ _
  | _ => exact keeps_pure _

theorem keeps_toUnits (value : Value) : (toUnits value).Keeps manner :=
  keeps_bind (keeps_toPlain _ _) fun plain => keeps_plainText plain

theorem keeps_toText (value : Value) : (toText value).Keeps manner :=
  keeps_bind (keeps_toUnits value) fun _ => keeps_pure _

theorem keeps_plainNumeral (value : Value) : (plainNumeral value).Keeps manner := by
  cases value with
  | bigint | symbol => exact keeps_raise _ _
  | _ => exact keeps_pure _

theorem keeps_toNumeral (value : Value) : (toNumeral value).Keeps manner :=
  keeps_bind (keeps_toPlain _ _) fun plain => keeps_plainNumeral plain

theorem keeps_toByte (value : Value) : (toByte value).Keeps manner :=
  keeps_bind (keeps_toNumeral value) fun _ => keeps_pure _

theorem keeps_lengthOf (object : Value) : (lengthOf object).Keeps manner :=
  keeps_bind (keeps_getProperty _ _) fun value =>
    keeps_bind (keeps_toNumeral value) fun _ => keeps_pure _

theorem keeps_bytesFrom (object : Value) (count index : Nat) (soFar : Bytes) :
    (bytesFrom object count index soFar).Keeps manner := by
  induction count generalizing index soFar with
  | zero => exact keeps_pure _
  | succ count ih =>
      refine keeps_bind keeps_pause fun _ => ?_
      refine keeps_bind (keeps_getProperty _ _) fun value => ?_
      exact keeps_bind (keeps_toByte value) fun byte => ih (index + 1) (byte :: soFar)

theorem keeps_bytesOf (object : Value) : (bytesOf object).Keeps manner := by
  refine keeps_bind (keeps_lengthOf object) fun length => ?_
  split
  · exact keeps_raise _ _
  · exact keeps_bytesFrom _ _ _ _

/-- The data of a value, or what stands in its way. -/
theorem toData_eq (heap : Heap) (value : Value) (after : Heap -> Except Halt Json -> Act) :
    toData value heap after =
      match heap.data value with
      | .ok data => after heap (.ok data)
      | .error .bigint => (Task.raise .type "cannot convert bigint to JSON" : Task Json) heap after
      | .error .symbol => (Task.raise .type "cannot convert Symbol to JSON" : Task Json) heap after
      | .error .breakdown => .crash heap value := by
  change (match heap.data value with
    | .ok data => (pure data : Task Json)
    | .error .bigint => Task.raise .type "cannot convert bigint to JSON"
    | .error .symbol => Task.raise .type "cannot convert Symbol to JSON"
    | .error .breakdown => Task.crash value) heap after = _
  cases heap.data value with
  | ok data => rfl
  | error obstacle => cases obstacle <;> rfl

theorem keeps_toData {value : Value} (taken : manner.takes value) : (toData value).Keeps manner := by
  intro ends heap after behind
  rw [toData_eq]
  cases read : heap.data value with
  | ok data => exact behind heap _
  | error obstacle =>
      cases obstacle with
      | bigint | symbol => exact keeps_raise _ _ ends heap after behind
      | breakdown => exact .crash taken read

theorem keeps_asText (value : Value) : (render.asText value).Keeps manner := by
  refine keeps_bind (keeps_attempt (keeps_toText value)) fun found => ?_
  cases found <;> exact keeps_pure _

/-- Whether a value is an object. Most conversions look only into objects. -/
def Value.isObject : Value -> Bool
  | .object _ => true
  | _ => false

theorem keeps_render {value : Value} (taken : value.isObject -> manner.takes value) :
    (render value).Keeps manner := by
  unfold render
  split
  · exact keeps_pure _
  · refine keeps_bind (keeps_look _) fun callable => ?_
    split
    · exact keeps_asText _
    · refine keeps_bind (keeps_attempt (keeps_toData (taken rfl))) fun data => ?_
      cases data with
      | ok data => exact keeps_pure _
      | error halt => exact keeps_asText _
  · exact keeps_asText _

/-! ## Modules -/

theorem keeps_raiseType {α : Type} (message : String) : (raiseType message : Task α).Keeps manner :=
  keeps_raise _ _

namespace Modules

theorem keeps_require (args : List Value) : (require args).Keeps manner := by
  refine keeps_bind (keeps_toText _) fun name => ?_
  split
  · exact keeps_update _
  · exact keeps_raise _ _

theorem keeps_inputBytes (value : Value) : (inputBytes value).Keeps manner := by
  unfold inputBytes
  split
  · exact keeps_pure _
  · exact keeps_bytesOf _
  · exact keeps_raiseType _

theorem keeps_encodingOf (value : Value) : (encodingOf value).Keeps manner := by
  unfold encodingOf
  split
  · exact keeps_pure _
  · refine keeps_bind (keeps_toText _) fun name => ?_
    split
    · exact keeps_pure _
    · exact keeps_raiseType _

theorem keeps_newBytes (bytes : Bytes) : (newBytes bytes).Keeps manner := keeps_update _

theorem keeps_bufferFrom (args : List Value) : (bufferFrom args).Keeps manner := by
  unfold bufferFrom
  split
  · refine keeps_bind (keeps_encodingOf _) fun encoding => ?_
    split
    · exact keeps_newBytes _
    · exact keeps_raiseType _
  · exact keeps_bind (keeps_inputBytes _) fun bytes => keeps_newBytes bytes

theorem keeps_bufferText (args : List Value) : (bufferText args).Keeps manner :=
  keeps_bind (keeps_inputBytes _) fun _ =>
    keeps_bind (keeps_encodingOf _) fun _ => keeps_pure _

theorem keeps_bufferConcat (args : List Value) : (bufferConcat args).Keeps manner :=
  keeps_bind (keeps_each fun item _ => keeps_inputBytes item) fun _ => keeps_newBytes _

theorem keeps_digest (hash : Digest) (args : List Value) : (digest hash args).Keeps manner :=
  keeps_bind (keeps_inputBytes _) fun _ => keeps_pure _

theorem keeps_formText {args : List Value} (taken : manner.takes (argument args 0)) :
    (formText args).Keeps manner :=
  keeps_bind (keeps_toData taken) fun _ => keeps_pure _

theorem keeps_decodeText (args : List Value) : (decodeText args).Keeps manner :=
  keeps_bind (keeps_inputBytes _) fun _ => keeps_pure _

theorem keeps_parseUrl (args : List Value) : (parseUrl args).Keeps manner := by
  refine keeps_bind (keeps_toText _) fun text => ?_
  split
  · exact keeps_update _
  · exact keeps_raiseType _

theorem keeps_inspect {args : List Value}
    (taken : (argument args 0).isObject -> manner.takes (argument args 0)) :
    (inspect args).Keeps manner :=
  keeps_bind (keeps_render taken) fun _ => keeps_pure _

end Modules

/-! ## What the host gives -/

namespace Capability

theorem keeps_outcomeValue (outcome : Gate.Outcome) : (outcomeValue outcome).Keeps manner :=
  keeps_update _

theorem keeps_encode (encoder : Word256.Encoder) (args : List Value) :
    (encode encoder args).Keeps manner := by
  have operand : (operand (argument args 0)).Keeps manner := by
    unfold operand
    split
    · exact keeps_pure _
    · exact keeps_pure _
    · exact keeps_pure _
    · exact keeps_look _
  refine keeps_bind operand fun found => ?_
  split
  · exact Modules.keeps_newBytes _
  · exact keeps_raise _ _

theorem keeps_console {shown : Bool} {args : List Value}
    (taken : shown -> ∀ value ∈ args, value.isObject -> manner.takes value) :
    (console shown args).Keeps manner := by
  unfold console
  split
  next on =>
    exact keeps_bind (keeps_each fun item member => keeps_render (taken on item member))
      fun words => keeps_bind (keeps_print _) fun _ => keeps_pure _
  next => exact keeps_pure _

theorem keeps_requestData {value : Value} (taken : value.isObject -> manner.takes value) :
    (requestData value).Keeps manner := by
  unfold requestData
  split
  · refine keeps_bind (keeps_look _) fun callable => ?_
    split
    · exact keeps_pure _
    · refine keeps_bind (keeps_attempt (keeps_toData (taken rfl))) fun data => ?_
      cases data <;> exact keeps_pure _
  · exact keeps_pure _

theorem keeps_send (allowed : manner.asks) (data : Option Json) : (send data).Keeps manner := by
  cases data with
  | none => exact keeps_refuse allowed _ _ _
  | some data =>
      unfold send
      dsimp only
      split
      · exact keeps_request allowed _
      · exact keeps_refuse allowed _ _ _

theorem keeps_makeRequest (allowed : manner.asks) {args : List Value}
    (taken : (argument args 0).isObject -> manner.takes (argument args 0)) :
    (makeRequest args).Keeps manner :=
  keeps_bind (keeps_requestData taken) fun data => keeps_bind (keeps_send allowed data) fun outcome =>
    keeps_outcomeValue outcome

end Capability

/-! ## Native functions -/

namespace Builtin

theorem keeps_functionText (this : Value) : (functionText this).Keeps manner :=
  keeps_bind (keeps_getProperty _ _) fun _ => keeps_bind (keeps_toText _) fun _ => keeps_pure _

theorem keeps_elementText (value : Value) : (elementText value).Keeps manner := by
  unfold elementText
  split
  · exact keeps_pure _
  · exact keeps_pure _
  · exact keeps_toUnits _

theorem keeps_elementTexts (list : Value) (count index : Nat) (soFar : List Units) :
    (elementTexts list count index soFar).Keeps manner := by
  induction count generalizing index soFar with
  | zero => exact keeps_pure _
  | succ count ih =>
      refine keeps_bind keeps_pause fun _ => ?_
      refine keeps_bind (keeps_getProperty _ _) fun value => ?_
      exact keeps_bind (keeps_elementText value) fun text => ih (index + 1) (text :: soFar)

theorem keeps_listJoin (this : Value) (args : List Value) : (listJoin this args).Keeps manner := by
  have joined (length : Nat) (mark : Units) :
      (do let texts ← elementTexts this length 0 []
          pure (.text (mark.intercalate texts)) : Task Value).Keeps manner :=
    keeps_bind (keeps_elementTexts _ _ _ _) fun texts => keeps_pure _
  refine keeps_bind (keeps_lengthOf this) fun length => ?_
  dsimp only
  split
  · exact keeps_bind (keeps_pure _) fun mark => joined length mark
  · exact keeps_bind (keeps_toUnits _) fun mark => joined length mark

theorem keeps_listText (this : Value) : (listText this).Keeps manner := by
  refine keeps_bind (keeps_getProperty _ _) fun join => ?_
  refine keeps_bind (keeps_look _) fun callable => ?_
  split
  · exact keeps_call _ _ _
  · exact keeps_look _

theorem keeps_listPush (this : Value) (args : List Value) : (listPush this args).Keeps manner := by
  unfold listPush
  split
  · refine keeps_bind (keeps_look _) fun kind => ?_
    split
    · exact keeps_bind (keeps_change _) fun _ => keeps_pure _
    · exact keeps_raiseType _
  · exact keeps_raiseType _

theorem keeps_ownText (this : Value) : (ownText this).Keeps manner := by
  unfold ownText
  split
  · exact keeps_raiseType _
  · exact keeps_bind (keeps_plainText _) fun _ => keeps_pure _

theorem keeps_bytesLength (this : Value) : (bytesLength this).Keeps manner := by
  unfold bytesLength
  split
  · refine keeps_bind (keeps_look _) fun kind => ?_
    split
    · exact keeps_pure _
    · exact keeps_raiseType _
  · exact keeps_raiseType _

theorem keeps_newError (kind : ErrorKind) (args : List Value) : (newError kind args).Keeps manner := by
  unfold newError
  dsimp only
  split
  · exact keeps_update _
  · exact keeps_bind (keeps_toUnits _) fun _ => keeps_update _

theorem keeps_errorPart (this : Value) (name usual : String) :
    (errorPart this name usual).Keeps manner := by
  refine keeps_bind (keeps_getProperty _ _) fun found => ?_
  split
  · exact keeps_pure _
  · exact keeps_toText _

theorem keeps_errorText (this : Value) : (errorText this).Keeps manner := by
  unfold errorText
  split
  · exact keeps_bind (keeps_errorPart _ _ _) fun _ =>
      keeps_bind (keeps_errorPart _ _ _) fun _ => keeps_pure _
  · exact keeps_raiseType _

theorem keeps_bigint (args : List Value) : (bigint args).Keeps manner := by
  refine keeps_bind (keeps_toPlain _ _) fun plain => ?_
  cases plain with
  | undefined | null | symbol | object => exact keeps_raiseType _
  | bool | bigint => exact keeps_pure _
  | number n =>
      dsimp only
      split
      · exact keeps_pure _
      · exact keeps_raise _ _
  | text units =>
      dsimp only
      split
      · exact keeps_pure _
      · exact keeps_raise _ _

theorem keeps_newBytesFrom (args : List Value) : (newBytesFrom args).Keeps manner := by
  unfold newBytesFrom
  split
  · refine keeps_bind (keeps_lengthOf _) fun length => ?_
    split
    · exact keeps_raise _ _
    · exact keeps_bind (keeps_bytesFrom _ _ _ _) fun bytes => Modules.keeps_newBytes bytes
  · exact Modules.keeps_newBytes _
  · refine keeps_bind (keeps_toNumeral _) fun n => ?_
    split
    · split
      · exact keeps_raise _ _
      · split
        · exact keeps_raise _ _
        · exact keeps_update _
    · split
      · exact Modules.keeps_newBytes _
      · exact keeps_raise _ _

theorem keeps_newPromise (args : List Value) : (newPromise args).Keeps manner := by
  unfold newPromise
  refine keeps_bind (keeps_look _) fun callable => ?_
  split
  · exact keeps_raiseType _
  · refine keeps_bind (keeps_update _) fun promise => ?_
    refine keeps_bind (keeps_update _) fun accept => ?_
    refine keeps_bind (keeps_update _) fun refuse => ?_
    refine keeps_bind (keeps_attempt (keeps_call _ _ _)) fun result => ?_
    split
    · exact keeps_pure _
    · exact keeps_bind (keeps_change _) fun _ => keeps_pure _
    · exact keeps_halt _

theorem keeps_settle (promise : Ref) (accepts : Bool) (args : List Value) :
    (settle promise accepts args).Keeps manner :=
  keeps_bind (keeps_change _) fun _ => keeps_pure _

theorem keeps_rounding (way : Rounding) (args : List Value) : (rounding way args).Keeps manner :=
  keeps_bind (keeps_toNumeral _) fun _ => keeps_pure _

end Builtin

namespace Native

/-- The values whose data a native function takes, of those that it is called with. Only one of these
functions takes the data of something that is no object. -/
def taken : Native -> List Value -> List Value
  | .formText, args => [argument args 0]
  | .makeRequest, args => [argument args 0].filter Value.isObject
  | .inspect, args => [argument args 0].filter Value.isObject
  | .console true, args => args.filter Value.isObject
  | _, _ => []

theorem keeps_call {native : Native} (asks : native = .makeRequest -> manner.asks) (this : Value)
    {args : List Value} (takes : ∀ value ∈ native.taken args, manner.takes value) :
    (native.call this args).Keeps manner := by
  have object {value : Value} {values : List Value} (member : value ∈ values)
      (takes : ∀ value ∈ values.filter Value.isObject, manner.takes value) :
      value.isObject -> manner.takes value :=
    fun found => takes value (List.mem_filter.mpr ⟨member, found⟩)
  cases native with
  | makeRequest => exact Capability.keeps_makeRequest (asks rfl) (object (.head _) takes)
  | encode encoder => exact Capability.keeps_encode encoder args
  | require => exact Modules.keeps_require args
  | console shown =>
      refine Capability.keeps_console fun on value member => object member ?_
      rwa [on] at takes
  | bufferFrom => exact Modules.keeps_bufferFrom args
  | bufferText => exact Modules.keeps_bufferText args
  | bufferConcat => exact Modules.keeps_bufferConcat args
  | digest hash => exact Modules.keeps_digest hash args
  | formText => exact Modules.keeps_formText (takes _ (.head _))
  | decodeText => exact Modules.keeps_decodeText args
  | parseUrl => exact Modules.keeps_parseUrl args
  | inspect => exact Modules.keeps_inspect (object (.head _) takes)
  | error kind => exact Builtin.keeps_newError kind args
  | errorText => exact Builtin.keeps_errorText this
  | bigint => exact Builtin.keeps_bigint args
  | bytes | promise => exact keeps_raiseType _
  | bytesLength => exact Builtin.keeps_bytesLength this
  | settle target accepts => exact Builtin.keeps_settle target accepts args
  | objectText => exact keeps_look _
  | functionText => exact Builtin.keeps_functionText this
  | listText => exact Builtin.keeps_listText this
  | listJoin => exact Builtin.keeps_listJoin this args
  | listPush => exact Builtin.keeps_listPush this args
  | plainText => exact Builtin.keeps_ownText this
  | plainValue | nothing => exact keeps_pure _
  | rounding way => exact Builtin.keeps_rounding way args

theorem keeps_create (native : Native) (args : List Value) : (native.create args).Keeps manner := by
  cases native with
  | error kind => exact Builtin.keeps_newError kind args
  | bytes => exact Builtin.keeps_newBytesFrom args
  | promise => exact Builtin.keeps_newPromise args
  | _ => exact keeps_raiseType _

end Native

end ScriptOracle.Script
