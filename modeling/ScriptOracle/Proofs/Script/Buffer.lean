import ScriptOracle.Proofs.Script.ArrayLike
import ScriptOracle.Proofs.Text.Base64
import ScriptOracle.Proofs.Text.Hexadecimal

/-!
# Bytes as text and back

What `buffer` writes of bytes it reads as the same bytes again: in hexadecimal digits, also behind a mark, in
base 64, and in UTF-8 where the bytes are such. A whole text comes back from its bytes. Parts are put together
in their order, and a text that holds no bytes in its encoding is an error of its type.
-/

namespace ScriptOracle.Script

namespace Modules

/-! ## Encodings -/

namespace Encoding

variable {encoding : Encoding}

def names : Encoding -> List String
  | .utf8 => ["utf8", "utf-8"]
  | .hex => ["hex"]
  | .base64 => ["base64"]

/-- An argument means an encoding: it names it in whatever case, or is missing. -/
inductive MeantBy : Encoding -> Value -> Prop
  | named {encoding : Encoding} {units : Units}
      (member : Text.asciiLowerCase (Units.toText units) ∈ encoding.names) : MeantBy encoding (.text units)
  | missing : MeantBy .utf8 .undefined

theorem named?_of_mem {name : String} (member : Text.asciiLowerCase name ∈ encoding.names) :
    named? name = some encoding := by
  rw [named?]
  generalize Text.asciiLowerCase name = small at member ⊢
  cases encoding with
  | utf8 =>
      rcases List.mem_cons.1 member with rfl | last
      · rfl
      · rw [List.mem_singleton.1 last]
        rfl
  | hex | base64 =>
      rw [List.mem_singleton.1 member]
      rfl

def IsCode (encoding : Encoding) : Prop := encoding = .hex ∨ encoding = .base64

/-- No digit is the second character of a mark. -/
theorem withoutMarks_digits (bytes : Bytes) :
    withoutMarks (Hexadecimal.digits bytes) = Hexadecimal.digits bytes := by
  cases bytes with
  | nil => rfl
  | cons byte bytes =>
      obtain ⟨high, low, rest, chars, -, second, -⟩ :=
        Hexadecimal.writes_cons (Hexadecimal.writes_digits (byte :: bytes))
      rw [chars, withoutMarks]
      exact fun rest same => second.notMark.1 (List.cons.inj (List.cons.inj same).2).1

theorem read_hex {text : String} {bytes : Bytes}
    (digits : withoutMarks text.toList = Hexadecimal.digits bytes) : Encoding.hex.read text = .ok bytes := by
  rw [read, digits, Hexadecimal.decodeText_of_writes (Hexadecimal.writes_digits bytes)]

/-- What is written in a code is read back. -/
theorem read_write (code : encoding.IsCode) (bytes : Bytes) :
    encoding.read (encoding.write bytes) = .ok bytes := by
  obtain rfl | rfl := code
  · refine read_hex ?_
    rw [write, Hexadecimal.encode, String.toList_ofList, withoutMarks_digits]
  · rw [write, read, Base64.decodeText_encode]

theorem read_hex_marked (bytes : Bytes) : Encoding.hex.read ("0x" ++ Encoding.hex.write bytes) = .ok bytes := by
  refine read_hex ?_
  have marked : ("0x" ++ Encoding.hex.write bytes).toList = '0' :: 'x' :: Hexadecimal.digits bytes := by
    rw [String.toList_append, write, Hexadecimal.encode]
    exact congrArg (['0', 'x'] ++ ·) String.toList_ofList
  rw [marked, withoutMarks, withoutMarks_digits]

end Encoding

/-! ## The functions of the module -/

variable {engine : Engine} {before later : Moment} {ref : Ref} {value : Value} {bytes : Bytes}
  {encoding : Encoding}

/-- An argument that stands for bytes: a text for its UTF-8 form, an array for what it holds. -/
inductive StandsFor (heap : Heap) : Value -> Bytes -> Prop
  | text (units : Units) : StandsFor heap (.text units) (encodedText units)
  | array {ref : Ref} {bytes : Bytes} (carries : heap.Carries ref bytes)
      (fits : bytes.length ≤ maxBytes) : StandsFor heap (.object ref) bytes

theorem comes_inputBytes (stands : StandsFor before.heap value bytes)
    (shallow : before.machine.depth < engine.depth) :
    ∃ count, (inputBytes value).Comes engine before count before (.ok bytes) := by
  cases stands with
  | text units => exact ⟨0, Task.comes_pure before _⟩
  | array carries fits => exact ⟨_, carries.comes_bytesOf fits shallow⟩

theorem comes_encodingOf (meant : encoding.MeantBy value) :
    (encodingOf value).Comes engine before 0 before (.ok encoding) := by
  cases meant with
  | missing => exact Task.comes_pure before _
  | @named _ units member =>
      have named : (toText (.text units)).Comes engine before 0 before (.ok (Units.toText units)) :=
        fun after fuel => rfl
      refine named.bind_zero ?_
      simp only [Encoding.named?_of_mem member]
      exact Task.comes_pure before _

section

variable (this : Value) (rest : List Value)

theorem comes_bufferText (carries : before.heap.Carries ref bytes) (fits : bytes.length ≤ maxBytes)
    (shallow : before.machine.depth < engine.depth) (meant : encoding.MeantBy (argument rest 0)) :
    (Native.bufferText.call this (.object ref :: rest)).Comes engine before (1 + bytes.length) before
      (.ok (.ofText (encoding.write bytes))) := by
  have input : (inputBytes (.object ref)).Comes engine before (1 + bytes.length) before (.ok bytes) :=
    carries.comes_bytesOf fits shallow
  exact input.then_zero ((comes_encodingOf meant).bind_zero (Task.comes_pure before _))

theorem comes_bufferFrom {units : Units} (meant : encoding.MeantBy (argument rest 0))
    (read : encoding.read (Units.toText units) = .ok bytes) :
    (Native.bufferFrom.call this (.text units :: rest)).Comes engine before 0 (before.withBytes bytes)
      (.ok before.newBytes) := by
  refine (comes_encodingOf meant).bind_zero ?_
  rw [read]
  exact comes_newBytes before bytes

theorem throws_bufferFrom {units : Units} {message : String} (meant : encoding.MeantBy (argument rest 0))
    (refused : encoding.read (Units.toText units) = .error message) :
    (Native.bufferFrom.call this (.text units :: rest)).Throws engine before 0 before .type message := by
  refine (comes_encodingOf meant).bind_zero ?_
  rw [refused]
  exact Task.throws_raise before .type message

theorem comes_bufferConcat {values : List Value} {parts : List Bytes}
    (stand : List.Forall₂ (StandsFor before.heap) values parts)
    (shallow : before.machine.depth < engine.depth) :
    ∃ count, (Native.bufferConcat.call this values).Comes engine before count
      (before.withBytes parts.flatten) (.ok before.newBytes) := by
  obtain ⟨count, each⟩ := Task.comes_each (stand.imp fun value bytes stands =>
    comes_inputBytes stands shallow)
  exact ⟨count, each.then_zero (comes_newBytes before _)⟩

end

end Modules

/-! ## The heap of a script -/

def Property.getter? : Property -> Option Value
  | .accessor getter _ => getter
  | .data _ _ => none

def Function.native? : Function -> Option Native
  | .native named => some named
  | .closure _ _ _ => none

namespace Heap

variable {heap : Heap}

/-- The function that is found for the length, step by step. -/
theorem gauges_of_native? {found : Option Property}
    (native : ((found.bind Property.getter?).bind heap.function?).bind Function.native? =
      some .bytesLength) : heap.Gauges found := by
  obtain ⟨function, called, native⟩ := Option.bind_eq_some_iff.1 native
  obtain ⟨getter, given, called⟩ := Option.bind_eq_some_iff.1 called
  obtain ⟨property, rfl, given⟩ := Option.bind_eq_some_iff.1 given
  cases property with
  | data value writable => cases given
  | accessor given setter =>
      cases given
      cases function with
      | closure code scope this => cases native
      | native named =>
          cases native
          exact ⟨getter, setter, rfl, called⟩

theorem measures_start : Heap.start.Measures where
  inside := by decide +kernel
  length := gauges_of_native? (by decide +kernel)

theorem Measures.addGlobal (measures : heap.Measures) (name : String) (value : Value) (writable : Bool) :
    (heap.addGlobal name value writable).Measures :=
  measures.kept (leaves_put (by decide) heap _ _) (grows_put heap _ _ _)

/-- What a run gives its script leaves byte arrays as they are. -/
theorem Measures.install (measures : heap.Measures) (inside : Root.global.ref < heap.objects.size)
    (bindings : Bindings) : (Capability.install heap bindings).Measures := by
  obtain ⟨args, secrets, logging⟩ := bindings
  simp only [Capability.install, ofJson_ofStrings, ofJson_ofStringFields]
  let withArgs := (heap.alloc (.ofArgs args)).1.addGlobal "args" (.object heap.objects.size) false
  let withBoth := (withArgs.alloc (.ofSecrets (secrets.getD []))).1.addGlobal "secrets"
    (.object withArgs.objects.size) false
  change (withBoth.withFunctions logging).Measures
  have both : withBoth.Measures := ((measures.alloc _).addGlobal _ _ _).alloc _ |>.addGlobal _ _ _
  have grown : heap.objects.size ≤ withBoth.objects.size := by
    simp only [withBoth, withArgs, Heap.addGlobal, size_put, size_alloc]
    omega
  have spares : Spares Root.global.ref (Units.ofText "args") withBoth (withBoth.withFunctions logging) :=
    spares_withFunctions (Nat.lt_of_lt_of_le inside grown) (by decide) logging
  exact both.kept (leaves_withFunctions both.inside (by decide) logging) spares.toGrows

theorem measures_install (bindings : Bindings) : (Capability.install Heap.start bindings).Measures :=
  measures_start.install isPlain_start.inside bindings

end Heap

/-! ## There and back -/

theorem write_utf8 {bytes : Bytes} {text : String} (read : Text.ofUtf8? bytes = some text) :
    Modules.Encoding.utf8.write bytes = text := by
  rw [← Text.utf8_of_ofUtf8? read]
  exact Text.ofUtf8Lossy_utf8 text

open Modules (Encoding StandsFor)

/-- Bytes come back from the text that is written of them, in a code behind a mark too, whatever the case of its
name; whole texts come back from their bytes, and bytes in UTF-8 from their text. Texts and byte arrays are
put together in their order, and a text in a code gives its bytes or throws an error of its type. This is so in
all heaps in which byte arrays find their length, as they do from the start of a run. -/
theorem buffers_round_trip (engine : Engine) (before : Moment) (finds : before.heap.Measures)
    (shallow : before.machine.depth < engine.depth) :
    (∀ bindings, (Capability.install Heap.start bindings).Measures) ∧
    (∀ bytes, (before.withBytes bytes).heap.Measures ∧
      (before.withBytes bytes).heap.Carries before.heap.objects.size bytes) ∧
    (∀ (encoding : Encoding) (ref : Ref) (bytes : Bytes), encoding.IsCode →
      before.heap.Carries ref bytes → bytes.length ≤ maxBytes →
      (∀ this rest, encoding.MeantBy (argument rest 0) →
        (Native.bufferText.call this (.object ref :: rest)).Comes engine before (1 + bytes.length) before
          (.ok (.ofText (encoding.write bytes)))) ∧
      ∀ (later : Moment) (text : String),
        text = encoding.write bytes ∨ encoding = .hex ∧ text = "0x" ++ encoding.write bytes →
        ∀ this rest, encoding.MeantBy (argument rest 0) →
          (Native.bufferFrom.call this (.ofText text :: rest)).Comes engine later 0 (later.withBytes bytes)
            (.ok later.newBytes)) ∧
    (∀ units : Units, units.Whole → (encodedText units).length ≤ maxBytes →
      ∀ this rest, Encoding.utf8.MeantBy (argument rest 0) →
        let last := before.withBytes (encodedText units)
        (Native.bufferFrom.call this (.text units :: rest)).Comes engine before 0 last (.ok before.newBytes) ∧
        (Native.bufferText.call this (before.newBytes :: rest)).Comes engine last
          (1 + (encodedText units).length) last (.ok (.text units))) ∧
    (∀ (ref : Ref) (bytes : Bytes) (text : String), before.heap.Carries ref bytes →
      bytes.length ≤ maxBytes → Text.ofUtf8? bytes = some text →
      ∀ this rest, Encoding.utf8.MeantBy (argument rest 0) →
        (Native.bufferText.call this (.object ref :: rest)).Comes engine before (1 + bytes.length) before
          (.ok (.ofText text)) ∧
        ∀ later : Moment, (Native.bufferFrom.call this (.ofText text :: rest)).Comes engine later 0
          (later.withBytes bytes) (.ok later.newBytes)) ∧
    (∀ values parts, List.Forall₂ (StandsFor before.heap) values parts → ∀ this,
      ∃ count, (Native.bufferConcat.call this values).Comes engine before count
        (before.withBytes parts.flatten) (.ok before.newBytes)) ∧
    ∀ (encoding : Encoding) (units : Units), encoding.IsCode →
      ∀ this rest, encoding.MeantBy (argument rest 0) →
        (∃ bytes, encoding.read (Units.toText units) = .ok bytes ∧
          (Native.bufferFrom.call this (.text units :: rest)).Comes engine before 0
            (before.withBytes bytes) (.ok before.newBytes)) ∨
        ∃ message, encoding.read (Units.toText units) = .error message ∧
          (Native.bufferFrom.call this (.text units :: rest)).Throws engine before 0 before .type
            message := by
  refine ⟨Heap.measures_install, fun bytes => ⟨finds.alloc _, finds.carries_allocBytes bytes⟩, ?codes,
    ?texts, ?utf8, ?parts, ?refused⟩
  case codes =>
    intro encoding ref bytes code carries fits
    refine ⟨fun this rest => Modules.comes_bufferText this rest carries fits shallow, ?_⟩
    intro later text written this rest meant
    refine Modules.comes_bufferFrom this rest meant ?_
    rw [Units.toText_ofText]
    obtain rfl | ⟨rfl, rfl⟩ := written
    · exact Encoding.read_write code bytes
    · exact Encoding.read_hex_marked bytes
  case texts =>
    intro units whole fits this rest meant last
    refine ⟨Modules.comes_bufferFrom this rest meant rfl, ?_⟩
    have carries : last.heap.Carries before.heap.objects.size (encodedText units) :=
      finds.carries_allocBytes _
    have text : Encoding.utf8.write (encodedText units) = Units.toText units :=
      write_utf8 (Text.ofUtf8?_utf8 _)
    have written := Modules.comes_bufferText this rest carries fits shallow meant
    rw [text, Value.ofText, Units.ofText_toText_iff.2 whole] at written
    exact written
  case utf8 =>
    intro ref bytes text carries fits read this rest meant
    have written := Modules.comes_bufferText this rest carries fits shallow meant
    rw [write_utf8 read] at written
    refine ⟨written, fun later => Modules.comes_bufferFrom this rest meant ?_⟩
    rw [Units.toText_ofText, ← Text.utf8_of_ofUtf8? read, Encoding.read]
  case parts => exact fun values parts stand this => Modules.comes_bufferConcat this stand shallow
  case refused =>
    intro encoding units code this rest meant
    cases read : encoding.read (Units.toText units) with
    | ok bytes => exact .inl ⟨bytes, rfl, Modules.comes_bufferFrom this rest meant read⟩
    | error message => exact .inr ⟨message, rfl, Modules.throws_bufferFrom this rest meant read⟩

/-- Two bytes that no text has, in digits of either case and in base 64. -/
theorem buffers_round_trip_odd :
    let bytes : Bytes := [0xFB, 0xFF]
    let engine := Engine.usual (.fixed (.error (.http "down")) [])
    let before : Moment := ⟨Machine.start (.fresh 0 .usual), (Heap.start.allocBytes bytes).1⟩
    let array : Value := .object Heap.start.objects.size
    let last : Moment := before.withBytes bytes
    (Native.bufferText.call .undefined [array, .ofText "HEX"]).Comes engine before 3 before
        (.ok (.ofText "fbff")) ∧
      (Native.bufferFrom.call .undefined [.ofText "0xfbff", .ofText "hEx"]).Comes engine before 0 last
        (.ok before.newBytes) ∧
      (Native.bufferText.call .undefined [array, .ofText "Base64"]).Comes engine before 3 before
        (.ok (.ofText "+/8=")) ∧
      (Native.bufferFrom.call .undefined [.ofText "+/8=", .ofText "base64"]).Comes engine before 0 last
        (.ok before.newBytes) := by
  intro bytes engine before array last
  have finds : before.heap.Measures := Heap.measures_start.alloc _
  have carries : before.heap.Carries Heap.start.objects.size bytes :=
    Heap.measures_start.carries_allocBytes bytes
  obtain ⟨-, -, codes, -⟩ := buffers_round_trip engine before finds (by decide)
  obtain ⟨hexText, fromHex⟩ := codes .hex _ bytes (.inl rfl) carries (by decide)
  obtain ⟨baseText, fromBase⟩ := codes .base64 _ bytes (.inr rfl) carries (by decide)
  have capitals : Encoding.hex.MeantBy (.ofText "HEX") := .named (by decide)
  have mixed : Encoding.hex.MeantBy (.ofText "hEx") := .named (by decide)
  have capital : Encoding.base64.MeantBy (.ofText "Base64") := .named (by decide)
  have small : Encoding.base64.MeantBy (.ofText "base64") := .named (by decide)
  exact ⟨hexText _ _ capitals, fromHex before _ (.inr ⟨rfl, by decide⟩) _ _ mixed, baseText _ _ capital,
    fromBase before _ (.inl (by decide)) _ _ small⟩

end ScriptOracle.Script
