import ScriptOracle.Text.Utf8

/-!
# Base 64

The standard alphabet with padding. Only the canonical form is read: the length is a multiple of
four, padding stands at the end alone, and the bits after the last byte are zero.
-/

namespace ScriptOracle.Base64

/-- The symbol of a number below sixty-four. -/
def symbol (value : Nat) : Char :=
  if value < 26 then Char.ofNat (0x41 + value)
  else if value < 52 then Char.ofNat (0x61 + (value - 26))
  else if value < 62 then Char.ofNat (0x30 + (value - 52))
  else if value = 62 then '+'
  else '/'

/-- The number of a symbol, given as the byte that stands for it. -/
def value? (byte : UInt8) : Option Nat :=
  if 0x41 ≤ byte ∧ byte ≤ 0x5A then some (byte.toNat - 0x41)
  else if 0x61 ≤ byte ∧ byte ≤ 0x7A then some (byte.toNat - 0x61 + 26)
  else if 0x30 ≤ byte ∧ byte ≤ 0x39 then some (byte.toNat - 0x30 + 52)
  else if byte = 0x2B then some 62
  else if byte = 0x2F then some 63
  else none

def pad : UInt8 := 0x3D

def symbols : Bytes -> List Char
  | [] => []
  | [a] => [symbol (a.toNat / 4), symbol (a.toNat % 4 * 16), '=', '=']
  | [a, b] =>
    [symbol (a.toNat / 4), symbol (a.toNat % 4 * 16 + b.toNat / 16), symbol (b.toNat % 16 * 4), '=']
  | a :: b :: c :: rest =>
    symbol (a.toNat / 4) :: symbol (a.toNat % 4 * 16 + b.toNat / 16)
      :: symbol (b.toNat % 16 * 4 + c.toNat / 64) :: symbol (c.toNat % 64) :: symbols rest

def encode (bytes : Bytes) : String := String.ofList (symbols bytes)

inductive Fault where
  | badSymbol (byte : UInt8) (offset : Nat)
  | badLength (length : Nat)
  | badLastSymbol (byte : UInt8) (offset : Nat)
  | badPadding
deriving DecidableEq, Repr

def Fault.message : Fault -> String
  | .badSymbol byte offset => s!"Invalid symbol {byte.toNat}, offset {offset}."
  | .badLength length => s!"Invalid input length: {length}"
  | .badLastSymbol byte offset => s!"Invalid last symbol {byte.toNat}, offset {offset}."
  | .badPadding => "Invalid padding"

/-- The numbers of symbols that are not padding; `offset` counts the symbols before them. -/
def values (offset : Nat) : Bytes -> Except Fault (List Nat)
  | [] => .ok []
  | byte :: rest =>
    match value? byte with
    | none => .error (.badSymbol byte offset)
    | some value => do
      let more ← values (offset + 1) rest
      pure (value :: more)

/-- The bytes of groups of four numbers; what is left over at the end is dropped. -/
def join : List Nat -> Bytes
  | a :: b :: c :: d :: rest =>
    UInt8.ofNat (a * 4 + b / 16) :: UInt8.ofNat (b % 16 * 16 + c / 4)
      :: UInt8.ofNat (c % 4 * 64 + d) :: join rest
  | [a, b, c] => [UInt8.ofNat (a * 4 + b / 16), UInt8.ofNat (b % 16 * 16 + c / 4)]
  | [a, b] => [UInt8.ofNat (a * 4 + b / 16)]
  | _ => []

/-- The bits after the last whole byte of a group of two or three numbers. -/
def spareBits : List Nat -> Nat
  | [_, b] => b % 16
  | [_, _, c] => c % 4
  | _ => 0

/-- Splits the last group at its padding: the symbols before it and the number of pads. A pad among
the first two, or a symbol after a pad, is at fault. -/
def splitPadding (offset : Nat) (group : Bytes) : Except Fault (Bytes × Nat) :=
  let front := group.takeWhile (· != pad)
  let back := group.drop front.length
  match values offset front with
  | .error fault => .error fault
  | .ok _ =>
    if back.isEmpty then .ok (front, 0)
    else if front.length < 2 then .error (.badSymbol pad (offset + front.length))
    else if back.all (· == pad) then .ok (front, back.length)
    else .error (.badSymbol pad (offset + front.length))

/-- The bytes of the last group, which alone may be padded. -/
def decodeLast (offset : Nat) (group : Bytes) : Except Fault Bytes := do
  let (front, pads) ← splitPadding offset group
  let numbers ← values offset front
  if numbers.length < 2 then
    if offset + group.length = 0 then pure [] else throw (.badLength (offset + numbers.length))
  else if (pads + numbers.length) % 4 ≠ 0 then throw .badPadding
  else if spareBits numbers ≠ 0 then
    throw (.badLastSymbol (front.getLast?.getD 0) (offset + numbers.length - 1))
  else pure (join numbers)

/-- The bytes that a text stands for. A last symbol that stands alone and is none of the alphabet is
reported before all else. -/
def decode (text : Bytes) : Except Fault Bytes :=
  let spare := text.length % 4
  let last := text.getLast?.getD pad
  if spare = 1 ∧ last ≠ pad ∧ (value? last).isNone then
    .error (.badSymbol last (text.length - 1))
  else
    let whole := text.length - (if spare = 0 then 4 else spare)
    do
      let numbers ← values 0 (text.take whole)
      let tail ← decodeLast whole (text.drop whole)
      pure (join numbers ++ tail)

/-- The bytes that a text stands for. -/
def decodeText (text : String) : Except Fault Bytes := decode (Text.utf8 text)

end ScriptOracle.Base64
