import ScriptOracle.Crypto.Aes

/-!
# Enciphering texts of any length

A text is filled up to whole blocks by bytes that tell how many they are, and each block is added to the
one before it, as it was enciphered, before it is enciphered itself.
-/

namespace ScriptOracle.Crypto.Chain

def width : Nat := 16

/-- A text filled up to whole blocks; at least one byte is added. -/
def padded (text : Bytes) : Bytes :=
  let fill := width - text.length % width
  text ++ List.replicate fill (UInt8.ofNat fill)

/-- The text before it was filled up; nothing if the end does not tell how many bytes were added. -/
def unpadded? (bytes : Bytes) : Option Bytes :=
  match bytes.getLast? with
  | none => none
  | some last =>
    let fill := last.toNat
    if fill = 0 ∨ width < fill ∨ bytes.length < fill then none
    else if (bytes.drop (bytes.length - fill)).all (· == last) then
      some (bytes.take (bytes.length - fill))
    else none

def encipherBlocks (keys : List Aes.Block) (before : Aes.Block) : List Aes.Block -> List Aes.Block
  | [] => []
  | block :: rest =>
    let enciphered := Aes.encipher keys (block.add before)
    enciphered :: encipherBlocks keys enciphered rest

def decipherBlocks (keys : List Aes.Block) (before : Aes.Block) : List Aes.Block -> List Aes.Block
  | [] => []
  | block :: rest => (Aes.decipher keys block).add before :: decipherBlocks keys block rest

def blocksOf (bytes : Bytes) : List Aes.Block := (chunks width bytes).map Aes.Block.ofBytes

/-- Enciphers a text with a key of thirty-two bytes and a start of sixteen. -/
def encipher (key start text : Bytes) : Bytes :=
  (encipherBlocks (Aes.roundKeys key) (.ofBytes start) (blocksOf (padded text))).flatMap
    Aes.Block.toBytes

/-- Deciphers a text; nothing if it is not made of whole blocks or was not filled up. -/
def decipher? (key start bytes : Bytes) : Option Bytes :=
  if bytes.length % width != 0 then none
  else
    unpadded? ((decipherBlocks (Aes.roundKeys key) (.ofBytes start) (blocksOf bytes)).flatMap
      Aes.Block.toBytes)

end ScriptOracle.Crypto.Chain
