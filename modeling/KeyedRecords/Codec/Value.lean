import KeyedRecords.Codec.FieldType

/-!
# Values as bytes

`encode` writes a value of a field type and `read` takes one from the front of
a list of bytes. Compound values are their parts in order; a sequence of
variable length is preceded by its length. Only a path that is not UTF-8 cannot
be written.
-/

namespace KeyedRecords.Codec

/-- What keeps a value from being written. -/
inductive EncodeFault
  /-- A path is not UTF-8. -/
  | invalidPathCharacters
  deriving DecidableEq, Repr

def EncodeFault.message : EncodeFault → String
  | invalidPathCharacters => "InvalidPathCharacters"

/-- The bytes of a text: its length and its UTF-8. -/
def encodeText (s : String) : List UInt8 :=
  let bytes := Text.Utf8.encode s
  Varint.encode bytes.length ++ bytes

/-- Reads the bytes of a text or block: a length and that many bytes. Room is made for them
    before it is known whether they are there. -/
def readBlock : Reader (List UInt8) := do
  let n ← Varint.decodeLength
  Reader.allocate n 1
  Reader.take n

def readText : Reader String := do
  let bytes ← readBlock
  match Text.Utf8.decode bytes with
  | .ok s => pure s
  | .error f => Reader.refuse (.utf8 f)

/-- Reads a tag that is 0 or 1 from a byte or a variable-length integer. -/
def readTag (typeName : String) (tag : Reader Nat) : Reader Bool := do
  let n ← tag
  match n with
  | 0 => pure false
  | 1 => pure true
  | _ => Reader.refuse (.unexpectedVariant typeName n)

/-- Reads a character: its first byte tells how many follow. -/
def readChar : Reader Char := do
  let first ← Reader.byte
  match Text.Utf8.width first with
  | 0 => Reader.refuse (.invalidCharEncoding [first, 0, 0, 0])
  | n + 1 =>
    let more ← Reader.take n
    match Text.Utf8.decodeChar (first :: more) with
    | .ok (c, _) => pure c
    | .error _ => Reader.refuse (.invalidCharEncoding ((first :: more ++ [0, 0, 0]).take 4))

def encodeAll {α : Type} (encode : α → Except EncodeFault (List UInt8)) :
    List α → Except EncodeFault (List UInt8)
  | [] => .ok []
  | a :: as => do
    let head ← encode a
    let tail ← encodeAll encode as
    pure (head ++ tail)

/-- Reads as many values as asked for, with the proof that there are as many. -/
def Reader.exactly {α : Type} (r : Reader α) : (n : Nat) → Reader { as : List α // as.length = n }
  | 0 => pure ⟨[], rfl⟩
  | n + 1 => do
    let a ← r
    let as ← Reader.exactly r n
    pure ⟨a :: as.1, by simp [as.2]⟩

namespace FieldType

def encode : (t : FieldType) → t.Value → Except EncodeFault (List UInt8)
  | unit, _ => .ok []
  | bool, (b : Bool) => .ok [if b then 1 else 0]
  | int signed width, (v : BitVec width.bits) =>
    match width with
    | .w8 => .ok [UInt8.ofNat v.toNat]
    | _ => .ok (Varint.encode (if signed then Varint.zigzag v.toInt else v.toNat))
  | float32, (v : BitVec 32) => .ok (littleEndian 4 v.toNat)
  | float64, (v : BitVec 64) => .ok (littleEndian 8 v.toNat)
  | char, c => .ok (String.utf8EncodeChar c)
  | string, s => .ok (encodeText s)
  | path, bytes =>
    match Text.Utf8.decode bytes with
    | .ok s => .ok (encodeText s)
    | .error _ => .error .invalidPathCharacters
  | option _, none => .ok [0]
  | option t, some v => do
    let bytes ← t.encode v
    pure (1 :: bytes)
  | list t _, vs => do
    let bytes ← encodeAll t.encode vs
    pure (Varint.encode (List.length vs) ++ bytes)
  | pair a b, v => do
    let first ← a.encode v.1
    let second ← b.encode v.2
    pure (first ++ second)
  | array t _, vs => encodeAll t.encode vs.1
  | map t, m => do
    let bytes ← encodeAll
      (fun e => do
        let value ← t.encode e.2
        pure (encodeText e.1 ++ value))
      (SortedMap.entries m)
    pure (Varint.encode (SortedMap.entries m).length ++ bytes)
  | result t _, .ok v => do
    let bytes ← t.encode v
    pure (Varint.encode 0 ++ bytes)
  | result _ e, .error v => do
    let bytes ← e.encode v
    pure (Varint.encode 1 ++ bytes)

def read : (t : FieldType) → Reader t.Value
  | unit => pure ()
  | bool => do
    let b ← Reader.byte
    if b = 0 then pure false
    else if b = 1 then pure true
    else Reader.refuse (.invalidBooleanValue b)
  | int signed width =>
    match width with
    | .w8 => do
      let b ← Reader.byte
      pure (BitVec.ofNat 8 b.toNat)
    | w => do
      let n ← Varint.decode signed w
      pure (if signed then BitVec.ofInt w.bits (Varint.unzigzag n) else BitVec.ofNat w.bits n)
  | float32 => do
    let bytes ← Reader.take 4
    pure (BitVec.ofNat 32 (ofLittleEndian bytes))
  | float64 => do
    let bytes ← Reader.take 8
    pure (BitVec.ofNat 64 (ofLittleEndian bytes))
  | char => readChar
  | string => readText
  | path => do
    let s ← readText
    pure (Text.Utf8.encode s)
  | option t => do
    let present ← readTag (option t).name (UInt8.toNat <$> Reader.byte)
    if present then
      let v ← t.read
      pure (some v)
    else pure none
  | list t size => do
    let n ← Varint.decodeLength
    Reader.allocate n size
    if t.isByte then Reader.require n
    Reader.many t.read n
  | pair a b => do
    let first ← a.read
    let second ← b.read
    pure (first, second)
  | array t n => do
    if t.isByte then Reader.require n
    Reader.exactly t.read n
  | map t => do
    let n ← Varint.decodeLength
    let entries ← Reader.many
      (do
        let k ← readText
        let v ← t.read
        pure (k, v))
      n
    pure (SortedMap.ofList entries)
  | result t e => do
    let failed ← readTag (result t e).name (Varint.decode false .w32)
    if failed then
      let v ← e.read
      pure (.error v)
    else
      let v ← t.read
      pure (.ok v)

end FieldType

end KeyedRecords.Codec
