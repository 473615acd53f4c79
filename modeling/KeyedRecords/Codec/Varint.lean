import KeyedRecords.Codec.Fault

/-!
# Integers of variable length

A natural number below 251 is one byte. A larger one is a tag byte (251 to 254)
and the number in 2, 4, 8 or 16 little-endian bytes, the fewest that hold it.
Signed numbers are folded onto the naturals first: 0, -1, 1, -2, … become
0, 1, 2, 3, ….

A reader takes bytes from the front of a list. Readers accept a tag that is
wider than necessary, but never one that is wider than the wanted integer.
-/

namespace KeyedRecords.Codec

/-- A reader of a value at the front of a list of bytes. -/
abbrev Reader := StateT (List UInt8) (Except (Stop Fault))

/-- The number of bytes that no allocation reaches. -/
def memoryLimit : Nat := 0x8000000000000000

namespace Reader

def refuse {α : Type} (fault : Fault) : Reader α := throw (.fail fault)

def take (n : Nat) : Reader (List UInt8) := fun bytes =>
  if n ≤ bytes.length then .ok (bytes.take n, bytes.drop n)
  else .error (.fail (.unexpectedEnd (n - bytes.length)))

/-- Refuses unless `n` bytes are left. -/
def require (n : Nat) : Reader Unit := fun bytes =>
  if n ≤ bytes.length then .ok ((), bytes)
  else .error (.fail (.unexpectedEnd (n - bytes.length)))

/-- Makes room for `n` values of `size` bytes each, whether or not as many follow. -/
def allocate (n size : Nat) : Reader Unit :=
  if n * size < memoryLimit then pure () else throw .panic

def byte : Reader UInt8 := fun bytes =>
  match bytes with
  | [] => .error (.fail (.unexpectedEnd 1))
  | b :: rest => .ok (b, rest)

def many {α : Type} (r : Reader α) : Nat → Reader (List α)
  | 0 => pure []
  | n + 1 => do
    let a ← r
    let as ← many r n
    pure (a :: as)

end Reader

/-! ## Fixed-width integers -/

/-- The `k` least bytes of `n`, least first. -/
def littleEndian : Nat → Nat → List UInt8
  | 0, _ => []
  | k + 1, n => UInt8.ofNat n :: littleEndian k (n / 256)

/-- The number that the bytes write, least first. -/
def ofLittleEndian : List UInt8 → Nat
  | [] => 0
  | b :: bs => b.toNat + 256 * ofLittleEndian bs

/-! ## Natural numbers -/

namespace Varint

/-- The bytes of a natural number below 2¹²⁸. -/
def encode (n : Nat) : List UInt8 :=
  if n < 251 then [UInt8.ofNat n]
  else if n < 0x10000 then 251 :: littleEndian 2 n
  else if n < 0x100000000 then 252 :: littleEndian 4 n
  else if n < 0x10000000000000000 then 253 :: littleEndian 8 n
  else 254 :: littleEndian 16 n

/-- The width that a tag byte from 251 on announces. -/
def tagWidth? (tag : UInt8) : Option IntWidth :=
  if tag = 251 then some .w16
  else if tag = 252 then some .w32
  else if tag = 253 then some .w64
  else if tag = 254 then some .w128
  else none

/-- The width that a fault names when a tag is refused while `left` bytes are left, the
    tag included. Where a whole 64-bit number might have followed, 32 bits are named. -/
def namedWidth (w : IntWidth) (left : Nat) : IntWidth :=
  if w = .w64 ∧ 9 ≤ left then .w32 else w

/-- Reads a natural number of at most the given width. `signed` only names the
    format in a fault. -/
def decode (signed : Bool) (w : IntWidth) : Reader Nat := do
  let left ← get
  let refuse (found : Option IntWidth) : Reader Nat :=
    Reader.refuse (.invalidIntegerType signed (namedWidth w left.length) found)
  let tag ← Reader.byte
  if tag < 251 then pure tag.toNat
  else
    match tagWidth? tag with
    | some found =>
      if found.bits ≤ w.bits then
        let bytes ← Reader.take (found.bits / 8)
        pure (ofLittleEndian bytes)
      else refuse (some found)
    | none => refuse none

def decodeLength : Reader Nat := decode false .w64

/-! ## Signed numbers -/

/-- Folds the integers onto the naturals, small magnitudes first. -/
def zigzag (i : Int) : Nat :=
  match i with
  | .ofNat n => 2 * n
  | .negSucc n => 2 * n + 1

def unzigzag (n : Nat) : Int :=
  if n % 2 = 0 then Int.ofNat (n / 2) else Int.negSucc (n / 2)

end Varint

end KeyedRecords.Codec
