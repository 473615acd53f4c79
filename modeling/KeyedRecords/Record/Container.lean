import KeyedRecords.Key.Schema
import KeyedRecords.Codec.Value

/-!
# Record containers

A stored record is a container: the fingerprint of the keys it was written
with and a list of entries, each a key literal and the bytes of one value (§ 10.4
of the specification). The first entry under a key counts. Values are encoded one by one, so that a reader
can tell which key is missing or malformed.
-/

namespace KeyedRecords

open Codec

/-! ## Errors -/

/-- Why a run of bytes is not exactly one value. -/
inductive ReadFailure
  /-- The bytes do not begin with such a value. -/
  | fault (fault : Codec.Fault)
  /-- `count` bytes follow the value. -/
  | leftover (count : Nat)
  deriving DecidableEq, Repr

/-- What keeps a stored record from being read. A partial record is never accepted:
    one missing key fails the whole. -/
inductive DecodeError
  | missingKey (key : KeyLiteral)
  | typeMismatch (key : KeyLiteral) (failure : ReadFailure)
  | corrupted (failure : ReadFailure)
  deriving DecidableEq, Repr

namespace DecodeError

def isMissingKey : DecodeError → Bool
  | missingKey _ => true
  | _ => false

def kind : DecodeError → String
  | missingKey _ => "MissingKey"
  | typeMismatch _ _ => "TypeMismatch"
  | corrupted _ => "Corrupted"

def message : DecodeError → String
  | missingKey key => "Key " ++ key.display ++ " is missing from the stored record"
  | typeMismatch key failure =>
    let detail := match failure with
      | .fault f => f.message
      | .leftover n => toString n ++ " unread bytes"
    "Value stored under " ++ key.display ++ " does not decode as the declared type: " ++ detail
  | corrupted failure =>
    let detail := match failure with
      | .fault f => f.message
      | .leftover n => toString n ++ " trailing bytes after record"
    "The record container is corrupted: " ++ detail

end DecodeError

/-- A value that cannot be written under its key. -/
structure EncodeError where
  key : KeyLiteral
  fault : Codec.EncodeFault
  deriving DecidableEq, Repr

def EncodeError.message (e : EncodeError) : String :=
  "Value for " ++ e.key.display ++ " could not be encoded: " ++ e.fault.message

/-- Runs a reader over all of the bytes. -/
def readWhole {α : Type} (r : Reader α) (bytes : List UInt8) : Except (Stop ReadFailure) α :=
  match r bytes with
  | .ok (a, rest) => if rest.isEmpty then .ok a else .error (.fail (.leftover rest.length))
  | .error stop => .error (stop.map .fault)

/-! ## Containers -/

/-- One value of a record under its key. -/
structure Entry where
  key : KeyLiteral
  bytes : List UInt8
  deriving DecidableEq, Repr

/-- A stored record (`RecordContainer`). -/
structure Container where
  schema : UInt64
  entries : List Entry
  deriving DecidableEq, Repr

namespace Container

def empty (schema : UInt64) : Container := ⟨schema, []⟩

/-- The bytes of the first entry under a key (`RecordContainer::get`). -/
def get? (c : Container) (key : KeyLiteral) : Option (List UInt8) :=
  (c.entries.find? fun e => e.key = key).map Entry.bytes

def contains (c : Container) (key : KeyLiteral) : Bool := (c.get? key).isSome

def keys (c : Container) : List KeyLiteral := c.entries.map Entry.key

def size (c : Container) : Nat := c.entries.length

/-- Replaces the bytes of the first entry under a key, or appends an entry. -/
def insertEntry (key : KeyLiteral) (bytes : List UInt8) : List Entry → List Entry
  | [] => [⟨key, bytes⟩]
  | e :: es => if e.key = key then ⟨key, bytes⟩ :: es else e :: insertEntry key bytes es

/-- Stores bytes under a key, in place of the first entry under it
    (`RecordContainer::insert`). -/
def insert (c : Container) (key : KeyLiteral) (bytes : List UInt8) : Container :=
  ⟨c.schema, insertEntry key bytes c.entries⟩

/-! ## The byte format -/

def literalBytes : KeyLiteral → List UInt8
  | .text s => Varint.encode 0 ++ encodeText s
  | .int i => Varint.encode 1 ++ Varint.encode (Varint.zigzag i.toInt)

def readLiteral : Reader KeyLiteral := do
  let isInt ← readTag "KeyLiteral" (Varint.decode false .w32)
  if isInt then
    let n ← Varint.decode true .w64
    pure (.int (Int64.ofInt (Varint.unzigzag n)))
  else
    let s ← readText
    pure (.text s)

def entryBytes (e : Entry) : List UInt8 :=
  literalBytes e.key ++ Varint.encode e.bytes.length ++ e.bytes

def readEntry : Reader Entry := do
  let key ← readLiteral
  let bytes ← readBlock
  pure ⟨key, bytes⟩

/-- The bytes of a container (`RecordContainer::to_bytes`): the fingerprint, the number of
    entries and the entries. -/
def toBytes (c : Container) : List UInt8 :=
  Varint.encode c.schema.toNat ++ Varint.encode c.entries.length ++ c.entries.flatMap entryBytes

/-- What an entry takes in memory, in bytes. -/
def entrySize : Nat := 48

def read : Reader Container := do
  let schema ← Varint.decode false .w64
  let n ← Varint.decodeLength
  Reader.allocate n entrySize
  let entries ← Reader.many readEntry n
  pure ⟨UInt64.ofNat schema, entries⟩

/-- The container that all of the bytes encode (`RecordContainer::from_bytes`). -/
def ofBytes (bytes : List UInt8) : Except (Stop DecodeError) Container :=
  (readWhole read bytes).mapError (Stop.map .corrupted)

/-! ## Values under keys -/

/-- The empty container of records written with these keys. -/
def forKeys (keys : KeySchema) : Container := empty keys.fingerprint

/-- Whether the container was written with exactly these keys, by its fingerprint
    (`schema_matches`). -/
def isWrittenWith (c : Container) (keys : KeySchema) : Bool := c.schema == keys.fingerprint

/-- Stores a value under a key. A value that cannot be written leaves no container. -/
def encodeValue (c : Container) (key : KeyLiteral) (t : FieldType) (v : t.Value) :
    Except EncodeError Container :=
  match t.encode v with
  | .ok bytes => .ok (c.insert key bytes)
  | .error fault => .error ⟨key, fault⟩

/-- Stores typed values under their keys, in order. -/
def encodeAll (c : Container) : List (KeyLiteral × (t : FieldType) × t.Value) →
    Except EncodeError Container
  | [] => .ok c
  | (key, ⟨t, v⟩) :: rest => do
    let c ← c.encodeValue key t v
    c.encodeAll rest

/-- Steps that fill a container (`KeyedEncoder`). A step that fails keeps what the steps
    before it stored. -/
abbrev Encoder := ExceptT EncodeError (StateM Container)

def Encoder.encode (key : KeyLiteral) (t : FieldType) (v : t.Value) : Encoder Unit := do
  let bytes ← match t.encode v with
    | .ok bytes => pure bytes
    | .error fault => throw ⟨key, fault⟩
  modify fun c => c.insert key bytes

/-- Reads bytes that were stored under a key (`decode_value`). -/
def decodeBytes (key : KeyLiteral) (t : FieldType) (bytes : List UInt8) :
    Except (Stop DecodeError) t.Value :=
  (readWhole t.read bytes).mapError (Stop.map (.typeMismatch key))

/-- The value stored under a key (`KeyedDecoder::decode`). -/
def decodeValue (c : Container) (key : KeyLiteral) (t : FieldType) :
    Except (Stop DecodeError) t.Value :=
  match c.get? key with
  | some bytes => decodeBytes key t bytes
  | none => .error (.fail (.missingKey key))

/-- Which keys are consulted for a record that may be written with old keys. -/
inductive OldKeyLookup
  /-- The old key only. -/
  | strict
  /-- The old key, and the new one where the old is absent. -/
  | lenient
  deriving DecidableEq, Repr

/-- The value stored under an old key or, for a lenient look-up, under the new key that
    replaces it (`MigrationDecoder::decode`). A value that neither holds is missing under
    the old key. -/
def decodeMigrated (c : Container) (lookup : OldKeyLookup) (old new : KeyLiteral) (t : FieldType) :
    Except (Stop DecodeError) t.Value :=
  match c.get? old with
  | some bytes => decodeBytes old t bytes
  | none =>
    match lookup with
    | .strict => .error (.fail (.missingKey old))
    | .lenient =>
      match c.get? new with
      | some bytes => decodeBytes new t bytes
      | none => .error (.fail (.missingKey old))

end Container

end KeyedRecords
