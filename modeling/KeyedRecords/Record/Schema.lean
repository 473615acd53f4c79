import KeyedRecords.Record.Container

/-!
# Record schemas

A record schema lists the persisted fields of a model in the order of their
declaration, each with its type, its key and the key it had under the keys that
a migration reads. `Values` are the field values of one record.

* `RecordSchema.toContainer`, `RecordSchema.ofContainer`: a record under the
  current keys.
* `RecordSchema.toOldContainer`, `RecordSchema.ofMigrated`: the same record under
  the old keys, and from a container that holds either.
-/

namespace KeyedRecords

open Codec

/-- A persisted field. Where a model has no migration keys, `oldKey` is `key`. -/
structure KeyedField where
  label : String
  type : FieldType
  key : KeyLiteral
  oldKey : KeyLiteral
  deriving DecidableEq, Repr

/-- The values of the fields of one record, in order. -/
def Values : List KeyedField → Type
  | [] => Unit
  | f :: fs => f.type.Value × Values fs

namespace Values

def get : {fs : List KeyedField} → Values fs → (i : Fin fs.length) → (fs.get i).type.Value
  | _ :: _, (v, _), ⟨0, _⟩ => v
  | _ :: _, (_, vs), ⟨i + 1, h⟩ => get vs ⟨i, Nat.lt_of_succ_lt_succ h⟩

def set : {fs : List KeyedField} → Values fs → (i : Fin fs.length) → (fs.get i).type.Value → Values fs
  | _ :: _, (_, vs), ⟨0, _⟩, w => (w, vs)
  | _ :: _, (v, vs), ⟨i + 1, h⟩, w => (v, set vs ⟨i, Nat.lt_of_succ_lt_succ h⟩ w)

/-- Stores every value under the key that `key` picks for its field, in order. -/
def encodeInto (key : KeyedField → KeyLiteral) : {fs : List KeyedField} → Values fs → Container →
    Except EncodeError Container
  | [], _, c => .ok c
  | f :: _, (v, vs), c => do
    let c ← c.encodeValue (key f) f.type v
    encodeInto key vs c

/-- Reads every field, in order; the first failure counts. -/
def decodeWith {ε : Type} (decode : (f : KeyedField) → Except ε f.type.Value) :
    (fs : List KeyedField) → Except ε (Values fs)
  | [] => .ok ()
  | f :: fs => do
    let v ← decode f
    let vs ← decodeWith decode fs
    pure (v, vs)

end Values

/-- The persisted fields of a model and its keys. `oldKeys` are the keys that a
    migration reads. -/
structure RecordSchema where
  keys : KeySchema
  oldKeys : KeySchema
  fields : List KeyedField
  deriving DecidableEq, Repr

namespace RecordSchema

abbrev Record (s : RecordSchema) : Type := Values s.fields

/-- The container of a record (`to_container`). -/
def toContainer (s : RecordSchema) (r : s.Record) : Except EncodeError Container :=
  r.encodeInto KeyedField.key (Container.forKeys s.keys)

/-- The container of a record under the old keys. -/
def toOldContainer (s : RecordSchema) (r : s.Record) : Except EncodeError Container :=
  r.encodeInto KeyedField.oldKey (Container.forKeys s.oldKeys)

def toBytes (s : RecordSchema) (r : s.Record) : Except EncodeError (List UInt8) :=
  (s.toContainer r).map Container.toBytes

/-- The record in a container (`from_container`). -/
def ofContainer (s : RecordSchema) (c : Container) : Except (Stop DecodeError) s.Record :=
  Values.decodeWith (fun f => c.decodeValue f.key f.type) s.fields

def ofBytes (s : RecordSchema) (bytes : List UInt8) : Except (Stop DecodeError) s.Record := do
  let c ← Container.ofBytes bytes
  s.ofContainer c

/-- The record in a container that was written with the old keys, in full or in part
    (`decode_old`). -/
def ofMigrated (s : RecordSchema) (lookup : Container.OldKeyLookup) (c : Container) :
    Except (Stop DecodeError) s.Record :=
  Values.decodeWith (fun f => c.decodeMigrated lookup f.oldKey f.key f.type) s.fields

end RecordSchema

end KeyedRecords
