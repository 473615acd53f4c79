import KeyedRecords.Model.Migration

/-!
# Models and their instances

A model has persisted fields, which an instance keeps in lazily loaded slots,
and ignored fields, which are observed but never stored. Persisted accessors
load the record on first use, and a persisted setter writes the whole record
back before it returns.

* `Instance.get`, `Instance.set`: a persisted field.
* `Instance.getIgnored`, `Instance.setIgnored`: an ignored field.
* `Instance.save`, `Instance.reload`: the whole record.
* `Instance.create`, `Instance.unloaded`, `Instance.ofStore`, `Instance.ofContainer`:
  the four ways to an instance.
-/

namespace KeyedRecords

open Codec

/-- A field that is never stored. A constant one is set on construction only. -/
structure TransientField where
  label : String
  type : FieldType
  constant : Bool

/-- A model: its name, the name of its record, and its fields. -/
structure Model where
  name : String
  storageName : String
  schema : RecordSchema
  ignored : List TransientField

/-- The field of a model that carries a label, as events name it. -/
def Model.field (m : Model) (label : String) : FieldId := ⟨m.name, label⟩

def IgnoredValues : List TransientField → Type
  | [] => Unit
  | f :: fs => f.type.Value × IgnoredValues fs

namespace IgnoredValues

def get : {fs : List TransientField} → IgnoredValues fs → (i : Fin fs.length) → (fs.get i).type.Value
  | _ :: _, (v, _), ⟨0, _⟩ => v
  | _ :: _, (_, vs), ⟨i + 1, h⟩ => get vs ⟨i, Nat.lt_of_succ_lt_succ h⟩

def set : {fs : List TransientField} → IgnoredValues fs → (i : Fin fs.length) → (fs.get i).type.Value →
    IgnoredValues fs
  | _ :: _, (_, vs), ⟨0, _⟩, w => (w, vs)
  | _ :: _, (v, vs), ⟨i + 1, h⟩, w => (v, set vs ⟨i, Nat.lt_of_succ_lt_succ h⟩ w)

end IgnoredValues

/-- An instance of a model. Slots without a record are unloaded. -/
structure Instance (m : Model) where
  slots : Option m.schema.Record
  ignored : IgnoredValues m.ignored

/-- Operations on an instance and the shared state. -/
abbrev Method (m : Model) (σ : Type) := ExceptT Failure (StateM (Instance m × Runtime σ))

namespace Method

variable {m : Model} {σ : Type}

def lift {α : Type} (a : Action σ α) : Method m σ α := fun (inst, rt) =>
  let (result, rt) := a rt
  (result, (inst, rt))

def self : Method m σ (Instance m) := Prod.fst <$> get

def setSlots (slots : Option m.schema.Record) : Method m σ Unit :=
  modify fun (inst, rt) => ({ inst with slots }, rt)

def setIgnored (ignored : IgnoredValues m.ignored) : Method m σ Unit :=
  modify fun (inst, rt) => ({ inst with ignored }, rt)

end Method

namespace Instance

variable {m : Model} {σ : Type}

/-! ## Slots -/

/-- The record in the slots (`PersistedSlots::get_or_load`). Unloaded slots are loaded
    first; `occasion` says in the log what for. -/
def populate (ctx : Context σ) (occasion : String) : Method m σ m.schema.Record := do
  let inst ← Method.self
  match inst.slots with
  | some r => pure r
  | none =>
    Method.lift (Action.log .debug (occasion ++ ", populating slots from " ++ ctx.location))
    let r ← Method.lift (ctx.load m.schema)
    Method.setSlots (some r)
    pure r

def recordForRead (ctx : Context σ) : Method m σ m.schema.Record := populate ctx "first access"

def recordForWrite (ctx : Context σ) : Method m σ m.schema.Record := populate ctx "first write"

/-! ## Accessors -/

/-- Reads a persisted field. The read is reported even when the record cannot be
    loaded. -/
def get (ctx : Context σ) (i : Fin m.schema.fields.length) :
    Method m σ (m.schema.fields.get i).type.Value := do
  Method.lift (ctx.access (m.field (m.schema.fields.get i).label))
  let r ← recordForRead ctx
  pure (r.get i)

/-- Assigns a persisted field and writes the record back. -/
def set (ctx : Context σ) (i : Fin m.schema.fields.length)
    (value : (m.schema.fields.get i).type.Value) : Method m σ Unit := do
  let r ← recordForWrite ctx
  let (r, outcome) ← Method.lift
    (ctx.commit m.schema (m.field (m.schema.fields.get i).label) r i value)
  Method.setSlots (some r)
  match outcome with
  | .ok () => pure ()
  | .error e => throw e

def getIgnored (ctx : Context σ) (i : Fin m.ignored.length) :
    Method m σ (m.ignored.get i).type.Value := do
  Method.lift (ctx.access (m.field (m.ignored.get i).label))
  let inst ← Method.self
  pure (inst.ignored.get i)

/-- Assigns an ignored field and gives its previous value. -/
def setIgnored (ctx : Context σ) (i : Fin m.ignored.length) (value : (m.ignored.get i).type.Value) :
    Method m σ (m.ignored.get i).type.Value := do
  let inst ← Method.self
  let (slot, previous) ← Method.lift
    (ctx.replace (m.field (m.ignored.get i).label) (inst.ignored.get i) value)
  Method.setIgnored (inst.ignored.set i slot)
  pure previous

/-! ## Whole records -/

/-- Writes the record, which is loaded first if need be. -/
def save (ctx : Context σ) : Method m σ Unit := do
  let r ← recordForRead ctx
  Method.lift (ctx.save m.schema r)

/-- Replaces the record by the stored one. -/
def reload (ctx : Context σ) : Method m σ m.schema.Record := do
  let r ← Method.lift (ctx.load m.schema)
  Method.setSlots (some r)
  pure r

/-- The container of the record, which is loaded first if need be. -/
def encode (ctx : Context σ) : Method m σ Container := do
  let r ← recordForRead ctx
  Method.lift (Action.ofEncode (m.schema.toContainer r))

/-! ## Construction -/

/-- A new instance whose record is written at once (`new`). -/
def create (ctx : Context σ) (r : m.schema.Record) (ignored : IgnoredValues m.ignored) :
    Action σ (Instance m) := do
  ctx.save m.schema r
  pure ⟨some r, ignored⟩

/-- An instance that loads its record on first use (`open`). -/
def unloaded (ignored : IgnoredValues m.ignored) : Instance m := ⟨none, ignored⟩

/-- An instance with the stored record (`load`). -/
def ofStore (ctx : Context σ) (ignored : IgnoredValues m.ignored) : Action σ (Instance m) := do
  let r ← ctx.load m.schema
  pure ⟨some r, ignored⟩

/-- An instance with the record of a container (`decode_from`). -/
def ofContainer (c : Container) (ignored : IgnoredValues m.ignored) :
    Except (Stop DecodeError) (Instance m) := do
  let r ← m.schema.ofContainer c
  pure ⟨some r, ignored⟩

end Instance

end KeyedRecords
