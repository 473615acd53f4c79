import KeyedRecords.Codec.Data
import KeyedRecords.Model.Instance

/-!
# Models through labels and plain data

Access to the fields of an instance for a caller that knows their labels and not
their types. Data that does not fit the type of its field is refused before
anything happens.

* `Values.toData`, `Values.ofData`: the values of a record.
* `IgnoredValues.ofLabels`: ignored values by label, with defaults.
* `Instance.getData`, `Instance.setData`: one field.
-/

namespace KeyedRecords

open Codec

/-- The plain form of the values of a record, in order. -/
def Values.toData : {fs : List KeyedField} → Values fs → List Data
  | [], _ => []
  | f :: _, (v, vs) => f.type.toData v :: Values.toData vs

def Values.ofData : (fs : List KeyedField) → List Data → Option (Values fs)
  | [], [] => some ()
  | f :: fs, d :: ds => do
    let v ← f.type.ofData d
    let vs ← Values.ofData fs ds
    pure (v, vs)
  | _, _ => none

/-- Ignored values by label; a field without data starts with its default. -/
def IgnoredValues.ofLabels (data : String → Option Data) :
    (fs : List TransientField) → Option (IgnoredValues fs)
  | [] => some ()
  | f :: fs => do
    let v ← match data f.label with
      | some d => f.type.ofData d
      | none => some f.type.default
    let vs ← IgnoredValues.ofLabels data fs
    pure (v, vs)

/-- A persisted or an ignored field of a model. -/
abbrev Model.Field (m : Model) : Type := Fin m.schema.fields.length ⊕ Fin m.ignored.length

def Model.fieldOf (m : Model) (label : String) : Option m.Field :=
  match m.schema.fields.findFinIdx? fun f => f.label == label with
  | some i => some (.inl i)
  | none => (m.ignored.findFinIdx? fun f => f.label == label).map .inr

namespace Instance

variable {m : Model} {σ : Type}

def getData (ctx : Context σ) : m.Field → Method m σ Data
  | .inl i => (m.schema.fields.get i).type.toData <$> Instance.get ctx i
  | .inr i => (m.ignored.get i).type.toData <$> Instance.getIgnored ctx i

/-- Assigns a field. An ignored field gives its previous value. -/
def setData (ctx : Context σ) (field : m.Field) (d : Data) : Option (Method m σ Data) :=
  match field with
  | .inl i => ((m.schema.fields.get i).type.ofData d).map fun v => do
    Instance.set ctx i v
    pure .null
  | .inr i => ((m.ignored.get i).type.ofData d).map fun v =>
    (m.ignored.get i).type.toData <$> Instance.setIgnored ctx i v

end Instance

end KeyedRecords
