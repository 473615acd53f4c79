import KeyedRecords.Description.Plan
import KeyedRecords.Model.Instance

/-!
# The model of a plan

What is generated for a plan behaves as a model: its persisted fields are stored
under the literals that they are bound to, and records carry the fingerprints of
the current keys and of the keys that a migration reads. A plan holds types as
text only, so the types of the fields are given apart.

* `ModelPlan.recordSchema`: the persisted fields under their current and old keys.
* `ModelPlan.toModel`: the model with its ignored fields.
-/

namespace KeyedRecords.Description

open Codec

/-- The types that the texts of a plan stand for. -/
structure PlanTypes where
  persisted : PersistedField → FieldType
  ignored : IgnoredField → FieldType

namespace ModelPlan

/-- The keys that a migration reads. They are the current ones in a plan without
    migration. -/
def keysBefore (p : ModelPlan) : KeySet := p.oldKeys.getD p.keys

/-- The literal that a field was stored under before a migration. -/
def literalBefore (p : ModelPlan) (f : PersistedField) : KeyLiteral :=
  ((p.keysBefore.binding? f.name).map KeyBinding.literal).getD f.key.literal

/-- A persisted field of the model. -/
def keyedField (p : ModelPlan) (types : PlanTypes) (f : PersistedField) : KeyedField :=
  ⟨fieldLabel f.name, types.persisted f, f.key.literal, p.literalBefore f⟩

/-- The persisted fields of the model under their keys. -/
def recordSchema (p : ModelPlan) (types : PlanTypes) : RecordSchema :=
  ⟨p.keys.schema, p.keysBefore.schema, p.persisted.map (p.keyedField types)⟩

/-- The model that is generated for a plan. -/
def toModel (p : ModelPlan) (types : PlanTypes) : Model :=
  ⟨p.name.text, p.storageName, p.recordSchema types,
    p.ignored.map fun f => ⟨fieldLabel f.name, types.ignored f, f.constant⟩⟩

end ModelPlan

end KeyedRecords.Description
