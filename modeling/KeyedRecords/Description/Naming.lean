import KeyedRecords.Source.Token

/-!
# Names of what a model compiles into

The names that are made from those of fields and models. None of them is raw,
whether the name it is made from is raw or not.
-/

namespace KeyedRecords.Description

open Source (Ident)

/-- The label of a field (`field_label`): its name without the mark of a raw identifier. -/
def fieldLabel (field : Ident) : String := field.name

/-- The case that stands for a field when no keys are declared (`key_case_name`). -/
def implicitCase (field : Ident) : Ident := .ofName ("_" ++ fieldLabel field)

def setterName (field : Ident) : Ident := .ofName ("set_" ++ fieldLabel field)

/-- The enumeration of the keys when none are declared (`persisted_keys_enum_name`). -/
def persistedKeysName (model : Ident) : Ident := .ofName (model.name ++ "PersistedKeys")

def slotsName (model : Ident) : Ident := .ofName (model.name ++ "Slots")

/-- The structure that a migration reads a record into (`migration_shadow_name`). -/
def migrationShadowName (model : Ident) : Ident := .ofName (model.name ++ "MigrationShadow")

/-- The alias of the enumeration that a migration reads with (`migration_keys_alias`). -/
def migrationKeysName (model : Ident) : Ident := .ofName (model.name ++ "MigrationKeys")

def contextField : String := "__context"

def slotsField : String := "__slots"

end KeyedRecords.Description
