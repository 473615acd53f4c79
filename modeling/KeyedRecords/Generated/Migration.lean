import KeyedRecords.Generated.Record

/-!
# Generated migrations

For a model with the keys of an earlier version: a structure that is decoded under
the old keys and encoded under the current ones, and the two members that migrate.
Old and current keys are paired through the field that they are bound to (§ 4.5 of the
specification).
-/

namespace KeyedRecords.Generated

open Source Description

/-- The structure that a migration reads into. -/
def shadow (p : ModelPlan) : Tokens := (migrationShadowName p.name).tokens

/-- The old key of a field and its current one. -/
def pairedKeys (p : ModelPlan) (old : KeySet) (f : PersistedField) : Option Tokens :=
  (old.binding? f.name).map fun b =>
    partOf (migrationKeysName p.name) b.case ++ operator "," ++ keyOf p.keys f

/-- The structure that a migration reads into, and how (`generate_shadow`). -/
def shadowStructure (p : ModelPlan) (old : KeySet) : Tokens :=
  words "type" ++ (migrationKeysName p.name).tokens ++ operator "=" ++ old.name.tokens ++ operator ";"
    ++ words "struct" ++ shadow p ++ braces (typedFields (persistedTypes p))
    ++ implementation (runtime "traits :: MigrationShadow" ++ words "for" ++ shadow p) [
      .type "OldKeys" (migrationKeysName p.name).tokens,
      .type "NewKeys" p.keys.name.tokens,
      .constant .inherited "MODEL_NAME" staticText (textLiteral p.name.text),
      decodeMember p "decode_old"
        (runtime "container :: MigrationDecoder"
          ++ angle (words "'_ , Self :: OldKeys , Self :: NewKeys"))
        (pairedKeys p old),
      encodeMember p "encode_new" "Self :: NewKeys"]

def migrationCall (p : ModelPlan) (function : String) : Tokens :=
  runtime ("migration :: " ++ function ++ " ::") ++ angle (shadow p) ++ parens (words "context")

def migrationMembers (p : ModelPlan) : List Member :=
  let parameters := commaTerminated [typed (words "context") (reference contextType)]
  [.function (docLine "Rewrites a record stored under the migration keys with the"
      ++ docLine "current keys. A no-op for records that are already current.") p.vis
      (.ofName "migrate") parameters (resultOf (runtime "migration :: MigrationOutcome"))
      (migrationCall p "migrate"),
    .function (docLine "Whether the stored record still uses the migration keys."
      ++ docLine "Never writes.") p.vis
      (.ofName "should_migrate") parameters (resultOf (words "bool"))
      (migrationCall p "should_migrate")]

/-- The migration of a model, if it has the keys of an earlier version. -/
def migration (p : ModelPlan) : Tokens :=
  match p.oldKeys with
  | none => []
  | some old => shadowStructure p old ++ implementation p.name.tokens (migrationMembers p)

end KeyedRecords.Generated
