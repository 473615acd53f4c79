import KeyedRecords.Description.KeySet
import KeyedRecords.Description.Model
import KeyedRecords.Description.Role

/-!
# Plans

A plan is all that is needed to generate a model: its fields by role, the keys they
are stored under, and the keys of an earlier version of the record. There is a plan
exactly for a description without problems.

* `ModelPlan.build`: the plan of a description, after the problems found before.
-/

namespace KeyedRecords.Description

open Source

structure PersistedField where
  name : Ident
  type : Tokens
  vis : Visibility
  attrs : List Attribute
  key : KeyBinding

/-- A field that is observed but not stored. A constant one is set by constructors
    only. -/
structure IgnoredField where
  name : Ident
  type : Tokens
  vis : Visibility
  attrs : List Attribute
  constant : Bool

/-- The plan of a model. `oldKeys` are the keys that a migration reads. -/
structure ModelPlan where
  name : Ident
  vis : Visibility
  attrs : List Attribute
  derives : List Attribute
  storageName : String
  persisted : List PersistedField
  ignored : List IgnoredField
  keys : KeySet
  oldKeys : Option KeySet

/-! ## Names -/

/-- The members that every model has. No field may have the name of one. -/
def synthesizedMembers : List String :=
  ["new", "open", "load", "decode_from", "encode_to", "save", "reload", "is_persisted", "context",
    "model_context", "migrate", "should_migrate"]

/-- Whether a label is kept for what is generated. -/
def isReserved (label : String) : Bool :=
  label.toList.take 2 = ['_', '_'] || synthesizedMembers.contains label

/-- The setters of fields, each with the label of its field. -/
def settersOf (persisted ignored : List Declaration) : List (String × String) :=
  (persisted ++ ignored.filter fun d => !d.isIgnoredConstant).map fun d =>
    ((setterName d.name).text, d.label)

def nameProblem? (setters : List (String × String)) (label : String) : Option Problem :=
  if isReserved label then some (.reservedName label none)
  else (setters.find? fun s => s.1 = label).map fun s => .reservedName label (some s.2)

/-- What is wrong with the labels of fields (`check_reserved_names`). -/
def nameProblems (persisted ignored : List Declaration) : List Diagnostic :=
  let setters := settersOf persisted ignored
  ((persisted ++ ignored).filterMap fun d => nameProblem? setters d.label).map .ofProblem

/-! ## Declarations -/

/-- A problem for every declaration with a role after the first. -/
def repeatedProblems (marker : Marker) (ds : List Declaration) : List Diagnostic :=
  (ds.drop 1).map fun _ => .ofProblem (.duplicateDeclaration marker)

/-- The name that records are stored under, and what is wrong with its declaration. -/
def storageNameOf (model : ModelDescription) (declared : Option Declaration) :
    String × List Diagnostic :=
  match declared with
  | none => (model.name.text, [])
  | some d =>
    match d.initializer >>= Expr.stringValue? with
    | some name => (name, [])
    | none => (model.name.text, [.ofProblem .storageNameNotLiteral])

/-- The keys of a model must be seen as far as the model (`check_key_visibility`). -/
def visibilityProblems (model : ModelDescription) (keys : Declaration) : List Diagnostic :=
  if model.vis.rank ≤ keys.vis.rank then []
  else
    let needed := model.vis.render
    [.withFix (.keysLessVisible keys.name.text model.name.text needed) keys.vis.render needed]

def keysOf (model : ModelDescription) (declared : Option Declaration) (fields : List Ident) :
    KeySet × List Diagnostic :=
  match declared.bind fun d => d.keyEnum.map fun k => (d, k) with
  | none => (.implicit model.name fields, [])
  | some (d, k) =>
    let (keys, problems) := KeySet.bind k fields
    (keys, visibilityProblems model d ++ problems)

/-- The keys that a migration reads, and what is wrong with their declaration. They must
    conform to what the keys of the model conform to. -/
def oldKeysOf (keys : KeySet) (declared : Option Declaration) (fields : List Ident) :
    Option KeySet × List Diagnostic :=
  match declared.bind Declaration.keyEnum with
  | none => (none, [])
  | some k =>
    let (old, problems) := KeySet.bind k fields
    if old.raw.surface = keys.raw.surface then (some old, problems)
    else
      (none, problems
        ++ [.ofProblem (.surfaceMismatch old.name.text old.raw keys.name.text keys.raw)])

/-! ## The plan -/

def PersistedField.ofDeclaration (keys : KeySet) (d : Declaration) : Option PersistedField := do
  let type ← d.type
  let key ← keys.binding? d.name
  pure ⟨d.name, type, d.vis, d.attrs, key⟩

def IgnoredField.ofDeclaration (d : Declaration) : Option IgnoredField :=
  d.type.map fun type => ⟨d.name, type, d.vis, d.attrs, d.isIgnoredConstant⟩

namespace ModelPlan

/-- The plan of a final description, as if nothing were wrong with it, and what is
    wrong. -/
def draft (model : ModelDescription) : ModelPlan × List Diagnostic :=
  let ds := model.declarations
  let storage := withRole ds .storageName
  let modelKeys := withRole ds .modelKeys
  let migrationKeys := withRole ds .migrationKeys
  let persisted := withRole ds .persisted
  let ignored := withRole ds .ignored
  let fields := persisted.map Declaration.name
  let (storageName, storageProblems) := storageNameOf model storage.head?
  let (keys, keyProblems) := keysOf model modelKeys.head? fields
  let (oldKeys, oldKeyProblems) := oldKeysOf keys migrationKeys.head? fields
  (⟨model.name, model.vis, model.attrs, model.derives, storageName,
      persisted.filterMap (PersistedField.ofDeclaration keys),
      ignored.filterMap IgnoredField.ofDeclaration, keys, oldKeys⟩,
    roleProblems ds ++ repeatedProblems .storageName storage ++ repeatedProblems .modelKeys modelKeys
      ++ repeatedProblems .migrationKeys migrationKeys ++ storageProblems
      ++ nameProblems persisted ignored ++ keyProblems ++ oldKeyProblems)

/-- The plan of a description, and all problems (`build_plan`): those found before and those
    found here. -/
def build (model : ModelDescription) (before : List Diagnostic) :
    Option ModelPlan × List Diagnostic :=
  if !model.isFinal then
    (none, before ++ [.ofProblem (.notFinal model.name.text model.kind)])
  else
    let (plan, problems) := draft model
    let all := before ++ problems
    (if all.isEmpty then some plan else none, all)

/-- The plan of the model that an item describes, where the model stands, and all
    problems. -/
def ofItem (name : Option Ident) (item : Item) :
    Option (Placement × ModelPlan) × List Diagnostic :=
  match find name item with
  | (none, problems) => (none, problems)
  | (some found, problems) =>
    let (plan, all) := build found.model problems
    (plan.map fun p => (found.placement, p), all)

end ModelPlan

end KeyedRecords.Description
