import KeyedRecords.Description.Declaration

/-!
# Roles

Every declaration of a model has exactly one role, or a problem (§ 4.1 of the
specification). The first rule that applies decides: a storage name, an ignored
field, the keys of the model, the keys of a migration, and any other field is
persisted.
-/

namespace KeyedRecords.Description

/-- What a declaration is to its model. -/
inductive Role
  | storageName
  | ignored
  | modelKeys
  | migrationKeys
  | persisted
  deriving DecidableEq, Repr

def Role.name : Role → String
  | storageName => "StorageName"
  | ignored => "Ignored"
  | modelKeys => "ModelCodingKeyDecl"
  | migrationKeys => "MigrationKeyDecl"
  | persisted => "Persisted"

def addCodingKey (deriveList : String) : String :=
  let cs := deriveList.toList
  let head := cs.take (cs.length - 2)
  if cs.drop (cs.length - 2) ≠ [')', ']'] then deriveList
  else
    String.ofList head ++ (if head.getLast? = some '(' then "" else ", ") ++ "CodingKey)]"

namespace Declaration

/-- The role of a declaration that is marked as the storage name. Only constants and
    statics that never change can give it. -/
def storageNameRole (d : Declaration) : Except Diagnostic Role :=
  let refuse (fault : StorageNameFault) : Problem := .invalidStorageName d.name.text fault
  match d.kind with
  | .value .mutable => .error (.withFix (refuse .mutable) "static mut" "static")
  | .value _ => .ok .storageName
  | .field => .error (.ofProblem (refuse .instanceField))
  | kind => .error (.ofProblem (refuse (.noInitializer kind.description)))

/-- The role of a declaration if only fields can have it. -/
def fieldRole (d : Declaration) (role : Role) : Except Diagnostic Role :=
  match d.kind with
  | .field => .ok role
  | kind => .error (.ofProblem (.notField d.name.text kind.description))

def codingKeyFix (d : Declaration) : Fix :=
  match d.deriveList with
  | some list => ⟨list, addCodingKey list⟩
  | none => ⟨"", "#[derive(Clone, Copy, CodingKey)]"⟩

/-- The role of a declaration if only key enumerations can have it (`key_enum_role`). -/
def keyEnumRole (d : Declaration) (marker : Marker) (role : Role) : Except Diagnostic Role :=
  let refuse (fault : KeyEnumFault) : Problem := .notKeyEnum marker d.name.text fault
  match d.kind with
  | .enum =>
    if d.keyEnum.any KeyEnum.conforms then .ok role
    else .error ⟨refuse .notDerived, some d.codingKeyFix⟩
  | kind => .error (.ofProblem (refuse (.ofKind kind.description)))

/-- The role of a declaration, or its problem (`classify_field`). -/
def role (d : Declaration) : Except Diagnostic Role :=
  if d.markers.storageName then d.storageNameRole
  else if d.markers.ignored.isSome then d.fieldRole .ignored
  else if d.markers.modelKeys then d.keyEnumRole .modelKeys .modelKeys
  else if d.markers.migrationKeys then d.keyEnumRole .migrationKeys .migrationKeys
  else d.fieldRole .persisted

def role? (d : Declaration) : Option Role := d.role.toOption

def roleProblem? (d : Declaration) : Option Diagnostic :=
  match d.role with
  | .ok _ => none
  | .error problem => some problem

end Declaration

/-- The declarations with a role, in order. -/
def classify (ds : List Declaration) : List (Declaration × Role) :=
  ds.filterMap fun d => d.role?.map fun r => (d, r)

def roleProblems (ds : List Declaration) : List Diagnostic := ds.filterMap Declaration.roleProblem?

def withRole (ds : List Declaration) (r : Role) : List Declaration :=
  ds.filter fun d => d.role? = some r

end KeyedRecords.Description
