/-!
# Errors of record stores

An input or output error has a kind and a text. A store reports it together
with the place that it was touching: a missing record and a refused permission
are errors of their own, every other kind is reported with its text.
-/

namespace KeyedRecords

inductive IoKind
  | notFound
  | permissionDenied
  | alreadyExists
  | invalidData
  | interrupted
  | unexpectedEof
  | storageFull
  | notADirectory
  | isADirectory
  | invalidFilename
  | invalidInput
  | other
  deriving DecidableEq, Repr

/-- The text of an error of which only the kind is known. -/
def IoKind.description : IoKind → String
  | notFound => "entity not found"
  | permissionDenied => "permission denied"
  | alreadyExists => "entity already exists"
  | invalidData => "invalid data"
  | interrupted => "operation interrupted"
  | unexpectedEof => "unexpected end of file"
  | storageFull => "no storage space"
  | notADirectory => "not a directory"
  | isADirectory => "is a directory"
  | invalidFilename => "invalid filename"
  | invalidInput => "invalid input parameter"
  | other => "other error"

def IoKind.name : IoKind → String
  | notFound => "NotFound"
  | permissionDenied => "PermissionDenied"
  | alreadyExists => "AlreadyExists"
  | invalidData => "InvalidData"
  | interrupted => "Interrupted"
  | unexpectedEof => "UnexpectedEof"
  | storageFull => "StorageFull"
  | notADirectory => "NotADirectory"
  | isADirectory => "IsADirectory"
  | invalidFilename => "InvalidFilename"
  | invalidInput => "InvalidInput"
  | other => "Other"

def IoKind.all : List IoKind :=
  [notFound, permissionDenied, alreadyExists, invalidData, interrupted, unexpectedEof,
    storageFull, notADirectory, isADirectory, invalidFilename, invalidInput, other]

def IoKind.ofName (name : String) : Option IoKind := all.find? fun k => k.name == name

structure IoFault where
  kind : IoKind
  text : String
  deriving DecidableEq, Repr

/-- The error of a kind, with its own text or the kind's. -/
def IoFault.ofKind (kind : IoKind) (text : Option String) : IoFault :=
  ⟨kind, text.getD kind.description⟩

/-- What keeps a store from doing what it was asked for. -/
inductive StoreError
  | notFound (location : String)
  | permissionDenied (path : String)
  | io (path : String) (text : String)
  deriving DecidableEq, Repr

namespace StoreError

/-- Classifies an error that came up while `path` was touched (`StoreError::from_io`). -/
def ofFault (path : String) (fault : IoFault) : StoreError :=
  match fault.kind with
  | .notFound => notFound path
  | .permissionDenied => permissionDenied path
  | _ => io path fault.text

def isNotFound : StoreError → Bool
  | notFound _ => true
  | _ => false

def kind : StoreError → String
  | notFound _ => "NotFound"
  | permissionDenied _ => "PermissionDenied"
  | io _ _ => "Io"

def message : StoreError → String
  | notFound location => "No record stored at " ++ location
  | permissionDenied path => "Permission denied for " ++ path
  | io path text => "IO error at " ++ path ++ ": " ++ text

end StoreError

end KeyedRecords
