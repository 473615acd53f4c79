import KeyedRecords.Key.Literal
import KeyedRecords.Source.Arguments

/-!
# Problems of a description

Why a description is refused (§ 10.3 of the specification). All problems of one
description are reported together, and a description with any problem compiles to
nothing.

* `Problem.message`: the text of a problem.
* `Diagnostic.rendered`: that text, and the line that offers a fix.
-/

namespace KeyedRecords.Description

open Source (ArgumentFault)

/-- An attribute that describes a model. -/
inductive Marker
  | storageName
  | ignored
  | modelKeys
  | migrationKeys
  deriving DecidableEq, Repr

def Marker.name : Marker → String
  | storageName => "storage_name"
  | ignored => "persisted_ignored"
  | modelKeys => "model_coding_key"
  | migrationKeys => "migration"

/-- An integer type that may back a key enumeration. -/
inductive IntegerType
  | u8
  | u16
  | u32
  | u64
  | usize
  | i8
  | i16
  | i32
  | i64
  | isize
  deriving DecidableEq, Repr

namespace IntegerType

def all : List IntegerType := [u8, u16, u32, u64, usize, i8, i16, i32, i64, isize]

def name : IntegerType → String
  | u8 => "u8"
  | u16 => "u16"
  | u32 => "u32"
  | u64 => "u64"
  | usize => "usize"
  | i8 => "i8"
  | i16 => "i16"
  | i32 => "i32"
  | i64 => "i64"
  | isize => "isize"

end IntegerType

/-- What backs the keys of an enumeration. -/
inductive RawType
  | text
  | integer (type : IntegerType)
  deriving DecidableEq, Repr

namespace RawType

def name : RawType → String
  | text => "String"
  | integer type => type.name

def kind : RawType → KeyKind
  | text => .text
  | integer _ => .integer

/-- What an enumeration over the type conforms to, in alphabetical order. -/
def surface (r : RawType) : List String := ["CodingKey", r.name]

def surfaceText (r : RawType) : String := String.intercalate ", " r.surface

end RawType

/-! ## Causes -/

/-- Why a model has a shape that cannot be persisted. -/
inductive ShapeFault
  | outOfLine
  | generic
  | noNamedFields
  deriving DecidableEq, Repr

/-- Why something is no key enumeration or no case of one. -/
inductive KeyFault
  | notEnum (name : String)
  | generic (name : String)
  | notUnit (case : String)
  | notText (case : String)
  | noText (case : String)
  | keyOfInteger (case : String)
  | notInteger (case : String)
  | malformedRepr (fault : ArgumentFault)
  deriving DecidableEq, Repr

/-- Why a marker is misspelled. -/
inductive MarkerFault
  | takesNoArguments
  | noFlag
  | notConstant
  | arguments (fault : ArgumentFault)
  deriving DecidableEq, Repr

/-- Why a declaration cannot give the storage name. `kind` says what it is. -/
inductive StorageNameFault
  | mutable
  | instanceField
  | noInitializer (kind : String)
  deriving DecidableEq, Repr

/-- Why a marker needs another enumeration. -/
inductive KeyEnumFault
  | ofKind (kind : String)
  | notDerived
  deriving DecidableEq, Repr

/-- Why a description is refused. -/
inductive Problem
  | invalidStorageName (name : String) (fault : StorageNameFault)
  | notField (name kind : String)
  | notKeyEnum (marker : Marker) (name : String) (fault : KeyEnumFault)
  | notFinal (name kind : String)
  | incompleteKeys (keys : String) (missing : List String)
  | surfaceMismatch (old : String) (oldRaw : RawType) (new : String) (newRaw : RawType)
  | unknownCase (keys case field : String)
  | ambiguousCase (keys case : String) (fields : List String)
  | duplicateLiteral (keys : String) (literal : KeyLiteral)
  | duplicateDeclaration (marker : Marker)
  | storageNameNotLiteral
  | missingModel
  | ambiguousModel (candidates : List String)
  | unsupportedShape (name : String) (fault : ShapeFault)
  | reservedName (name : String) (setterOf : Option String)
  | keysLessVisible (keys model visibility : String)
  | invalidKey (fault : KeyFault)
  | invalidMarker (marker : Marker) (fault : MarkerFault)
  deriving DecidableEq, Repr

/-! ## Texts -/

def ticked (s : String) : String := "\x60" ++ s ++ "\x60"

def tickedList (items : List String) : String := String.intercalate ", " (items.map ticked)

def modelAttribute : String := ticked "#[persisted_model]"

namespace ShapeFault

/-- What a model with the fault is like. -/
def message : ShapeFault → String
  | outOfLine =>
    "is declared out of line; " ++ modelAttribute ++ " needs an inline module body"
  | generic =>
    "is generic; persisted models cannot take type, lifetime or const parameters"
  | noNamedFields => "must have named fields"

end ShapeFault

namespace KeyFault

def message : KeyFault → String
  | notEnum name =>
    ticked "CodingKey" ++ " can only be derived for enums; " ++ ticked name ++ " is not one"
  | generic name => ticked "CodingKey" ++ " enums cannot be generic; " ++ ticked name ++ " is"
  | notUnit case => "case " ++ ticked case ++ " must be a unit variant"
  | notText case =>
    ticked "#[key = ...]" ++ " on " ++ ticked case ++ " must be a string literal"
  | noText case => "expected " ++ ticked "#[key = \"...\"]" ++ " on " ++ ticked case
  | keyOfInteger case =>
    "integer-backed key " ++ ticked case ++ " takes its value from the discriminant, not "
      ++ ticked "#[key]"
  | notInteger case => "discriminant of " ++ ticked case ++ " must be an integer literal"
  | malformedRepr fault =>
    "malformed " ++ ticked "#[repr(...)]" ++ ": " ++ fault.message "repr"

end KeyFault

namespace MarkerFault

def message : MarkerFault → String
  | takesNoArguments => "takes no arguments"
  | noFlag =>
    "expected " ++ ticked "#[persisted_ignored]" ++ " or "
      ++ ticked "#[persisted_ignored(constant)]"
  | notConstant => "expected " ++ ticked "constant"
  | arguments fault => fault.message Marker.ignored.name

end MarkerFault

namespace StorageNameFault

/-- What a declaration with the fault is. -/
def message : StorageNameFault → String
  | mutable => "declared " ++ ticked "static mut"
  | instanceField => "an instance field"
  | noInitializer kind => kind ++ " without an initializer"

end StorageNameFault

namespace KeyEnumFault

def message : KeyEnumFault → String
  | ofKind kind => "is " ++ kind
  | notDerived => "does not derive " ++ ticked "CodingKey"

end KeyEnumFault

namespace Problem

def message : Problem → String
  | invalidStorageName name fault =>
    ticked "#[storage_name]" ++ " must be placed on a constant, static declaration with an initializer; "
      ++ ticked name ++ " is " ++ fault.message
  | notField name kind =>
    ticked "#[persisted_ignored]" ++ " can only be applied to a field of the model struct; "
      ++ ticked name ++ " is " ++ kind
  | notKeyEnum marker name fault =>
    ticked ("#[" ++ marker.name ++ "]") ++ " requires an enum deriving " ++ ticked "CodingKey"
      ++ "; " ++ ticked name ++ " " ++ fault.message
  | notFinal name kind =>
    modelAttribute ++ " requires a closed struct type; " ++ ticked name ++ " is " ++ kind
  | incompleteKeys keys missing =>
    "coding key enum " ++ ticked keys ++ " has no case for persisted field(s): "
      ++ tickedList missing
  | surfaceMismatch old oldRaw new newRaw =>
    "migration keys " ++ ticked old ++ " conform to \x7b" ++ oldRaw.surfaceText
      ++ "\x7d but model keys " ++ ticked new ++ " conform to \x7b" ++ newRaw.surfaceText ++ "\x7d"
  | unknownCase keys case field =>
    "key case " ++ ticked case ++ " of " ++ ticked keys
      ++ " does not match any persisted field (expected a field named " ++ ticked field ++ ")"
  | ambiguousCase keys case fields =>
    "key case " ++ ticked case ++ " of " ++ ticked keys
      ++ " matches more than one persisted field: " ++ tickedList fields
  | duplicateLiteral keys literal =>
    "key literal " ++ literal.display ++ " is used by more than one case of " ++ ticked keys
  | duplicateDeclaration marker =>
    "only one " ++ ticked ("#[" ++ marker.name ++ "]") ++ " declaration is allowed per model"
  | storageNameNotLiteral => ticked "#[storage_name]" ++ " initializer must be a string literal"
  | missingModel => modelAttribute ++ " module contains no model struct"
  | ambiguousModel candidates =>
    modelAttribute ++ " module contains several structs (" ++ tickedList candidates
      ++ "); name the model with " ++ ticked "#[persisted_model(Name)]"
  | unsupportedShape name fault => "model " ++ ticked name ++ " " ++ fault.message
  | reservedName name setterOf =>
    let member := match setterOf with
      | some owner => name ++ " (setter of " ++ ticked owner ++ ")"
      | none => name
    "field " ++ ticked name ++ " collides with the synthesized member " ++ ticked member
  | keysLessVisible keys model visibility =>
    "coding key enum " ++ ticked keys ++ " must be at least as visible as model " ++ ticked model
      ++ " (" ++ ticked visibility ++ ")"
  | invalidKey fault => "invalid key attribute: " ++ fault.message
  | invalidMarker marker fault =>
    "invalid marker " ++ ticked ("#[" ++ marker.name ++ "]") ++ ": " ++ fault.message

def kind : Problem → String
  | invalidStorageName _ _ => "InvalidStorageNameField"
  | notField _ _ => "NotAField"
  | notKeyEnum _ _ _ => "NotAKeyEnum"
  | notFinal _ _ => "NotFinal"
  | incompleteKeys _ _ => "IncompleteCodingKeys"
  | surfaceMismatch _ _ _ _ => "MigrationKeySurfaceMismatch"
  | unknownCase _ _ _ => "UnknownKeyCase"
  | ambiguousCase _ _ _ => "AmbiguousKeyCase"
  | duplicateLiteral _ _ => "DuplicateKeyLiteral"
  | duplicateDeclaration _ => "DuplicateDeclaration"
  | storageNameNotLiteral => "StorageNameNotLiteral"
  | missingModel => "MissingModel"
  | ambiguousModel _ => "AmbiguousModel"
  | unsupportedShape _ _ => "UnsupportedModelShape"
  | reservedName _ _ => "ReservedFieldName"
  | keysLessVisible _ _ _ => "KeyEnumLessVisible"
  | invalidKey _ => "InvalidKeyAttribute"
  | invalidMarker _ _ => "InvalidMarker"

end Problem

/-! ## Diagnostics -/

/-- A replacement that mends a problem (`FixIt`). Without an old text the new one is
    added. -/
structure Fix where
  old : String
  new : String
  deriving DecidableEq, Repr

/-- The line that offers a fix. -/
def Fix.help (f : Fix) : String :=
  if f.old.isEmpty then "help: add " ++ ticked f.new
  else "help: replace " ++ ticked f.old ++ " with " ++ ticked f.new

/-- A reported problem and perhaps its fix. -/
structure Diagnostic where
  problem : Problem
  fix : Option Fix
  deriving DecidableEq, Repr

namespace Diagnostic

def ofProblem (p : Problem) : Diagnostic := ⟨p, none⟩

def withFix (p : Problem) (old new : String) : Diagnostic := ⟨p, some ⟨old, new⟩⟩

/-- The texts of a diagnostic: its message, and the line that offers its fix. -/
def rendered (d : Diagnostic) : List String :=
  d.problem.message :: (d.fix.map Fix.help).toList

end Diagnostic

end KeyedRecords.Description
