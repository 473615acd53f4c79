import KeyedRecords.Description.KeyEnum
import KeyedRecords.Description.Naming
import KeyedRecords.Key.Schema

/-!
# Key sets

The keys that the persisted fields of a model are stored under (§ 4.2 of the
specification). Without a declared enumeration every field has a case of its own,
with its label as the literal. A declared enumeration has to cover the fields one to
one.

* `KeySet.implicit`: the keys of fields without a declared enumeration.
* `KeySet.bind`: the keys of fields under a declared one, and where it does not
  cover them.
-/

namespace KeyedRecords.Description

open Source Text

/-- Where a key set comes from. -/
inductive KeySource
  | implicit
  | declared
  deriving DecidableEq, Repr

def KeySource.name : KeySource → String
  | implicit => "Implicit"
  | declared => "Declared"

structure KeyBinding where
  field : Ident
  case : Ident
  literal : KeyLiteral
  deriving DecidableEq, Repr

def KeyBinding.toCase (b : KeyBinding) : EnumCase := ⟨b.case, b.literal⟩

/-- The keys of the persisted fields. `cases` are all cases of the enumeration in the
    order of their declaration, and `bindings` follow the order of the fields. -/
structure KeySet where
  name : Ident
  source : KeySource
  raw : RawType
  cases : List EnumCase
  bindings : List KeyBinding
  deriving DecidableEq, Repr

namespace KeySet

def binding? (k : KeySet) (field : Ident) : Option KeyBinding :=
  k.bindings.find? fun b => b.field = field

/-- The key schema that records written with these keys are known by. -/
def schema (k : KeySet) : KeySchema :=
  ⟨k.raw.kind, k.cases.map fun c => ⟨c.name.text, c.literal⟩⟩

/-! ## Without a declared enumeration -/

def implicitBinding (field : Ident) : KeyBinding :=
  ⟨field, implicitCase field, .text (fieldLabel field)⟩

/-- The keys of the fields of a model when none are declared (`implicit_keys`). -/
def implicit (model : Ident) (fields : List Ident) : KeySet :=
  let bindings := fields.map implicitBinding
  ⟨persistedKeysName model, .implicit, .text, bindings.map KeyBinding.toCase, bindings⟩

/-! ## Under a declared enumeration -/

/-- The labels that a case stands for. -/
def claimed (c : EnumCase) (labels : List String) : List String := labels.filter c.isFor

/-- What is wrong with a case that does not stand for exactly one label. -/
def caseProblem (keys : Ident) (labels : List String) (c : EnumCase) : Option Problem :=
  match claimed c labels with
  | [] => some (.unknownCase keys.text c.name.text c.expectedField)
  | [_] => none
  | many => some (.ambiguousCase keys.text c.name.text many)

def missing (k : KeyEnum) (labels : List String) : List String :=
  labels.filter fun l => (k.caseFor? l).isNone

/-- Labels without a case are reported together, with the cases that would stand for
    them. -/
def missingProblems (k : KeyEnum) (labels : List String) : List Diagnostic :=
  let labels := missing k labels
  if labels.isEmpty then []
  else
    [.withFix (.incompleteKeys k.name.text labels) ""
      (String.intercalate ", " (labels.map upperCamelCase))]

/-- Where an enumeration does not cover fields one to one. -/
def coverProblems (k : KeyEnum) (fields : List Ident) : List Diagnostic :=
  let labels := fields.map fieldLabel
  k.duplicateProblems ++ (k.cases.filterMap (caseProblem k.name labels)).map .ofProblem
    ++ missingProblems k labels

/-- The key of a field under a declared enumeration. -/
def declaredBinding? (k : KeyEnum) (field : Ident) : Option KeyBinding :=
  (k.caseFor? (fieldLabel field)).map fun c => ⟨field, c.name, c.literal⟩

def declared (k : KeyEnum) (fields : List Ident) : KeySet :=
  ⟨k.name, .declared, k.raw, k.cases, fields.filterMap (declaredBinding? k)⟩

/-- The keys of fields under a declared enumeration, and where it does not cover them
    (`bind_key_enum`). -/
def bind (k : KeyEnum) (fields : List Ident) : KeySet × List Diagnostic :=
  (declared k fields, coverProblems k fields)

end KeySet

end KeyedRecords.Description
