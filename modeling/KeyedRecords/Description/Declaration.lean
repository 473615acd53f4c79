import KeyedRecords.Description.KeyEnum
import KeyedRecords.Description.Naming

/-!
# Declarations of a model

What the compiler sees of a model: the fields of its structure, and the marked
declarations next to it.
-/

namespace KeyedRecords.Description

open Source

inductive DeclarationKind
  | field
  | value (kind : ValueKind)
  | enum
  | item (description : String)
  deriving DecidableEq, Repr

def DeclarationKind.description : DeclarationKind → String
  | field => "a struct field"
  | value .constant => "a const item"
  | value _ => "a static item"
  | enum => "an enum"
  | item description => description

/-- A declaration of a model. `attrs` are the attributes of a field that are no markers;
    `deriveList` and `keyEnum` are of an enumeration. -/
structure Declaration where
  name : Ident
  kind : DeclarationKind
  markers : Markers
  type : Option Tokens := none
  vis : Visibility := .inherited
  initializer : Option Expr := none
  keyEnum : Option KeyEnum := none
  deriveList : Option String := none
  attrs : List Attribute := []

namespace Declaration

def hasInitializer (d : Declaration) : Bool :=
  match d.kind with
  | .value _ => true
  | _ => false

/-- Whether the declaration is one of a module and not of an instance. -/
def isStatic (d : Declaration) : Bool := d.hasInitializer

/-- Whether the field is ignored and set by constructors only. -/
def isIgnoredConstant (d : Declaration) : Bool := d.markers.isConstant

/-- Whether the declared value never changes. -/
def isConstant (d : Declaration) : Bool :=
  match d.kind with
  | .field => d.isIgnoredConstant
  | .value kind => kind ≠ .mutable
  | _ => false

def label (d : Declaration) : String := fieldLabel d.name

/-- The declaration that a field of the model is, and what is wrong with its markers. -/
def ofField (f : Field) : Declaration × List Diagnostic :=
  (⟨f.name, .field, .ofAttributes f.attrs, some f.type, f.vis, none, none, none, unmarked f.attrs⟩,
    markerProblems f.attrs)

/-- The declaration that an enumeration next to the model is. Its cases are read if it
    is marked as keys. -/
def ofEnum (e : EnumItem) : Declaration × List Diagnostic :=
  let markers := Markers.ofAttributes e.attrs
  let rest := unmarked e.attrs
  let base : Declaration := ⟨e.name, .enum, markers, none, e.vis, none, none, deriveAttributeText rest, []⟩
  if markers.modelKeys || markers.migrationKeys then
    let (keys, problems) := KeyEnum.ofParts e.name rest e.variants
    ({ base with keyEnum := some keys }, problems)
  else (base, [])

def ofMarkedItem : Item → Declaration × List Diagnostic
  | .value v =>
    (⟨v.name, .value v.kind, .ofAttributes v.attrs, some v.type, v.vis, some v.value, none, none, []⟩,
      [])
  | .enum e => ofEnum e
  | i =>
    (⟨i.ident?.getD (.ofName "item"), .item i.kind, .ofAttributes i.attrs, none, .inherited, none,
      none, none, []⟩, [])

/-- The declaration that an item next to the model is, if it carries a marker, and what is
    wrong with its markers (`describe_item`). -/
def ofItem (i : Item) : Option Declaration × List Diagnostic :=
  if (Markers.ofAttributes i.attrs).isEmpty then (none, markerProblems i.attrs)
  else
    let (d, problems) := ofMarkedItem i
    (some d, markerProblems i.attrs ++ problems)

end Declaration

def unmarkedItem (i : Item) : Item := i.withAttrs (unmarked i.attrs)

end KeyedRecords.Description
