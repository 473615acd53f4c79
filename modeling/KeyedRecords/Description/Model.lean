import KeyedRecords.Description.Declaration

/-!
# Finding the model

A model is described by a structure alone, or by a module that holds the structure
and marked declarations next to it.

* `find`: the description of a model, where it stands, and what is wrong.
* `Placement.tokens`: the text with something in place of the model.
-/

namespace KeyedRecords.Description

open Source

/-- Everything that the compiler sees of a model. Only structures are final. `attrs` and
    `derives` are the attributes of the structure. -/
structure ModelDescription where
  name : Ident
  vis : Visibility
  isFinal : Bool
  kind : String
  attrs : List Attribute
  derives : List Attribute
  declarations : List Declaration

/-- Where a model stands: alone, or as an item of a module. The items have lost their
    markers. -/
inductive Placement
  | alone
  | inModule (head : ModuleHead) (items : List Item) (index : Nat)

namespace Placement

def moduleTokens (head : ModuleHead) (items : List Tokens) : Tokens :=
  head.tokens (some items.flatten)

/-- The text of the surroundings with `model` in place of the model. -/
def tokens (p : Placement) (model : Tokens) : Tokens :=
  match p with
  | alone => model
  | inModule head items index => moduleTokens head ((items.map Item.tokens).set index model)

/-- The surroundings with the model as it was found. -/
def stripped? : Placement → Option Tokens
  | alone => none
  | inModule head items _ => some (moduleTokens head (items.map Item.tokens))

end Placement

structure Found where
  placement : Placement
  model : ModelDescription

namespace ModelDescription

/-- The description of something that is no structure (`not_final`). -/
def notFinal (i : Item) (name : Ident) : ModelDescription :=
  ⟨name, i.vis, false, i.kind, [], [], []⟩

/-- Why a structure cannot be a model. -/
def shapeFault? (s : StructItem) : Option ShapeFault :=
  if !s.generics.isPlain then some .generic
  else
    match s.fields with
    | .named _ _ => none
    | _ => some .noNamedFields

def unmarkedFields : Fields → Fields
  | .named fields trailing => .named (fields.map fun f => { f with attrs := unmarked f.attrs }) trailing
  | fields => fields

def namedFields : Fields → List Field
  | .named fields _ => fields
  | _ => []

/-- The description of a structure, and what is wrong with it (`describe_struct`). -/
def ofStruct (s : StructItem) : Option ModelDescription × List Diagnostic :=
  match shapeFault? s with
  | some fault => (none, [.ofProblem (.unsupportedShape s.name.text fault)])
  | none =>
    let fields := (namedFields s.fields).map Declaration.ofField
    (some ⟨s.name, s.vis, true, "a struct", nonDerives s.attrs, Description.derives s.attrs,
        fields.map Prod.fst⟩,
      fields.flatMap Prod.snd)

end ModelDescription

/-! ## In a module -/

/-- Where the model of a module stands (`find_model`): the item with the given name, or else
    its only structure. -/
def findModel (name : Option Ident) (items : List Item) : Except Problem Nat :=
  match name with
  | some name =>
    match items.findIdx? fun i => i.ident? = some name with
    | some index => .ok index
    | none => .error .missingModel
  | none =>
    match items.findIdx? Item.isStruct with
    | none => .error .missingModel
    | some index =>
      let structs := items.filter Item.isStruct
      if structs.length = 1 then .ok index
      else .error (.ambiguousModel ((structs.filterMap Item.ident?).map Ident.text))

/-- The item that holds the model, without the markers of its fields. -/
def unmarkedModel : Item → Item
  | .struct s => .struct { s with fields := ModelDescription.unmarkedFields s.fields }
  | i => i

def unmarkedItems (items : List Item) (index : Nat) : List Item :=
  items.mapIdx fun k i => if k = index then unmarkedModel i else unmarkedItem i

/-- The declarations next to the model, and what is wrong with them. -/
def neighbours (items : List Item) (index : Nat) : List (Option Declaration × List Diagnostic) :=
  (items.eraseIdx index).map Declaration.ofItem

def describeModel (fallback : Ident) : Item → Option ModelDescription × List Diagnostic
  | .struct s => ModelDescription.ofStruct s
  | i => (some (.notFinal i (i.ident?.getD fallback)), [])

def findInModule (name : Option Ident) (head : ModuleHead) (items : List Item) :
    Option Found × List Diagnostic :=
  match findModel name items with
  | .error problem => (none, [.ofProblem problem])
  | .ok index =>
    let around := neighbours items index
    let problems := around.flatMap Prod.snd
    match items[index]? with
    | none => (none, problems)
    | some item =>
      let (model, modelProblems) := describeModel head.name item
      let found := model.map fun m =>
        (⟨.inModule head (unmarkedItems items index) index,
          { m with declarations := m.declarations ++ around.filterMap Prod.fst }⟩ : Found)
      (found, problems ++ modelProblems)

/-! ## Anywhere -/

/-- The model that an item describes, and what is wrong (`parse_model`). `name` tells which
    item of a module is meant. -/
def find (name : Option Ident) (item : Item) : Option Found × List Diagnostic :=
  match item with
  | .module head none => (none, [.ofProblem (.unsupportedShape head.name.text .outOfLine)])
  | .module head (some items) => findInModule name head items
  | i =>
    let (model, problems) := describeModel (.ofName "item") i
    (model.map fun m => ⟨.alone, m⟩, problems)

end KeyedRecords.Description
