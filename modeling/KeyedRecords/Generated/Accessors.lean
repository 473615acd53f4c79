import KeyedRecords.Description.Plan
import KeyedRecords.Generated.Template

/-!
# Generated accessors

The structure of a model and its members (§§ 4.3 and 10.5 of the specification).
Ignored fields stay in the structure; persisted ones are kept apart and loaded when
they are first used. A setter of a persisted field writes the record back before it
returns.

Names that are introduced here begin with two underscores, so that none of them
is the name of a field.

* `members`: the members of a model.
* `modelStructure`: the structure.
-/

namespace KeyedRecords.Generated

open Source Description

/-! ## The structure -/

def typedFields (fields : List (Ident × Tokens)) : Tokens :=
  commaTerminated (fields.map fun f => typed f.1.tokens f.2)

def persistedTypes (p : ModelPlan) : List (Ident × Tokens) :=
  p.persisted.map fun f => (f.name, f.type)

def ignoredTypes (p : ModelPlan) : List (Ident × Tokens) := p.ignored.map fun f => (f.name, f.type)

/-- The names and types of the ignored fields that constructors set. -/
def constantTypes (p : ModelPlan) : List (Ident × Tokens) :=
  (p.ignored.filter IgnoredField.constant).map fun f => (f.name, f.type)

def slots (p : ModelPlan) : Tokens := (slotsName p.name).tokens

/-- What keeps the persisted fields of a model. -/
def slotsHolder : Tokens := runtime "slots :: PersistedSlots"

def modelStructure (p : ModelPlan) : Tokens :=
  attributeTokens p.attrs ++ p.vis.tokens ++ words "struct" ++ p.name.tokens
    ++ braces (typedFields (ignoredTypes p)
      ++ commaTerminated [typed (words slotsField) (slotsHolder ++ angle (slots p)),
        typed (words contextField) contextType])

/-! ## Accessors of fields -/

def fieldIdentity (label : String) : Tokens :=
  runtime "observation :: FieldId :: new"
    ++ parens (words "Self :: MODEL_NAME ," ++ textLiteral label)

/-- Tells the context that a field is read. -/
def notifyAccess (label : String) : Tokens :=
  words "self . __context . access" ++ parens (fieldIdentity label) ++ operator ";"

/-- The persisted fields, loaded if they are not. -/
def loadedSlots : Tokens := words "self . __slots . get_or_load" ++ parens (words "& self . __context")

def setterParameters (type : Tokens) : Tokens :=
  words "& mut self ," ++ typed (words "value") type

def persistedGetter (f : PersistedField) : Member :=
  .function (attributeTokens (docs f.attrs)) f.vis f.name (words "& self")
    (resultOf (reference f.type))
    (notifyAccess (fieldLabel f.name)
      ++ okOf (operator "&" ++ loadedSlots ++ words "? ." ++ f.name.tokens))

def persistedSetter (f : PersistedField) : Member :=
  .function [] f.vis (setterName f.name) (setterParameters f.type) (resultOf (parens []))
    (words "let __context = & self . __context ;"
      ++ words "let __slots = self . __slots . get_mut_or_load" ++ parens (words "__context")
      ++ words "? ;"
      ++ words "__context . commit" ++ parens (commaTerminated [
        fieldIdentity (fieldLabel f.name),
        words "__slots",
        words "| __record | & mut __record ." ++ f.name.tokens,
        words "value"]))

def ignoredGetter (f : IgnoredField) : Member :=
  .function (attributeTokens (docs f.attrs)) f.vis f.name (words "& self") (reference f.type)
    (notifyAccess (fieldLabel f.name) ++ words "& self ." ++ f.name.tokens)

def ignoredSetter (f : IgnoredField) : Member :=
  .procedure [] f.vis (setterName f.name) (setterParameters f.type)
    (words "self . __context . mutate" ++ parens (commaTerminated [
      fieldIdentity (fieldLabel f.name),
      words "& mut self ." ++ f.name.tokens,
      words "value"]) ++ operator ";")

def persistedAccessors (f : PersistedField) : List Member := [persistedGetter f, persistedSetter f]

/-- The accessors of an ignored field. A constant one has no setter. -/
def ignoredAccessors (f : IgnoredField) : List Member :=
  if f.constant then [ignoredGetter f] else [ignoredGetter f, ignoredSetter f]

/-! ## Constructors -/

/-- The parameters of a constructor after those in front of the context. -/
def contextParameters (fields : List (Ident × Tokens)) : Tokens :=
  typed (words contextField) contextType ++ operator ","
    ++ joinWith (operator ",") (fields.map fun f => typed f.1.tokens f.2)

def modelValue (ignored : List Tokens) (persisted : Tokens) : Tokens :=
  words "Self" ++ braces (commaTerminated (ignored ++ [
    typed (words slotsField) (slotsHolder ++ persisted),
    typed (words contextField) (words contextField)]))

/-- The ignored fields of a model that is not new (`ignored_initializers`): constructors set
    the constant ones, and the others have their defaults. -/
def ignoredDefaults (p : ModelPlan) : List Tokens :=
  p.ignored.map fun f =>
    if f.constant then f.name.tokens
    else typed f.name.tokens (std "default :: Default :: default" ++ parens [])

/-- A model whose persisted fields are a record that was read. -/
def loadedModel (p : ModelPlan) : Tokens :=
  modelValue (ignoredDefaults p) (words ":: loaded" ++ parens (words "__record"))

def constructors (p : ModelPlan) : List Member := [
  .function (docLine "Creates the model and writes its record immediately.") p.vis (.ofName "new")
    (contextParameters (persistedTypes p ++ ignoredTypes p)) (resultOf (words "Self"))
    (words "let __model =" ++ modelValue (p.ignored.map fun f => f.name.tokens)
        (words ":: loaded" ++ parens (slots p
          ++ braces (commaTerminated (p.persisted.map fun f => f.name.tokens))))
      ++ words "; __model . save" ++ parens [] ++ words "? ;" ++ okOf (words "__model")),
  .function (docLine "Binds to the stored record without reading it; the first"
      ++ docLine "accessor call loads it.") p.vis (.ofName "open")
    (contextParameters (constantTypes p)) (words "Self")
    (modelValue (ignoredDefaults p) (words ":: unloaded" ++ parens [])),
  .function [] p.vis (.ofName "load") (contextParameters (constantTypes p)) (resultOf (words "Self"))
    (words "let __record = __context . load ::" ++ angle (slots p) ++ parens [] ++ words "? ;"
      ++ okOf (loadedModel p)),
  .function [] p.vis (.ofName "decode_from")
    (typed (words "__container") (reference (runtime "container :: RecordContainer"))
      ++ operator "," ++ contextParameters (constantTypes p))
    (resultOr (words "Self") "DecodeError")
    (words "let __record =" ++ angle (slots p ++ words "as" ++ runtime "traits :: PersistedRecord")
      ++ words ":: from_container" ++ parens (words "__container") ++ words "? ;"
      ++ okOf (loadedModel p))]

/-! ## Records -/

/-- The members that read and write the record as a whole (`generate_record_ops`). -/
def recordMembers (p : ModelPlan) : List Member := [
  .function [] p.vis (.ofName "encode_to")
    (commaTerminated [words "& self", typed (words "encoder")
      (mutableReference (runtime "container :: KeyedEncoder" ++ angle p.keys.name.tokens))])
    (resultOf (parens []))
    (words "let __record =" ++ loadedSlots ++ words "? ;"
      ++ runtime "traits :: PersistedRecord :: encode_record"
      ++ parens (words "__record , encoder") ++ words "? ;" ++ okUnit),
  .function [] p.vis (.ofName "save") (words "& self") (resultOf (parens []))
    (words "let __record =" ++ loadedSlots ++ words "? ; self . __context . save"
      ++ parens (words "__record")),
  .function (docLine "Discards the in-memory copy and reads the stored record again.") p.vis
    (.ofName "reload") (words "& mut self") (resultOf (parens []))
    (words "let __record = self . __context . load ::" ++ angle (slots p) ++ parens []
      ++ words "? ; self . __slots . replace" ++ parens (words "__record") ++ operator ";" ++ okUnit),
  .function [] p.vis (.ofName "is_persisted")
    (commaTerminated [typed (words "context") (reference contextType)]) (resultOf (words "bool"))
    (words "context . is_persisted" ++ parens []),
  .function (docLine "File-backed context for this model's record.") p.vis (.ofName "context")
    (typed (words "config") (reference (runtime "config :: StorageConfig"))) contextType
    (contextType ++ words ":: file" ++ parens (words "config , Self :: STORAGE_NAME")),
  .function [] p.vis (.ofName "model_context") (words "& self") (reference contextType)
    (words "& self . __context")]

def nameConstants (p : ModelPlan) : List Member := [
  .constant p.vis "MODEL_NAME" staticText (textLiteral p.name.text),
  .constant p.vis "STORAGE_NAME" staticText (textLiteral p.storageName)]

/-! ## The model -/

/-- The members of a model, those of a migration apart. -/
def members (p : ModelPlan) : List Member :=
  nameConstants p ++ constructors p ++ recordMembers p ++ p.persisted.flatMap persistedAccessors
    ++ p.ignored.flatMap ignoredAccessors

/-- What makes the structure a persisted model. -/
def modelImplementation (p : ModelPlan) : Tokens :=
  implementation (runtime "traits :: PersistedModel" ++ words "for" ++ p.name.tokens) [
    .type "Record" (slots p),
    .constant .inherited "MODEL_NAME" staticText (partOf p.name (.ofName "MODEL_NAME")),
    .constant .inherited "STORAGE_NAME" staticText (partOf p.name (.ofName "STORAGE_NAME"))]

/-- The structure of a model with its members. -/
def accessors (p : ModelPlan) : Tokens :=
  modelStructure p ++ implementation p.name.tokens (members p) ++ modelImplementation p

end KeyedRecords.Generated
