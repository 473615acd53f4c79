import KeyedRecords.Source.Attribute

/-!
# Items

The declarations of a module. Constants, enumerations, structures and modules
are kept in parts; of any other item only its attributes, visibility and name
matter, and the rest is kept as tokens.

* `Item.tokens`: the tokens of an item.
* `Item.kind`: what an item is, for messages.
-/

namespace KeyedRecords.Source

structure Field where
  attrs : List Attribute
  vis : Visibility
  name : Ident
  type : Tokens

/-- The fields of a structure. A trailing comma is kept. -/
inductive Fields
  | named (fields : List Field) (trailing : Bool)
  | positional (content : Tokens)
  | none

/-- The generic parameters of an item and its where clause, if it has one. -/
structure Generics where
  parameters : Tokens
  whereClause : Option Tokens

def Generics.isPlain (g : Generics) : Bool := g.parameters.isEmpty && g.whereClause.isNone

structure StructItem where
  attrs : List Attribute
  vis : Visibility
  name : Ident
  generics : Generics
  fields : Fields

/-- A case of an enumeration. `payload` are its fields in their delimiters. -/
structure Variant where
  attrs : List Attribute
  name : Ident
  payload : Option Tokens
  discriminant : Option Expr

structure EnumItem where
  attrs : List Attribute
  vis : Visibility
  name : Ident
  generics : Generics
  variants : List Variant
  trailing : Bool

/-- Whether a named value is a constant or a static, and whether that may change. -/
inductive ValueKind
  | constant
  | fixed
  | mutable
  deriving DecidableEq, Repr

structure ValueItem where
  attrs : List Attribute
  vis : Visibility
  kind : ValueKind
  name : Ident
  type : Tokens
  value : Expr

/-- The kinds of items that are not kept in parts. -/
inductive OtherKind
  | externCrate
  | function
  | externBlock
  | implementation
  | macroCall
  | trait
  | traitAlias
  | typeAlias
  | union
  | use
  deriving DecidableEq, Repr

/-- An item of another kind. `head` are the tokens after its visibility, and `body` the
    content of the braces at its end. -/
structure OtherItem where
  kind : OtherKind
  attrs : List Attribute
  vis : Visibility
  name : Option Ident
  head : Tokens
  body : Option Tokens

/-- What a module is apart from its items. -/
structure ModuleHead where
  attrs : List Attribute
  vis : Visibility
  isUnsafe : Bool
  name : Ident

/-- An item. A module without content is declared elsewhere; a verbatim item has no
    parts at all. -/
inductive Item
  | value (v : ValueItem)
  | enum (e : EnumItem)
  | struct (s : StructItem)
  | module (head : ModuleHead) (content : Option (List Item))
  | other (o : OtherItem)
  | verbatim (tokens : Tokens)

/-! ## Tokens -/

/-- The attributes that stand in front. -/
def outerTokens (attrs : List Attribute) : Tokens :=
  attributeTokens (attrs.filter fun a => !a.inner)

/-- The attributes that stand at the start of the body. -/
def innerTokens (attrs : List Attribute) : Tokens :=
  attributeTokens (attrs.filter fun a => a.inner)

/-- Lists of tokens with commas between them and perhaps after them. -/
def commaSeparated (items : List Tokens) (trailing : Bool) : Tokens :=
  joinWith (operator ",") items ++ if trailing then operator "," else []

def Field.tokens (f : Field) : Tokens :=
  attributeTokens f.attrs ++ f.vis.tokens ++ f.name.tokens ++ operator ":" ++ f.type

def Generics.whereTokens (g : Generics) : Tokens := g.whereClause.getD []

def StructItem.tokens (s : StructItem) : Tokens :=
  let body := match s.fields with
    | .named fields trailing =>
      s.generics.whereTokens ++ braces (commaSeparated (fields.map Field.tokens) trailing)
    | .positional content => parens content ++ s.generics.whereTokens ++ operator ";"
    | .none => s.generics.whereTokens ++ operator ";"
  outerTokens s.attrs ++ s.vis.tokens ++ words "struct" ++ s.name.tokens ++ s.generics.parameters
    ++ body

def Variant.tokens (v : Variant) : Tokens :=
  let discriminant := match v.discriminant with
    | some e => operator "=" ++ e.tokens
    | none => []
  attributeTokens v.attrs ++ v.name.tokens ++ v.payload.getD [] ++ discriminant

def EnumItem.tokens (e : EnumItem) : Tokens :=
  outerTokens e.attrs ++ e.vis.tokens ++ words "enum" ++ e.name.tokens ++ e.generics.parameters
    ++ e.generics.whereTokens
    ++ braces (commaSeparated (e.variants.map Variant.tokens) e.trailing)

def ValueKind.tokens : ValueKind → Tokens
  | constant => words "const"
  | fixed => words "static"
  | mutable => words "static mut"

def ValueItem.tokens (v : ValueItem) : Tokens :=
  outerTokens v.attrs ++ v.vis.tokens ++ v.kind.tokens ++ v.name.tokens ++ operator ":" ++ v.type
    ++ operator "=" ++ v.value.tokens ++ operator ";"

def OtherItem.tokens (o : OtherItem) : Tokens :=
  let body := match o.body with
    | some content => braces (innerTokens o.attrs ++ content)
    | none => []
  outerTokens o.attrs ++ o.vis.tokens ++ o.head ++ body

/-- The tokens of a module, given those of its items. -/
def ModuleHead.tokens (m : ModuleHead) (content : Option Tokens) : Tokens :=
  let body := match content with
    | some ts => braces (innerTokens m.attrs ++ ts)
    | none => operator ";"
  outerTokens m.attrs ++ m.vis.tokens ++ (if m.isUnsafe then words "unsafe" else [])
    ++ words "mod" ++ m.name.tokens ++ body

mutual

def Item.tokens : Item → Tokens
  | .value v => v.tokens
  | .enum e => e.tokens
  | .struct s => s.tokens
  | .module head none => head.tokens none
  | .module head (some items) => head.tokens (some (Item.allTokens items))
  | .other o => o.tokens
  | .verbatim ts => ts

def Item.allTokens : List Item → Tokens
  | [] => []
  | i :: is => Item.tokens i ++ Item.allTokens is

end

/-! ## Views -/

def OtherKind.description : OtherKind → String
  | externCrate => "an extern crate declaration"
  | function => "a function"
  | externBlock => "an extern block"
  | implementation => "an impl block"
  | macroCall => "a macro invocation"
  | trait => "a trait"
  | traitAlias => "a trait alias"
  | typeAlias => "a type alias"
  | union => "a union"
  | use => "a use declaration"

namespace Item

def kind : Item → String
  | value v => if v.kind = .constant then "a const item" else "a static item"
  | enum _ => "an enum"
  | struct _ => "a struct"
  | module _ _ => "a module"
  | other o => o.kind.description
  | verbatim _ => "an unsupported item"

def ident? : Item → Option Ident
  | value v => some v.name
  | enum e => some e.name
  | struct s => some s.name
  | module head _ => some head.name
  | other o => o.name
  | verbatim _ => none

/-- The visibility of an item that has a name. -/
def vis : Item → Visibility
  | value v => v.vis
  | enum e => e.vis
  | struct s => s.vis
  | module head _ => head.vis
  | other o => if o.name.isSome then o.vis else .inherited
  | verbatim _ => .inherited

def attrs : Item → List Attribute
  | value v => v.attrs
  | enum e => e.attrs
  | struct s => s.attrs
  | module head _ => head.attrs
  | other o => o.attrs
  | verbatim _ => []

/-- The item with other attributes. A verbatim item has none to replace. -/
def withAttrs (attrs : List Attribute) : Item → Item
  | value v => value { v with attrs }
  | enum e => enum { e with attrs }
  | struct s => struct { s with attrs }
  | module head content => module { head with attrs } content
  | other o => other { o with attrs }
  | verbatim ts => verbatim ts

def isStruct : Item → Bool
  | struct _ => true
  | _ => false

def isDerivable : Item → Bool
  | struct _ => true
  | enum _ => true
  | other o => o.kind = .union
  | _ => false

end Item

end KeyedRecords.Source
