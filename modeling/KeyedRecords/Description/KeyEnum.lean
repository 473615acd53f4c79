import KeyedRecords.Description.Marker
import KeyedRecords.Text.Words

/-!
# Key enumerations

An enumeration whose cases are the keys of a record (§ 10.2 of the specification).
Each case has a literal: over texts its name in snake case, unless a `key` attribute
gives another; over integers its discriminant.

* `KeyEnum.ofParts`: the cases of an enumeration, and what is wrong with others.
* `KeyEnum.duplicates`: the cases that repeat the literal of an earlier case.
-/

namespace KeyedRecords.Description

open Source Text

structure EnumCase where
  name : Ident
  literal : KeyLiteral
  deriving DecidableEq, Repr

namespace EnumCase

/-- Whether the case stands for the field with this label (`matches_field`). The label is
    camel-cased, so that `Value2` stands for `value_2`. -/
def isFor (c : EnumCase) (label : String) : Bool := c.name.name == upperCamelCase label

/-- The name of the field that is expected for a case without one (`expected_field`). -/
def expectedField (c : EnumCase) : String := snakeCase c.name.name

end EnumCase

/-- A key enumeration. `conforms` tells whether it derives what makes it one. -/
structure KeyEnum where
  name : Ident
  conforms : Bool
  raw : RawType
  cases : List EnumCase
  deriving DecidableEq, Repr

/-! ## The type that backs the cases -/

def IntegerType.ofIdent (i : Ident) : Option IntegerType := all.find? fun t => i.isWord t.name

def IntegerType.ofPath (p : Path) : Option IntegerType := p.ident? >>= ofIdent

/-- The integer type that the `repr` attributes name, the last one if there are several, and
    the fault of the first that cannot be read (`integer_repr`). With a fault there is no
    type. -/
def reprOf : List Attribute → Option IntegerType → Option IntegerType × Option ArgumentFault
  | [], found => (found, none)
  | a :: as, found =>
    match a.nestedPaths true with
    | (_, some fault) => (none, some fault)
    | (paths, none) => reprOf as (((paths.filterMap IntegerType.ofPath).getLast?).or found)

def integerRepr (attrs : List Attribute) : Option IntegerType × List Diagnostic :=
  let (type, fault) := reprOf (attrs.filter fun a => a.isNamed "repr") none
  (type, (fault.map fun f => Diagnostic.ofProblem (.invalidKey (.malformedRepr f))).toList)

/-! ## Literals -/

/-- The integer that an expression stands for, if it is a literal under signs and
    parentheses that fits in 64 bits (`parse_int`). -/
def integerValue? : Expr → Option Int64
  | .literal _ text =>
    (Literal.naturalValue? text).bind fun n =>
      if n < 0x8000000000000000 then some (Int64.ofNat n) else none
  | .negation _ e => (integerValue? e).map fun i => -i
  | .paren _ e => integerValue? e
  | .group e => integerValue? e
  | .other _ => none

/-- The attribute that gives the literal of a case (`key_attribute`). -/
def keyAttribute? (v : Variant) : Option Attribute := v.attrs.find? fun a => a.isNamed "key"

/-- The literal of a case over texts when no attribute gives another. -/
def defaultLiteral (v : Variant) : KeyLiteral := .text (snakeCase v.name.name)

/-- The literal of a case over texts (`string_literal`). A misspelled attribute is reported
    and not regarded. -/
def textLiteral (v : Variant) : KeyLiteral × Option KeyFault :=
  match keyAttribute? v with
  | none => (defaultLiteral v, none)
  | some a =>
    match a.content with
    | .value (.literal _ text) =>
      match Literal.stringValue? text with
      | some s => (.text s, none)
      | none => (defaultLiteral v, some (.notText v.name.text))
    | .value _ => (defaultLiteral v, some (.notText v.name.text))
    | _ => (defaultLiteral v, some (.noText v.name.text))

/-- The literal of a case over integers (`integer_literal`): its discriminant, or `next`. -/
def integerLiteral (next : Int64) (v : Variant) : Except KeyFault Int64 :=
  match keyAttribute? v with
  | some _ => .error (.keyOfInteger v.name.text)
  | none =>
    match v.discriminant with
    | none => .ok next
    | some e =>
      match integerValue? e with
      | some i => .ok i
      | none => .error (.notInteger v.name.text)

/-! ## Cases -/

/-- The literal of a case, unless it has none, and what is wrong with the case. -/
def caseLiteral (raw : RawType) (next : Int64) (v : Variant) :
    Option KeyLiteral × Option KeyFault :=
  if v.payload.isSome then (none, some (.notUnit v.name.text))
  else
    match raw with
    | .text =>
      let (literal, fault) := textLiteral v
      (some literal, fault)
    | .integer _ =>
      match integerLiteral next v with
      | .ok i => (some (.int i), none)
      | .error fault => (none, some fault)

def nextAfter (next : Int64) : Option KeyLiteral → Int64
  | some (.int i) => i + 1
  | _ => next

/-- The cases that have a literal, and what is wrong with cases. `next` is the
    discriminant of the first case if it gives none. -/
def casesOf (raw : RawType) (next : Int64) : List Variant → List EnumCase × List KeyFault
  | [] => ([], [])
  | v :: vs =>
    let (literal, fault) := caseLiteral raw next v
    let (cases, faults) := casesOf raw (nextAfter next literal) vs
    ((literal.map fun l => ⟨v.name, l⟩).toList ++ cases, fault.toList ++ faults)

namespace KeyEnum

/-- The key enumeration with a name, attributes and cases, and what is wrong with it
    (`KeyEnumDecl::from_parts`). -/
def ofParts (name : Ident) (attrs : List Attribute) (variants : List Variant) :
    KeyEnum × List Diagnostic :=
  let (type, reprProblems) := integerRepr attrs
  let raw := (type.map RawType.integer).getD .text
  let (cases, faults) := casesOf raw 0 variants
  (⟨name, derivesCodingKey attrs, raw, cases⟩,
    reprProblems ++ faults.map fun f => .ofProblem (.invalidKey f))

def ofItem (e : EnumItem) : KeyEnum × List Diagnostic := ofParts e.name e.attrs e.variants

def caseFor? (k : KeyEnum) (label : String) : Option EnumCase :=
  k.cases.find? fun c => c.isFor label

/-- The cases whose literal exactly one earlier case has. `seen` are the literals of the
    cases before. -/
def duplicatesFrom (seen : List KeyLiteral) : List EnumCase → List EnumCase
  | [] => []
  | c :: cs =>
    (if seen.count c.literal = 1 then [c] else []) ++ duplicatesFrom (c.literal :: seen) cs

/-- For every repeated literal the second case that has it (`duplicate_literals`). -/
def duplicates (k : KeyEnum) : List EnumCase := duplicatesFrom [] k.cases

def duplicateProblems (k : KeyEnum) : List Diagnostic :=
  k.duplicates.map fun c => .ofProblem (.duplicateLiteral k.name.text c.literal)

end KeyEnum

end KeyedRecords.Description
