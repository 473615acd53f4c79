import KeyedRecords.Source.Arguments
import KeyedRecords.Description.Problem

/-!
# Markers

The attributes that describe a model. They are taken off the declarations that
carry them; every other attribute stays where it is.

* `Markers.ofAttributes`: the markers among some attributes.
* `unmarked`: the attributes that are no markers.
* `markerProblems`: what is wrong with the arguments of markers.
-/

namespace KeyedRecords.Description

open Source

def Marker.ofAttribute (a : Attribute) : Option Marker :=
  [Marker.storageName, .ignored, .modelKeys, .migrationKeys].find? fun m => a.isNamed m.name

/-- The markers of one declaration. `ignored` tells whether the field is constant. -/
structure Markers where
  storageName : Bool := false
  ignored : Option Bool := none
  modelKeys : Bool := false
  migrationKeys : Bool := false
  deriving DecidableEq, Repr

namespace Markers

def isEmpty (m : Markers) : Bool := m = {}

def isConstant (m : Markers) : Bool := m.ignored = some true

end Markers

def isConstantFlag (p : Path) : Bool := p.isWord "constant"

/-- Whether an attribute that ignores a field makes it constant: its first argument says
    so. -/
def makesConstant (a : Attribute) : Bool :=
  match a.content with
  | .arguments _ _ => (a.nestedPaths false).1.head?.any isConstantFlag
  | _ => false

/-- The markers so far with that of one more attribute. A later one replaces an earlier
    one of its kind. -/
def Markers.add (m : Markers) (a : Attribute) : Markers :=
  match Marker.ofAttribute a with
  | some .storageName => { m with storageName := true }
  | some .ignored => { m with ignored := some (makesConstant a) }
  | some .modelKeys => { m with modelKeys := true }
  | some .migrationKeys => { m with migrationKeys := true }
  | none => m

/-- The markers among some attributes (`Markers::extract`). -/
def Markers.ofAttributes (attrs : List Attribute) : Markers := attrs.foldl Markers.add {}

/-- The attributes that are no markers. -/
def unmarked (attrs : List Attribute) : List Attribute :=
  attrs.filter fun a => (Marker.ofAttribute a).isNone

/-- What is wrong with the arguments of an attribute that ignores a field (`parse_ignored`).
    The first argument that is not a flag counts before what is wrong after it. -/
def ignoredProblem (a : Attribute) : Option MarkerFault :=
  match a.content with
  | .nothing => none
  | .value _ => some .noFlag
  | .arguments _ _ =>
    let (paths, fault) := a.nestedPaths false
    if paths.all isConstantFlag then fault.map .arguments else some .notConstant

def markerProblem (a : Attribute) : Option Problem :=
  match Marker.ofAttribute a with
  | none => none
  | some .ignored => (ignoredProblem a).map (.invalidMarker .ignored)
  | some m =>
    match a.content with
    | .nothing => none
    | _ => some (.invalidMarker m .takesNoArguments)

def markerProblems (attrs : List Attribute) : List Diagnostic :=
  (attrs.filterMap markerProblem).map Diagnostic.ofProblem

/-! ## Other attributes that the compiler looks at -/

def derives (attrs : List Attribute) : List Attribute := attrs.filter fun a => a.isNamed "derive"

def nonDerives (attrs : List Attribute) : List Attribute :=
  attrs.filter fun a => !a.isNamed "derive"

def docs (attrs : List Attribute) : List Attribute := attrs.filter fun a => a.isNamed "doc"

/-- Whether the attributes make an enumeration a key enumeration (`derives_coding_key`). -/
def derivesCodingKey (attrs : List Attribute) : Bool :=
  (derivedPaths attrs).any fun p => p.last.isWord "CodingKey"

/-- The derived paths, separated by commas. -/
def renderDerived (attrs : List Attribute) : String :=
  String.intercalate ", " ((derivedPaths attrs).map TypePath.render)

/-- All that is derived as one attribute, if anything is (`render_derive_list`). -/
def deriveAttributeText (attrs : List Attribute) : Option String :=
  if (derives attrs).isEmpty then none else some ("#[derive(" ++ renderDerived attrs ++ ")]")

end KeyedRecords.Description
