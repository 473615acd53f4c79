import KeyedRecords.Generated.Keys
import KeyedRecords.Generated.Migration

/-!
# Generated models

* `compile`: the text that a description compiles to, or everything that is wrong
  with it.
* `deriveKeys`: the same for an enumeration that is to be a key enumeration.
* `errorTokens`: errors as text that does not compile.
-/

namespace KeyedRecords.Generated

open Source Description

/-- Everything that is generated for a model. Declared keys stay where they are. -/
def model (p : ModelPlan) : Tokens :=
  let keys := match p.keys.source with
    | .implicit => keyEnumeration p.vis p.keys
    | .declared => []
  keys ++ accessors p ++ record p ++ migration p

/-- What a description compiles to, or all its diagnostics (`persisted_model`). `name` tells
    which item of a module is the model. -/
def compile (name : Option Ident) (item : Item) : Except (List Diagnostic) Tokens :=
  let (planned, diagnostics) := ModelPlan.ofItem name item
  if !diagnostics.isEmpty then .error diagnostics
  else
    match planned with
    | some (placement, plan) => .ok (placement.tokens (model plan))
    | none => .error [.ofProblem .missingModel]

/-- What is generated for a key enumeration, or all its diagnostics (`derive(CodingKey)`).
    Only enumerations without generic parameters can be one. -/
def deriveKeys (item : Item) : Except (List Diagnostic) Tokens :=
  let refuse (fault : KeyFault) : Except (List Diagnostic) Tokens :=
    .error [.ofProblem (.invalidKey fault)]
  match item with
  | .enum e =>
    if !e.generics.parameters.isEmpty then refuse (.generic e.name.text)
    else
      let (keys, problems) := KeyEnum.ofItem e
      let all := problems ++ keys.duplicateProblems
      if all.isEmpty then .ok (keyImplementation keys.name keys.raw keys.cases) else .error all
  | i => refuse (.notEnum ((i.ident?.map Ident.text).getD ""))

def errorTexts (diagnostics : List Diagnostic) : List String :=
  diagnostics.flatMap Diagnostic.rendered

/-- A text that fails to compile with every error. -/
def errorTokens (diagnostics : List Diagnostic) : Tokens :=
  (errorTexts diagnostics).flatMap fun message =>
    words ":: core :: compile_error !" ++ braces (textLiteral message)

/-- What a description or its errors compile to. -/
def expansion (result : Except (List Diagnostic) Tokens) : Tokens :=
  match result with
  | .ok tokens => tokens
  | .error diagnostics => errorTokens diagnostics

end KeyedRecords.Generated
