import KeyedRecords.Source.Item

/-!
# Functions and members

The grammar of functions, and of what stands inside traits, implementations and
external blocks. A member that is not complete for its place is kept as it is
written.
-/

namespace KeyedRecords.Source

open Reader

/-- The tokens since `start`, as they are written. -/
def asWritten (start : Tokens) : Reader Tokens :=
  look fun rest => start.take (start.length - rest.length)

/-! ## Functions -/

def atSignature : Reader Bool := do
  let found ← after 0 do
    let _ ← wordIf "const"
    let _ ← wordIf "async"
    let _ ← wordIf "unsafe"
    let _ ← Grammar.convention
    word "fn"
  pure found.isSome

/-- Reads the parameter that a method is called on. -/
def readReceiver (g : Grammar) : Reader Tokens := do
  let reference ← if ← atOp "&" then do
      let amp ← op "&"
      let l ← if ← atLifetime then lifetimeName else pure []
      pure (amp ++ l)
    else pure []
  let mut_ ← wordIf "mut"
  let self ← word "self"
  if reference.isEmpty && (← atOp ":") then
    let colon ← op ":"
    let t ← g.type true
    pure (mut_ ++ self ++ colon ++ t)
  else pure (reference ++ mut_ ++ self)

def readTypedParameter (g : Grammar) : Reader Tokens := do
  let p ← g.single
  let colon ← op ":"
  let t ← if ← atOp "..." then op "..." else g.type true
  pure (p ++ colon ++ t)

def readParameter (g : Grammar) : Reader Tokens := do
  let attrs ← g.attributes
  let parameter ← if ← atOp "..." then op "..." else readReceiver g <|> readTypedParameter g
  pure (attrs ++ parameter)

/-- Reads the name of a function and its tokens up to its body. -/
def readSignature (g : Grammar) : Reader (Ident × Tokens) := do
  let const_ ← wordIf "const"
  let async_ ← wordIf "async"
  let unsafe_ ← wordIf "unsafe"
  let extern_ ← Grammar.convention
  let fn ← word "fn"
  let i ← ident
  let parameters ← g.genericParameters
  let inputs ← group .paren (commaList (readParameter g))
  let output ← if ← atOp "->" then do
      let arrow ← op "->"
      let t ← g.type true
      pure (arrow ++ t)
    else pure []
  let where_ ← g.whereClause
  pure (i, const_ ++ async_ ++ unsafe_ ++ extern_ ++ fn ++ i.tokens ++ parameters ++ inputs ++ output
    ++ where_.getD [])

/-- Reads a body in braces: the attributes at its start, and what `content` reads. -/
def readBody (g : Grammar) (content : Reader Tokens) : Reader (List Attribute × Tokens) :=
  inGroup .brace do
    let attrs ← readInnerAttributes g
    let ts ← content
    pure (attrs, ts)

/-! ## Parts of items -/

def readDefaultType (g : Grammar) : Reader Tokens := do
  if ← atOp "=" then
    let eq ← op "="
    let t ← g.type true
    pure (eq ++ t)
  else pure []

def readDefaultValue (g : Grammar) : Reader Tokens := do
  if ← atOp "=" then
    let eq ← op "="
    let e ← g.expr true
    pure (eq ++ e)
  else pure []

/-- Reads an invocation: a path, an exclamation mark, perhaps a name, and a group. Only
    braces need no semicolon after them. -/
def readInvocation : Reader Tokens := do
  let path ← readPath
  let bang ← op "!"
  let name ← if (← atIdent) || (← atWord "try") then Ident.tokens <$> anyIdent else pure []
  let braced ← atGroup .brace
  let body ← rawGroup
  let semi ← if braced then pure [] else op ";"
  pure (path.tokens ++ bang ++ name ++ body ++ semi)

def atPath : Reader Bool := do
  pure ((← atIdent) || (← atAnyWord ["self", "super", "crate"]) || (← atOp "::"))

/-! ## Members -/

inductive MemberPlace
  | trait
  | implementation
  | externBlock
  deriving DecidableEq

/-- Whether an external member says that it is safe, or that a static is not. -/
def atSafety : Reader Bool := do
  let goesOn ← after 1 nextWord?
  let isStatic ← after 1 (word "static")
  pure (((← atWord "safe") && (goesOn.any Option.isSome)) || ((← atWord "unsafe") && isStatic.isSome))

/-- Reads a member. A member with a modifier that its place does not give it is kept as it
    is written. -/
def readMember (g : Grammar) (place : MemberPlace) : Reader Tokens := do
  let start ← get
  let attrs ← readAttributes g
  let vis ← readVisibility
  let isDefault ← if place ≠ .externBlock && (← atWord "default")
      && (place = .trait || (← after 1 (op "!")).isNone) then
    (fun _ => true) <$> anyIdent
    else pure false
  let hasSafety ← if place = .externBlock && (← atSafety) then (fun _ => true) <$> anyIdent
    else pure false
  let front := outerTokens attrs ++ vis.tokens ++ if isDefault then words "default" else []
  let restricted := hasSafety || (place = .trait && (vis ≠ .inherited || isDefault))
  let finish (complete : Bool) (ts : Tokens) : Reader Tokens := do
    if complete && !restricted then pure (front ++ ts) else asWritten start
  if ← atSignature then
    let (_, head) ← readSignature g
    if ← atOp ";" then
      let semi ← op ";"
      finish (place ≠ .implementation) (head ++ semi)
    else
      let (inner, body) ← readBody g g.statements
      finish (place ≠ .externBlock) (head ++ braces (attributeTokens inner ++ body))
  else if (← atWord "const") && place ≠ .externBlock then
    let const_ ← word "const"
    let i ← if ← atWord "_" then anyIdent else ident
    let isGeneric ← atOp "<"
    let _ ← g.genericParameters
    let colon ← op ":"
    let t ← g.type true
    let value ← readDefaultValue g
    let where_ ← g.whereClause
    let semi ← op ";"
    finish (!isGeneric && where_.isNone && (place = .trait || !value.isEmpty))
      (const_ ++ i.tokens ++ colon ++ t ++ value ++ semi)
  else if (← atWord "static") && place = .externBlock then
    let static_ ← word "static"
    let mut_ ← wordIf "mut"
    let i ← ident
    let colon ← op ":"
    let t ← g.type true
    let value ← readDefaultValue g
    let semi ← op ";"
    finish value.isEmpty (static_ ++ mut_ ++ i.tokens ++ colon ++ t ++ semi)
  else if ← atWord "type" then
    let type_ ← word "type"
    let i ← ident
    let parameters ← g.genericParameters
    let hasBounds ← atOp ":"
    let bs ← g.boundsAfterColon
    let earlyWhere ← if place = .externBlock then g.whereClause else pure none
    let t ← readDefaultType g
    let where_ ← g.whereClause
    let semi ← op ";"
    let complete := match place with
      | .trait => true
      | .implementation => !hasBounds && !t.isEmpty
      | .externBlock => !hasBounds && t.isEmpty
    finish complete (type_ ++ i.tokens ++ parameters ++ bs ++ earlyWhere.getD [] ++ t
      ++ where_.getD [] ++ semi)
  else
    check (vis = .inherited && !isDefault && (← atPath))
    let call ← readInvocation
    finish true call

def readMembers (g : Grammar) (place : MemberPlace) : Reader Tokens := List.flatten <$> steps do
  if ← atEnd then pure none else some <$> readMember g place

end KeyedRecords.Source
