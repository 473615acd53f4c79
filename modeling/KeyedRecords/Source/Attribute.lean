import KeyedRecords.Source.Grammar

/-!
# Expressions, attributes and visibilities

What the compiler looks into: literals under signs and parentheses, the paths
and arguments of attributes, and how far a declaration can be seen.
-/

namespace KeyedRecords.Source

open Reader

/-! ## Expressions -/

/-- An expression as far as it can be an integer or a text. `attrs` are attributes in
    front of it. A group has no written delimiters. -/
inductive Expr
  | literal (attrs : Tokens) (text : String)
  | negation (attrs : Tokens) (e : Expr)
  | paren (attrs : Tokens) (e : Expr)
  | group (e : Expr)
  | other (tokens : Tokens)

namespace Expr

def tokens : Expr → Tokens
  | literal attrs text => attrs ++ Source.literal text
  | negation attrs e => attrs ++ operator "-" ++ e.tokens
  | paren attrs e => attrs ++ parens e.tokens
  | group e => e.tokens
  | other ts => ts

def splitAttributes : Tokens → Tokens × Tokens
  | .punct '#' j :: .group .bracket content :: rest =>
    let (attrs, rest) := splitAttributes rest
    (.punct '#' j :: .group .bracket content :: attrs, rest)
  | ts => ([], ts)

/-- Whether a comma stands among the tokens, outside of groups. -/
def hasComma (ts : Tokens) : Bool :=
  ts.any fun t => match t with
    | .punct ',' _ => true
    | _ => false

/-- Recognises literals under signs and parentheses; `fuel` bounds their nesting. -/
def recognise : Nat → Tokens → Option Expr
  | 0, _ => none
  | fuel + 1, ts =>
    let (attrs, rest) := splitAttributes ts
    match rest with
    | [.literal text] => some (.literal attrs text)
    | .punct '-' _ :: operand => (recognise fuel operand).map (.negation attrs)
    | [.group .paren content] =>
      if content.isEmpty || hasComma content then none
      else some (.paren attrs ((recognise fuel content).getD (.other content)))
    | _ => none

mutual

/-- The number of tokens, those inside of groups included. -/
def weigh : Token → Nat
  | .group _ content => 1 + weighAll content
  | _ => 1

def weighAll : List Token → Nat
  | [] => 0
  | t :: ts => weigh t + weighAll ts

end

/-- The expression that tokens in standard form make. -/
def ofTokens (ts : Tokens) : Expr := (recognise (weighAll ts + 1) ts).getD (.other ts)

/-- The text of a string literal, possibly in parentheses. -/
def stringValue? : Expr → Option String
  | literal _ text => Literal.stringValue? text
  | paren _ e => e.stringValue?
  | group e => e.stringValue?
  | _ => none

end Expr

/-! ## Paths -/

/-- A path of names. -/
structure Path where
  rooted : Bool
  segments : List Ident
  deriving DecidableEq, Repr

namespace Path

def tokens (p : Path) : Tokens :=
  (if p.rooted then operator "::" else []) ++ joinWith (operator "::") (p.segments.map Ident.tokens)

/-- The identifier that is the whole path. -/
def ident? (p : Path) : Option Ident :=
  match p.rooted, p.segments with
  | false, [i] => some i
  | _, _ => none

def isWord (p : Path) (word : String) : Bool := p.ident?.any (·.isWord word)

end Path

/-- Reads a path of names, keywords excluded. -/
def readPath : Reader Path := do
  let rooted ← opIf "::"
  let segment : Reader Ident := do
    let i ← anyIdent
    check (!i.isKeyword || i.isPathWord)
    pure i
  let first ← segment
  let rest ← steps do
    if ← atOp "::" then
      let _ ← op "::"
      some <$> segment
    else pure none
  pure ⟨!rooted.isEmpty, first :: rest⟩

/-! ## Attributes -/

/-- What follows the path of an attribute. -/
inductive AttributeContent
  | nothing
  | arguments (d : Delimiter) (tokens : Tokens)
  | value (e : Expr)

/-- An attribute. An inner one belongs to what encloses it. -/
structure Attribute where
  inner : Bool
  path : Path
  content : AttributeContent

namespace Attribute

def tokens (a : Attribute) : Tokens :=
  let content := match a.content with
    | .nothing => []
    | .arguments d ts => [.group d ts]
    | .value e => operator "=" ++ e.tokens
  operator "#" ++ (if a.inner then operator "!" else []) ++ brackets (a.path.tokens ++ content)

def isNamed (a : Attribute) (word : String) : Bool := a.path.isWord word

end Attribute

def readAttributeBody (g : Grammar) (inner : Bool) : Reader Attribute := do
  let path ← if ← atWord "unsafe" then do
      let i ← anyIdent
      pure (⟨false, [i]⟩ : Path)
    else readPath
  match ← nextGroup? with
  | some d =>
    let ts ← groupContent d
    pure ⟨inner, path, .arguments d ts⟩
  | none =>
    if ← atOp "=" then
      let _ ← op "="
      let ts ← get
      match literalText ts with
      | some (text, []) =>
        set ([] : Tokens)
        pure ⟨inner, path, .value (.literal [] text)⟩
      | _ =>
        check !((← atOp "#") && (← after 1 (groupContent .bracket)).isSome)
        let e ← g.expr true
        pure ⟨inner, path, .value (.ofTokens e)⟩
    else pure ⟨inner, path, .nothing⟩

def readAttributes (g : Grammar) : Reader (List Attribute) := steps do
  if ← atOp "#" then
    let _ ← op "#"
    some <$> inGroup .bracket (readAttributeBody g false)
  else pure none

def readInnerAttributes (g : Grammar) : Reader (List Attribute) := steps do
  if (← atOp "#") && (← after 1 (op "!")).isSome then
    let _ ← op "#"
    let _ ← op "!"
    some <$> inGroup .bracket (readAttributeBody g true)
  else pure none

def attributeTokens (attrs : List Attribute) : Tokens := attrs.flatMap Attribute.tokens

/-! ## Visibilities -/

/-- How far a declaration can be seen. -/
inductive Visibility
  | inherited
  | everywhere
  | within (spelledIn : Bool) (path : Path)
  deriving DecidableEq, Repr

namespace Visibility

def tokens : Visibility → Tokens
  | inherited => []
  | everywhere => words "pub"
  | within spelledIn path =>
    words "pub" ++ parens ((if spelledIn then words "in" else []) ++ path.tokens)

/-- How far a visibility reaches (`visibility_rank`). A path and the enclosing module share
    a rank, below the whole crate. -/
def rank : Visibility → Nat
  | inherited => 0
  | everywhere => 3
  | within _ path => if path.isWord "crate" then 2 else if path.isWord "self" then 0 else 1

/-- A visibility without spaces around its parentheses and separators
    (`render_visibility`). -/
def render (v : Visibility) : String :=
  match v with
  | inherited => ""
  | everywhere => "pub"
  | within spelledIn path =>
    let separator := if path.rooted then "::" else ""
    "pub(" ++ (if spelledIn then (if path.rooted then "in" else "in ") else "") ++ separator
      ++ String.intercalate "::" (path.segments.map Ident.text) ++ ")"

end Visibility

/-- Reads a visibility. Parentheses after `pub` belong to it only if they hold a
    restriction. -/
def readVisibility : Reader Visibility := do
  if ← atWord "pub" then
    let _ ← word "pub"
    if ← atGroup .paren then
      let content ← look fun ts =>
        match ts with
        | .group _ content :: _ => content
        | _ => []
      match content with
      | [.ident i] =>
        if ["crate", "self", "super"].any i.isWord then
          let _ ← token
          pure (.within false ⟨false, [i]⟩)
        else pure .everywhere
      | .ident i :: rest =>
        if i.isWord "in" then
          let _ ← token
          let path ← within rest readPath
          pure (.within true path)
        else pure .everywhere
      | _ => pure .everywhere
    else pure .everywhere
  else pure .inherited

end KeyedRecords.Source
