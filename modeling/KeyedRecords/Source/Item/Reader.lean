import KeyedRecords.Source.Item.Members

/-!
# Reading items

* `Item.ofText`: the one item that a text is.
* `readItem`: an item, given the readers of what is nested in it.
* `Rules.ofDepth`: the readers for text of bounded nesting.
-/

namespace KeyedRecords.Source

open Reader

/-! ## Fields and cases -/

/-- Reads the type of a field without a name, which may list fields itself. -/
def readNamelessType (g : Grammar) : Reader Tokens := do
  let start ← get
  if (← atWord "struct") || ((← atWord "union") && (← after 1 (groupContent .brace)).isSome) then
    let _ ← anyIdent
    let _ ← groupContent .brace
    asWritten start
  else g.type true

def readField (g : Grammar) : Reader Field := do
  let attrs ← readAttributes g
  let vis ← readVisibility
  let nameless ← atWord "_"
  let i ← if nameless then anyIdent else ident
  let _ ← op ":"
  let t ← if nameless then readNamelessType g else g.type true
  pure ⟨attrs, vis, i, t⟩

/-- The items of a comma-separated list, and whether a comma ends it. -/
def itemsOf {α : Type} (items : List (α × Bool)) : List α × Bool :=
  (items.map Prod.fst, items.getLast?.any Prod.snd)

def readNamedFields (g : Grammar) : Reader (List Field × Bool) :=
  itemsOf <$> inGroup .brace (separated (readField g))

def readPositionalFields (g : Grammar) : Reader Tokens := inGroup .paren (commaList do
  let attrs ← readAttributes g
  let vis ← readVisibility
  let t ← g.type true
  pure (outerTokens attrs ++ vis.tokens ++ t))

/-- Reads a case of an enumeration. A visibility in front of it is dropped. -/
def readVariant (g : Grammar) : Reader Variant := do
  let attrs ← readAttributes g
  let _ ← readVisibility
  let i ← ident
  let payload ← if ← atGroup .brace then do
      let (fields, trailing) ← readNamedFields g
      pure (some (braces (commaSeparated (fields.map Field.tokens) trailing)))
    else if ← atGroup .paren then (fun ts => some (parens ts)) <$> readPositionalFields g
    else pure none
  let discriminant ← if ← atOp "=" then do
      let _ ← op "="
      (fun ts => some (Expr.ofTokens ts)) <$> g.expr true
    else pure none
  pure ⟨attrs, i, payload, discriminant⟩

/-! ## Items -/

/-- What has been read of an item before its keyword. `start` are the tokens from its
    first attribute on. -/
structure ItemFront where
  start : Tokens
  attrs : List Attribute
  vis : Visibility

namespace ItemFront

def verbatim (front : ItemFront) : Reader Item := Item.verbatim <$> asWritten front.start

def other (front : ItemFront) (kind : OtherKind) (name : Option Ident) (head : Tokens)
    (body : Option (List Attribute × Tokens) := none) : Item :=
  let inner := (body.map Prod.fst).getD []
  .other ⟨kind, front.attrs ++ inner, front.vis, name, head, body.map Prod.snd⟩

/-- Reads a function. One without a body is kept as it is written. -/
def readFunction (front : ItemFront) (g : Grammar) : Reader Item := do
  let (i, head) ← readSignature g
  if ← atOp ";" then
    let _ ← op ";"
    front.verbatim
  else
    let body ← readBody g g.statements
    pure (front.other .function i head (some body))

def readExternBlock (front : ItemFront) (g : Grammar) : Reader Item := do
  check (front.vis = .inherited)
  let unsafe_ ← wordIf "unsafe"
  let extern_ ← Grammar.convention
  check !extern_.isEmpty
  let body ← readBody g (readMembers g .externBlock)
  pure (front.other .externBlock none (unsafe_ ++ extern_) (some body))

def readExternCrate (front : ItemFront) : Reader Item := do
  let extern_ ← word "extern"
  let crate_ ← word "crate"
  let i ← if ← atWord "self" then anyIdent else ident
  let rename ← if ← atWord "as" then do
      let as_ ← word "as"
      let j ← if ← atWord "_" then anyIdent else ident
      pure (as_ ++ j.tokens)
    else pure []
  let semi ← op ";"
  pure (front.other .externCrate none (extern_ ++ crate_ ++ i.tokens ++ rename ++ semi))

/-- Reads what a use declaration names. The flag tells whether a name inside of braces
    begins with two colons. -/
def readUseTree : Nat → Reader (Tokens × Bool)
  | 0 => fail
  | fuel + 1 => do
    if ← atOp "*" then
      let star ← op "*"
      pure (star, false)
    else if ← atGroup .brace then
      let trees ← inGroup .brace (separated do
        let colons ← opIf "::"
        let (tree, rooted) ← readUseTree fuel
        pure (colons ++ tree, rooted || !colons.isEmpty))
      let content := commaTokens (trees.map fun t => (t.1.1, t.2))
      pure (braces content, trees.any fun t => t.1.2)
    else
      check ((← atIdent) || (← atAnyWord ["self", "super", "crate", "try"]))
      let i ← anyIdent
      if ← atOp "::" then
        let colons ← op "::"
        let (tree, rooted) ← readUseTree fuel
        pure (i.tokens ++ colons ++ tree, rooted)
      else if ← atWord "as" then
        let as_ ← word "as"
        let j ← if ← atWord "_" then anyIdent else ident
        pure (i.tokens ++ as_ ++ j.tokens, false)
      else pure (i.tokens, false)

def readUse (front : ItemFront) : Reader Item := do
  let use_ ← word "use"
  let colons ← opIf "::"
  let fuel ← look List.length
  let (tree, rooted) ← readUseTree (fuel + Expr.weighAll (← get))
  let semi ← op ";"
  if rooted then front.verbatim
  else pure (front.other .use none (use_ ++ colons ++ tree ++ semi))

/-- Reads a static. One without a type or a value is kept as it is written. -/
def readStatic (front : ItemFront) (g : Grammar) : Reader Item := do
  let _ ← word "static"
  let mut_ ← wordIf "mut"
  let i ← ident
  if ← atOp "=" then
    let _ ← readDefaultValue g
    let _ ← op ";"
    front.verbatim
  else
    let _ ← op ":"
    let t ← g.type true
    if ← atOp ";" then
      let _ ← op ";"
      front.verbatim
    else
      let _ ← op "="
      let e ← g.expr true
      let _ ← op ";"
      let kind := if mut_.isEmpty then ValueKind.fixed else .mutable
      pure (.value ⟨front.attrs, front.vis, kind, i, t, .ofTokens e⟩)

/-- Reads a constant. One without a value, or with generic parameters, is kept as it is
    written. -/
def readConstant (front : ItemFront) (g : Grammar) : Reader Item := do
  let _ ← word "const"
  let i ← if ← atWord "_" then anyIdent else ident
  let isGeneric ← atOp "<"
  let _ ← g.genericParameters
  let _ ← op ":"
  let t ← g.type true
  let value ← readDefaultValue g
  let where_ ← g.whereClause
  let _ ← op ";"
  if isGeneric || where_.isSome || value.isEmpty then front.verbatim
  else pure (.value ⟨front.attrs, front.vis, .constant, i, t, .ofTokens (value.drop 1)⟩)

def readStruct (front : ItemFront) (g : Grammar) : Reader Item := do
  let _ ← word "struct"
  let i ← ident
  let parameters ← g.genericParameters
  let where_ ← g.whereClause
  let finish (where_ : Option Tokens) (fields : Fields) : Item :=
    .struct ⟨front.attrs, front.vis, i, ⟨parameters, where_⟩, fields⟩
  if where_.isNone && (← atGroup .paren) then
    let content ← readPositionalFields g
    let where_ ← g.whereClause
    let _ ← op ";"
    pure (finish where_ (.positional content))
  else if ← atGroup .brace then
    let (fields, trailing) ← readNamedFields g
    pure (finish where_ (.named fields trailing))
  else
    let _ ← op ";"
    pure (finish where_ .none)

def readEnum (front : ItemFront) (g : Grammar) : Reader Item := do
  let _ ← word "enum"
  let i ← ident
  let parameters ← g.genericParameters
  let where_ ← g.whereClause
  let (variants, trailing) ← itemsOf <$> inGroup .brace (separated (readVariant g))
  pure (.enum ⟨front.attrs, front.vis, i, ⟨parameters, where_⟩, variants, trailing⟩)

def readUnion (front : ItemFront) (g : Grammar) : Reader Item := do
  let union_ ← word "union"
  let i ← ident
  let parameters ← g.genericParameters
  let where_ ← g.whereClause
  let (fields, trailing) ← readNamedFields g
  let body := braces (commaSeparated (fields.map Field.tokens) trailing)
  pure (front.other .union i (union_ ++ i.tokens ++ parameters ++ where_.getD [] ++ body))

/-- Reads a type alias. One with bounds, or without a type, is kept as it is written. -/
def readTypeAlias (front : ItemFront) (g : Grammar) : Reader Item := do
  let type_ ← word "type"
  let i ← ident
  let parameters ← g.genericParameters
  let hasBounds ← atOp ":"
  let _ ← g.boundsAfterColon
  let where_ ← g.whereClause
  let t ← readDefaultType g
  let semi ← op ";"
  if hasBounds || t.isEmpty then front.verbatim
  else
    pure (front.other .typeAlias i (type_ ++ i.tokens ++ parameters ++ where_.getD [] ++ t ++ semi))

def readTrait (front : ItemFront) (g : Grammar) : Reader Item := do
  let unsafe_ ← wordIf "unsafe"
  let auto ← wordIf "auto"
  let trait_ ← word "trait"
  let i ← ident
  let parameters ← g.genericParameters
  let head := unsafe_ ++ auto ++ trait_ ++ i.tokens ++ parameters
  if unsafe_.isEmpty && auto.isEmpty && (← atOp "=") then
    let eq ← op "="
    let bs ← g.optionalBounds
    let where_ ← g.whereClause
    let semi ← op ";"
    pure (front.other .traitAlias i (head ++ eq ++ bs ++ where_.getD [] ++ semi))
  else
    let bs ← g.boundsAfterColon
    let where_ ← g.whereClause
    let body ← readBody g (readMembers g .trait)
    pure (front.other .trait i (head ++ bs ++ where_.getD []) (some body))

/-- Whether angle brackets after `impl` hold generic parameters. -/
def atParameters : Reader Bool := do
  if ← atOp "<" then
    let closes ← after 1 (op ">")
    let attrs ← after 1 (op "#")
    let const_ ← after 1 (word "const")
    let parameter ← after 1 do
      if ← atLifetime then
        let _ ← lifetimeName
      else
        let _ ← ident
      check ((← atOp ">") || (← atOp ",") || (← atOp "=") || ((← atOp ":") && !(← atOp "::")))
    pure (closes.isSome || attrs.isSome || const_.isSome || parameter.isSome)
  else pure false

/-- Reads an implementation. One with a visibility, or for constants, is kept as it is
    written. -/
def readImplementation (front : ItemFront) (g : Grammar) : Reader Item := do
  let default_ ← wordIf "default"
  let unsafe_ ← wordIf "unsafe"
  let impl ← word "impl"
  let parameters ← if ← atParameters then g.genericParameters else pure []
  let isConst := (← atWord "const") || ((← atOp "?") && (← after 1 (word "const")).isSome)
  if isConst then
    let _ ← opIf "?"
    let _ ← word "const"
  let negative ← if (← atOp "!") && (← after 1 (groupContent .brace)).isNone then op "!" else pure []
  let pathComes ← after 0 do
    let _ ← g.path false
    check ((← atWord "for") || (← atGroup .paren))
  let qualified ← atOp "<"
  let first ← g.type true
  let target ← if ← atWord "for" then do
      let for_ ← word "for"
      let t ← g.type true
      pure (for_ ++ t)
    else pure []
  let where_ ← g.whereClause
  let body ← readBody g (readMembers g .implementation)
  let ofNoTrait := !target.isEmpty && (pathComes.isNone || qualified)
  if front.vis ≠ .inherited || isConst || ofNoTrait then front.verbatim
  else
    pure (front.other .implementation none (default_ ++ unsafe_ ++ impl ++ parameters ++ negative
      ++ first ++ target ++ where_.getD []) (some body))

def readModule (front : ItemFront) (g : Grammar) (nested : Reader Item) : Reader Item := do
  let unsafe_ ← wordIf "unsafe"
  let _ ← word "mod"
  let i ← if ← atWord "try" then anyIdent else ident
  if ← atOp ";" then
    let _ ← op ";"
    pure (.module ⟨front.attrs, front.vis, !unsafe_.isEmpty, i⟩ none)
  else
    let (inner, items) ← inGroup .brace do
      let inner ← readInnerAttributes g
      let items ← steps do
        if ← atEnd then pure none else some <$> nested
      pure (inner, items)
    pure (.module ⟨front.attrs ++ inner, front.vis, !unsafe_.isEmpty, i⟩ (some items))

/-- Reads a named set of rewriting rules, which is kept as it is written. -/
def readRules (front : ItemFront) : Reader Item := do
  let _ ← anyIdent
  let _ ← ident
  if ← atGroup .paren then
    let _ ← rawGroup
  let _ ← groupContent .brace
  front.verbatim

end ItemFront

/-- Reads an item. `nested` reads the items of a module. -/
def readItem (g : Grammar) (nested : Reader Item) : Reader Item := do
  let start ← get
  let attrs ← readAttributes g
  let vis ← readVisibility
  let front : ItemFront := ⟨start, attrs, vis⟩
  let second (w : String) : Reader Bool := Option.isSome <$> after 1 (word w)
  if ← atSignature then front.readFunction g
  else if ← atWord "extern" then
    if ← second "crate" then front.readExternCrate else front.readExternBlock g
  else if ← atWord "use" then front.readUse
  else if ← atWord "static" then front.readStatic g
  else if ← atWord "const" then front.readConstant g
  else if ← atWord "unsafe" then
    if ← second "impl" then front.readImplementation g
    else if ← second "extern" then front.readExternBlock g
    else if ← second "mod" then front.readModule g nested
    else front.readTrait g
  else if ← atWord "mod" then front.readModule g nested
  else if ← atWord "type" then front.readTypeAlias g
  else if ← atWord "struct" then front.readStruct g
  else if ← atWord "enum" then front.readEnum g
  else if (← atWord "union") && (← after 1 ident).isSome then front.readUnion g
  else if (← atWord "trait") || ((← atWord "auto") && (← second "trait")) then front.readTrait g
  else if (← atWord "impl") || ((← atWord "default") && (← after 1 (op "!")).isNone) then
    front.readImplementation g
  else if ← atWord "macro" then front.readRules
  else
    check (vis = .inherited && (← atPath))
    front.other .macroCall none <$> readInvocation

/-! ## All rules together -/

/-- The rules for what may be nested in an item. -/
structure Rules where
  grammar : Grammar
  item : Reader Item

/-- The rules for text in which they refer to each other no deeper than this. -/
def Rules.ofDepth : Nat → Rules
  | 0 => ⟨⟨fun _ => fail, fun _ => fail, fail, fail, fail, fail, fail⟩, fail⟩
  | depth + 1 =>
    let inner := ofDepth depth
    let g := inner.grammar
    let item := readItem g inner.item
    ⟨⟨g.typeRule, g.exprRule, g.statementRule, g.patternRule, g.singleRule,
      g.boundList true false, Item.tokens <$> item⟩, item⟩

/-- The rules that suffice for some tokens: a rule refers to another at most a few times
    before a token is taken. -/
def Rules.forTokens (ts : Tokens) : Rules := ofDepth (4 * Expr.weighAll ts + 16)

/-- What a reader makes of all of a text. -/
def readText {α : Type} (text : String) (r : Rules → Reader α) : Option α := do
  let ts ← Tokens.ofText text
  let (a, rest) ← r (Rules.forTokens ts) ts
  if rest.isEmpty then some a else none

def Item.ofText (text : String) : Option Item := readText text Rules.item

def attributesOfText (text : String) : Option (List Attribute) :=
  readText text fun rules => readAttributes rules.grammar

def Ident.ofText (text : String) : Option Ident := readText text fun _ => ident

/-- The identifier that an argument is, which may be missing. -/
def argumentOfText (text : String) : Option (Option Ident) := readText text fun _ => do
  if ← atEnd then pure none else some <$> ident

end KeyedRecords.Source
