import KeyedRecords.Source.Reader

/-!
# Types, expressions and patterns

The grammar of what stands inside items. Its readers check the form of the
source and give its tokens in standard form; nothing else of a type or an
expression matters to the compiler, except that literals under minus signs and
parentheses are recognised elsewhere.

The rules refer to each other through `Grammar`, which holds the rules for the
next level of nesting; `Grammar.ofDepth` ties them together.
-/

namespace KeyedRecords.Source

open Reader

/-- The rules that other rules refer to. -/
structure Grammar where
  /-- A type; the flag says whether bounds may be added by a plus sign. -/
  type : Bool → Reader Tokens
  /-- An expression; the flag says whether it may be a structure literal. -/
  expr : Bool → Reader Tokens
  /-- An expression at the start of a statement, and whether it is complete there without
      a semicolon. -/
  statement : Reader (Tokens × Bool)
  /-- A pattern. -/
  pattern : Reader Tokens
  /-- A pattern without alternatives. -/
  single : Reader Tokens
  /-- Bounds that plus signs separate. -/
  bounds : Reader Tokens
  /-- An item inside a block. -/
  item : Reader Tokens

namespace Grammar

variable (g : Grammar)

/-! ## Attributes inside other code -/

/-- The content of an attribute: a path, and a group or a value. -/
def attributeContent : Reader Tokens := do
  let path ← steps do
    if ← atOp "::" then some <$> op "::"
    else if (← nextWord?).isSome then (fun i => some i.tokens) <$> anyIdent
    else pure none
  check !path.isEmpty
  if (← nextGroup?).isSome then
    let arguments ← rawGroup
    pure (path.flatten ++ arguments)
  else if ← atOp "=" then
    let eq ← op "="
    let value ← g.expr true
    pure (path.flatten ++ eq ++ value)
  else pure path.flatten

def attributes : Reader Tokens := List.flatten <$> steps do
  if ← atOp "#" then
    let pound ← op "#"
    let content ← group .bracket g.attributeContent
    pure (some (pound ++ content))
  else pure none

/-! ## Paths -/

def atAngle : Reader Bool := do
  pure ((← atOp "<") && !(← atOp "<="))

/-- A block alone, as a constant. -/
def constantBlock : Reader Tokens := do
  let block ← rawGroup
  within block (g.expr true)

/-- A generic argument. The flag tells whether it is a lifetime. -/
def genericArgument : Reader (Bool × Tokens) := do
  let constant : Reader Tokens := do
    if ← atGroup .brace then g.constantBlock else literal <$> literalText
  if (← atLifetime) && (← after 2 (op "+")).isNone then
    let l ← lifetimeName
    pure (true, l)
  else if (← atLiteral) || (← atGroup .brace) then
    let c ← constant
    pure (false, c)
  else
    let t ← g.type true
    if (← atOp "=") then
      let eq ← op "="
      let value ← if (← atLiteral) || (← atGroup .brace) then constant else g.type true
      pure (false, t ++ eq ++ value)
    else if (← atOp ":") && !(← atOp "::") then
      let colon ← op ":"
      let bs ← if (← atOp ",") || (← atOp ">") then pure [] else g.bounds
      pure (false, t ++ colon ++ bs)
    else pure (false, t)

/-- Lifetimes first, then everything else, with the commas that this order needs. -/
def orderArguments (arguments : List ((Bool × Tokens) × Bool)) : Tokens :=
  let lifetimes := arguments.filter fun a => a.1.1
  let others := arguments.filter fun a => !a.1.1
  let front := commaTokens (lifetimes.map fun a => (a.1.2, a.2))
  let bridge := if lifetimes.getLast?.any (fun a => !a.2) && !others.isEmpty then operator "," else []
  let lastOpen := others.dropLast.any fun a => !a.2
  let back := if lastOpen then
      joinWith (operator ",") (others.map fun a => a.1.2)
        ++ (if others.getLast?.any (fun a => a.2) then operator "," else [])
    else commaTokens (others.map fun a => (a.1.2, a.2))
  front ++ bridge ++ back

def angleList {α : Type} (item : Reader α) : Reader (List (α × Bool)) := do
  let _ ← op "<"
  let items ← steps do
    if ← atOp ">" then pure none
    else
      let a ← item
      if ← atOp "," then
        let _ ← op ","
        pure (some (a, true))
      else
        check (← atOp ">")
        pure (some (a, false))
  let _ ← op ">"
  pure items

def angleArguments : Reader Tokens := do
  let arguments ← angleList g.genericArgument
  pure (operator "<" ++ orderArguments arguments ++ operator ">")

/-- The arguments of a function-like path: types in parentheses and an arrow. -/
def parenthesizedArguments : Reader Tokens := do
  let inputs ← group .paren (commaList (g.type true))
  if ← atOp "->" then
    let arrow ← op "->"
    let output ← g.type false
    pure (inputs ++ arrow ++ output)
  else pure inputs

/-- A segment of a path. In expressions angle brackets need two colons before them. -/
def segment (inExpr : Bool) : Reader Tokens := do
  if ← atAnyWord ["super", "self", "crate"] then Ident.tokens <$> anyIdent
  else
    let i ← if ← atWord "Self" then anyIdent else ident
    if !inExpr && (← atAngle) then
      let arguments ← g.angleArguments
      pure (i.tokens ++ arguments)
    else if (← atOp "::") && ((← after 2 (op "<")).isSome) then
      let colons ← op "::"
      let arguments ← g.angleArguments
      pure (i.tokens ++ colons ++ arguments)
    else pure i.tokens

def segments (inExpr : Bool) : Reader Tokens := List.flatten <$> steps do
  if (← atOp "::") && ((← after 2 (groupContent .paren)).isNone) then
    let colons ← op "::"
    let s ← g.segment inExpr
    pure (some (colons ++ s))
  else pure none

/-- A path, possibly qualified by a type in angle brackets. -/
def path (inExpr : Bool) : Reader Tokens := do
  if ← atOp "<" then
    let left ← op "<"
    let self ← g.type true
    let trait ← if ← atWord "as" then
        let as_ ← word "as"
        let first ← segmentStart
        let rest ← g.segments false
        pure (as_ ++ first ++ rest)
      else pure []
    let right ← op ">"
    let colons ← op "::"
    let first ← g.segment inExpr
    let rest ← g.segments inExpr
    pure (left ++ self ++ trait ++ right ++ colons ++ first ++ rest)
  else
    let colons ← opIf "::"
    let first ← g.segment inExpr
    let rest ← g.segments inExpr
    pure (colons ++ first ++ rest)
where
  segmentStart : Reader Tokens := do
    let colons ← opIf "::"
    let first ← g.segment false
    pure (colons ++ first)

/-- Arguments in parentheses after a path, if there are any. Two colons before them are
    dropped. -/
def callArguments : Reader Tokens := do
  if (← atGroup .paren) || ((← atOp "::") && ((← after 2 (groupContent .paren)).isSome)) then
    let _ ← opIf "::"
    g.parenthesizedArguments
  else pure []

/-- A path in a bound, which may have arguments in parentheses. -/
def boundPath : Reader Tokens := do
  let p ← g.path false
  let arguments ← g.callArguments
  pure (p ++ arguments)

/-- A path in a type. More of it may follow after arguments in parentheses that stand
    without an arrow. -/
def typePath : Reader Tokens := do
  let p ← g.path false
  let arguments ← g.callArguments
  if arguments.length = 1 then
    let rest ← g.segments false
    let more ← if rest.isEmpty then pure [] else g.callArguments
    pure (p ++ arguments ++ rest ++ more)
  else pure (p ++ arguments)

/-! ## Bounds and generic parameters -/

def atBinder : Reader Bool := do
  let opened ← after 1 do
    let _ ← op "<"
    check ((← atLifetime) || (← atOp ">"))
  pure ((← atWord "for") && opened.isSome)

/-- Lifetimes that are bound by `for`. -/
def binder : Reader Tokens := do
  if ← atWord "for" then
    let for_ ← word "for"
    let parameters ← angleList do
      let l ← lifetimeName
      if ← atOp ":" then
        let colon ← op ":"
        let outer ← lifetimeName
        pure (true, l ++ colon ++ outer)
      else pure (true, l)
    pure (for_ ++ operator "<" ++ orderArguments parameters ++ operator ">")
  else pure []

def capture : Reader Tokens := do
  let use_ ← word "use"
  let parameters ← angleList do
    if ← atLifetime then
      let l ← lifetimeName
      pure (true, l)
    else
      let i ← if ← atWord "Self" then anyIdent else ident
      pure (false, i.tokens)
  pure (use_ ++ operator "<" ++ orderArguments parameters ++ operator ">")

/-- One bound. The flag says whether it may be what a type captures. -/
def bound (captures : Bool) : Reader Tokens := do
  if ← atLifetime then lifetimeName
  else if captures && (← atWord "use") then capture
  else
    let plain : Reader Tokens := do
      let question ← opIf "?"
      let tilde ← opIf "~"
      let const_ ← if tilde.isEmpty then pure [] else word "const"
      let for_ ← binder
      let p ← g.boundPath
      pure (question ++ tilde ++ const_ ++ for_ ++ p)
    if ← atGroup .paren then group .paren plain else plain

def atBound : Reader Bool := do
  pure ((← nextWord?).isSome || (← atOp "::") || (← atOp "?") || (← atLifetime)
    || (← atGroup .paren) || (← atOp "~") || (← atOp "<"))

/-- Bounds that plus signs separate. The flags say whether there may be several and
    whether one may be what a type captures. -/
def boundList (plus captures : Bool) : Reader Tokens := do
  let first ← g.bound captures
  let more ← steps do
    if plus && (← atOp "+") then
      let sign ← op "+"
      if ← atBound then
        let b ← g.bound captures
        pure (some (sign ++ b))
      else pure (some sign)
    else pure none
  pure (first ++ more.flatten)

def onlyLifetimes : Tokens → Bool
  | [] => true
  | .punct '+' _ :: rest => onlyLifetimes rest
  | .punct c true :: .ident _ :: rest => c == quote && onlyLifetimes rest
  | _ => false

/-- Bounds that are a type, so that one of them is a trait. -/
def boundsType (plus captures : Bool) : Reader Tokens := do
  let bs ← g.boundList plus captures
  check !(onlyLifetimes bs)
  pure bs

/-- Bounds after a colon, of which there may be none. -/
def optionalBounds : Reader Tokens := do
  if ← atBound then g.boundList true false else pure []

/-- Bounds after a colon, if there is one. Without bounds the colon is dropped. -/
def boundsAfterColon : Reader Tokens := do
  if ← atOp ":" then
    let colon ← op ":"
    let bs ← g.optionalBounds
    pure (if bs.isEmpty then [] else colon ++ bs)
  else pure []

/-- A generic parameter. The flag tells whether it is a lifetime. -/
def genericParameter : Reader (Bool × Tokens) := do
  let attrs ← g.attributes
  if ← atLifetime then
    let l ← lifetimeName
    let outlives ← g.boundsAfterColon
    pure (true, attrs ++ l ++ outlives)
  else if ← atWord "const" then
    let const_ ← word "const"
    let i ← ident
    let colon ← op ":"
    let t ← g.type true
    let value ← if ← atOp "=" then
        let eq ← op "="
        let v ← if ← atGroup .brace then g.constantBlock
          else if ← atLiteral then literal <$> literalText
          else Ident.tokens <$> ident
        pure (eq ++ v)
      else pure []
    pure (false, attrs ++ const_ ++ i.tokens ++ colon ++ t ++ value)
  else
    let i ← ident
    let bs ← g.boundsAfterColon
    let value ← if ← atOp "=" then
        let eq ← op "="
        let t ← g.type true
        pure (eq ++ t)
      else pure []
    pure (false, attrs ++ i.tokens ++ bs ++ value)

/-- Generic parameters in angle brackets, if there are any. None are written as
    nothing. -/
def genericParameters : Reader Tokens := do
  if ← atOp "<" then
    let parameters ← angleList g.genericParameter
    if parameters.isEmpty then pure []
    else pure (operator "<" ++ orderArguments parameters ++ operator ">")
  else pure []

def predicate : Reader Tokens := do
  let subject ← if (← atLifetime) && (← after 2 (op ":")).isSome then lifetimeName
    else do
      let for_ ← binder
      let t ← g.type true
      pure (for_ ++ t)
  let colon ← op ":"
  let bs ← g.optionalBounds
  pure (subject ++ colon ++ bs)

/-- A where clause, if there is one. Without predicates it is written as nothing. -/
def whereClause : Reader (Option Tokens) := do
  if ← atWord "where" then
    let where_ ← word "where"
    let predicates ← steps do
      if (← atEnd) || (← atGroup .brace) || (← atOp ",") || (← atOp ";") || (← atOp "=")
          || ((← atOp ":") && !(← atOp "::")) then pure none
      else
        let p ← g.predicate
        let comma ← opIf ","
        pure (some (p ++ comma))
    pure (some (if predicates.isEmpty then [] else where_ ++ predicates.flatten))
  else pure none

/-! ## Types -/

def functionInputs : Reader Tokens := group .paren (commaList do
  let attrs ← g.attributes
  if ← atOp "..." then
    let dots ← op "..."
    pure (attrs ++ dots)
  else
    let named ← after 1 (do
      check (← atOp ":")
      check !(← atOp "::"))
    if (← nextWord?).isSome && named.isSome then
      let i ← anyIdent
      let colon ← op ":"
      let t ← g.type true
      pure (attrs ++ i.tokens ++ colon ++ t)
    else
      let t ← g.type true
      pure (attrs ++ t))

/-- An `extern` with an optional name of the calling convention. -/
def convention : Reader Tokens := do
  if ← atWord "extern" then
    let extern_ ← word "extern"
    let abi ← look fun ts =>
      match ts with
      | .literal text :: _ => if Literal.isString text then some text else none
      | _ => none
    match abi with
    | some text => do
      let _ ← token
      pure (extern_ ++ literal text)
    | none => pure extern_
  else pure []

def functionType : Reader Tokens := do
  let unsafe_ ← wordIf "unsafe"
  let extern_ ← convention
  let fn ← word "fn"
  let inputs ← g.functionInputs
  let output ← if ← atOp "->" then
      let arrow ← op "->"
      let t ← g.type false
      pure (arrow ++ t)
    else pure []
  pure (unsafe_ ++ extern_ ++ fn ++ inputs ++ output)

/-- More bounds of a type that is itself a bound. -/
def moreBounds (plus : Bool) : Reader Tokens := do
  if plus && (← atOp "+") then
    let sign ← op "+"
    if ← atBound then
      let bs ← g.boundList true false
      pure (sign ++ bs)
    else pure sign
  else pure []

def typeRule (plus : Bool) : Reader Tokens := do
  if ← atWord "for" then
    let for_ ← binder
    if ← atAnyWord ["fn", "unsafe", "extern"] then
      let f ← g.functionType
      pure (for_ ++ f)
    else
      let p ← g.typePath
      let more ← g.moreBounds plus
      pure (for_ ++ p ++ more)
  else if ← atAnyWord ["fn", "unsafe", "extern"] then g.functionType
  else if ← atWord "dyn" then
    let dyn ← word "dyn"
    let bs ← g.boundsType plus false
    pure (dyn ++ bs)
  else if ← atWord "impl" then
    let impl ← word "impl"
    let bs ← g.boundsType plus true
    pure (impl ++ bs)
  else if ← atGroup .paren then
    let tuple ← group .paren (commaList (g.type true))
    let more ← g.moreBounds plus
    pure (tuple ++ more)
  else if ← atGroup .bracket then
    group .bracket do
      let t ← g.type true
      if ← atOp ";" then
        let semi ← op ";"
        let length ← g.expr true
        pure (t ++ semi ++ length)
      else pure t
  else if ← atOp "*" then
    let star ← op "*"
    let access ← if ← atWord "const" then word "const" else word "mut"
    let t ← g.type false
    pure (star ++ access ++ t)
  else if ← atOp "&" then
    let amp ← op "&"
    let l ← if ← atLifetime then lifetimeName else pure []
    let mut_ ← wordIf "mut"
    let t ← g.type false
    pure (amp ++ l ++ mut_ ++ t)
  else if (← atOp "!") && !(← atOp "!=") then op "!"
  else if ← atWord "_" then word "_"
  else if ← atLifetime then g.boundsType plus false
  else
    let p ← g.typePath
    if (← atOp "!") && !(← atOp "!=") then
      let bang ← op "!"
      let body ← rawGroup
      pure (p ++ bang ++ body)
    else
      let more ← g.moreBounds plus
      pure (p ++ more)

/-! ## Blocks -/

def atItem : Reader Bool := do
  let second ← after 1 nextWord?
  let isSecond (w : String) : Bool := second.any fun i => i.any (·.isWord w)
  if ← atAnyWord
      ["fn", "struct", "enum", "use", "mod", "trait", "impl", "type", "pub", "extern", "macro"] then
    pure true
  else if ← atWord "static" then
    pure (second.any fun i => i.any fun i => !i.isKeyword || i.isWord "mut")
  else if ← atWord "const" then
    pure (second.any Option.isSome && !(isSecond "move") && !(isSecond "static"))
  else if (← atWord "union") && second.any (fun i => i.any fun i => !i.isKeyword) then pure true
  else if (← atWord "auto") && isSecond "trait" then pure true
  else if (← atWord "default") && (isSecond "impl" || isSecond "unsafe") then pure true
  else if ← atWord "unsafe" then
    pure (["fn", "impl", "trait", "extern", "mod"].any isSecond)
  else if ← atWord "async" then pure (isSecond "fn" || isSecond "unsafe")
  else
    let call ← after 0 do
      let _ ← g.path true
      let _ ← op "!"
      ident
    pure call.isSome

def letBinding : Reader Tokens := do
  let let_ ← word "let"
  let p ← g.single
  let t ← if ← atOp ":" then
      let colon ← op ":"
      let t ← g.type true
      pure (colon ++ t)
    else pure []
  let value ← if ← atOp "=" then
      let eq ← op "="
      let v ← g.expr true
      let otherwise ← if ← atWord "else" then
          let else_ ← word "else"
          let block ← g.expr true
          pure (else_ ++ block)
        else pure []
      pure (eq ++ v ++ otherwise)
    else pure []
  pure (let_ ++ p ++ t ++ value)

/-- Whether an invocation in braces comes next that is a statement of its own. -/
def atInvocation : Reader Bool := do
  let found ← after 0 do
    let _ ← g.path true
    let _ ← op "!"
    let _ ← groupContent .brace
    check !((← atOp "?") || ((← atOp ".") && !(← atOp "..")))
  pure found.isSome

def statements : Reader Tokens := List.flatten <$> steps do
  if ← atEnd then pure none
  else if ← atOp ";" then some <$> op ";"
  else if ← g.atItem then some <$> g.item
  else
    let attrs ← g.attributes
    if ← g.atItem then
      let i ← g.item
      pure (some (attrs ++ i))
    else if ← atWord "let" then
      let l ← g.letBinding
      let semi ← op ";"
      pure (some (attrs ++ l ++ semi))
    else if ← g.atInvocation then
      let p ← g.path true
      let bang ← op "!"
      let body ← rawGroup
      pure (some (attrs ++ p ++ bang ++ body))
    else
      let (e, complete) ← g.statement
      let semi ← opIf ";"
      check (complete || !semi.isEmpty || (← atEnd))
      pure (some (attrs ++ e ++ semi))

def innerAttributes : Reader Tokens := List.flatten <$> steps do
  if (← atOp "#") && (← after 1 (op "!")).isSome then
    let pound ← op "#"
    let bang ← op "!"
    let content ← group .bracket g.attributeContent
    pure (some (pound ++ bang ++ content))
  else pure none

/-- A block: inner attributes and statements in braces. -/
def block : Reader Tokens := group .brace do
  let inner ← g.innerAttributes
  let body ← g.statements
  pure (inner ++ body)

/-! ## Patterns -/

def atPathStart : Reader Bool := do
  let i ← nextWord?
  pure (i.any (fun i => !i.isKeyword || i.isPathWord) || (← atOp "::") || (← atOp "<"))

def atConstant : Reader Bool := do
  pure ((← atLiteral) || (← atWord "const"))

/-- A literal, a constant block or a path: a bound of a range. -/
def patternBound : Reader Tokens := do
  if ← atLiteral then literal <$> literalText
  else if ← atWord "const" then
    let const_ ← word "const"
    let body ← g.block
    pure (const_ ++ body)
  else g.path true

/-- The dots and the end of a range. An end that is included has to be there; its dots
    may be three, and are written in the newer form. -/
def patternRange : Reader Tokens := do
  if (← atOp "..=") || (← atOp "...") then
    let _ ← if ← atOp "..=" then op "..=" else op "..."
    let stop ← g.patternBound
    pure (operator "..=" ++ stop)
  else
    let dots ← op ".."
    let stop ← if (← atConstant) || (← atPathStart) then g.patternBound else pure []
    pure (dots ++ stop)

def fieldPattern : Reader Tokens := do
  if ← atOp ".." then
    let dots ← op ".."
    check (← atEnd)
    pure dots
  else if (← after 1 (op ":")).isSome then
    let member ← token
    let colon ← op ":"
    let p ← g.pattern
    pure ([member] ++ colon ++ p)
  else
    let ref ← wordIf "ref"
    let mut_ ← wordIf "mut"
    let i ← ident
    pure (ref ++ mut_ ++ i.tokens)

def pathPattern : Reader Tokens := do
  let p ← g.path true
  if ← atOp "@" then
    let at_ ← op "@"
    let sub ← g.single
    pure (p ++ at_ ++ sub)
  else if (← atOp "!") && !(← atOp "!=") then
    let bang ← op "!"
    let body ← rawGroup
    pure (p ++ bang ++ body)
  else if ← atGroup .paren then
    let fields ← group .paren (commaList g.pattern)
    pure (p ++ fields)
  else if ← atGroup .brace then
    let fields ← group .brace (commaList do
      let attrs ← g.attributes
      let field ← g.fieldPattern
      pure (attrs ++ field))
    pure (p ++ fields)
  else if ← atOp ".." then
    let range ← g.patternRange
    pure (p ++ range)
  else pure p

/-- A pattern without alternatives. -/
def singleRule : Reader Tokens := do
  if ← atWord "_" then word "_"
  else if (← atOp "..") && !(← atOp "...") then g.patternRange
  else if ← atOp "&" then
    let amp ← op "&"
    let mut_ ← wordIf "mut"
    let p ← g.single
    pure (amp ++ mut_ ++ p)
  else if ← atGroup .paren then group .paren (commaList g.pattern)
  else if ← atGroup .bracket then group .bracket (commaList g.pattern)
  else if (← atAnyWord ["ref", "mut"]) then
    let ref ← wordIf "ref"
    let mut_ ← wordIf "mut"
    let i ← ident
    let sub ← if ← atOp "@" then
        let at_ ← op "@"
        let p ← g.single
        pure (at_ ++ p)
      else pure []
    pure (ref ++ mut_ ++ i.tokens ++ sub)
  else if ← atConstant then
    let start ← g.patternBound
    let range ← if ← atOp ".." then g.patternRange else pure []
    pure (start ++ range)
  else g.pathPattern

def patternRule : Reader Tokens := do
  let leading ← if (← atOp "|") && !(← atOp "||") then op "|" else pure []
  let first ← g.single
  let more ← steps do
    if (← atOp "|") && !(← atOp "||") && !(← atOp "|=") then
      let bar ← op "|"
      let p ← g.single
      pure (some (bar ++ p))
    else pure none
  pure (leading ++ first ++ more.flatten)

/-! ## Expressions -/

/-- The operators between two operands, longer ones first. -/
def binaryOperators : List String :=
  ["<<=", ">>=", "&&", "||", "<<", ">>", "==", "<=", "!=", ">=", "+=", "-=", "*=", "/=", "%=",
    "^=", "&=", "|=", "+", "-", "*", "/", "%", "^", "&", "|", "<", ">", "="]

def binaryOperator? : Reader (Option Tokens) := do
  if ← atOp "=>" then pure none
  else
    let found ← look fun ts => binaryOperators.find? fun o => startsWith o.toList ts
    match found with
    | some o => some <$> op o
    | none => pure none

def atOperand (structures : Bool) : Reader Bool := do
  if (← atEnd) || (← atOp ",") || (← atOp ";") || (← atOp "=>") || (← atOp "=") then pure false
  else if ← atGroup .brace then pure structures
  else pure true

/-- The parameters and the body of a closure. The flag says whether the body may be a
    structure literal. -/
def closure (structures : Bool) : Reader Tokens := do
  let for_ ← binder
  let const_ ← wordIf "const"
  let static_ ← wordIf "static"
  let async_ ← wordIf "async"
  let move_ ← wordIf "move"
  let left ← op "|"
  let inputs ← steps do
    if ← atOp "|" then pure none
    else
      let attrs ← g.attributes
      let p ← g.single
      let t ← if ← atOp ":" then
          let colon ← op ":"
          let t ← g.type true
          pure (colon ++ t)
        else pure []
      let comma ← opIf ","
      check (!comma.isEmpty || (← atOp "|"))
      pure (some (attrs ++ p ++ t ++ comma))
  let right ← op "|"
  let head := for_ ++ const_ ++ static_ ++ async_ ++ move_ ++ left ++ inputs.flatten ++ right
  if ← atOp "->" then
    let arrow ← op "->"
    let t ← g.type true
    let body ← g.block
    pure (head ++ arrow ++ t ++ body)
  else
    let body ← g.expr structures
    pure (head ++ body)

def conditional : Nat → Reader Tokens
  | 0 => fail
  | fuel + 1 => do
    let if_ ← word "if"
    let condition ← g.expr false
    let yes ← g.block
    let no ← if ← atWord "else" then do
        let else_ ← word "else"
        let branch ← if ← atWord "if" then conditional fuel else g.block
        pure (else_ ++ branch)
      else pure []
    pure (if_ ++ condition ++ yes ++ no)

/-- One case: a pattern, perhaps a condition, and what is done then. -/
def arm : Reader Tokens := do
  let attrs ← g.attributes
  let p ← g.pattern
  let guard ← if ← atWord "if" then do
      let if_ ← word "if"
      let e ← g.expr true
      pure (if_ ++ e)
    else pure []
  let arrow ← op "=>"
  let (body, complete) ← g.statement
  let comma ← opIf ","
  check (complete || !comma.isEmpty || (← atEnd))
  pure (attrs ++ p ++ guard ++ arrow ++ body ++ comma)

def caseDistinction : Reader Tokens := do
  let match_ ← word "match"
  let subject ← g.expr false
  let arms ← group .brace do
    let inner ← g.innerAttributes
    let arms ← steps do
      if ← atEnd then pure none else some <$> g.arm
    pure (inner ++ arms.flatten)
  pure (match_ ++ subject ++ arms)

def loopRule : Reader Tokens := do
  if ← atWord "loop" then
    let loop ← word "loop"
    let body ← g.block
    pure (loop ++ body)
  else if ← atWord "while" then
    let while_ ← word "while"
    let condition ← g.expr false
    let body ← g.block
    pure (while_ ++ condition ++ body)
  else
    let for_ ← word "for"
    let p ← g.pattern
    let in_ ← word "in"
    let e ← g.expr false
    let body ← g.block
    pure (for_ ++ p ++ in_ ++ e ++ body)

def structureFields : Reader Tokens := group .brace (commaList do
  let attrs ← g.attributes
  if ← atOp ".." then
    let dots ← op ".."
    let base ← if ← atEnd then pure [] else g.expr true
    pure (attrs ++ dots ++ base)
  else
    let member ← token
    match member with
    | .ident _ | .literal _ =>
      if ← atOp ":" then
        let colon ← op ":"
        let e ← g.expr true
        pure (attrs ++ [member] ++ colon ++ e)
      else pure (attrs ++ [member])
    | _ => fail)

/-- A list in square brackets: items, or one item and a length. -/
def listExpr : Reader Tokens := group .bracket do
  if ← atEnd then pure []
  else
    let first ← g.expr true
    if ← atOp ";" then
      let semi ← op ";"
      let length ← g.expr true
      pure (first ++ semi ++ length)
    else if ← atEnd then pure first
    else
      let comma ← op ","
      let rest ← commaList (g.expr true)
      pure (first ++ comma ++ rest)

/-- An operand without what precedes or follows it. -/
def atom (structures : Bool) : Reader Tokens := do
  let fuel := (← get).length
  let t ← look List.head?
  match t with
  | some (.literal text) =>
    let _ ← token
    pure (literal text)
  | some (.group .paren _) => group .paren (commaList (g.expr true))
  | some (.group .bracket _) => g.listExpr
  | some (.group .brace _) => g.block
  | some (.ident i) =>
    if i.isWord "true" || i.isWord "false" || i.isWord "_" then Ident.tokens <$> anyIdent
    else if i.isWord "if" then g.conditional fuel
    else if i.isWord "match" then g.caseDistinction
    else if i.isWord "loop" || i.isWord "while" || i.isWord "for" then
      if ← atBinder then g.closure structures else g.loopRule
    else if i.isWord "move" || i.isWord "static" then g.closure structures
    else if i.isWord "unsafe" || i.isWord "const" || i.isWord "try" then
      if i.isWord "const" && (← after 1 (groupContent .brace)).isNone then g.closure structures
      else
        let front ← anyIdent
        let body ← g.block
        pure (front.tokens ++ body)
    else if i.isWord "async" then
      if (← after 1 (groupContent .brace)).isSome then
        let front ← anyIdent
        let body ← g.block
        pure (front.tokens ++ body)
      else if (← after 1 (word "move")).isSome && (← after 2 (groupContent .brace)).isSome then
        let async_ ← anyIdent
        let move_ ← anyIdent
        let body ← g.block
        pure (async_.tokens ++ move_.tokens ++ body)
      else g.closure structures
    else if i.isWord "become" then
      let front ← anyIdent
      let value ← g.expr structures
      pure (front.tokens ++ value)
    else if i.isWord "return" || i.isWord "break" || i.isWord "yield" then
      let front ← anyIdent
      let label ← if i.isWord "break" && (← atLifetime) then lifetimeName else pure []
      let value ← if ← atOperand structures then g.expr structures else pure []
      pure (front.tokens ++ label ++ value)
    else if i.isWord "continue" then
      let front ← anyIdent
      let label ← if ← atLifetime then lifetimeName else pure []
      pure (front.tokens ++ label)
    else if i.isWord "let" then
      let let_ ← anyIdent
      let p ← g.pattern
      let eq ← op "="
      let e ← g.expr structures
      pure (let_.tokens ++ p ++ eq ++ e)
    else pathOperand
  | _ =>
    if ← atLifetime then
      let l ← lifetimeName
      let colon ← op ":"
      let body ← if ← atGroup .brace then g.block else g.loopRule
      pure (l ++ colon ++ body)
    else if ← atOp "|" then g.closure structures
    else pathOperand
where
  pathOperand : Reader Tokens := do
    let p ← g.path true
    if (← atOp "!") && !(← atOp "!=") then
      let bang ← op "!"
      let body ← rawGroup
      pure (p ++ bang ++ body)
    else if structures && (← atGroup .brace) then
      let fields ← g.structureFields
      pure (p ++ fields)
    else pure p

/-- Numbered members. Two of them in a row are read as one number with a point. -/
def memberPath (dot : Tokens) (text : String) : Reader Tokens := do
  let parts := text.splitOn "."
  check (parts.all fun part => !part.isEmpty && part.toList.all isDigit)
  pure (parts.flatMap fun part => dot ++ literal part)

/-- What may follow an operand: members, calls, indices and question marks. -/
def trailers : Reader Tokens := List.flatten <$> steps do
  if (← atOp ".") && !(← atOp "..") then
    let dot ← op "."
    let member ← token
    match member with
    | .ident _ =>
      let turbofish ← if ← atOp "::" then do
          let colons ← op "::"
          let arguments ← g.angleArguments
          pure (colons ++ arguments)
        else pure []
      pure (some (dot ++ [member] ++ turbofish))
    | .literal text => some <$> memberPath dot text
    | _ => fail
  else if ← atGroup .paren then some <$> group .paren (commaList (g.expr true))
  else if ← atGroup .bracket then some <$> group .bracket (g.expr true)
  else if ← atOp "?" then some <$> op "?"
  else pure none

/-- An operand with its signs, references and trailers. -/
def operand (structures : Bool) : Reader Tokens := do
  let front ← steps do
    if ← atOp "#" then some <$> nonempty g.attributes
    else if ← atOp "&" then do
      let amp ← op "&"
      let raw ← if (← atWord "raw") && ((← after 1 (word "const")).isSome
          || (← after 1 (word "mut")).isSome) then do
            let raw ← word "raw"
            let access ← anyIdent
            pure (raw ++ access.tokens)
        else wordIf "mut"
      pure (some (amp ++ raw))
    else if ← atOp "*" then some <$> op "*"
    else if ← atOp "!" then some <$> op "!"
    else if ← atOp "-" then some <$> op "-"
    else pure none
  let a ← g.atom structures
  let more ← g.trailers
  pure (front.flatten ++ a ++ more)
where
  nonempty (r : Reader Tokens) : Reader Tokens := do
    let ts ← r
    check !ts.isEmpty
    pure ts

/-- A range without a start, if one comes next. -/
def openRange (structures : Bool) : Reader (Option Tokens) := do
  if ← atOp ".." then
    let dots ← if ← atOp "..=" then op "..=" else op ".."
    if ← atOperand structures then
      let stop ← g.operand structures
      pure (some (dots ++ stop))
    else pure (some dots)
  else pure none

/-- Operators and operands that go on an expression. -/
def operations (structures : Bool) : Reader Tokens := List.flatten <$> steps do
  if ← atWord "as" then
    let as_ ← word "as"
    let t ← g.type false
    pure (some (as_ ++ t))
  else if ← atOp ".." then g.openRange structures
  else
    let o ← binaryOperator?
    match o with
    | some o => do
      let second ← g.openRange structures
      match second with
      | some ts => pure (some (o ++ ts))
      | none =>
        let e ← g.operand structures
        pure (some (o ++ e))
    | none => pure none

def exprRule (structures : Bool) : Reader Tokens := do
  let range ← g.openRange structures
  let first ← match range with
    | some ts => pure ts
    | none => g.operand structures
  let more ← g.operations structures
  pure (first ++ more)

/-- Whether an expression comes next that ends with its block. -/
def atBlockLike : Reader Bool := do
  let opens (n : Nat) : Reader Bool := Option.isSome <$> after n (groupContent .brace)
  if ← atBinder then pure false
  else if (← atGroup .brace) || (← atAnyWord ["if", "while", "for", "loop", "match"]) then pure true
  else if ← atAnyWord ["unsafe", "const", "try"] then opens 1
  else atLifetime

/-- An expression at the start of a statement, and whether it is complete there without a
    semicolon, as a block alone is. A member or a question mark goes on after a block, an
    operator does not. -/
def statementRule : Reader (Tokens × Bool) := do
  if ← atBlockLike then
    let first ← g.atom true
    if ((← atOp ".") && !(← atOp "..")) || (← atOp "?") then
      let more ← g.trailers
      let rest ← g.operations true
      pure (first ++ more ++ rest, false)
    else pure (first, true)
  else
    let e ← g.exprRule true
    pure (e, false)

end Grammar

end KeyedRecords.Source
