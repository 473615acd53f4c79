import KeyedRecords.Source.Literal

/-!
# Readers of token trees

A reader takes tokens from the front of a list and refuses by `none`. Readers
give what they read in its standard form: every operator is one token, and its
last character is joined to nothing.
-/

namespace KeyedRecords.Source

abbrev Reader := StateT Tokens Option

/-- The words that are not identifiers unless they are raw. -/
def keywords : List String :=
  ["_", "abstract", "as", "async", "await", "become", "box", "break", "const", "continue",
    "crate", "do", "dyn", "else", "enum", "extern", "false", "final", "fn", "for", "if", "impl",
    "in", "let", "loop", "macro", "match", "mod", "move", "mut", "override", "priv", "pub",
    "ref", "return", "Self", "self", "static", "struct", "super", "trait", "true", "try",
    "type", "typeof", "unsafe", "unsized", "use", "virtual", "where", "while", "yield"]

def Ident.isKeyword (i : Ident) : Bool := !i.raw && keywords.contains i.name

/-- The words that may begin a path besides identifiers. -/
def Ident.isPathWord (i : Ident) : Bool := ["super", "self", "Self", "crate"].any i.isWord

/-- Whether the tokens begin with an operator. All its characters but the last must be
    joined. -/
def startsWith : List Char → Tokens → Bool
  | [], _ => true
  | [c], .punct d _ :: _ => c == d
  | c :: cs, .punct d joint :: rest => c == d && joint && startsWith cs rest
  | _ :: _, _ => false

namespace Reader

/-! ## Looking ahead -/

def fail {α : Type} : Reader α := fun _ => none

def check (condition : Bool) : Reader Unit := if condition then pure () else fail

def look {α : Type} (f : Tokens → α) : Reader α := f <$> get

def atEnd : Reader Bool := look List.isEmpty

def atOp (op : String) : Reader Bool := look (startsWith op.toList)

def nextWord? : Reader (Option Ident) := look fun ts =>
  match ts with
  | .ident i :: _ => some i
  | _ => none

def atWord (word : String) : Reader Bool := do
  let i ← nextWord?
  pure (i.any (·.isWord word))

def atAnyWord (words : List String) : Reader Bool := do
  let i ← nextWord?
  pure (words.any fun w => i.any (·.isWord w))

def atIdent : Reader Bool := do
  let i ← nextWord?
  pure (i.any fun i => !i.isKeyword)

def nextGroup? : Reader (Option Delimiter) := look fun ts =>
  match ts with
  | .group d _ :: _ => some d
  | _ => none

def atGroup (d : Delimiter) : Reader Bool := do
  let next ← nextGroup?
  pure (next == some d)

def atLifetime : Reader Bool := look fun ts =>
  match ts with
  | .punct c true :: .ident _ :: _ => c == quote
  | _ => false

/-- Looks ahead after so many tokens. -/
def after {α : Type} (n : Nat) (r : Reader α) : Reader (Option α) := look fun ts =>
  (r (ts.drop n)).map Prod.fst

/-! ## Taking tokens -/

def token : Reader Token := fun ts =>
  match ts with
  | [] => none
  | t :: rest => some (t, rest)

/-- Takes an operator. -/
def op (text : String) : Reader Tokens := do
  check (← atOp text)
  modify (List.drop text.length)
  pure (operator text)

def opIf (text : String) : Reader Tokens := do
  if ← atOp text then op text else pure []

def word (text : String) : Reader Tokens := do
  check (← atWord text)
  modify (List.drop 1)
  pure (Ident.ofName text).tokens

def wordIf (text : String) : Reader Tokens := do
  if ← atWord text then word text else pure []

/-- An identifier or keyword. -/
def anyIdent : Reader Ident := do
  let t ← token
  match t with
  | .ident i => pure i
  | _ => fail

def ident : Reader Ident := do
  let i ← anyIdent
  check (!i.isKeyword)
  pure i

def lifetimeName : Reader Tokens := do
  check (← atLifetime)
  let _ ← token
  lifetime <$> anyIdent

def groupContent (d : Delimiter) : Reader Tokens := do
  let t ← token
  match t with
  | .group e content => if e = d then pure content else fail
  | _ => fail

/-- Runs a reader over all of some tokens. -/
def within {α : Type} (content : Tokens) (r : Reader α) : Reader α := fun ts =>
  match r content with
  | some (a, []) => some (a, ts)
  | _ => none

def inGroup {α : Type} (d : Delimiter) (r : Reader α) : Reader α := do
  let content ← groupContent d
  within content r

/-- The standard form of a group. -/
def group (d : Delimiter) (r : Reader Tokens) : Reader Tokens := do
  let content ← inGroup d r
  pure [.group d content]

/-- A group as it is written. -/
def rawGroup : Reader Tokens := do
  let t ← token
  match t with
  | .group _ _ => pure [t]
  | _ => fail

/-- A literal, or a negative number as one literal. -/
def literalText : Reader String := do
  let t ← token
  match t with
  | .literal text => pure text
  | .punct '-' _ =>
    let t ← token
    match t with
    | .literal text => if Literal.isNumber text then pure ("-" ++ text) else fail
    | _ => fail
  | .ident i => if i.isWord "true" || i.isWord "false" then pure i.name else fail
  | _ => fail

def atLiteral : Reader Bool := do
  let found ← after 0 literalText
  pure found.isSome

/-! ## Repetition -/

/-- Steps until one gives nothing. A step that gives something takes at least a token. -/
def stepsFrom {α : Type} (step : Reader (Option α)) : Nat → Reader (List α)
  | 0 => pure []
  | fuel + 1 => do
    let a ← step
    match a with
    | none => pure []
    | some a =>
      let as ← stepsFrom step fuel
      pure (a :: as)

def steps {α : Type} (step : Reader (Option α)) : Reader (List α) := do
  let ts ← get
  stepsFrom step (ts.length + 1)

/-- Items up to the end, each but the last followed by a comma. The flag tells whether
    the comma was there. -/
def separated {α : Type} (item : Reader α) : Reader (List (α × Bool)) :=
  steps do
    if ← atEnd then pure none
    else
      let a ← item
      let more ← atEnd
      if more then pure (some (a, false))
      else
        let _ ← op ","
        pure (some (a, true))

def commaTokens (items : List (Tokens × Bool)) : Tokens :=
  items.flatMap fun (ts, comma) => ts ++ if comma then operator "," else []

def commaList (item : Reader Tokens) : Reader Tokens := commaTokens <$> separated item

end Reader

end KeyedRecords.Source
