/-!
# Token trees

Source text is a list of token trees: identifiers, punctuation characters,
literals, and groups between delimiters. `render` writes them with one space
between neighbours, except after a punctuation character that is joined to the
next one.

* `Tokens.render`: the written form.
* `words`: tokens from a text of words, for the templates of generated text.
-/

namespace KeyedRecords.Source

inductive Delimiter
  | paren
  | bracket
  | brace
  deriving DecidableEq, Repr

/-- An identifier. A raw one is written with `r#` in front. -/
structure Ident where
  name : String
  raw : Bool
  deriving DecidableEq, Repr

def Ident.text (i : Ident) : String := if i.raw then "r#" ++ i.name else i.name

def Ident.ofName (name : String) : Ident := ⟨name, false⟩

/-- Whether the identifier is this word and not raw. -/
def Ident.isWord (i : Ident) (word : String) : Bool := !i.raw && i.name == word

/-- A token tree. -/
inductive Token
  | ident (i : Ident)
  | punct (c : Char) (joint : Bool)
  | literal (text : String)
  | group (d : Delimiter) (content : List Token)
  deriving Repr

/-- Source text as token trees. -/
abbrev Tokens := List Token

/-- Whether the next token follows without a space. -/
def Token.isJoint : Token → Bool
  | .punct _ joint => joint
  | _ => false

mutual

def Token.render : Token → String
  | .ident i => i.text
  | .punct c _ => String.ofList [c]
  | .literal text => text
  | .group .paren content => "(" ++ Tokens.render content ++ ")"
  | .group .bracket content => "[" ++ Tokens.render content ++ "]"
  | .group .brace [] => "\x7b \x7d"
  | .group .brace (t :: ts) => "\x7b " ++ Tokens.render (t :: ts) ++ " \x7d"

def Tokens.render : Tokens → String
  | [] => ""
  | [t] => t.render
  | t :: u :: rest => t.render ++ (if t.isJoint then "" else " ") ++ Tokens.render (u :: rest)

end

/-! ## Building tokens -/

/-- The quote that introduces a lifetime. -/
def quote : Char := '\x27'

/-- An operator: its characters, each joined to the next. -/
def operatorChars : List Char → Tokens
  | [] => []
  | [c] => [.punct c false]
  | c :: cs => .punct c true :: operatorChars cs

def operator (op : String) : Tokens := operatorChars op.toList

/-- A lifetime: a joined quote and a name. -/
def lifetime (name : Ident) : Tokens := [.punct quote true, .ident name]

/-- The tokens of one word: a lifetime, a name or an operator. -/
def wordTokens (word : List Char) : Tokens :=
  match word with
  | [] => []
  | c :: cs =>
    if c = quote then lifetime (.ofName (String.ofList cs))
    else if c.isAlpha || c == '_' then [.ident (.ofName (String.ofList word))]
    else operatorChars word

/-- The tokens of words that spaces separate. -/
def words (text : String) : Tokens :=
  (text.splitOn " ").flatMap fun w => wordTokens w.toList

def parens (content : Tokens) : Tokens := [.group .paren content]

def brackets (content : Tokens) : Tokens := [.group .bracket content]

def braces (content : Tokens) : Tokens := [.group .brace content]

def Ident.tokens (i : Ident) : Tokens := [.ident i]

/-- A literal as tokens. The sign of a number is a token of its own. -/
def literal (text : String) : Tokens :=
  match text.toList with
  | '-' :: magnitude => operator "-" ++ [.literal (String.ofList magnitude)]
  | _ => [.literal text]

def joinWith (separator : Tokens) : List Tokens → Tokens
  | [] => []
  | [ts] => ts
  | ts :: rest => ts ++ separator ++ joinWith separator rest

def commaTerminated (items : List Tokens) : Tokens := items.flatMap fun ts => ts ++ operator ","

end KeyedRecords.Source
