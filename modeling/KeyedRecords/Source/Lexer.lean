import KeyedRecords.Source.Token
import KeyedRecords.Text.Escape

/-!
# From text to token trees

`Tokens.ofText` reads source text. Comments are skipped, and doc comments become
`doc` attributes. Each scanner takes the characters that are left and gives the
rest after what it recognises.

A punctuation character is joint when another one follows without a space. Text
that is no token and brackets that do not match are refused.
-/

namespace KeyedRecords.Source

open Text

/-! ## Names -/

def startsName (c : Char) : Bool := c == '_' || identifierStart.holds c

def continuesName (c : Char) : Bool := identifierContinue.holds c

/-- The rest after a name, if there is one. -/
def afterName (cs : List Char) : Option (List Char) :=
  match cs with
  | c :: rest => if startsName c then some (rest.dropWhile continuesName) else none
  | [] => none

/-- The characters before `rest` in `cs`. -/
def consumed (cs rest : List Char) : String := String.ofList (cs.take (cs.length - rest.length))

def afterWord (word : String) (cs : List Char) : Option (List Char) :=
  if word.toList.isPrefixOf cs then some (cs.drop word.length) else none

/-- Reads an identifier. Some keywords have no raw form. -/
def scanIdent (cs : List Char) : Option (Ident × List Char) :=
  match afterWord "r#" cs with
  | some rest => do
    let after ← afterName rest
    let name := consumed rest after
    if ["_", "super", "self", "Self", "crate"].contains name then none
    else some (⟨name, true⟩, after)
  | none => do
    let after ← afterName cs
    some (⟨consumed cs after, false⟩, after)

/-- The starts of literals that no name may have. -/
def literalStarts : List String :=
  ["r\"", "r#\"", "r##", "b\"", "b\x27", "br\"", "br#", "c\"", "cr\"", "cr#"]

/-! ## Text literals -/

inductive QuotedKind
  | text
  | bytes
  | terminated
  deriving DecidableEq, Repr

def QuotedKind.admits (k : QuotedKind) (c : Char) : Bool :=
  match k with
  | text => true
  | bytes => c.toNat < 128
  | terminated => c.toNat != 0

def hexDigit? (c : Char) : Option Nat :=
  if '0' ≤ c ∧ c ≤ '9' then some (c.toNat - 48)
  else if 'a' ≤ c ∧ c ≤ 'f' then some (c.toNat - 87)
  else if 'A' ≤ c ∧ c ≤ 'F' then some (c.toNat - 55)
  else none

/-- Reads the digits of a code point up to its closing brace. -/
def scanCodePoint (value digits : Nat) : List Char → Option (Nat × List Char)
  | [] => none
  | c :: rest =>
    if c = '\x7d' ∧ 0 < digits then
      if value.isValidChar then some (value, rest) else none
    else if c = '_' ∧ 0 < digits then scanCodePoint value digits rest
    else
      match hexDigit? c with
      | some d => if digits = 6 then none else scanCodePoint (16 * value + d) (digits + 1) rest
      | none => none

/-- Reads an escape after its backslash: the code it stands for and the rest. -/
def scanEscape (k : QuotedKind) (cs : List Char) : Option (Nat × List Char) :=
  match cs with
  | 'x' :: a :: b :: rest => do
    let high ← hexDigit? a
    let low ← hexDigit? b
    let value := 16 * high + low
    if k = .text ∧ 128 ≤ value ∨ k = .terminated ∧ value = 0 then none else some (value, rest)
  | 'u' :: '\x7b' :: rest =>
    if k = .bytes then none
    else do
      let (value, rest) ← scanCodePoint 0 0 rest
      if k = .terminated ∧ value = 0 then none else some (value, rest)
  | '0' :: rest => if k = .terminated then none else some (0, rest)
  | 'n' :: rest => some (10, rest)
  | 'r' :: rest => some (13, rest)
  | 't' :: rest => some (9, rest)
  | '\\' :: rest => some (92, rest)
  | '"' :: rest => some (34, rest)
  | c :: rest => if c = quote then some (39, rest) else none
  | [] => none

/-- Skips the blanks after a backslash at the end of a line. `last` is the character
    before them; a carriage return needs its line feed. -/
def afterLineBreak (last : Char) : List Char → Option (List Char)
  | [] => none
  | c :: rest =>
    if last = '\r' then
      if c = '\n' then
        match rest with
        | [] => none
        | d :: _ =>
          if d = ' ' ∨ d = '\t' ∨ d = '\n' ∨ d = '\r' then afterLineBreak ' ' rest else some rest
      else none
    else if c = ' ' ∨ c = '\t' ∨ c = '\n' then afterLineBreak c rest
    else if c = '\r' then afterLineBreak c rest
    else some (c :: rest)

def afterSuffix (cs : List Char) : List Char := (afterName cs).getD cs

/-- The rest after a quoted literal, whose opening quote is read. -/
def afterQuoted (k : QuotedKind) : Nat → List Char → Option (List Char)
  | 0, _ => none
  | _ + 1, [] => none
  | fuel + 1, c :: rest =>
    if c = '"' then some (afterSuffix rest)
    else if c = '\r' then
      match rest with
      | '\n' :: rest => afterQuoted k fuel rest
      | _ => none
    else if c = '\\' then
      match rest with
      | [] => none
      | d :: more =>
        if d = '\n' ∨ d = '\r' then (afterLineBreak d more).bind (afterQuoted k fuel)
        else (scanEscape k rest).bind fun e => afterQuoted k fuel e.2
    else if k.admits c then afterQuoted k fuel rest
    else none

/-- The rest after the content of a raw literal with `hashes` marks. -/
def afterRawContent (k : QuotedKind) (hashes : Nat) : List Char → Option (List Char)
  | [] => none
  | c :: rest =>
    if c = '"' ∧ (rest.take hashes).length = hashes ∧ (rest.take hashes).all (· == '#') then
      some (afterSuffix (rest.drop hashes))
    else if c = '\r' ∧ rest.head? ≠ some '\n' then none
    else if k.admits c then afterRawContent k hashes rest
    else none

/-- The rest after a raw literal, whose letters are read. -/
def afterRaw (k : QuotedKind) (cs : List Char) : Option (List Char) :=
  let hashes := (cs.takeWhile (· == '#')).length
  match cs.drop hashes with
  | '"' :: rest => if hashes ≤ 255 then afterRawContent k hashes rest else none
  | _ => none

/-- The rest after a literal of one character or byte, whose opening quote is read. -/
def afterChar (k : QuotedKind) (cs : List Char) : Option (List Char) :=
  match cs with
  | [] => none
  | c :: rest => do
    let after ← if c = '\\' then (scanEscape k rest).map Prod.snd else
      if k.admits c then some rest else none
    match after with
    | d :: rest => if d = quote then some (afterSuffix rest) else none
    | [] => none

def afterTextLiteral (cs : List Char) : Option (List Char) :=
  let fuel := cs.length + 1
  match cs with
  | '"' :: rest => afterQuoted .text fuel rest
  | 'r' :: rest => afterRaw .text rest
  | 'b' :: '"' :: rest => afterQuoted .bytes fuel rest
  | 'b' :: 'r' :: rest => afterRaw .bytes rest
  | 'c' :: '"' :: rest => afterQuoted .terminated fuel rest
  | 'c' :: 'r' :: rest => afterRaw .terminated rest
  | 'b' :: c :: rest => if c = quote then afterChar .bytes rest else none
  | c :: rest => if c = quote then afterChar .text rest else none
  | [] => none

/-! ## Number literals -/

def isDigit (c : Char) : Bool := '0' ≤ c && c ≤ '9'

/-- The rest after a number, unless a name would go on it. -/
def afterNumber (rest : List Char) : Option (List Char) :=
  let rest := afterSuffix rest
  if rest.head?.any continuesName then none else some rest

/-- Takes the digits of a fraction and notes a point. -/
def afterFraction (dotted : Bool) : List Char → Option (Bool × List Char)
  | [] => some (dotted, [])
  | c :: rest =>
    if isDigit c || c == '_' then afterFraction dotted rest
    else if c == '.' && !dotted then
      match rest with
      | [] => some (true, [])
      | d :: _ => if d == '.' || startsName d then none else afterFraction true rest
    else some (dotted, c :: rest)

/-- What an exponent that is being read consists of so far. -/
structure ExponentState where
  signed : Bool
  valued : Bool

/-- The rest after an exponent whose mark is read; `none` when it has no digits. -/
def afterExponent (s : ExponentState) : List Char → Option (List Char)
  | [] => if s.valued then some [] else none
  | c :: rest =>
    if c == '+' || c == '-' then
      if s.valued then some (c :: rest)
      else if s.signed then none
      else afterExponent { s with signed := true } rest
    else if isDigit c then afterExponent { s with valued := true } rest
    else if c == '_' then afterExponent s rest
    else if s.valued then some (c :: rest)
    else none

def afterFloatDigits (cs : List Char) : Option (List Char) := do
  if !cs.head?.any isDigit then none
  let (dotted, rest) ← afterFraction false cs
  match rest with
  | c :: more =>
    if c == 'e' || c == 'E' then
      match afterExponent ⟨false, false⟩ more with
      | some rest => some rest
      | none => if dotted then some rest else none
    else if dotted then some rest
    else none
  | [] => if dotted then some rest else none

/-- The rest after the digits of a base. `empty` says that none was read yet. -/
def afterDigits (base : Nat) (empty : Bool) : List Char → Option (List Char)
  | [] => if empty then none else some []
  | c :: rest =>
    if c == '_' then
      if empty && base == 10 then none else afterDigits base empty rest
    else
      match hexDigit? c with
      | some d =>
        if d < base then afterDigits base false rest
        else if isDigit c then none
        else if empty then none
        else some (c :: rest)
      | none => if empty then none else some (c :: rest)

/-- The base that the start of a number announces, and the rest. -/
def numberBase (cs : List Char) : Nat × List Char :=
  match cs with
  | '0' :: 'x' :: rest => (16, rest)
  | '0' :: 'o' :: rest => (8, rest)
  | '0' :: 'b' :: rest => (2, rest)
  | _ => (10, cs)

def afterNumberLiteral (cs : List Char) : Option (List Char) :=
  match (afterFloatDigits cs).bind afterNumber with
  | some rest => some rest
  | none =>
    let (base, digits) := numberBase cs
    (afterDigits base true digits).bind afterNumber

def scanLiteral (cs : List Char) : Option (String × List Char) :=
  let rest := match afterTextLiteral cs with
    | some rest => some rest
    | none => afterNumberLiteral cs
  rest.map fun rest => (consumed cs rest, rest)

/-! ## Punctuation -/

def punctuation : List Char := "~!@#$%^&*-=+|;:,<.>/?\x27".toList

/-- Whether the text begins with a punctuation character and not with a comment. -/
def startsPunctuation (cs : List Char) : Bool :=
  match cs with
  | '/' :: '/' :: _ => false
  | '/' :: '*' :: _ => false
  | c :: _ => punctuation.contains c
  | [] => false

/-- Reads a punctuation character. A quote must begin a lifetime. -/
def scanPunct (cs : List Char) : Option (Token × List Char) :=
  match cs with
  | [] => none
  | c :: rest =>
    if !startsPunctuation cs then none
    else if c = quote then do
      let (_, after) ← scanIdent rest
      if after.head? = some quote then none
      else if after.head? = some '#' ∧ !("r#".toList.isPrefixOf rest) then none
      else some (.punct c true, rest)
    else some (.punct c (startsPunctuation rest), rest)

def scanLeaf (cs : List Char) : Option (Token × List Char) :=
  match scanLiteral cs with
  | some (text, rest) => some (.literal text, rest)
  | none =>
    match scanPunct cs with
    | some found => some found
    | none =>
      if literalStarts.any fun s => s.toList.isPrefixOf cs then none
      else (scanIdent cs).map fun (i, rest) => (.ident i, rest)

/-! ## Comments -/

/-- The text of a line and the rest from its end on. A carriage return before the line
    feed does not belong to the text. -/
def splitLine : List Char → List Char × List Char
  | [] => ([], [])
  | '\n' :: rest => ([], '\n' :: rest)
  | '\r' :: '\n' :: rest => ([], '\n' :: rest)
  | c :: rest =>
    let (line, rest) := splitLine rest
    (c :: line, rest)

/-- The text of a block comment and the rest after it. Comments nest; `depth` of them
    are open. -/
def splitBlock : Nat → List Char → Option (List Char × List Char)
  | _, [] => none
  | depth, '*' :: '/' :: rest =>
    if depth ≤ 1 then some ([], rest)
    else (splitBlock (depth - 1) rest).map fun (text, rest) => ('*' :: '/' :: text, rest)
  | depth, '/' :: '*' :: rest =>
    (splitBlock (depth + 1) rest).map fun (text, rest) => ('/' :: '*' :: text, rest)
  | depth, c :: rest => (splitBlock depth rest).map fun (text, rest) => (c :: text, rest)

/-- Whether a character is blank between tokens: white space or a direction mark. -/
def isBlank (c : Char) : Bool :=
  whitespace.holds c || c.toNat == 0x200e || c.toNat == 0x200f

/-- The rest after a comment that documents nothing. -/
def afterComment (cs : List Char) : Option (List Char) :=
  match cs with
  | '/' :: '/' :: '/' :: '/' :: rest => some (splitLine rest).2
  | '/' :: '/' :: '/' :: _ => none
  | '/' :: '/' :: '!' :: _ => none
  | '/' :: '/' :: rest => some (splitLine rest).2
  | '/' :: '*' :: '*' :: '/' :: rest => some rest
  | '/' :: '*' :: '*' :: '*' :: rest => (splitBlock 1 ('*' :: '*' :: rest)).map Prod.snd
  | '/' :: '*' :: '*' :: _ => none
  | '/' :: '*' :: '!' :: _ => none
  | '/' :: '*' :: rest => (splitBlock 1 rest).map Prod.snd
  | _ => none

def skipBlanks : Nat → List Char → List Char
  | 0, cs => cs
  | _ + 1, [] => []
  | fuel + 1, c :: rest =>
    match afterComment (c :: rest) with
    | some rest => skipBlanks fuel rest
    | none => if isBlank c then skipBlanks fuel rest else c :: rest

/-- The text of a doc comment, whether it documents what encloses it, and the rest. -/
def scanDoc (cs : List Char) : Option (List Char × Bool × List Char) :=
  match cs with
  | '/' :: '/' :: '!' :: rest =>
    let (line, rest) := splitLine rest
    some (line, true, rest)
  | '/' :: '*' :: '!' :: rest => (splitBlock 1 rest).map fun (text, rest) => (text, true, rest)
  | '/' :: '/' :: '/' :: rest =>
    let (line, rest) := splitLine rest
    some (line, false, rest)
  | '/' :: '*' :: '*' :: rest => (splitBlock 1 rest).map fun (text, rest) => (text, false, rest)
  | _ => none

def returnsPaired : List Char → Bool
  | [] => true
  | '\r' :: rest => rest.head? == some '\n' && returnsPaired rest
  | _ :: rest => returnsPaired rest

/-- The attribute that a doc comment stands for. -/
def docTokens (text : List Char) (inner : Bool) : Tokens :=
  operator "#" ++ (if inner then operator "!" else [])
    ++ brackets (words "doc =" ++ literal (literalQuote (String.ofList text)))

/-! ## Groups -/

def opening? (c : Char) : Option Delimiter :=
  if c = '(' then some .paren else if c = '[' then some .bracket
  else if c = '\x7b' then some .brace else none

def closing? (c : Char) : Option Delimiter :=
  if c = ')' then some .paren else if c = ']' then some .bracket
  else if c = '\x7d' then some .brace else none

/-- Groups that are open, innermost first, each with the tokens before it, last first. -/
abbrev OpenGroups := List (Delimiter × List Token)

/-- Reads token trees. `taken` are the tokens of the innermost open group, last first. -/
def scanTokens : Nat → OpenGroups → List Token → List Char → Option Tokens
  | 0, _, _, _ => none
  | fuel + 1, stack, taken, cs =>
    let cs := skipBlanks (cs.length + 1) cs
    match cs with
    | [] => if stack.isEmpty then some taken.reverse else none
    | c :: rest =>
      match scanDoc cs with
      | some (text, inner, rest) =>
        if returnsPaired text then
          scanTokens fuel stack ((docTokens text inner).reverse ++ taken) rest
        else none
      | none =>
        match opening? c, closing? c with
        | some d, _ => scanTokens fuel ((d, taken) :: stack) [] rest
        | none, some d =>
          match stack with
          | (opened, before) :: stack =>
            if opened = d then scanTokens fuel stack (.group d taken.reverse :: before) rest
            else none
          | [] => none
        | none, none =>
          match scanLeaf cs with
          | some (t, rest) => scanTokens fuel stack (t :: taken) rest
          | none => none

/-- The token trees of a source text. A byte order mark at its start is skipped. -/
def Tokens.ofText (text : String) : Option Tokens :=
  let cs := text.toList
  let cs := if cs.head?.any fun c => c.toNat == 0xfeff then cs.drop 1 else cs
  scanTokens (cs.length + 1) [] [] cs

end KeyedRecords.Source
