import KeyedRecords.Source.Lexer

/-!
# The values of literals

A literal token keeps its written form. `stringValue?` is the text that a string
literal stands for, and `naturalValue?` the number of an integer literal in any
base, whatever its suffix.
-/

namespace KeyedRecords.Source.Literal

open Text

/-- Skips the white space after a backslash at the end of a line. -/
def skipLineBreak (cs : List Char) : List Char := cs.dropWhile whitespace.holds

/-- The text between the quotes of a string literal with its escapes resolved. -/
def unescape : Nat → List Char → Option (List Char)
  | 0, _ => none
  | _ + 1, [] => none
  | fuel + 1, c :: rest =>
    if c = '"' then some []
    else if c = '\r' ∧ rest.head? = some '\n' then unescape fuel rest
    else if c = '\\' then
      match rest with
      | [] => none
      | d :: more =>
        if d = '\n' ∨ d = '\r' then unescape fuel (skipLineBreak more)
        else
          match scanEscape .text rest with
          | some (code, rest) => (unescape fuel rest).map (Char.ofNat code :: ·)
          | none => none
    else (unescape fuel rest).map (c :: ·)

/-- The text between the quotes of a raw string literal. -/
def rawText (cs : List Char) : Option (List Char) :=
  let hashes := (cs.takeWhile (· == '#')).length
  let body := cs.drop (hashes + 1)
  (afterRawContent .text hashes body).map fun rest =>
    let withMarks := body.take (body.length - rest.length)
    ((withMarks.reverse.dropWhile (· != '"')).drop 1).reverse

/-- The text that a string literal stands for. -/
def stringValue? (text : String) : Option String :=
  match text.toList with
  | '"' :: rest => (unescape (rest.length + 1) rest).map String.ofList
  | 'r' :: rest => (rawText rest).map String.ofList
  | _ => none

/-- The value of digits up to the suffix of an integer literal, and that suffix. A point
    or an exponent makes the literal no integer. `any` says that a digit was read. -/
def digitsValue (base : Nat) (value : Nat) (any : Bool) : List Char → Option (Nat × List Char)
  | [] => if any then some (value, []) else none
  | c :: rest =>
    if c = '_' then digitsValue base value any rest
    else
      let digit := (hexDigit? c).filter fun d => d < 10 || 10 < base
      match digit with
      | some d => if d < base then digitsValue base (base * value + d) true rest else none
      | none =>
        if base = 10 ∧ c = '.' then none
        else if base = 10 ∧ (c = 'e' ∨ c = 'E') then
          let exponent := rest.dropWhile (· == '_')
          if exponent.head?.any fun c => isDigit c || c == '+' || c == '-' then none
          else if any then some (value, c :: rest) else none
        else if any then some (value, c :: rest) else none

/-- Whether the characters can follow the digits of a number: nothing or a name. -/
def isSuffix (cs : List Char) : Bool := cs.isEmpty || afterName cs == some []

def naturalValue? (text : String) : Option Nat :=
  let (base, digits) := numberBase text.toList
  if base != 10 || digits.head?.any isDigit then
    ((digitsValue base 0 false digits).filter fun r => isSuffix r.2).map Prod.fst
  else none

def isString (text : String) : Bool := (stringValue? text).isSome

def isNumber (text : String) : Bool := text.toList.head?.any isDigit

end KeyedRecords.Source.Literal
