import KeyedRecords.Text.Classes

/-!
# Quoted text

Two written forms of a string. `debugQuote` is the form in which messages show
keys and values; `literalQuote` is the form of a string literal in generated
text. They differ in the NUL character only: a literal writes it so that a
following octal digit cannot be read as part of it.
-/

namespace KeyedRecords.Text

/-- The lower-case hexadecimal digits of `n`, without leading zeros. -/
def hexText (n : Nat) : List Char := Nat.toDigits 16 n

/-- `\u{…}` with the code point of `c`. -/
def unicodeEscape (c : Char) : List Char :=
  ['\\', 'u', '\x7b'] ++ hexText c.toNat ++ ['\x7d']

/-- The written form of one character between double quotes. A single quote, and
    every printable character that does not combine, stands for itself. -/
def escapeChar (c : Char) : List Char :=
  if c = '\x00' then ['\\', '0']
  else if c = '\t' then ['\\', 't']
  else if c = '\r' then ['\\', 'r']
  else if c = '\n' then ['\\', 'n']
  else if c = '"' then ['\\', '"']
  else if c = '\\' then ['\\', '\\']
  else if graphemeExtend.holds c then unicodeEscape c
  else if unprintable.holds c then unicodeEscape c
  else [c]

/-- A string as messages show it. -/
def debugQuote (s : String) : String :=
  String.ofList ('"' :: s.toList.flatMap escapeChar ++ ['"'])

def literalBody : List Char → List Char
  | [] => []
  | c :: cs =>
    let escaped :=
      if c = '\x00' then
        match cs with
        | d :: _ => if '0' ≤ d ∧ d ≤ '7' then ['\\', 'x', '0', '0'] else ['\\', '0']
        | [] => ['\\', '0']
      else escapeChar c
    escaped ++ literalBody cs

/-- A string as a literal of generated text. -/
def literalQuote (s : String) : String :=
  String.ofList ('"' :: literalBody s.toList ++ ['"'])

end KeyedRecords.Text
