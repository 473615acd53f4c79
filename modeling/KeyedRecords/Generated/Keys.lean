import KeyedRecords.Description.KeySet
import KeyedRecords.Generated.Template

/-!
# Generated keys

What makes an enumeration a key enumeration: the list of its cases, the kind of
their literals, and the literal and the name of every case. For a model without
declared keys the enumeration itself is generated too.
-/

namespace KeyedRecords.Generated

open Source Description

def literalTokens : KeyLiteral → Tokens
  | .text s =>
    runtime "traits :: KeyLiteral :: Str" ++ parens (std "string :: String :: from" ++ parens (textLiteral s))
  | .int i =>
    runtime "traits :: KeyLiteral :: Int" ++ parens (literal (toString i.toInt ++ "i64"))

/-- A case distinction over the cases of an enumeration. Without cases nothing needs to
    be distinguished. -/
def caseDistinction (keys : Ident) (cases : List EnumCase) (value : EnumCase → Tokens) : Tokens :=
  if cases.isEmpty then words "match * self" ++ braces []
  else
    words "match self" ++ braces (commaTerminated (cases.map fun c =>
      partOf keys c.name ++ operator "=>" ++ value c))

/-- What makes an enumeration with these cases a key enumeration (`generate_impl`). -/
def keyImplementation (keys : Ident) (raw : RawType) (cases : List EnumCase) : Tokens :=
  implementation (runtime "traits :: CodingKey" ++ words "for" ++ keys.tokens) [
    .constant .inherited "ALL" (words "& 'static" ++ brackets (words "Self"))
      (operator "&" ++ brackets (joinWith (operator ",") (cases.map fun c => partOf keys c.name))),
    .constant .inherited "RAW" (runtime "traits :: RawKind")
      (runtime "traits :: RawKind ::" ++ words raw.kind.name),
    .function [] .inherited (.ofName "literal") (words "& self") (runtime "traits :: KeyLiteral")
      (caseDistinction keys cases fun c => literalTokens c.literal),
    .function [] .inherited (.ofName "name") (words "& self") staticText
      (caseDistinction keys cases fun c => textLiteral c.name.text)]

/-- An enumeration for the keys of a model, and what makes it a key enumeration
    (`generate_enum`). -/
def keyEnumeration (vis : Visibility) (keys : KeySet) : Tokens :=
  let cases := keys.bindings.map KeyBinding.toCase
  words "#" ++ brackets (words "doc" ++ parens (words "hidden"))
    ++ words "#" ++ brackets (words "allow" ++ parens (words "non_camel_case_types"))
    ++ words "#" ++ brackets (words "derive"
      ++ parens (words "Debug , Clone , Copy , PartialEq , Eq , Hash"))
    ++ vis.tokens ++ words "enum" ++ keys.name.tokens
    ++ braces (commaTerminated (cases.map fun c => c.name.tokens))
    ++ keyImplementation keys.name keys.raw cases

end KeyedRecords.Generated
