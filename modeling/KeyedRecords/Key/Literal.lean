import KeyedRecords.Text.Escape

/-!
# Key literals

The value that a field is stored under: a text or a 64-bit integer. Texts come
before integers in the order of literals.
-/

namespace KeyedRecords

/-- The kind of the values that back the keys of an enumeration. -/
inductive KeyKind
  | text
  | integer
  deriving DecidableEq, Repr

/-- The name of a kind. It takes part in the fingerprint of a key schema. -/
def KeyKind.name : KeyKind → String
  | text => "String"
  | integer => "Integer"

/-- A literal that a key is stored under. -/
inductive KeyLiteral
  | text (value : String)
  | int (value : Int64)
  deriving DecidableEq, Repr

namespace KeyLiteral

def display : KeyLiteral → String
  | text s => Text.debugQuote s
  | int i => toString i.toInt

/-- Whether `a` is not after `b`: texts by code points, integers by value, and every
    text before every integer. -/
def le : KeyLiteral → KeyLiteral → Bool
  | text a, text b => a ≤ b
  | text _, int _ => true
  | int _, text _ => false
  | int a, int b => a ≤ b

def sort (literals : List KeyLiteral) : List KeyLiteral := literals.mergeSort le

end KeyLiteral

end KeyedRecords
