import KeyedRecords.Codec.Varint
import KeyedRecords.Codec.SortedMap

/-!
# Field types and their values

`FieldType` is the universe of types that a persisted field may have, and
`FieldType.Value` gives the values of each. Integers and floating-point numbers
are words of their width.
-/

namespace KeyedRecords.Codec

/-- The type of a persisted field. The size of a list is what one of its elements takes in
    memory, in bytes. -/
inductive FieldType
  | unit
  | bool
  | int (signed : Bool) (width : IntWidth)
  | float32
  | float64
  | char
  | string
  | path
  | option (element : FieldType)
  | list (element : FieldType) (size : Nat)
  | pair (first second : FieldType)
  | array (element : FieldType) (length : Nat)
  | map (element : FieldType)
  | result (value error : FieldType)
  deriving DecidableEq, Repr

namespace FieldType

/-- The values of a type. A path is any sequence of bytes. -/
def Value : FieldType → Type
  | unit => Unit
  | bool => Bool
  | int _ width => BitVec width.bits
  | float32 => BitVec 32
  | float64 => BitVec 64
  | char => Char
  | string => String
  | path => List UInt8
  | option t => Option t.Value
  | list t _ => List t.Value
  | pair a b => a.Value × b.Value
  | array t n => { values : List t.Value // values.length = n }
  | map t => SortedMap t.Value
  | result t e => Except e.Value t.Value

/-- The value that a field has before it is assigned: zero, empty or absent. -/
def default : (t : FieldType) → t.Value
  | unit => ()
  | bool => false
  | int _ width => BitVec.ofNat width.bits 0
  | float32 => BitVec.ofNat 32 0
  | float64 => BitVec.ofNat 64 0
  | char => Char.ofNat 0
  | string => ""
  | path => ([] : List UInt8)
  | option t => (none : Option t.Value)
  | list t _ => ([] : List t.Value)
  | pair a b => (a.default, b.default)
  | array t n => ⟨List.replicate n t.default, List.length_replicate⟩
  | map _ => SortedMap.empty
  | result t e => (.ok t.default : Except e.Value t.Value)

/-- Whether the values are single bytes, which are read as one block. -/
def isByte : FieldType → Bool
  | int false .w8 => true
  | _ => false

/-- The full name of a type, as faults show it. -/
def name : FieldType → String
  | unit => "()"
  | bool => "bool"
  | int signed width => width.typeName signed
  | float32 => "f32"
  | float64 => "f64"
  | char => "char"
  | string => "alloc::string::String"
  | path => "std::path::PathBuf"
  | option t => "core::option::Option<" ++ t.name ++ ">"
  | list t _ => "alloc::vec::Vec<" ++ t.name ++ ">"
  | pair a b => "(" ++ a.name ++ ", " ++ b.name ++ ")"
  | array t n => "[" ++ t.name ++ "; " ++ toString n ++ "]"
  | map t => "alloc::collections::btree::map::BTreeMap<alloc::string::String, " ++ t.name ++ ">"
  | result t e => "core::result::Result<" ++ t.name ++ ", " ++ e.name ++ ">"

end FieldType

end KeyedRecords.Codec
