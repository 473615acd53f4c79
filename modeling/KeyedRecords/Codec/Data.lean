import KeyedRecords.Codec.FieldType
import KeyedRecords.Text.Hex

/-!
# Values as plain data

`Data` is a tree of truth values, numbers, texts and lists, the form in which a
value crosses to a tool that does not know its type.

* `FieldType.toData`, `FieldType.ofData`: the plain form of the values of a type.
  Wide integers are decimal text, since plain numbers need not hold 64 bits;
  floating-point numbers, by their bits, and paths are hexadecimal text.
* `FieldType.ofName`: the type that a source text names.
-/

namespace KeyedRecords.Codec

/-- Plain data. A tagged value is one alternative of several. -/
inductive Data
  | null
  | bool (value : Bool)
  | int (value : Int)
  | text (value : String)
  | list (items : List Data)
  | tagged (tag : String) (value : Data)
  deriving Inhabited, Repr

namespace Data

def asText : Data → Option String
  | text s => some s
  | _ => none

/-- The number that a number node or a decimal text gives. -/
def asInt : Data → Option Int
  | int n => some n
  | text s => s.toInt?
  | _ => none

def asBytes (d : Data) : Option (List UInt8) := d.asText.bind Text.Hex.decode

end Data

namespace FieldType

/-- The number that bytes write, the most significant first. -/
def ofBigEndian (bytes : List UInt8) : Nat := bytes.foldl (fun n b => 256 * n + b.toNat) 0

/-- A bit pattern as hexadecimal text, the most significant byte first. -/
def bitsData (bytes : Nat) (n : Nat) : Data :=
  .text (Text.Hex.encode (littleEndian bytes n).reverse)

def readItems {α : Type} (read : Data → Option α) : Data → Option (List α)
  | .list items => items.mapM read
  | _ => none

def readPair {α β : Type} (first : Data → Option α) (second : Data → Option β) :
    Data → Option (α × β)
  | .list [a, b] => do
    let a ← first a
    let b ← second b
    pure (a, b)
  | _ => none

/-- The plain form of a value. -/
def toData : (t : FieldType) → t.Value → Data
  | unit, _ => .null
  | bool, (b : Bool) => .bool b
  | int signed width, (v : BitVec width.bits) =>
    let n : Int := if signed then v.toInt else v.toNat
    if 64 ≤ width.bits then .text (toString n) else .int n
  | float32, (v : BitVec 32) => bitsData 4 v.toNat
  | float64, (v : BitVec 64) => bitsData 8 v.toNat
  | char, (c : Char) => .text (String.ofList [c])
  | string, (s : String) => .text s
  | path, (bytes : List UInt8) => .text (Text.Hex.encode bytes)
  | option _, none => .null
  | option t, some v => .tagged "Some" (t.toData v)
  | list t _, (vs : List t.Value) => .list (vs.map t.toData)
  | pair a b, v => .list [a.toData v.1, b.toData v.2]
  | array t _, vs => .list (vs.1.map t.toData)
  | map t, m => .list ((SortedMap.entries m).map fun e => .list [.text e.1, t.toData e.2])
  | result t _, .ok v => .tagged "Ok" (t.toData v)
  | result _ e, .error v => .tagged "Err" (e.toData v)

def ofData : (t : FieldType) → Data → Option t.Value
  | unit, _ => some ()
  | bool, d =>
    match d with
    | .bool b => some b
    | _ => none
  | int _ width, d => d.asInt.map fun n => BitVec.ofInt width.bits n
  | float32, d => d.asBytes.map fun b => BitVec.ofNat 32 (ofBigEndian b)
  | float64, d => d.asBytes.map fun b => BitVec.ofNat 64 (ofBigEndian b)
  | char, d =>
    match d.asText.map String.toList with
    | some [c] => some c
    | _ => none
  | string, d => d.asText
  | path, d => d.asBytes
  | option t, d =>
    match d with
    | .null => some (none : Option t.Value)
    | .tagged "Some" v => (t.ofData v).map fun v => (some v : Option t.Value)
    | _ => none
  | list t _, d => readItems t.ofData d
  | pair a b, d => readPair a.ofData b.ofData d
  | array t n, d => do
    let vs ← readItems t.ofData d
    if h : vs.length = n then some ⟨vs, h⟩ else none
  | map t, d => (readItems (readPair Data.asText t.ofData) d).map SortedMap.ofList
  | result t e, d =>
    match d with
    | .tagged "Ok" v => (t.ofData v).map fun v => (.ok v : Except e.Value t.Value)
    | .tagged "Err" v => (e.ofData v).map fun v => (.error v : Except e.Value t.Value)
    | _ => none

/-! ## Names of types -/

/-- The types whose names are not taken apart. The sizes are those of 64-bit machines. -/
def named : List (String × FieldType) :=
  [("()", unit), ("bool", bool), ("f32", float32), ("f64", float64), ("char", char),
    ("String", string), ("PathBuf", path),
    ("(i64, String)", pair (int true .w64) string),
    ("[u8; 4]", array (int false .w8) 4), ("[u16; 3]", array (int false .w16) 3),
    ("Vec<u8>", list (int false .w8) 1), ("Vec<i16>", list (int true .w16) 2),
    ("Vec<u64>", list (int false .w64) 8), ("Vec<String>", list string 24),
    ("Vec<Vec<u8>>", list (list (int false .w8) 1) 24),
    ("Vec<Option<i32>>", list (option (int true .w32)) 8),
    ("BTreeMap<String, i64>", map (int true .w64)),
    ("Result<u32, String>", result (int false .w32) string)]
  ++ [IntWidth.w8, .w16, .w32, .w64, .w128, .size].flatMap fun w =>
    [(w.typeName false, int false w), (w.typeName true, int true w)]

/-- Reads the name of a type: a named one, or an option of another. -/
def ofChars : Nat → List Char → Option FieldType
  | 0, _ => none
  | fuel + 1, name =>
    match named.lookup (String.ofList name) with
    | some t => some t
    | none =>
      if "Option<".toList.isPrefixOf name then
        (ofChars fuel (name.drop "Option<".length).dropLast).map option
      else none

/-- The type that a text names. -/
def ofName (name : String) : Option FieldType := ofChars (name.length + 1) name.toList

end FieldType

end KeyedRecords.Codec
