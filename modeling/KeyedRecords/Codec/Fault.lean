import KeyedRecords.Text.Utf8

/-!
# Why bytes do not decode

The faults of the binary value format and the text of each. Not every failure is a fault: a
length that no memory can hold ends the reading in a panic.
-/

namespace KeyedRecords.Codec

/-- The widths of integers. `size` is the width of lengths and indices, 64 bits. -/
inductive IntWidth
  | w8
  | w16
  | w32
  | w64
  | w128
  | size
  deriving DecidableEq, Repr

namespace IntWidth

def bits : IntWidth → Nat
  | w8 => 8
  | w16 => 16
  | w32 => 32
  | w64 => 64
  | w128 => 128
  | size => 64

/-- The text of the width after the letter for the sign. -/
def suffix : IntWidth → String
  | w8 => "8"
  | w16 => "16"
  | w32 => "32"
  | w64 => "64"
  | w128 => "128"
  | size => "size"

/-- The name of an integer format in messages. -/
def faultName (w : IntWidth) (signed : Bool) : String := (if signed then "I" else "U") ++ w.suffix

def typeName (w : IntWidth) (signed : Bool) : String := (if signed then "i" else "u") ++ w.suffix

end IntWidth

/-- What keeps bytes from being read as a value. -/
inductive Fault
  /-- A read wants `additional` bytes more than there are. -/
  | unexpectedEnd (additional : Nat)
  /-- The tag announces an integer that is wider than the wanted one, or none at all. -/
  | invalidIntegerType (signed : Bool) (expected : IntWidth) (found : Option IntWidth)
  /-- A tag that must be 0 or 1 is neither. -/
  | unexpectedVariant (typeName : String) (found : Nat)
  /-- A text is not UTF-8. -/
  | utf8 (fault : Text.Utf8.Fault)
  /-- The bytes of a character are not UTF-8; unread places are zero. -/
  | invalidCharEncoding (bytes : List UInt8)
  /-- A truth value is neither 0 nor 1. -/
  | invalidBooleanValue (found : UInt8)
  deriving DecidableEq, Repr

/-- How reading ends without a value. -/
inductive Stop (ε : Type)
  | fail (error : ε)
  | panic
  deriving DecidableEq, Repr

/-- Reports the error as part of another one. A panic stays one. -/
def Stop.map {ε ε' : Type} (f : ε → ε') : Stop ε → Stop ε'
  | fail e => fail (f e)
  | panic => panic

/-- The text of a length that may be missing. -/
def optionText : Option Nat → String
  | none => "None"
  | some n => "Some(" ++ toString n ++ ")"

def Fault.message : Fault → String
  | unexpectedEnd n => "UnexpectedEnd \x7b additional: " ++ toString n ++ " \x7d"
  | invalidIntegerType signed expected found =>
    let foundName := match found with
      | some w => w.faultName signed
      | none => "Reserved"
    "InvalidIntegerType \x7b expected: " ++ expected.faultName signed ++ ", found: " ++ foundName
      ++ " \x7d"
  | unexpectedVariant name found =>
    "UnexpectedVariant \x7b type_name: \"" ++ name
      ++ "\", allowed: Range \x7b min: 0, max: 1 \x7d, found: " ++ toString found ++ " \x7d"
  | utf8 f =>
    "Utf8 \x7b inner: Utf8Error \x7b valid_up_to: " ++ toString f.validUpTo ++ ", error_len: "
      ++ optionText f.errorLength ++ " \x7d \x7d"
  | invalidCharEncoding bytes =>
    "InvalidCharEncoding([" ++ ", ".intercalate (bytes.map fun b => toString b.toNat) ++ "])"
  | invalidBooleanValue b => "InvalidBooleanValue(" ++ toString b.toNat ++ ")"

end KeyedRecords.Codec
