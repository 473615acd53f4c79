import KeyedRecords.Text.Escape

/-!
# Bytes as hexadecimal text

Each byte is two lower-case digits, the high half first. `decode` accepts exactly
what `encode` produces.
-/

namespace KeyedRecords.Text.Hex

def digits : List Char := "0123456789abcdef".toList

def digit (n : Nat) : Char := digits.getD n '0'

def byte (b : UInt8) : List Char := [digit (b.toNat / 16), digit (b.toNat % 16)]

def encode (bytes : List UInt8) : String := String.ofList (bytes.flatMap byte)

/-- Reads the bytes that pairs of digits write. -/
def ofDigits : List Char → Option (List UInt8)
  | [] => some []
  | [_] => none
  | a :: b :: rest => do
    let high ← digits.idxOf? a
    let low ← digits.idxOf? b
    let bytes ← ofDigits rest
    pure (UInt8.ofNat (16 * high + low) :: bytes)

def decode (s : String) : Option (List UInt8) := ofDigits s.toList

end KeyedRecords.Text.Hex
