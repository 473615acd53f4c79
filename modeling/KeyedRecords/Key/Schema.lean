import KeyedRecords.Key.Literal
import KeyedRecords.Hash.Blake3
import KeyedRecords.Codec.Varint

/-!
# Key schemas and their fingerprints

A key schema is the ordered list of the cases of a key enumeration with the
literal of each, and the kind of its literals. Its fingerprint depends on the
kind and on the literals in order, and not on the names of the cases.
-/

namespace KeyedRecords

structure KeyCase where
  name : String
  literal : KeyLiteral
  deriving DecidableEq, Repr

/-- The cases of a key enumeration, in the order of their declaration. -/
structure KeySchema where
  kind : KeyKind
  cases : List KeyCase
  deriving DecidableEq, Repr

/-- The bytes that one literal contributes to a fingerprint: a text is tagged 0 and
    preceded by its length in eight bytes, an integer is tagged 1. -/
def KeyLiteral.fingerprintBytes : KeyLiteral → List UInt8
  | text s =>
    let bytes := Text.Utf8.encode s
    0 :: Codec.littleEndian 8 bytes.length ++ bytes
  | int i => 1 :: Codec.littleEndian 8 i.toUInt64.toNat

/-- The bytes that are hashed for a kind and an ordered list of literals. -/
def fingerprintInput (kind : KeyKind) (literals : List KeyLiteral) : List UInt8 :=
  Text.Utf8.encode kind.name ++ literals.flatMap KeyLiteral.fingerprintBytes

/-- The fingerprint of an ordered list of literals (`fingerprint_literals`): the first eight
    bytes of the hash, least first. -/
def fingerprintOf (kind : KeyKind) (literals : List KeyLiteral) : UInt64 :=
  UInt64.ofNat (Codec.ofLittleEndian ((Hash.Blake3.hash (fingerprintInput kind literals)).take 8))

namespace KeySchema

def literals (k : KeySchema) : List KeyLiteral := k.cases.map KeyCase.literal

/-- The fingerprint that records written with these keys carry (`key_fingerprint`). -/
def fingerprint (k : KeySchema) : UInt64 := fingerprintOf k.kind k.literals

end KeySchema

end KeyedRecords
