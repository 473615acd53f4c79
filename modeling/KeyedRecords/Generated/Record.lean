import KeyedRecords.Generated.Accessors

/-!
# Generated records

The structure of the persisted fields, and how it is encoded and decoded: field by
field in the order of their declaration, each under its key (§ 4.4 of the
specification).
-/

namespace KeyedRecords.Generated

open Source Description

def keyOf (keys : KeySet) (f : PersistedField) : Tokens := partOf keys.name f.key.case

/-- Encodes every persisted field under its key. -/
def encodeFields (p : ModelPlan) : Tokens :=
  p.persisted.flatMap fun f =>
    words "encoder . encode" ++ parens (words "& self ." ++ f.name.tokens ++ operator ","
      ++ keyOf p.keys f) ++ words "? ;"

def encodeMember (p : ModelPlan) (name : String) (keys : String) : Member :=
  .function [] .inherited (.ofName name)
    (commaTerminated [words "& self", typed (words "encoder")
      (mutableReference (runtime "container :: KeyedEncoder" ++ angle (words keys)))])
    (resultOr (parens []) "EncodeError") (encodeFields p ++ okUnit)

/-- The function that decodes a record, given the decoder and how it reads a field. -/
def decodeMember (p : ModelPlan) (name : String) (decoder : Tokens)
    (argument : PersistedField → Option Tokens) : Member :=
  let fields := p.persisted.filterMap fun f =>
    (argument f).map fun a =>
      typed f.name.tokens (words "decoder . decode" ++ parens a ++ operator "?")
  .function [] .inherited (.ofName name)
    (commaTerminated [typed (words "decoder") (reference decoder)])
    (resultOr (words "Self") "DecodeError")
    (okOf (words "Self" ++ braces (commaTerminated fields)))

/-- The structure of the persisted fields, with what the model derives. -/
def slotsStructure (p : ModelPlan) : Tokens :=
  attributeTokens p.derives ++ words "#" ++ brackets (words "doc" ++ parens (words "hidden"))
    ++ p.vis.tokens ++ words "struct" ++ slots p ++ braces (typedFields (persistedTypes p))

def recordImplementation (p : ModelPlan) : Tokens :=
  implementation (runtime "traits :: PersistedRecord" ++ words "for" ++ slots p) [
    .type "Keys" p.keys.name.tokens,
    encodeMember p "encode_record" "Self :: Keys",
    decodeMember p "decode_record"
      (runtime "container :: KeyedDecoder" ++ angle (words "'_ , Self :: Keys"))
      fun f => some (keyOf p.keys f)]

/-- The record of a model (`generate_record_impl`). -/
def record (p : ModelPlan) : Tokens := slotsStructure p ++ recordImplementation p

end KeyedRecords.Generated
