import KeyedRecords.Generated.Model
import KeyedRecords.Proofs.Description.KeySet

/-!
# Keys in generated text

A generated record names every persisted field with its key, and a generated migration names it
with its old key and its current one. Both do so in the order of the fields.

`recordText` and `shadowText` write this text down from the fields and their keys as they are given,
without looking any of them up.

Results:
* `model_eq`: what is generated for the record is part of what is generated for the model.
* `migration_eq`: what is generated for the migration, if every field has an old key of its own.
-/

namespace KeyedRecords.Generated

open Source Description

/-! ## The text -/

/-- A function of an implementation. -/
def functionText (name : String) (parameters result body : Tokens) : Tokens :=
  words "fn" ++ (Ident.ofName name).tokens ++ parens parameters ++ operator "->" ++ result
    ++ braces body

/-- A type of an implementation. -/
def typeText (name : String) (value : Ident) : Tokens :=
  words "type" ++ (Ident.ofName name).tokens ++ operator "=" ++ value.tokens ++ operator ";"

/-- Every field is what the decoder gives for its keys. -/
def decodingText (fields : List (Ident × Tokens)) : Tokens :=
  words "Ok" ++ parens (words "Self" ++ braces (fields.flatMap fun f =>
    f.1.tokens ++ operator ":" ++ words "decoder . decode" ++ parens f.2 ++ operator "?"
      ++ operator ","))

/-- Every field is given to the encoder with its key. -/
def encodingText (fields : List (Ident × Tokens)) : Tokens :=
  (fields.flatMap fun f => words "encoder . encode"
      ++ parens (words "& self ." ++ f.1.tokens ++ operator "," ++ f.2) ++ words "? ;")
    ++ words "Ok" ++ parens (parens [])

/-- A function that decodes, with the type of its decoder. -/
def decodingFunction (name : String) (decoder : Tokens) (fields : List (Ident × Tokens)) : Tokens :=
  functionText name
    (words "decoder" ++ operator ":" ++ operator "&" ++ decoder ++ operator ",")
    (resultOr (words "Self") "DecodeError") (decodingText fields)

/-- A function that encodes under these keys. -/
def encodingFunction (name keys : String) (fields : List (Ident × Tokens)) : Tokens :=
  functionText name
    (words "& self" ++ operator "," ++ words "encoder" ++ operator ":" ++ words "& mut"
      ++ runtime "container :: KeyedEncoder" ++ angle (words keys) ++ operator ",")
    (resultOr (parens []) "EncodeError") (encodingText fields)

/-- The current key of a field. -/
def currentKey (p : ModelPlan) (f : PersistedField) : Tokens :=
  p.keys.name.tokens ++ operator "::" ++ f.key.case.tokens

/-- The implementation that makes the slots of a model a record. -/
def recordText (p : ModelPlan) : Tokens :=
  let fields := p.persisted.map fun f => (f.name, currentKey p f)
  words "impl" ++ runtime "traits :: PersistedRecord" ++ words "for" ++ slots p ++ braces (
    typeText "Keys" p.keys.name
      ++ encodingFunction "encode_record" "Self :: Keys" fields
      ++ decodingFunction "decode_record"
        (runtime "container :: KeyedDecoder" ++ angle (words "'_ , Self :: Keys")) fields)

/-- The structure that a migration reads into, with the old key of each field and its current
    one. -/
def shadowText (p : ModelPlan) (old : KeySet) (pairs : List (PersistedField × KeyBinding)) :
    Tokens :=
  let oldKeys := migrationKeysName p.name
  let decoded := pairs.map fun q =>
    (q.1.name, oldKeys.tokens ++ operator "::" ++ q.2.case.tokens ++ operator ","
      ++ currentKey p q.1)
  let encoded := pairs.map fun q => (q.1.name, currentKey p q.1)
  words "type" ++ oldKeys.tokens ++ operator "=" ++ old.name.tokens ++ operator ";"
    ++ words "struct" ++ shadow p ++ braces (pairs.flatMap fun q =>
      q.1.name.tokens ++ operator ":" ++ q.1.type ++ operator ",")
    ++ words "impl" ++ runtime "traits :: MigrationShadow" ++ words "for" ++ shadow p ++ braces (
      typeText "OldKeys" oldKeys ++ typeText "NewKeys" p.keys.name
        ++ (Member.constant .inherited "MODEL_NAME" staticText (textLiteral p.name.text)).tokens
        ++ decodingFunction "decode_old" (runtime "container :: MigrationDecoder"
          ++ angle (words "'_ , Self :: OldKeys , Self :: NewKeys")) decoded
        ++ encodingFunction "encode_new" "Self :: NewKeys" encoded)

/-! ## Members -/

theorem tokens_encodeMember (p : ModelPlan) (name keys : String) :
    (encodeMember p name keys).tokens =
      encodingFunction name keys (p.persisted.map fun f => (f.name, currentKey p f)) := by
  simp only [encodeMember, Member.function, Member.tokens, encodingFunction, functionText,
    encodingText, encodeFields, commaTerminated, typed, mutableReference, okUnit, okOf, keyOf,
    partOf, currentKey, Visibility.tokens, List.flatMap_cons, List.flatMap_nil, List.flatMap_map,
    List.append_assoc, List.append_nil, List.nil_append]

/-- What is decoded, given the keys of every field. -/
theorem tokens_decodeMember {p : ModelPlan} {decoder : Tokens}
    {argument : PersistedField → Option Tokens} {α : Type} {as : List α}
    {field : α → PersistedField} {keys : α → Tokens} (name : String)
    (has : as.map field = p.persisted)
    (hkeys : ∀ a ∈ as, argument (field a) = some (keys a)) :
    (decodeMember p name decoder argument).tokens =
      decodingFunction name decoder (as.map fun a => ((field a).name, keys a)) := by
  have hfields : (p.persisted.filterMap fun f => (argument f).map fun a =>
      typed f.name.tokens (words "decoder . decode" ++ parens a ++ operator "?")) =
        as.map fun a => typed (field a).name.tokens
          (words "decoder . decode" ++ parens (keys a) ++ operator "?") := by
    rw [← has, List.filterMap_map, ← List.filterMap_eq_map]
    refine List.filterMap_congr fun a ha => ?_
    rw [Function.comp_apply, hkeys a ha]
    rfl
  unfold decodeMember
  dsimp only
  rw [hfields]
  simp only [Member.function, Member.tokens, decodingFunction, functionText, decodingText,
    commaTerminated, typed, reference, okOf, Visibility.tokens, List.flatMap_cons,
    List.flatMap_nil, List.flatMap_map, List.append_assoc, List.append_nil, List.nil_append]

theorem tokens_type (name : String) (value : Ident) :
    (Member.type name value.tokens).tokens = typeText name value := by
  simp only [Member.type, Member.tokens, typeText, Visibility.tokens, List.append_assoc,
    List.nil_append]

/-! ## Records and migrations -/

/-- A record is encoded and decoded under the key of each field. -/
theorem record_eq (p : ModelPlan) : record p = slotsStructure p ++ recordText p := by
  have hdecode : (decodeMember p "decode_record"
      (runtime "container :: KeyedDecoder" ++ angle (words "'_ , Self :: Keys"))
      fun f => some (keyOf p.keys f)).tokens =
        decodingFunction "decode_record"
          (runtime "container :: KeyedDecoder" ++ angle (words "'_ , Self :: Keys"))
          (p.persisted.map fun f => (f.name, currentKey p f)) :=
    tokens_decodeMember _ (List.map_id _) fun f _ => rfl
  rw [record, recordImplementation, implementation]
  simp only [List.flatMap_cons, List.flatMap_nil, tokens_type, tokens_encodeMember, hdecode,
    recordText, List.append_assoc, List.append_nil]

/-- What is generated for a model ends with its record and its migration. -/
theorem model_eq (p : ModelPlan) : ∃ before, model p = before ++ recordText p ++ migration p := by
  unfold model
  rw [record_eq]
  exact ⟨_, congrArg (· ++ migration p) (List.append_assoc _ _ _).symm⟩

theorem migration_eq_nil {p : ModelPlan} (h : p.oldKeys = none) : migration p = [] := by
  unfold migration
  rw [h]

/-- Keys that bind the fields are paired with them one by one. -/
theorem exists_pairs {fs : List PersistedField} {keys : KeySet}
    (h : keys.Binds (fs.map PersistedField.name)) (hn : (fs.map PersistedField.name).Nodup) :
    ∃ pairs : List (PersistedField × KeyBinding), pairs.map Prod.fst = fs ∧
      pairs.map Prod.snd = keys.bindings ∧
      ∀ q ∈ pairs, q.2.field = q.1.name ∧ keys.binding? q.1.name = some q.2 := by
  have hlength : fs.length = keys.bindings.length := by
    simpa using (congrArg List.length h.fields).symm
  refine ⟨fs.zip keys.bindings, List.map_fst_zip hlength.le, List.map_snd_zip hlength.ge, ?_⟩
  intro q hq
  have hfield : q.2.field = q.1.name := (eq_of_mem_zip h.fields.symm hq).symm
  refine ⟨hfield, ?_⟩
  rw [← hfield]
  exact h.binding? hn (List.of_mem_zip hq).2

/-- A migration decodes every field under its old key and its current one, and encodes it under
    the current one. -/
theorem migration_eq {p : ModelPlan} {old : KeySet} (hold : p.oldKeys = some old)
    {pairs : List (PersistedField × KeyBinding)} (hpairs : pairs.map Prod.fst = p.persisted)
    (hkeys : ∀ q ∈ pairs, old.binding? q.1.name = some q.2) :
    migration p = shadowText p old pairs ++ implementation p.name.tokens (migrationMembers p) := by
  have hargument : ∀ q ∈ pairs, pairedKeys p old q.1 =
      some ((migrationKeysName p.name).tokens ++ operator "::" ++ q.2.case.tokens ++ operator ","
        ++ currentKey p q.1) := by
    intro q hq
    rw [pairedKeys, hkeys q hq]
    rfl
  have hdecode : (decodeMember p "decode_old" (runtime "container :: MigrationDecoder"
      ++ angle (words "'_ , Self :: OldKeys , Self :: NewKeys")) (pairedKeys p old)).tokens = _ :=
    tokens_decodeMember _ hpairs hargument
  have hencoded : (p.persisted.map fun f => (f.name, currentKey p f)) =
      pairs.map fun q => (q.1.name, currentKey p q.1) := by
    rw [← hpairs, List.map_map]
    rfl
  have htypes : typedFields (persistedTypes p) = pairs.flatMap fun q =>
      q.1.name.tokens ++ operator ":" ++ q.1.type ++ operator "," := by
    rw [persistedTypes, ← hpairs]
    simp only [typedFields, commaTerminated, typed, List.map_map, List.flatMap_map]
    rfl
  unfold migration
  rw [hold]
  dsimp only
  rw [shadowStructure, implementation, implementation, htypes]
  simp only [List.flatMap_cons, List.flatMap_nil, tokens_type, tokens_encodeMember, hdecode,
    hencoded, shadowText, List.append_assoc, List.append_nil]

end KeyedRecords.Generated
