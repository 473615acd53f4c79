import KeyedRecords.Model.Samples
import KeyedRecords.Proofs.Model.WriteBack

/-!
# Assignments

A sink is handed every assignment and may carry it out any number of times, or not at all. The
slot and the value are exchanged once all the same. An assignment that is to be written back is
either in the record afterwards, next to the other fields as they were, or it has left no trace
there, and then the record had no bytes, the gate was poisoned or the store refused the write.

Results:
* `Saving.unique`: a save comes to one thing.
* `Context.assigned_once`: what `replace` and `commit` give, for every sink, store and record.
-/

namespace KeyedRecords.Context

variable {σ : Type} {ctx : Context σ} {s : RecordSchema} {r : s.Record} {st st' st'' : σ} {p : Bool}

/-! ## What becomes of a save -/

/-- The bytes of the record, the gate and the reply of the store settle what a save comes to. -/
theorem Saving.unique {outcome outcome' : Except Failure Unit}
    (h : Saving ctx s r st p outcome st') (h' : Saving ctx s r st p outcome' st'') :
    outcome = outcome' ∧ st' = st'' := by
  cases h with
  | unencodable failed => cases h' <;> simp_all
  | poisoned encoded => cases h' <;> simp_all
  | refused encoded failed => cases h' <;> simp_all
  | accepted encoded written => cases h' <;> simp_all

/-! ## What becomes of an assignment -/

/-- An assignment that was written back is in the record, and the other fields are as before. -/
theorem get_committed (r : s.Record) (i : Fin s.fields.length) (v : (s.fields.get i).type.Value) :
    (committed r i v (.ok ())).get i = v ∧
      ∀ j, j ≠ i → (committed r i v (.ok ())).get j = r.get j :=
  ⟨Values.get_set_self r i v, fun _ hne => Values.get_set_of_ne r v hne⟩

/-- An assignment takes place once, whatever the sink does and whatever was logged before: the
    slot has the new value and the previous one is handed back. A `commit` of it comes to what
    the save comes to. If that succeeds then the field has the new value and the others are as
    they were; if it fails, in one of the ways of `Saving`, then the whole record is as it was. -/
theorem assigned_once (ctx : Context σ) (rt : Runtime σ) :
    (∀ {α : Type} (field : FieldId) (slot value : α),
      (ctx.replace field slot value rt).1 = .ok (value, slot)) ∧
    ∀ (s : RecordSchema) (field : FieldId) (r : s.Record) (i : Fin s.fields.length)
      (v : (s.fields.get i).type.Value), ∃ r' outcome,
      (ctx.commit s field r i v rt).1 = .ok (r', outcome) ∧
      Saving ctx s (r.set i v) rt.store rt.poisoned outcome (ctx.commit s field r i v rt).2.store ∧
      (outcome = .ok () → r'.get i = v ∧ ∀ j, j ≠ i → r'.get j = r.get j) ∧
      ∀ e, outcome = .error e → r' = r := by
  constructor
  · intro α field slot value
    exact (ends_replace ctx field slot value rt rfl rfl).1
  · intro s field r i v
    obtain ⟨outcome, st', hsaving, hsave⟩ :=
      exists_saving ctx s (r.set i v) rt.store rt.poisoned
    obtain ⟨hresult, hstore, -⟩ := ends_commit hsave field rt rfl rfl
    refine ⟨committed r i v outcome, outcome, hresult, ?_, ?_, ?_⟩
    · rw [hstore]
      exact hsaving
    · rintro rfl
      exact get_committed r i v
    · rintro e rfl
      rfl

section Bookmarks

open Samples RecordStore

/-- A line of a file. The path of the file need not be a text. -/
def bookmark : RecordSchema :=
  let keys : KeySchema := ⟨.text, [textKey "Line" "line", textKey "File" "file"]⟩
  ⟨keys, keys, [field "line" nat64 "line", field "file" .path "file"]⟩

/-- Its second field. -/
abbrev bookmarkedFile : Fin bookmark.fields.length := ⟨1, by decide⟩

/-- The first line of `a`. -/
def firstLine : bookmark.Record := (1#64, [97], ())

/-- The bytes of the first line of `b`. -/
def bookmarkBytes : List UInt8 :=
  [253, 56, 9, 90, 120, 242, 146, 44, 128, 2, 0, 4, 108, 105, 110, 101, 1, 1, 0, 4, 102, 105, 108,
    101, 2, 1, 98]

theorem toBytes_bookmark :
    bookmark.toBytes (firstLine.set bookmarkedFile [98]) = .ok bookmarkBytes := by
  decide +kernel

/-- Bookmarks in a store that may be made to fail, with a sink that carries out every assignment
    twice. -/
def bookmarks : Context FaultyCell := ⟨.faulty "bookmarks", .twice⟩

/-- What becomes of another file in the first line of `a`. -/
def moved (path : List UInt8) (poisoned : Bool) (faults : List (StoreOperation × IoFault)) :
    Except Failure (bookmark.Record × Except Failure Unit) :=
  (bookmarks.commit bookmark ⟨"Bookmark", "file"⟩ firstLine bookmarkedFile path
    ⟨⟨none, faults⟩, poisoned, .withHistory 0, []⟩).1

/-- The other file is there, unless its path is not UTF-8, the gate is poisoned or writes are
    refused: then `a` still is. -/
theorem assigned_once_moved :
    (∃ r, moved [98] false [] = .ok (r, .ok ()) ∧ r.get bookmarkedFile = [98]) ∧
    (∃ e, moved [255] false [] = .ok (firstLine, .error (.encode e))) ∧
    moved [98] true [] = .ok (firstLine, .error .poisoned) ∧
    ∃ e, moved [98] false [(.write, .ofKind .permissionDenied none)] =
      .ok (firstLine, .error (.store e)) := by
  have hmoved (path : List UInt8) (poisoned : Bool) (faults : List (StoreOperation × IoFault)) :=
    (assigned_once bookmarks ⟨⟨none, faults⟩, poisoned, .withHistory 0, []⟩).2 bookmark
      ⟨"Bookmark", "file"⟩ firstLine bookmarkedFile path
  refine ⟨?_, ?_, ?_, ?_⟩
  · obtain ⟨r, outcome, hresult, hsaving, hok, -⟩ := hmoved [98] false []
    obtain ⟨rfl, -⟩ := hsaving.unique (.accepted toBytes_bookmark rfl)
    exact ⟨r, hresult, (hok rfl).1⟩
  · have hpath : bookmark.toBytes (firstLine.set bookmarkedFile [255]) =
        .error ⟨.text "file", .invalidPathCharacters⟩ := by decide +kernel
    obtain ⟨r, outcome, hresult, hsaving, -, herror⟩ := hmoved [255] false []
    obtain ⟨rfl, -⟩ := hsaving.unique (.unencodable hpath)
    obtain rfl := herror _ rfl
    exact ⟨_, hresult⟩
  · obtain ⟨r, outcome, hresult, hsaving, -, herror⟩ := hmoved [98] true []
    obtain ⟨rfl, -⟩ := hsaving.unique (.poisoned toBytes_bookmark)
    obtain rfl := herror _ rfl
    exact hresult
  · obtain ⟨r, outcome, hresult, hsaving, -, herror⟩ :=
      hmoved [98] false [(.write, .ofKind .permissionDenied none)]
    obtain ⟨rfl, -⟩ := hsaving.unique (.refused toBytes_bookmark rfl)
    obtain rfl := herror _ rfl
    exact ⟨_, hresult⟩

end Bookmarks

end KeyedRecords.Context
