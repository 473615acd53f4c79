import KeyedRecords.Proofs.Store.View

/-!
# Stores that may refuse any operation

A `RecordStore.Atomic` says of a store that a write or a deletion takes place in full or not at
all. Which operations are refused is up to the state of the store and may change with every
call; a `RecordStore.View` fixes it for reads.

The stores that keep records in memory, with faults or without, and in a database are atomic.
-/

namespace KeyedRecords.RecordStore

/-- What a store keeps in each state, and the error that reading runs into, if any. -/
structure Atomic {σ : Type} (store : RecordStore σ) where
  /-- The bytes of the stored record. -/
  bytes : σ → Option (List UInt8)
  /-- The error that reading runs into. -/
  fault : σ → Option StoreError
  read_record : ∀ {s b}, fault s = none → bytes s = some b → (store.read s).result = .ok b
  bytes_of_read : ∀ {s b}, (store.read s).result = .ok b → bytes s = some b
  bytes_read : ∀ s, bytes (store.read s).state = bytes s
  bytes_write : ∀ {s b}, (store.write b s).result = .ok () → bytes (store.write b s).state = some b
  /-- A write that is refused has left the record as it was. -/
  bytes_refused : ∀ {s b e}, (store.write b s).result = .error e →
    bytes (store.write b s).state = bytes s
  bytes_delete : ∀ {s}, (store.delete s).result = .ok () → bytes (store.delete s).state = none
  /-- A deletion that is refused has left the record as it was. -/
  bytes_kept : ∀ {s e}, (store.delete s).result = .error e →
    bytes (store.delete s).state = bytes s

/-- A store with a view is atomic if its deletions are. -/
def View.atomic {σ : Type} {store : RecordStore σ} (v : View store)
    (hdelete : ∀ {s}, (store.delete s).result = .ok () → v.bytes (store.delete s).state = none)
    (hkept : ∀ {s e}, (store.delete s).result = .error e →
      v.bytes (store.delete s).state = v.bytes s) : Atomic store where
  bytes := v.bytes
  fault := v.fault
  read_record := v.read_record
  bytes_of_read h := (v.of_read_ok h).2
  bytes_read := v.bytes_read
  bytes_write := v.bytes_write
  bytes_refused := v.bytes_refused
  bytes_delete := hdelete
  bytes_kept := hkept

/-! ## Atomic stores -/

/-- A record in memory is written and removed at once. -/
def memoryAtomic (name : String) : Atomic (memory name) :=
  (memoryView name).atomic (by rintro s -; rfl) (by rintro s e ⟨⟩)

theorem faulty_delete (name : String) (s : FaultyCell) : (faulty name).delete s =
    match s.faults.find? fun f => f.1 = .delete with
    | some f => ⟨.error (.ofFault (faulty name).location f.2), s, []⟩
    | none => ⟨.ok (), { s with bytes := none }, []⟩ := rfl

/-- So is a record in memory whose operations may be made to fail. -/
def faultyAtomic (name : String) : Atomic (faulty name) :=
  (faultyView name).atomic
    (by
      intro s h
      rw [faulty_delete] at h ⊢
      split at h
      · cases h
      · rfl)
    (by
      intro s e h
      rw [faulty_delete] at h ⊢
      split at h
      · rfl
      · cases h)

/-- So is a record in a database. -/
def databaseAtomic (name : String) : Atomic (database name) :=
  (databaseView name).atomic
    (by
      intro db _
      simp only [databaseView, database, Database.get?, Database.erase, Option.map_eq_none_iff,
        List.find?_eq_none, List.mem_filter]
      rintro e ⟨-, hne⟩
      simpa using hne)
    (by rintro db e ⟨⟩)

end KeyedRecords.RecordStore
