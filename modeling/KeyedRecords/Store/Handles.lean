import KeyedRecords.Store.RecordStore
import KeyedRecords.Store.Config

/-!
# Handles of record files

A handle is a store behind a gate. All who open one file share one handle for
as long as any of them lives, and the handle keeps the settings that it was
first opened with. Files are told apart by the components of their paths. When
its last owner is gone a handle is gone, and with it whether its gate was
poisoned.

The registry files handles under paths without keeping them alive. What it has
filed of handles that are gone is cleared out when the next handle is asked for.

* `HandleRegistry.acquire`: the handle of a file for one more owner.
* `HandleRegistry.release`: one owner less.
-/

namespace KeyedRecords

/-- A live handle. `owners` counts those who hold it. -/
structure FileHandle where
  id : Nat
  store : FileStore
  poisoned : Bool
  owners : Nat
  deriving DecidableEq, Repr

/-- The handle that is filed under a path, by its identity. The handle may be gone. -/
structure FiledHandle where
  path : String
  id : Nat
  deriving DecidableEq, Repr

/-- The live handles, and what is filed of handles. Every identity below `next` has been
    given out. -/
structure HandleRegistry where
  next : Nat
  handles : List FileHandle
  filed : List FiledHandle
  deriving Repr

namespace HandleRegistry

def empty : HandleRegistry := ⟨0, [], []⟩

/-! ## Live handles -/

def get? (r : HandleRegistry) (id : Nat) : Option FileHandle := r.handles.find? fun h => h.id = id

def modify (r : HandleRegistry) (id : Nat) (f : FileHandle → FileHandle) : HandleRegistry :=
  { r with handles := r.handles.map fun h => if h.id = id then f h else h }

/-- Adds an owner to a handle. -/
def retain (r : HandleRegistry) (id : Nat) : HandleRegistry :=
  r.modify id fun h => { h with owners := h.owners + 1 }

/-- Takes an owner from a handle; a handle without owners is gone. -/
def release (r : HandleRegistry) (id : Nat) : HandleRegistry :=
  let r := r.modify id fun h => { h with owners := h.owners - 1 }
  { r with handles := r.handles.filter fun h => 0 < h.owners }

def poison (r : HandleRegistry) (id : Nat) : HandleRegistry :=
  r.modify id fun h => { h with poisoned := true }

/-! ## Handles under paths -/

def filedUnder? (r : HandleRegistry) (path : String) : Option Nat :=
  (r.filed.find? fun e => Path.components e.path = Path.components path).map FiledHandle.id

/-- Clears out what is filed of handles that are gone. -/
def prune (r : HandleRegistry) : HandleRegistry :=
  { r with filed := r.filed.filter fun e => (r.get? e.id).isSome }

/-- A new handle of a store, filed under its path in place of what was filed there. -/
def add (r : HandleRegistry) (store : FileStore) : HandleRegistry :=
  let others := r.filed.filter fun e => Path.components e.path ≠ Path.components store.path
  ⟨r.next + 1, r.handles ++ [⟨r.next, store, false, 1⟩], ⟨store.path, r.next⟩ :: others⟩

/-- The handle of a store's file for one more owner (`RecordHandle::for_file`): the live
    one, or a new one. -/
def acquire (r : HandleRegistry) (store : FileStore) : Nat × HandleRegistry :=
  let r := r.prune
  match r.filedUnder? store.path >>= r.get? with
  | some h => (h.id, r.retain h.id)
  | none => (r.next, r.add store)

end HandleRegistry

/-- The store of the record with a storage name under a configuration
    (`FileRecordStore::for_model`). -/
def FileStore.forModel (config : StorageConfig) (storageName : String) : FileStore :=
  ⟨config.pathFor storageName, config.createDirectories⟩

/-- The store of a record file that makes missing directories. -/
def FileStore.ofPath (path : String) : FileStore := ⟨path, true⟩

end KeyedRecords
