import KeyedRecords.Store.FileTree

/-!
# Record stores

A record store holds at most one record as bytes (§ 10.7 of the specification).
`RecordStore σ` is its interface over a state `σ`: an operation gives its result,
the state after it and the lines it logs. The stores of this module keep the record in memory, in
a file, or under a name in a database that several stores share.
-/

namespace KeyedRecords

/-! ## Log lines -/

inductive LogLevel
  | trace
  | debug
  | info
  | warn
  deriving DecidableEq, Repr

def LogLevel.name : LogLevel → String
  | trace => "TRACE"
  | debug => "DEBUG"
  | info => "INFO"
  | warn => "WARN"

structure LogLine where
  level : LogLevel
  text : String
  deriving DecidableEq, Repr

/-! ## The interface -/

/-- What an operation of a store leaves behind. -/
structure StoreReply (σ α : Type) where
  result : Except StoreError α
  state : σ
  log : List LogLine

/-- The operations of a store over a state. -/
structure RecordStore (σ : Type) where
  /-- Where the record is, as messages show it. -/
  location : String
  /-- Whether there is a record. -/
  contains : σ → StoreReply σ Bool
  /-- The record; reading none is the error `notFound`. -/
  read : σ → StoreReply σ (List UInt8)
  /-- Replaces the record. -/
  write : List UInt8 → σ → StoreReply σ Unit
  /-- Removes the record; removing none succeeds. -/
  delete : σ → StoreReply σ Unit

namespace RecordStore

/-- The store over a part of a larger state. -/
def focus {σ τ : Type} (store : RecordStore σ) (get : τ → σ) (set : σ → τ → τ) : RecordStore τ :=
  let lift {α : Type} (reply : StoreReply σ α) (t : τ) : StoreReply τ α :=
    ⟨reply.result, set reply.state t, reply.log⟩
  { location := store.location
    contains := fun t => lift (store.contains (get t)) t
    read := fun t => lift (store.read (get t)) t
    write := fun bytes t => lift (store.write bytes (get t)) t
    delete := fun t => lift (store.delete (get t)) t }

/-! ## Memory -/

/-- A store that keeps the record in memory (`MemoryRecordStore`). -/
def memory (name : String) : RecordStore (Option (List UInt8)) :=
  let location := "memory:" ++ name
  { location
    contains := fun s => ⟨.ok s.isSome, s, []⟩
    read := fun s =>
      match s with
      | some bytes => ⟨.ok bytes, s, []⟩
      | none => ⟨.error (.notFound location), s, []⟩
    write := fun bytes _ => ⟨.ok (), some bytes, []⟩
    delete := fun _ => ⟨.ok (), none, []⟩ }

/-- The operations of a store that may be made to fail. -/
inductive StoreOperation
  | contains
  | read
  | write
  | delete
  deriving DecidableEq, Repr

/-- A record in memory and the faults that its operations run into. -/
structure FaultyCell where
  bytes : Option (List UInt8)
  faults : List (StoreOperation × IoFault)

def StoreOperation.ofName : String → Option StoreOperation
  | "exists" => some contains
  | "read" => some read
  | "write" => some write
  | "delete" => some delete
  | _ => none

/-- Sets the fault of an operation, or lifts it. -/
def FaultyCell.setFault (c : FaultyCell) (op : StoreOperation) (fault : Option IoFault) :
    FaultyCell :=
  let others := c.faults.filter fun f => f.1 ≠ op
  { c with faults := match fault with
    | some f => (op, f) :: others
    | none => others }

/-- A store in memory whose operations fail as long as a fault is set for them. -/
def faulty (name : String) : RecordStore FaultyCell :=
  let inner := (memory name).focus FaultyCell.bytes fun bytes s => { s with bytes }
  let guarded {α : Type} (op : StoreOperation) (run : FaultyCell → StoreReply FaultyCell α)
      (s : FaultyCell) : StoreReply FaultyCell α :=
    match s.faults.find? fun f => f.1 = op with
    | some f => ⟨.error (.ofFault inner.location f.2), s, []⟩
    | none => run s
  { location := inner.location
    contains := guarded .contains inner.contains
    read := guarded .read inner.read
    write := fun bytes => guarded .write (inner.write bytes)
    delete := guarded .delete inner.delete }

/-! ## Files -/

end RecordStore

/-- One record in one file (`FileRecordStore`). `createDirectories` says whether missing
    directories are made on a write. -/
structure FileStore where
  path : String
  createDirectories : Bool
  deriving DecidableEq, Repr

namespace RecordStore

def fileError (path : String) (fault : FileFault) : StoreError := .ofFault path fault.toIoFault

/-- Makes the directories above a file, if the store makes any. -/
def prepareDirectory (f : FileStore) (tree : FileTree) : Except StoreError Unit × FileTree :=
  match f.createDirectories, Path.parent? f.path with
  | true, some parent =>
    if parent.isEmpty then (.ok (), tree)
    else
      let (result, tree) := tree.ensureDirectoriesAt parent
      (result.mapError (fileError parent), tree)
  | _, _ => (.ok (), tree)

/-- A store that keeps the record in a file. -/
def file (f : FileStore) : RecordStore FileTree :=
  { location := f.path
    contains := fun tree => ⟨(tree.exists? f.path).mapError (fileError f.path), tree, []⟩
    read := fun tree =>
      match tree.readFile f.path with
      | .ok bytes =>
        ⟨.ok bytes, tree,
          [⟨.debug, "read " ++ toString bytes.length ++ " bytes from " ++ f.path⟩]⟩
      | .error e => ⟨.error (fileError f.path e), tree, []⟩
    write := fun bytes tree =>
      match prepareDirectory f tree with
      | (.error e, tree) => ⟨.error e, tree, []⟩
      | (.ok (), tree) =>
        match tree.writeFile f.path bytes with
        | .ok tree =>
          ⟨.ok (), tree,
            [⟨.debug, "wrote " ++ toString bytes.length ++ " bytes to " ++ f.path⟩]⟩
        | .error e => ⟨.error (fileError f.path e), tree, []⟩
    delete := fun tree =>
      match tree.removeFile f.path with
      | .ok tree => ⟨.ok (), tree, []⟩
      | .error .notFound => ⟨.ok (), tree, []⟩
      | .error e => ⟨.error (fileError f.path e), tree, []⟩ }

/-! ## Databases -/

end RecordStore

/-- Records by name. -/
abbrev Database := List (String × List UInt8)

namespace Database

def get? (db : Database) (name : String) : Option (List UInt8) :=
  (db.find? fun e => e.1 = name).map Prod.snd

def erase (db : Database) (name : String) : Database := db.filter fun e => e.1 != name

def insert (db : Database) (name : String) (bytes : List UInt8) : Database :=
  (name, bytes) :: erase db name

end Database

namespace RecordStore

/-- A store that keeps the record under a name in a database (`SledRecordStore`). -/
def database (name : String) : RecordStore Database :=
  let location := "sled:" ++ name
  { location
    contains := fun db => ⟨.ok (db.get? name).isSome, db, []⟩
    read := fun db =>
      match db.get? name with
      | some bytes => ⟨.ok bytes, db, []⟩
      | none => ⟨.error (.notFound location), db, []⟩
    write := fun bytes db =>
      ⟨.ok (), db.insert name bytes,
        [⟨.debug, "wrote " ++ toString bytes.length ++ " bytes to " ++ location⟩]⟩
    delete := fun db => ⟨.ok (), db.erase name, []⟩ }

end RecordStore

end KeyedRecords
