import KeyedRecords.Store.Error
import KeyedRecords.Store.Path
import KeyedRecords.Text.Utf8

/-!
# A tree of files

Directories, files and the operations on them that file stores need. A path is
walked from the root: every component but the last must be a directory. The
operations that change the tree return it whether or not they succeed.
-/

namespace KeyedRecords

/-- A file with its bytes, or a directory with its entries sorted by name. -/
inductive FileTree
  | file (bytes : List UInt8)
  | directory (entries : List (String × FileTree))

/-- What keeps a file operation from succeeding. -/
inductive FileFault
  | notFound
  | alreadyExists
  | notADirectory
  | isADirectory
  | nameTooLong
  | nulInName
  deriving DecidableEq, Repr

def FileFault.toIoFault : FileFault → IoFault
  | notFound => ⟨.notFound, "No such file or directory (os error 2)"⟩
  | alreadyExists => ⟨.alreadyExists, "File exists (os error 17)"⟩
  | notADirectory => ⟨.notADirectory, "Not a directory (os error 20)"⟩
  | isADirectory => ⟨.isADirectory, "Is a directory (os error 21)"⟩
  | nameTooLong => ⟨.invalidFilename, "File name too long (os error 36)"⟩
  | nulInName => ⟨.invalidInput, "file name contained an unexpected NUL byte"⟩

namespace FileTree

def maxNameBytes : Nat := 255

/-- The bytes that a path must stay below. -/
def maxPathBytes : Nat := 4096

/-! ## Entries of one directory -/

def child? (name : String) : List (String × FileTree) → Option FileTree
  | [] => none
  | (n, t) :: rest => if n = name then some t else child? name rest

/-- The entries with one set, in the order of names. -/
def setEntry (name : String) (t : FileTree) : List (String × FileTree) → List (String × FileTree)
  | [] => [(name, t)]
  | (n, u) :: rest =>
    if name = n then (name, t) :: rest
    else if name < n then (name, t) :: (n, u) :: rest
    else (n, u) :: setEntry name t rest

def eraseEntry (name : String) (entries : List (String × FileTree)) : List (String × FileTree) :=
  entries.filter fun e => e.1 != name

/-! ## Places in the tree -/

/-- The node at the end of a list of names. -/
def lookup? : FileTree → List String → Option FileTree
  | t, [] => some t
  | file _, _ :: _ => none
  | directory entries, name :: names =>
    match child? name entries with
    | some t => t.lookup? names
    | none => none

/-- Changes the entries of the directory at the end of a list of names. -/
def modifyDirectory (f : List (String × FileTree) → List (String × FileTree)) :
    FileTree → List String → FileTree
  | file bytes, _ => file bytes
  | directory entries, [] => directory (f entries)
  | directory entries, name :: names =>
    match child? name entries with
    | some t => directory (setEntry name (modifyDirectory f t names) entries)
    | none => directory entries

inductive Place
  /-- To the node at the end of these names. -/
  | found (names : List String)
  /-- To no node yet, but to a name in an existing directory. -/
  | vacant (directory : List String) (name : String)

/-- Walks the segments of a path from the directory `names`. -/
def walk (root : FileTree) (names : List String) : List String → Except FileFault Place
  | [] => .ok (.found names)
  | segment :: rest =>
    match root.lookup? names with
    | some (directory entries) =>
      if segment = "." then walk root names rest
      else if segment = ".." then walk root names.dropLast rest
      else if maxNameBytes < (Text.Utf8.encode segment).length then .error .nameTooLong
      else if (child? segment entries).isSome then walk root (names ++ [segment]) rest
      else if rest.isEmpty then .ok (.vacant names segment)
      else .error .notFound
    | _ => .error .notADirectory

/-- A path as its segments; `asDirectory` when a separator ends it. -/
structure Route where
  segments : List String
  asDirectory : Bool

def route (path : String) : Except FileFault Route :=
  if path.toList.contains '\x00' then .error .nulInName
  else if path.isEmpty then .error .notFound
  else if maxPathBytes ≤ (Text.Utf8.encode path).length then .error .nameTooLong
  else .ok ⟨Path.segments path, path.toList.getLast? == some '/'⟩

/-- Where a route leads. A separator at the end asks for a directory. -/
def locate (root : FileTree) (r : Route) : Except FileFault Place := do
  let place ← root.walk [] r.segments
  match place with
  | .found names =>
    match root.lookup? names with
    | some (file _) => if r.asDirectory then throw .notADirectory else pure place
    | _ => pure place
  | .vacant _ _ => pure place

/-! ## Operations -/

def exists? (root : FileTree) (path : String) : Except FileFault Bool :=
  match route path >>= root.locate with
  | .ok (.found _) => .ok true
  | .ok (.vacant _ _) => .ok false
  | .error .notFound => .ok false
  | .error e => .error e

def readFile (root : FileTree) (path : String) : Except FileFault (List UInt8) := do
  let place ← route path >>= root.locate
  match place with
  | .found names =>
    match root.lookup? names with
    | some (file bytes) => pure bytes
    | some (directory _) => throw .isADirectory
    | none => throw .notFound
  | .vacant _ _ => throw .notFound

/-- Makes the file at the path hold the bytes. -/
def writeFile (root : FileTree) (path : String) (bytes : List UInt8) :
    Except FileFault FileTree := do
  let r ← route path
  let place ← root.locate r
  match place with
  | .found names =>
    match root.lookup? names with
    | some (file _) =>
      match names.getLast? with
      | some name => pure (root.modifyDirectory (setEntry name (file bytes)) names.dropLast)
      | none => throw .isADirectory
    | _ => throw .isADirectory
  | .vacant dir name =>
    if r.asDirectory then throw .isADirectory
    else pure (root.modifyDirectory (setEntry name (file bytes)) dir)

def removeFile (root : FileTree) (path : String) : Except FileFault FileTree := do
  let place ← route path >>= root.locate
  match place with
  | .found names =>
    match root.lookup? names, names.getLast? with
    | some (file _), some name => pure (root.modifyDirectory (eraseEntry name) names.dropLast)
    | _, _ => throw .isADirectory
  | .vacant _ _ => throw .notFound

def makeDirectory (root : FileTree) (segments : List String) : Except FileFault FileTree := do
  let place ← root.locate ⟨segments, false⟩
  match place with
  | .found _ => throw .alreadyExists
  | .vacant dir name => pure (root.modifyDirectory (setEntry name (directory [])) dir)

def isDirectory (root : FileTree) (segments : List String) : Bool :=
  match root.locate ⟨segments, false⟩ with
  | .ok (.found names) =>
    match root.lookup? names with
    | some (directory _) => true
    | _ => false
  | _ => false

def ensureDirectory (root : FileTree) (segments : List String) : Except FileFault Unit × FileTree :=
  match root.makeDirectory segments with
  | .ok root => (.ok (), root)
  | .error e => (if root.isDirectory segments then .ok () else .error e, root)

/-- Makes a directory and those above it that are missing. -/
def ensureDirectories (root : FileTree) (segments : List String) :
    Except FileFault Unit × FileTree :=
  match root.makeDirectory segments with
  | .ok root => (.ok (), root)
  | .error .notFound =>
    if segments.isEmpty then (.error .notFound, root)
    else
      match ensureDirectories root segments.dropLast with
      | (.ok (), root) => root.ensureDirectory segments
      | (.error e, root) => (.error e, root)
  | .error e => (if root.isDirectory segments then .ok () else .error e, root)
termination_by segments.length
decreasing_by
  rename_i h
  simp only [List.isEmpty_iff] at h
  have := List.length_pos_iff.2 h
  simp only [List.length_dropLast]
  omega

def ensureDirectoriesAt (root : FileTree) (path : String) : Except FileFault Unit × FileTree :=
  match route path with
  | .ok r => root.ensureDirectories r.segments
  | .error e => (.error e, root)

/-! ## Listing -/

mutual

/-- Every file and directory below a node with its path, depth first. A directory has
    no bytes. -/
def list (path : String) : FileTree → List (String × Option (List UInt8))
  | file _ => []
  | directory entries => listEntries path entries

def listEntries (path : String) :
    List (String × FileTree) → List (String × Option (List UInt8))
  | [] => []
  | (name, t) :: rest =>
    let here := if path.isEmpty then name else path ++ "/" ++ name
    let bytes := match t with
      | file bytes => some bytes
      | directory _ => none
    (here, bytes) :: list here t ++ listEntries path rest

end

end FileTree

end KeyedRecords
