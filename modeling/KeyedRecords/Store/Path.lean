import KeyedRecords.Text.Runs

/-!
# File paths

A path is kept as it was written. Two paths are equal when their components
are: separators may be repeated, a separator may end the path, and the current
directory counts only at the front.
-/

namespace KeyedRecords.Path

/-- The components of a path and whether it starts at the root. -/
structure Components where
  absolute : Bool
  names : List String
  deriving DecidableEq, Repr

def isAbsolute (path : String) : Bool := path.toList.head? == some '/'

/-- The names between separators, empty ones left out. -/
def segments (path : String) : List String :=
  ((Text.splitOnChar '/' path.toList).filter fun s => !s.isEmpty).map String.ofList

/-- Leaves out the current directory everywhere but at the front of a relative path. -/
def components (path : String) : Components :=
  let names := segments path
  let later (l : List String) := l.filter fun n => n != "."
  if isAbsolute path then ⟨true, later names⟩
  else
    match names with
    | [] => ⟨false, []⟩
    | first :: rest => ⟨false, first :: later rest⟩

/-- `path` under `directory`; an absolute path replaces the directory. -/
def join (directory path : String) : String :=
  if isAbsolute path || directory.isEmpty then path
  else if directory.toList.getLast? == some '/' then directory ++ path
  else directory ++ "/" ++ path

/-- Leaves out separators and current directories at the front of a reversed path,
    but not the separator of a root. -/
def trimReversed : List Char → List Char
  | '/' :: rest => if rest.isEmpty then ['/'] else trimReversed rest
  | '.' :: '/' :: rest => if rest.isEmpty then ['/'] else trimReversed rest
  | rest => rest

/-- Leaves out separators and current directories at the end, but not a root. -/
def trimEnd (cs : List Char) : List Char := (trimReversed cs.reverse).reverse

/-- The directory that holds what the path names; absent for a root and for no path
    at all. -/
def parent? (path : String) : Option String :=
  let body := trimEnd path.toList
  if body.isEmpty || body == ['/'] then none
  else some (String.ofList (trimEnd ((body.reverse.dropWhile fun c => c != '/').reverse)))

end KeyedRecords.Path
