import KeyedRecords.Store.Path

/-!
# Where file-backed models keep their records

A configuration names a directory; each model has one file there, named by its
storage name and the extension.
-/

namespace KeyedRecords

/-- Where records are kept. An empty extension stands for none; `createDirectories`
    says whether missing directories are made on a write. -/
structure StorageConfig where
  directory : String
  extension : String
  createDirectories : Bool
  deriving DecidableEq, Repr

namespace StorageConfig

def defaultExtension : String := "storage"

/-- The configuration of a directory, otherwise with the defaults. -/
def ofDirectory (directory : String) : StorageConfig := ⟨directory, defaultExtension, true⟩

def current : StorageConfig := ofDirectory "."

/-- The path of the record with a storage name (`StorageConfig::path_for`). -/
def pathFor (c : StorageConfig) (storageName : String) : String :=
  Path.join c.directory
    (if c.extension.isEmpty then storageName else storageName ++ "." ++ c.extension)

end StorageConfig

end KeyedRecords
