import PeopleFeed.Text.PathForm
import PeopleFeed.Text.Utf8

/-! Where a directory database is, and how a connection uses it. -/
namespace PeopleFeed.Directory

/-- What a connection may do with the file of a database. -/
inductive Access
  | readOnly
  | existing
  /-- A file that is missing is made. -/
  | creating
  deriving DecidableEq, Repr

/-- Who keeps the bytes of a database, and how its connections are kept apart. -/
inductive Keeper
  | system
  | exclusive
  /-- The lock of a file is a directory beside it. -/
  | marking
  | unlocking
  | memory
  deriving DecidableEq, Repr

namespace Keeper

def all : List Keeper :=
  [system, exclusive, marking, unlocking, memory]

def name : Keeper → String
  | system => "unix"
  | exclusive => "unix-excl"
  | marking => "unix-dotfile"
  | unlocking => "unix-none"
  | memory => "memdb"

/-- The keeper of a name. -/
def named? (name : List UInt8) : Option Keeper :=
  all.find? fun k => Text.encodeUtf8 k.name == name

theorem named?_name (k : Keeper) : named? (Text.encodeUtf8 k.name) = some k := by
  cases k <;> decide

end Keeper

/-- How a connection uses a file. -/
structure FileUse where
  keeper : Keeper
  access : Access
  /-- Nobody changes the file, so that nothing beside it is looked at. -/
  isFixed : Bool
  ignoresLocks : Bool
  /-- The path of the file whose permissions a new one gets. -/
  model : Option (List UInt8)
  deriving DecidableEq, Repr

/-- The use of a file that is asked for by its path alone. -/
def FileUse.plain : FileUse :=
  ⟨.system, .creating, false, false, none⟩

/-- What connections share a memory by. -/
structure MemoryName where
  keeper : Keeper
  /-- The connections share what they have read, not what the keeper has. -/
  isCache : Bool
  name : List UInt8
  deriving DecidableEq, Repr

/-- Why there is no connection at all. -/
inductive ConnectionError
  | embeddedNul
  | numberTooLarge
  | unknownIsolation
  deriving DecidableEq, Repr

def ConnectionError.message : ConnectionError → String
  | embeddedNul => "embedded null byte"
  | numberTooLarge => "Python int too large to convert to C int"
  | unknownIsolation =>
    "isolation_level string must be '', 'DEFERRED', 'IMMEDIATE', or 'EXCLUSIVE'"

/-- Where a database is. -/
inductive Location
  /-- One in memory is gone with the connection to it, unless connections share it. -/
  | memory (shared : Option MemoryName) (isSealed : Bool)
  | file (path : List UInt8) (use : FileUse)
  /-- There is no way to open it. -/
  | nowhere
  | barred (error : ConnectionError)
  deriving DecidableEq, Repr

/-- The name that stands for the memory. -/
def memoryName : String := ":memory:"

/-- The location of a name alone. No name stands for the memory. -/
def Location.ofName (name : String) : Location :=
  if name = "" || name = memoryName then .memory none false
  else .file (Text.encodeUtf8 (Text.foldedPath name)) .plain

end PeopleFeed.Directory
