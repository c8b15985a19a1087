import PeopleFeed.Directory.Address
import PeopleFeed.Directory.Archive
import PeopleFeed.Disk.Engine

/-!
An engine that keeps databases in the files of a tree. Beside the file of a database its keeper may
find what a change left that came to no end, a log of changes, and a lock.
-/
namespace PeopleFeed.Disk

open PeopleFeed.Directory (Address Archive.encode Database FileUse Location Stored)

/-- How long paths and names may be for the engine: the bytes of the path of a database, those of
the path of the working directory, how many more a path may have on the way than in the end, and
the bytes of a name in the memory. -/
structure Bounds where
  path : Nat
  workingPath : Nat
  detour : Nat
  memoryName : Nat

/-- What the name of a rollback journal has more than that of its database. -/
def rollbackEnding : String := "-journal"

/-- What the name of a log of changes has more than that of its database. -/
def changesEnding : String := "-wal"

/-- What the name of a lock has more than that of its database. -/
def lockEnding : String := ".lock"

/-- What may stand beside the file of a database, by the endings of the names. -/
def companionEndings : List String :=
  [rollbackEnding, changesEnding, lockEnding]

namespace Node

/-- Whether a node is a file without a database. One byte is less than any database has. -/
def isVacant : Node → Bool
  | .bytes [] | .bytes [_] => true
  | _ => false

/-- The node as a database. -/
def asStored (isSealed : Bool) (n : Node) : Stored :=
  if n.isVacant then .database .bare isSealed
  else
    match n with
    | .directory => .unopenable
    | .bytes _ => .garbage
    | .database db => .database db isSealed

/-- Whether a change that came to no end is told by a node: the first byte of its journal is wiped
out when the change is done. -/
def tellsOfChange : Node → Bool
  | .bytes (first :: _) => first != 0
  | .bytes [] => false
  | .directory | .database _ => true

end Node

/-- Whether a keeper of files can follow a log of changes. -/
def canFollowLog (use : FileUse) : Bool :=
  [.system, .exclusive].contains use.keeper && !use.ignoresLocks

/-- Whether a connection locks its file by a directory beside it. -/
def locksByMark (use : FileUse) : Bool :=
  use.keeper = .marking && !use.ignoresLocks

/-- The most bytes of the path of a database as it is told from the root or from the working
directory. -/
def Bounds.longestFrom (b : Bounds) (p : Place) : Nat :=
  if p.isRooted then b.path else b.path - b.workingPath

namespace Tree

/-- The place that a name leads to on the way to a database, which need not be there. -/
def enterUnseen (b : Bounds) (t : Tree) (p : Place) (name : FileName) : Option Place :=
  let next := p.child name
  if name == aboveName then some next
  else if b.longestFrom next + b.detour < next.path.length then none
  else
    match t.seek next.path with
    | .ok _ | .error .missing => some next
    | .error _ => none

/-- The place of a database under a path. -/
def databasePlace? (b : Bounds) (t : Tree) (path : FileName) : Option Place := do
  let p ← (Place.namesIn path).foldlM (enterUnseen b t) (Place.startOf path)
  if p.path.length ≤ b.longestFrom p then some p else none

/-- The node beside a place, if it is a directory or a file with something in it. -/
def companion? (t : Tree) (p : Place) (ending : String) : Option Node :=
  (t.nodeAt? (p.beside ending)).filter (· != .bytes [])

/-- Whether the name of a companion would be too long. -/
def isTooLongFor (p : Place) (ending : String) : Bool :=
  longestName < ((p.beside ending).getLastD []).length

/-- The tree after what a change left beside a database has been put in order, if it can be. -/
def settleRollback (t : Tree) (p : Place) (n : Node) (use : FileUse) : Option Tree :=
  let settled := if use.access = .readOnly then t else t.remove (p.beside rollbackEnding)
  match t.companion? p rollbackEnding with
  | none => some t
  | some found =>
    if locksByMark use then some t
    else if n.isVacant then some (if found = .directory then t else settled)
    else if found = .directory then none
    else if !found.tellsOfChange then some t
    else if use.access = .readOnly then none
    else some settled

/-- The tree after the log of changes of a database has been put in order, if it can be. -/
def settleLog (t : Tree) (p : Place) (n : Node) (use : FileUse) : Option Tree :=
  match t.companion? p changesEnding with
  | none => some t
  | some .directory => none
  | some _ =>
    if n.isVacant then some (t.remove (p.beside changesEnding))
    else if canFollowLog use then some t
    else none

/-- Whether the lock of a database is free. -/
def isLockFree (t : Tree) (p : Place) (use : FileUse) : Bool :=
  !(locksByMark use) ||
    (!isTooLongFor p lockEnding && (t.nodeAt? (p.beside lockEnding)).isNone)

/-- Whether a database has to stay as it is: it is only read, or there can be no journal of a
change. -/
def isSealedAt (t : Tree) (p : Place) (use : FileUse) : Bool :=
  use.access = .readOnly || isTooLongFor p rollbackEnding ||
    t.isDirectory (p.beside rollbackEnding)

/-- Connects to the database in the file at a place. -/
def connectFile (t : Tree) (p : Place) (n : Node) (use : FileUse) : Tree × Stored :=
  if use.isFixed then (t, n.asStored true)
  else if !t.isLockFree p use then (t, .unopenable)
  else
    match t.settleRollback p n use with
    | none => (t, .unopenable)
    | some t =>
      match t.settleLog p n use with
      | none => (t, .unopenable)
      | some t => (t, n.asStored (t.isSealedAt p use))

/-- Whether the model of a new file is there, if there has to be one. -/
def hasModel (t : Tree) (use : FileUse) : Bool :=
  match use.model with
  | none => true
  | some path => (t.find path).toOption.isSome

/-- Connects to the database at a place. A file that is to be made is empty at first. -/
def connectAt (t : Tree) (p : Place) (use : FileUse) : Tree × Stored :=
  if t.hasModel use && t.isDirectory p.parent then
    match t.nodeAt? p with
    | some .directory => (t, .unopenable)
    | some n => t.connectFile p n use
    | none =>
      if use.access = .creating then (t.put p (.bytes [])).connectFile p (.bytes []) use
      else (t, .unopenable)
  else (t, .unopenable)

/-- Connects to a database. -/
def connect (b : Bounds) (t : Tree) : Location → Tree × Stored
  | .memory none isSealed => (t, .database .bare isSealed)
  | .memory (some name) isSealed =>
    (t, .database ((t.memories.lookup name).getD .bare) isSealed)
  | .file path use =>
    match databasePlace? b t path with
    | some p => t.connectAt p use
    | none => (t, .unopenable)
  | .nowhere => (t, .unopenable)
  | .barred e => (t, .barred (.noConnection e))

/-- Keeps a database at a place. A change of it takes away the journal of another. -/
def keepAt (t : Tree) (p : Place) (db : Database) : Tree :=
  if t.nodeAt? p = some (.database db) then t
  else
    let journal := p.beside rollbackEnding
    (if t.isDirectory journal then t else t.remove journal).put p (.database db)

/-- Keeps a database where it is; one in memory is lost unless it is shared. -/
def keep (b : Bounds) (t : Tree) (l : Location) (db : Database) : Tree :=
  match l with
  | .file path _ =>
    match databasePlace? b t path with
    | some p => t.keepAt p db
    | none => t
  | .memory (some name) _ =>
    { t with memories := (name, db) :: t.memories.filter fun m => m.1 != name }
  | .memory none _ | .nowhere | .barred _ => t

end Tree

/-- An engine within its bounds, whose files start with a heading that may tell of their tables. -/
def fileEngine (b : Bounds) (heading : Database → List UInt8) : Engine where
  Location := Location
  locate path := ((Address.ofText path).locate b.memoryName).mapError .badAddress
  connect l t := t.connect b l
  keep l db t := t.keep b l db
  encode db := Archive.encode (heading db) db

end PeopleFeed.Disk
