import PeopleFeed.Directory.Stored
import PeopleFeed.Disk.Tree
import PeopleFeed.Text.PathForm

/-!
Engines of databases. What a path in an address means, what a connection finds there, and how what
is written is kept, is the business of an engine and of no command.
-/
namespace PeopleFeed.Disk

open PeopleFeed.Directory (Database Stored)

/-- An engine of databases in a tree. -/
structure Engine where
  /-- Where a database may be. -/
  Location : Type
  /-- The location that a path names, if it names one. -/
  locate : String → Except Surprise Location
  /-- Connects to a location. Files may be made or put in order on the way. -/
  connect : Location → Tree → Tree × Stored
  /-- Keeps a database at a location. -/
  keep : Location → Database → Tree → Tree
  /-- The bytes in which a database is kept. -/
  encode : Database → List UInt8

namespace Engine

/-- What a connection to a location finds. -/
def found (e : Engine) (l : e.Location) (t : Tree) : Stored :=
  (e.connect l t).2

/-- Makes the tables of the database under a path, and before that the directories above it. What
is made stays, even if something else cannot be made. -/
def prepareDatabase (e : Engine) (t : Tree) (path : String) :
    Tree × Except Surprise e.Location :=
  match t.makeDirectories (Text.parentPath path) with
  | (t, .error s) => (t, .error s)
  | (t, .ok ()) =>
    match e.locate path with
    | .error s => (t, .error s)
    | .ok location =>
      let (t, stored) := e.connect location t
      match stored.prepare with
      | .error s => (t, .error s)
      | .ok db => (e.keep location db t, .ok location)

end Engine

end PeopleFeed.Disk
