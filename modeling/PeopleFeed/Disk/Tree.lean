import PeopleFeed.Directory.Tables
import PeopleFeed.Disk.Place
import PeopleFeed.Fault

/-!
A tree of files and directories as a program sees it from its working directory. The working
directory, the root and the directories above are always there.
-/
namespace PeopleFeed.Disk

/-- What stands at a place of a tree. -/
inductive Node
  | directory
  | bytes (content : List UInt8)
  | database (db : Directory.Database)
  deriving DecidableEq, Repr

/-- Why a path leads nowhere. -/
inductive Obstacle
  | missing
  | notDirectory
  /-- Something else stands where a directory is to be made. -/
  | occupied
  | tooLong
  | embeddedNul
  deriving DecidableEq, Repr

/-- The surprise of an obstacle on a path that had to be free. -/
def Obstacle.surprise (path : String) : Obstacle → Surprise
  | missing => .pathMissing path
  | notDirectory => .pathNotDirectory path
  | occupied => .pathExists path
  | tooLong => .pathTooLong path
  | embeddedNul => .embeddedNul

/-- The most bytes of a name. -/
def longestName : Nat := 255

/-- The most bytes of a path. -/
def longestPath : Nat := 4095

/-- Nodes by their places, and the memories that connections share. -/
structure Tree where
  nodes : List (Place × Node)
  memories : List (Directory.MemoryName × Directory.Database)

namespace Tree

/-- A tree without files. -/
def empty : Tree := ⟨[], []⟩

/-- The node at a place. -/
def nodeAt? (t : Tree) (p : Place) : Option Node :=
  if p.isOutermost then some .directory else t.nodes.lookup p

def isDirectory (t : Tree) (p : Place) : Bool :=
  match t.nodeAt? p with
  | some .directory => true
  | _ => false

/-- The place that a name leads to out of a place, which has to be a directory. -/
def enter (t : Tree) (p : Place) (name : FileName) : Except Obstacle Place :=
  match t.nodeAt? p with
  | none => .error .missing
  | some .directory =>
    if longestName < name.length then .error .tooLong else .ok (p.child name)
  | some _ => .error .notDirectory

/-- The place that some names lead to. -/
def follow (t : Tree) (start : Place) (names : List FileName) : Except Obstacle Place :=
  names.foldlM t.enter start

/-- What keeps a path as a whole from leading anywhere. -/
def obstacleIn? (path : FileName) : Option Obstacle :=
  if path.contains 0 then some .embeddedNul
  else if longestPath < path.length then some .tooLong
  else none

/-- The place of a path, whether or not anything is there. -/
def seek (t : Tree) (path : FileName) : Except Obstacle Place :=
  match obstacleIn? path with
  | some o => .error o
  | none => t.follow (Place.startOf path) (Place.namesIn path)

/-- The node under a path. -/
def find (t : Tree) (path : FileName) : Except Obstacle Node := do
  if path.isEmpty then throw .missing
  match t.nodeAt? (← t.seek path) with
  | some n => pure n
  | none => .error .missing

/-- Sets the node at a place. -/
def put (t : Tree) (p : Place) (n : Node) : Tree :=
  { t with nodes := (p, n) :: t.nodes.filter fun e => e.1 != p }

/-- Takes away what is at a place. -/
def remove (t : Tree) (p : Place) : Tree :=
  { t with nodes := t.nodes.filter fun e => e.1 != p }

/-- Sets the node under a path, if the path leads to a place. -/
def write (t : Tree) (path : FileName) (n : Node) : Tree :=
  match t.seek path with
  | .ok p => t.put p n
  | .error _ => t

/-- Makes the last of some directories; none is missing above it. -/
def makeLast (t : Tree) (start : Place) (names : List FileName) : Except Obstacle Tree := do
  let p ← t.follow start names
  match t.nodeAt? p with
  | none => .ok (t.put p .directory)
  | some .directory => .ok t
  | some _ => .error .occupied

/-- Makes a directory of some names in reverse, and those above it where one is missing. What is
made stays, even if another cannot be made. -/
def makeAlong (start : Place) : List FileName → Tree → Tree × Except Obstacle Unit
  | [], t => (t, .ok ())
  | name :: above, t =>
    let last (t : Tree) : Tree × Except Obstacle Unit :=
      match t.makeLast start (name :: above).reverse with
      | .ok t => (t, .ok ())
      | .error o => (t, .error o)
    match last t with
    | (t, .error .missing) =>
      match makeAlong start above t with
      | (t, .ok ()) => last t
      | stopped => stopped
    | made => made

/-- Makes a directory and those above it. -/
def makeDirectories (t : Tree) (path : String) : Tree × Except Surprise Unit :=
  let bytes := Text.encodeUtf8 path
  match obstacleIn? bytes with
  | some o => (t, .error (o.surprise path))
  | none =>
    let (t, made) := makeAlong (Place.startOf bytes) (Place.namesIn bytes).reverse t
    (t, made.mapError (Obstacle.surprise path))

/-- The nodes of a tree that are not in another, those above first. -/
def since (t before : Tree) : List (Place × Node) :=
  (t.nodes.filter fun e => before.nodeAt? e.1 != some e.2).reverse

/-- The places of another tree where nothing is any more. -/
def lost (t before : Tree) : List Place :=
  (before.nodes.map (·.1)).filter fun p => (t.nodeAt? p).isNone

theorem lookup_filter_ne (l : List (Place × Node)) {p q : Place} (h : q ≠ p) :
    (l.filter fun e => e.1 != p).lookup q = l.lookup q := by
  have hq : (q == p) = false := by simpa using h
  induction l with
  | nil => rfl
  | cons e l ih =>
    obtain ⟨r, n⟩ := e
    by_cases hr : r = p
    · simp [hr, ih, List.lookup_cons, hq]
    · simp [hr, ih, List.lookup_cons]

theorem nodeAt?_put (t : Tree) (p q : Place) (n : Node) (hp : p.isOutermost = false) :
    (t.put p n).nodeAt? q = if q = p then some n else t.nodeAt? q := by
  by_cases h : q = p
  · subst h
    simp [nodeAt?, put, hp]
  · have hq : (q == p) = false := by simpa using h
    simp [nodeAt?, put, List.lookup_cons, hq, h, lookup_filter_ne _ h]

end Tree

end PeopleFeed.Disk
