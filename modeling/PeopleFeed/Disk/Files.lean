import PeopleFeed.Disk.Engine

/-! The files of a tree as documents. -/
namespace PeopleFeed.Disk

/-- The node as a document. -/
def Node.asFile (e : Engine) : Node → Json.File
  | .directory => .directory
  | .bytes content => .bytes content
  | .database db => .bytes (e.encode db)

namespace Tree

/-- Whether anything is under a path. One that is too long cannot be looked up. -/
def has (t : Tree) (path : String) : Except Surprise Bool :=
  match t.find (Text.encodeUtf8 path) with
  | .ok _ => .ok true
  | .error .tooLong => .error (.pathTooLong path)
  | .error _ => .ok false

/-- The document under a path. -/
def file (e : Engine) (t : Tree) (path : String) : Json.File :=
  match t.find (Text.encodeUtf8 path) with
  | .ok n => n.asFile e
  | .error _ => .missing

end Tree

end PeopleFeed.Disk
