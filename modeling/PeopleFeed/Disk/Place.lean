import PeopleFeed.Text.Utf8

/-!
Places of files and directories by the names that lead to them. Names are bytes, as not all of
them are texts.
-/
namespace PeopleFeed.Disk

/-- The bytes of a name, or of a path. -/
abbrev FileName := List UInt8

/-- The byte between the names of a path. -/
def separator : UInt8 := 0x2F

/-- The name of the directory itself. -/
def hereName : FileName := [0x2E]

/-- The name of the directory above. -/
def aboveName : FileName := [0x2E, 0x2E]

/-- The name of the root. -/
def rootName : FileName := [separator]

/-- The names on the way from the working directory, or from the root if it comes first. -/
abbrev Place := List FileName

namespace Place

/-- Whether a place is above all files of the tree. -/
def isOutermost (p : Place) : Bool :=
  p.all (· == aboveName) || p == [rootName]

/-- Whether a place is told from the root on. -/
def isRooted (p : Place) : Bool :=
  p.head? == some rootName

/-- The place above. -/
def parent (p : Place) : Place :=
  if p == [rootName] then p
  else if p.all (· == aboveName) then p ++ [aboveName]
  else p.dropLast

/-- The place that a name leads to. -/
def child (p : Place) (name : FileName) : Place :=
  if name == aboveName then p.parent else p ++ [name]

/-- The place beside one whose name has more at its end. -/
def beside (p : Place) (ending : String) : Place :=
  p.dropLast ++ [p.getLastD [] ++ Text.encodeUtf8 ending]

/-- The path of a place. -/
def path (p : Place) : FileName :=
  match p with
  | [] => hereName
  | name :: rest =>
    if name == rootName then rootName ++ [separator].intercalate rest
    else [separator].intercalate p

/-- The path of a place as a text. -/
def text (p : Place) : String :=
  String.ofList (Text.decodeReplacing p.path)

/-- Where a path starts. -/
def startOf (path : FileName) : Place :=
  if path.head? == some separator then [rootName] else []

/-- The names in a path. -/
def namesIn (path : FileName) : List FileName :=
  (path.splitOn separator).filter fun name => !(name.isEmpty || name == hereName)

/-- The place of a path by its names alone: every name for above takes the one before it back. -/
def ofPath (path : FileName) : Place :=
  (namesIn path).foldl child (startOf path)

end Place

end PeopleFeed.Disk
