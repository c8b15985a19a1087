import PeopleFeed.Log.Note

/-! A journal keeps the notes that its level admits, a line for each, and never changes a line. It
keeps none from the first on that cannot be written. -/
namespace PeopleFeed.Log

/-- A journal and the lines written to it. -/
structure Journal where
  name : String
  level : Level
  /-- The level that stands in where the journal has none of its own. -/
  inherited : Level
  lines : List String
  deriving DecidableEq, Repr

namespace Journal

/-- The name of a journal unless set otherwise. -/
def standardName : String := "relatedfeed"

/-- The level of a journal unless set otherwise. -/
def standardLevel : Level := .info

/-- The name of the journal above all others, which is meant by no name as well. -/
def rootName : String := "root"

/-- Whether a journal of the name stands below the standard one. -/
def isBelowStandard (name : String) : Bool :=
  name.startsWith (standardName ++ ".")

/-- A journal without lines. -/
def start (name : String) (level : Level) : Journal :=
  ⟨if name = "" then rootName else name, level, Level.notset.effective, []⟩

/-- A journal without lines, seeing the level of the standard one, from which those below it
inherit. -/
def startBeside (standard : Level) (name : String) (level : Level) : Journal :=
  let j := start name level
  if isBelowStandard name then { j with inherited := standard.effective } else j

/-- Level names are written as wide as the widest. -/
def levelWidth : Nat := 8

/-- The line of a note's text. -/
def lineOf (name : String) (level : Level) (text : String) : String :=
  String.ofList (level.name.toList.rightpad levelWidth ' ') ++ " | " ++ name ++ " | " ++ text ++
    "\n"

/-- Whether a note is kept. The root inherits nothing and keeps every note if it has no level. -/
def admits (j : Journal) (n : Note) : Bool :=
  match j.level with
  | .notset => j.name == rootName || j.inherited.admits n.level
  | level => level.admits n.level

/-- The lines of notes up to the first that cannot be written. Also one that is not kept has to be
writable. -/
def linesOf (c : Json.Codec) (j : Journal) : List Note → List String
  | [] => []
  | n :: rest =>
    match n.text c with
    | .error _ => []
    | .ok text =>
      if j.admits n then lineOf j.name n.level text :: linesOf c j rest else linesOf c j rest

/-- Writes notes in their order. -/
def write (c : Json.Codec) (j : Journal) (notes : List Note) : Journal :=
  { j with lines := j.lines ++ j.linesOf c notes }

/-- What a journal reads as. -/
def text (j : Journal) : String :=
  String.join j.lines

end Journal

end PeopleFeed.Log
