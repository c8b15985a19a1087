/-!
The normal form of a file path: repeated slashes, components that are a single point and a slash
at the end are dropped; two points stay.
-/
namespace PeopleFeed.Text

/-- The components of a path that are kept. -/
def pathComponents (cs : List Char) : List (List Char) :=
  (cs.splitOn '/').filter fun part => !(part.isEmpty || part == ['.'])

/-- The slashes a path starts with in normal form: exactly two stay two, more are one. -/
def pathRoot : List Char → List Char
  | '/' :: '/' :: '/' :: _ => ['/']
  | '/' :: '/' :: _ => ['/', '/']
  | '/' :: _ => ['/']
  | _ => []

/-- A path in normal form; the path without components and root is the current directory. -/
def normalPath (s : String) : String :=
  let cs := s.toList
  let root := pathRoot cs
  let parts := pathComponents cs
  if root.isEmpty && parts.isEmpty then "."
  else String.ofList (root ++ ['/'].intercalate parts)

/-- The directory that a path in normal form lies in. -/
def parentPath (s : String) : String :=
  let cs := s.toList
  let root := pathRoot cs
  let parts := (pathComponents cs).dropLast
  if root.isEmpty && parts.isEmpty then "."
  else String.ofList (root ++ ['/'].intercalate parts)

/-- The name of the directory above. -/
def above : List Char := ['.', '.']

/-- Takes every component for above together with the one before it. Nothing is above the root. -/
def foldAbove (isRooted : Bool) (parts : List (List Char)) : List (List Char) :=
  let step (done : List (List Char)) (part : List Char) : List (List Char) :=
    if part != above then part :: done
    else
      match done with
      | [] => if isRooted then [] else [part]
      | last :: rest => if last == above then part :: done else rest
  (parts.foldl step []).reverse

/-- A path in normal form that is followed by its names alone. -/
def foldedPath (s : String) : String :=
  let cs := s.toList
  let root := pathRoot cs
  String.ofList (root ++ ['/'].intercalate (foldAbove (!root.isEmpty) (pathComponents cs)))

end PeopleFeed.Text
