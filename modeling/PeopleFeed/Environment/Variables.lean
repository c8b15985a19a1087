import PeopleFeed.Fault
import PeopleFeed.Text.Newline
import PeopleFeed.Text.Utf8

/-!
The variables of an environment, and what an environment file adds to them. Which names a file binds
is for its reader to tell. A variable that is set is never overridden.
-/
namespace PeopleFeed.Environment

/-- Variables and their values. -/
abbrev Variables := List (String × String)

/-- The value of a variable that is set. -/
def Variables.get? (name : String) (vs : Variables) : Option String :=
  List.lookup name vs

/-- The names that a file binds, each at its first place with its last value; a name may have
none. -/
abbrev Bindings := List (String × Option String)

/-- Sets a variable. A name or a value that an environment cannot hold is refused. -/
def setVariable (vs : Variables) (name value : String) : Except Surprise Variables :=
  if name.contains '\x00' || value.contains '\x00' then .error .embeddedNul
  else if name.contains '=' then .error .equalsInVariable
  else .ok (vs ++ [(name, value)])

/-- Sets the variables that have a value and are not set. -/
def setMissing (vs : Variables) : Bindings → Except Surprise Variables
  | [] => .ok vs
  | (name, value) :: rest =>
    match value, vs.get? name with
    | some value, none =>
      match setVariable vs name value with
      | .ok vs => setMissing vs rest
      | .error e => .error e
    | _, _ => setMissing vs rest

/-- What a text binds for a reader who sees the variables. -/
abbrev Reader := Variables → String → Bindings

/-- Loads an environment file: whether it is a file with any names, and the variables then. -/
def load (read : Reader) (vs : Variables) : Json.File → Except Surprise (Bool × Variables)
  | .missing | .directory => .ok (false, vs)
  | .bytes content =>
    match Text.decodeUtf8 content with
    | .error e => .error (.undecodable e)
    | .ok text =>
      let bindings := read vs (Text.normalizeNewlines text)
      (setMissing vs bindings).map fun vs => (!bindings.isEmpty, vs)

end PeopleFeed.Environment
