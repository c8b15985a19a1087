import PeopleFeed.Command.Run
import PeopleFeed.Disk.Connection
import PeopleFeed.Environment.Expansion

/-! What running the program reads where databases are kept in files: the paths of these, and the
variables it may ask for. -/
namespace PeopleFeed.Command

open PeopleFeed.Disk (Bounds FileName Place)
open PeopleFeed.Environment (Variables)
open PeopleFeed.Text (encodeUtf8)

/-- The paths of what a connection to a database looks at. -/
def locationPaths : Directory.Location → List FileName
  | .file path use =>
    let p := Place.ofPath path
    p.path :: Disk.companionEndings.map (fun ending => (p.beside ending).path) ++ use.model.toList
  | _ => []

/-- The paths at which a database is looked for: its address, and the file that this names. -/
def databasePaths (b : Bounds) (path : String) : List FileName :=
  let location := (Directory.Address.ofText path).locate b.memoryName
  encodeUtf8 path :: (location.toOption.map locationPaths).getD []

/-- The paths that a task reads or writes. -/
def Task.paths (b : Bounds) (s : Settings) : Task → List FileName
  | .related o =>
    databasePaths b (databasePath o.database s) ++ ((givenPath? o.results).map encodeUtf8).toList
  | .seed o =>
    (o.input.map fun path => encodeUtf8 (Text.normalPath path)).toList ++
      databasePaths b (databasePath o.database s)
  | .list o => databasePaths b (databasePath o.database s)

/-- The paths that running the program reads or writes, seeing the environment file. -/
def pathsNamed (p : Platform) (b : Bounds) (args : List String) (vars : Variables)
    (a : Surroundings) : List FileName :=
  match settingsAround p vars a, Invocation.read args with
  | .ok s, .ok i => encodeUtf8 s.logDirectory :: (i.task.map (Task.paths b s)).getD []
  | _, _ => []

/-- The paths that running a loader of seeds reads or writes. -/
def loaderPaths (b : Bounds) (args : List String) : List FileName :=
  match LoadOptions.read args with
  | .ok o =>
    (o.input.map fun path => encodeUtf8 (Text.normalPath path)).toList ++
      ((o.database.map Text.normalPath).map (databasePaths b)).getD []
  | .error _ => []

/-- The names of the variables that the program may ask for, seeing the environment file. -/
def variablesNamed (environmentFile : Json.File) : List String :=
  let mentioned := match environmentFile with
    | .bytes content =>
      match Text.decodeUtf8 content with
      | .ok text => Environment.mentionedNames (Text.normalizeNewlines text)
      | .error _ => []
    | _ => []
  (Settings.variableNames ++ mentioned).eraseDups

/-- What help tells about a topic. -/
def Topic.text : Topic → String
  | program =>
    "usage: peoplefeed [-h] [--version] [--log-level LEVEL] (related | seed | list) ...\n"
  | related =>
    "usage: peoplefeed related [-h] --user ID [--db PATH] [--results PATH] [--search-url URL]\n" ++
      "                          [--items N] [--seed N] [--pretty]\n"
  | seed => "usage: peoplefeed seed [-h] --input PATH [--db PATH]\n"
  | list => "usage: peoplefeed list [-h] [--db PATH]\n"
  | loader => "usage: peoplefeed loader [-h] [--json PATH] [--db PATH] [--dry-run]\n"

end PeopleFeed.Command
