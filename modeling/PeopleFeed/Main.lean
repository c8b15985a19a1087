import PeopleFeed.Command.Footprint
import PeopleFeed.Log.Calendar
import Std.Time.DateTime.Timestamp

/-! The command line. What a command reads is fetched first; what it leaves is written last. -/
namespace PeopleFeed

open PeopleFeed.Command (Ending Platform Report Surroundings)
open PeopleFeed.Directory (Archive.decode? Archive.encode Archive.standardHeading)
open PeopleFeed.Disk (Bounds FileName Node Place Tree)

/-- The most brackets of JSON that are open at once. -/
def bracketRoom : Nat := 1000

/-- What archives are read by. -/
def archiveCodec : Json.Codec :=
  ⟨Text.maxDigits, bracketRoom, .last⟩

/-- How long paths and names may be, where the path of the working directory has so many bytes. -/
def bounds (workingPath : Nat) : Bounds :=
  ⟨511, workingPath, 0, 511⟩

/-- The platform of this program: databases are archives in files. -/
def platform (b : Bounds) : Platform where
  engine := Disk.fileEngine b fun _ => Archive.standardHeading
  environment := Environment.readBindings
  standins := .last
  room _ := bracketRoom
  room_feed := by decide

/-- Fetches the nodes on the way along a path. -/
def fetchAlong (t : Tree) (p : Place) : List FileName → IO Tree
  | [] => pure t
  | name :: rest => do
    let next := p.child name
    let found ← try pure (some (← IO.FS.realPath next.text)) catch _ => pure none
    match found with
    | none => pure t
    | some real =>
      if ← real.isDir then
        fetchAlong (if next.isOutermost then t else t.put next .directory) next rest
      else if ← real.pathExists then
        let content := (← IO.FS.readBinFile next.text).toList
        pure (t.put next (((Archive.decode? archiveCodec content).map .database).getD
          (.bytes content)))
      else pure t

/-- Fetches what is under some paths. -/
def fetch (t : Tree) (paths : List FileName) : IO Tree :=
  paths.foldlM (fun t path => fetchAlong t (Place.startOf path) (Place.namesIn path)) t

/-- Writes a node. -/
def store (p : Place) : Node → IO Unit
  | .directory => IO.FS.createDirAll p.text
  | .bytes content => IO.FS.writeBinFile p.text ⟨content.toArray⟩
  | .database db => IO.FS.writeBinFile p.text ⟨(Archive.encode Archive.standardHeading db).toArray⟩

/-- Writes the lines of a journal behind those of the day. -/
def storeJournal (now : Log.Moment) (p : Place) (j : Log.Journal) : IO Unit := do
  let file ← IO.FS.Handle.mk (p.text ++ "/relatedfeed_" ++ now.dateDigits ++ ".log") .append
  for line in j.lines do
    file.putStr (now.text ++ " | " ++ line)

/-- Prints what a command prints, and gives its status. -/
def conclude (r : Report) : IO UInt32 := do
  IO.print r.output
  match r.ending with
  | .done => pure 0
  | .failed => pure 1
  | .refused text => IO.eprintln text; pure 1
  | .raised fault => IO.eprintln fault.message; pure 1
  | .misused => IO.eprint Command.Topic.program.text; pure 2
  | .helped topic => IO.print topic.text; pure 0

/-- Runs a command in surroundings that hold its files. The first journal is open from the start. -/
def execute (disk : Tree) (command : Surroundings → Report × Surroundings) : IO UInt32 := do
  let seed ← IO.rand 0 0x100000000
  let seconds := (← Std.Time.Timestamp.now).toSecondsSinceUnixEpoch.val
  let now := Log.Moment.ofSeconds seconds
  let unreachable := List.replicate 1 (Search.Transport.disconnected "no route to the endpoint")
  let start : Surroundings :=
    .start disk unreachable (.random (.ofSeed seed)) (.constant seconds.toNat)
  let (report, after) := match start.openFirst now with
    | (a, .error s) => (Report.surprised s, a)
    | (a, .ok ()) => command a
  for p in after.disk.lost disk do
    IO.FS.removeFile p.text
  for (p, node) in after.disk.since disk do
    store p node
  for (p, journal) in after.journals do
    storeJournal now p journal
  conclude report

/-- Fetches variables that are set. -/
def fetchVariables (names : List String) : IO Environment.Variables := do
  let values ← names.mapM fun name => do
    pure ((← IO.getEnv name).map fun value => (name, value))
  pure (values.filterMap id)

/-- The bounds in the working directory. -/
def workingBounds : IO Bounds := do
  pure (bounds ((← IO.currentDir).toString.utf8ByteSize + 1))

/-- Where the first journal is. -/
def firstPaths : List FileName :=
  [Text.encodeUtf8 Settings.standard.logDirectory]

/-- Runs the program. -/
def runProgram (args : List String) : IO UInt32 := do
  let b ← workingBounds
  let p := platform b
  let disk ← fetch .empty [Text.encodeUtf8 Command.environmentPath]
  let vars ← fetchVariables
    (Command.variablesNamed (disk.file p.engine Command.environmentPath))
  let paths := Command.pathsNamed p b args vars (.start disk [] .keep (.constant 0))
  execute (← fetch disk (firstPaths ++ paths)) (Command.run p args vars)

/-- Runs the loader of seeds. -/
def runLoader (args : List String) : IO UInt32 := do
  let b ← workingBounds
  let disk ← fetch .empty (firstPaths ++ Command.loaderPaths b args)
  execute disk (Command.runLoader (platform b) args)

end PeopleFeed

def main : List String → IO UInt32
  | "loader" :: args => PeopleFeed.runLoader args
  | args => PeopleFeed.runProgram args
