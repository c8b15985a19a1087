import PeopleFeed.Command.Invocation
import PeopleFeed.Command.Platform
import PeopleFeed.Log.Calendar
import PeopleFeed.Log.Journal
import PeopleFeed.Search.Source
import PeopleFeed.Shuffle.Seeded

/-!
What a command finds around it and leaves behind: files, journals, a search server, the order in
which unseeded feeds are filled, and the time. And how a command ends.
-/
namespace PeopleFeed.Command

open PeopleFeed.Log (Journal Level Moment Note)

/-- How a command ends. -/
inductive Ending
  | done
  /-- The command tells why it goes no further. -/
  | refused (text : String)
  | failed
  | misused
  | helped (topic : Topic)
  /-- A fault that nobody provides for. -/
  | raised (fault : Fault)

/-- What a command prints, and how it ends. -/
structure Report where
  output : String
  ending : Ending

namespace Report

def done (output : String) : Report := ⟨output, .done⟩

def refused (text : String) : Report := ⟨"", .refused text⟩

def raised (fault : Fault) : Report := ⟨"", .raised fault⟩

def surprised (s : Surprise) : Report := .raised (.surprise s)

/-- The report of arguments that ask for nothing. -/
def ofRefusal : Refusal → Report
  | .misuse => ⟨"", .misused⟩
  | .help topic => ⟨"", .helped topic⟩

end Report

/-- The surroundings of a command. Every directory has at most one journal, and commands write to
the one that was opened last. -/
structure Surroundings where
  disk : Disk.Tree
  journals : List (Disk.Place × Journal)
  current : Option Disk.Place
  /-- What requests will become, in their order. -/
  ahead : List Search.Transport
  /-- The requests sent. -/
  sent : List Search.PageRequest
  order : Shuffler.Order
  /-- When the rows of the next loading are added. -/
  times : Directory.Times
  /-- The time that stands before notes, where these are printed as well. -/
  console : Option Moment

namespace Surroundings

/-- The surroundings of a new process. -/
def start (disk : Disk.Tree) (ahead : List Search.Transport) (order : Shuffler.Order)
    (times : Directory.Times) : Surroundings :=
  ⟨disk, [], none, ahead, [], order, times, none⟩

/-- Changes the journal at a place; where there is none it starts as given. -/
def changeJournal (p : Disk.Place) (first : Journal) (change : Journal → Journal) :
    List (Disk.Place × Journal) → List (Disk.Place × Journal)
  | [] => [(p, change first)]
  | (q, j) :: rest =>
    if q = p then (q, change j) :: rest else (q, j) :: changeJournal p first change rest

/-- Opens the journal of a directory, which is made if need be, for notes from a level on. They are
not printed any more. Where that fails no journal is open. -/
def openJournal (a : Surroundings) (directory : String) (level : Level) :
    Surroundings × Except Surprise Unit :=
  match a.disk.makeDirectories directory with
  | (disk, .error e) => ({ a with disk, current := none, console := none }, .error e)
  | (disk, .ok ()) =>
    match disk.seek (Text.encodeUtf8 directory) with
    | .error o =>
      ({ a with disk, current := none, console := none }, .error (o.surprise directory))
    | .ok p =>
      let first := Journal.start Journal.standardName level
      let journals := changeJournal p first ({ · with level }) a.journals
      ({ a with disk, journals, current := some p, console := none }, .ok ())

/-- Opens the journal that is open before any settings are read. Its notes are printed as well. -/
def openFirst (a : Surroundings) (now : Moment) : Surroundings × Except Surprise Unit :=
  match a.openJournal Settings.standard.logDirectory Journal.standardLevel with
  | (a, .ok ()) => ({ a with console := some now }, .ok ())
  | stopped => stopped

/-- Writes notes to the journal that is open. -/
def note (c : Json.Codec) (a : Surroundings) (notes : List Note) : Surroundings :=
  match a.current with
  | none => a
  | some p =>
    let first := Journal.start Journal.standardName Journal.standardLevel
    { a with journals := changeJournal p first (·.write c notes) a.journals }

/-- What is printed of notes. -/
def printed (c : Json.Codec) (a : Surroundings) (notes : List Note) : String :=
  match a.console, a.current.bind fun p => a.journals.lookup p with
  | some now, some j => String.join ((j.linesOf c notes).map fun line => now.text ++ " | " ++ line)
  | _, _ => ""

/-- The server of a source of results after a search, and what is left of it. -/
def afterSearch (a : Surroundings) : Search.Source → Surroundings
  | .endpoint _ _ ahead sent => { a with ahead, sent }
  | _ => a

end Surroundings

end PeopleFeed.Command
