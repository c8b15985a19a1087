import PeopleFeed.Command.Related
import PeopleFeed.Directory.Loading

/-! The commands that load a seed into the directory database, and the trial run of it. -/
namespace PeopleFeed.Command

open PeopleFeed.Directory (Counts)

/-- A loading of a seed: the counts or the fault, what is printed on the way, and the surroundings
after it. -/
structure Loading where
  result : Except Fault Counts
  printed : String
  after : Surroundings

/-- A loading that fails. -/
def Loading.failed (fault : Fault) (a : Surroundings) : Loading :=
  ⟨.error fault, "", a⟩

/-- Tells of a loaded seed in the journal. -/
def tellLoaded (p : Platform) (input : String) (counts : Counts) (a : Surroundings) : Loading :=
  let notes := [Directory.loadedNote input counts]
  let c := p.codec .notes
  match Log.unwritable? c notes with
  | some e => .failed (.surprise (.unwritable e)) a
  | none => ⟨.ok counts, a.printed c notes, a.note c notes⟩

/-- Writes a seed into the database at a location. The first statement connects, so without any
entry there is no connection. -/
def writeFound (p : Platform) (input : String) (location : p.engine.Location) (found : Seed)
    (a : Surroundings) : Loading :=
  if (Directory.stepsOf a.times found).isEmpty then tellLoaded p input (.ofSeed found) a
  else
    let (disk, stored) := p.engine.connect location a.disk
    let a := { a with disk }
    match stored.answering with
    | .error e => .failed (.surprise e) a
    | .ok db =>
      match Directory.writeSeed p.standins a.times db stored.isSealed found with
      | .error failure => .failed (failure.fault input) a
      | .ok db =>
        tellLoaded p input (.ofSeed found) { a with disk := p.engine.keep location db disk }

/-- Loads the seed under a path into the database under another, whose tables are made first. -/
def loadSeed (p : Platform) (site : Site) (input database : String) (a : Surroundings) : Loading :=
  match p.engine.prepareDatabase a.disk database with
  | (disk, .error e) => .failed (.surprise e) { a with disk }
  | (disk, .ok location) =>
    let a := { a with disk }
    match Directory.readSeed (p.codec site) input (disk.file p.engine input) with
    | .error fault => .failed fault a
    | .ok found => writeFound p input location found a

/-- What is told of a loaded seed. -/
def loadedReport : Except Fault Counts → Report
  | .ok c =>
    .done (s!"Loaded accounts={c.accounts} memberships={c.memberships} " ++
      s!"connections={c.connections}\n")
  | .error (.breach b) => .refused b.message
  | .error (.outage o) => .refused o.message
  | .error fault => .raised fault

/-- Puts a text before what a command prints. -/
def Report.after (text : String) (r : Report) : Report :=
  ⟨text ++ r.output, r.ending⟩

/-- Loads a seed and tells how many entries it has. -/
def seed (p : Platform) (o : SeedOptions) (s : Settings) (a : Surroundings) :
    Report × Surroundings :=
  match o.input.map Text.normalPath with
  | none => (.surprised (.valueMissing inputSwitch.name), a)
  | some input =>
    match a.disk.has input with
    | .error e => (.surprised e, a)
    | .ok false => (.refused ("Input file not found: " ++ input), a)
    | .ok true =>
      let l := loadSeed p .seeding input (databasePath o.database s) a
      ((loadedReport l.result).after l.printed, l.after)

/-- How many accounts a trial run shows. -/
def shownAccounts : Nat := 5

/-- The line of an account in a trial run. -/
def trialLine (number : Nat) (e : Seed.AccountEntry) : String :=
  s!"  {number}. [" ++ e.kind.name ++ "] " ++ e.id ++ "\n"

/-- What a trial run tells of the accounts of a seed. -/
def trialText (accounts : List Seed.AccountEntry) : String :=
  let shown := (accounts.take shownAccounts).zipIdx 1
  "\n[DRY RUN] Would load the following accounts:\n" ++
    String.join (shown.map fun e => trialLine e.2 e.1) ++
    (if shownAccounts < accounts.length then
      s!"  ... and {accounts.length - shownAccounts} more\n" else "")

/-- What a loader tells of the counts of a seed that it has read. -/
def foundText (c : Counts) : String :=
  s!"Found {c.accounts} accounts, {c.memberships} memberships, {c.connections} connections\n"

/-- What a loader tells when all is loaded. -/
def completeText (c : Counts) : String :=
  "\nSeed complete!\n" ++ String.join (c.entries.map fun e => s!"   {e.1}: {e.2}\n")

/-- What a loader tells of a seed that cannot be read, and how it ends then. -/
def unreadReport (fault : Fault) : Report :=
  match fault with
  | .breach (.unreadableSeed _ e) => ⟨s!"Seed is not valid JSON: {e.message}\n", .failed⟩
  | .breach (.invalidSeed _ problems) =>
    ⟨"Invalid seed:\n" ++ String.join (problems.map fun p => s!" - {p.message}\n"), .failed⟩
  | fault => .raised fault

/-- What stands for a path that is missing. -/
def missingPathText : String := "[]"

/-- What a loader tells before it loads. -/
def loadingText (database : Option String) : String :=
  "\nInitializing database at " ++ database.getD missingPathText ++ "...\n"

/-- What a loader tells of a seed that it has loaded, and how it ends. -/
def completeReport : Except Fault Counts → Report
  | .ok c => .done (completeText c)
  | .error (.breach b) => ⟨s!"Failed to load seed: {b.message}\n", .failed⟩
  | .error (.outage o) => ⟨s!"Failed to load seed: {o.message}\n", .failed⟩
  | .error fault => .raised fault

/-- Loads a seed that has been read. -/
def loadRead (p : Platform) (input : String) (database : Option String) (a : Surroundings) :
    Report × Surroundings :=
  let (report, after) : Report × Surroundings := match database with
    | none => (.surprised (.valueMissing databaseSwitch.name), a)
    | some database =>
      let l := loadSeed p .loading input database a
      ((completeReport l.result).after l.printed, l.after)
  (report.after (loadingText database), after)

/-- Loads a seed step by step, or tries it without writing anything. -/
def loadStepwise (p : Platform) (input : String) (database : Option String) (dryRun : Bool)
    (a : Surroundings) : Report × Surroundings :=
  let heading := s!"Loading seed from {input}...\n"
  match Directory.readSeed (p.codec .trial) input (a.disk.file p.engine input) with
  | .error fault => ((unreadReport fault).after heading, a)
  | .ok found =>
    let heading := heading ++ foundText (.ofSeed found)
    if dryRun then (.done (heading ++ trialText found.accounts), a)
    else
      let (report, a) := loadRead p input database a
      (report.after heading, a)

/-- Does what a loader of seeds is asked for. -/
def LoadOptions.run (p : Platform) (o : LoadOptions) (a : Surroundings) : Report × Surroundings :=
  match o.input.map Text.normalPath with
  | none => (.surprised (.valueMissing documentSwitch.name), a)
  | some input =>
    match a.disk.has input with
    | .error e => (.surprised e, a)
    | .ok false => (⟨s!"Seed file not found: {input}\n", .failed⟩, a)
    | .ok true => loadStepwise p input (o.database.map Text.normalPath) o.dryRun a

/-- Runs a loader of seeds. -/
def runLoader (p : Platform) (args : List String) (a : Surroundings) : Report × Surroundings :=
  match LoadOptions.read args with
  | .error refusal => (.ofRefusal refusal, a)
  | .ok o => o.run p a

end PeopleFeed.Command
