import PeopleFeed.Directory.Tables
import PeopleFeed.Fault
import PeopleFeed.Log.Note

/-! Loading a seed file into a directory database: all of it or nothing. -/
namespace PeopleFeed.Directory

/-- How many entries of each section were written. -/
structure Counts where
  accounts : Nat
  memberships : Nat
  connections : Nat
  deriving DecidableEq, Repr

def Counts.ofSeed (s : Seed) : Counts :=
  ⟨s.accounts.length, s.memberships.length, s.connections.length⟩

/-- The counts by section. -/
def Counts.entries (c : Counts) : List (String × Nat) :=
  [(Seed.Part.accounts.name, c.accounts), (Seed.Part.memberships.name, c.memberships),
    (Seed.Part.connections.name, c.connections)]

/-- The seed in the file under a path. -/
def readSeed (c : Json.Codec) (path : String) (file : Json.File) : Except Fault Seed :=
  match file.read c path with
  | .error (.content (.json (.tooDeep bracket))) => .error (.surprise (.nestedTooDeep bracket))
  | .error (.content e) => .error (.breach (.unreadableSeed path e))
  | .error (.directory path) => .error (.surprise (.pathIsDirectory path))
  | .error (.missing path) => .error (.surprise (.pathMissing path))
  | .ok v =>
    match Seed.ofValue v with
    | .ok seed => .ok seed
    | .error problems => .error (.breach (.invalidSeed path problems))

/-- How a database refuses to write an entry. -/
inductive Rejection
  | atOnce
  /-- An entry is written when the next one is looked up, or at the end if there is none. -/
  | atNext
  deriving DecidableEq, Repr

/-- Why the entries of a seed are not written. -/
inductive Failure
  | refused (rejection : Rejection)
  /-- What fails is no error of a database, so nobody translates it. -/
  | untranslated (surprise : Surprise)

def Failure.fault (path : String) : Failure → Fault
  | refused rejection => .outage (.seedNotLoaded path (rejection = .atNext))
  | untranslated s => .surprise s

/-- An entry of a seed as it is written: by the texts of its key it is looked up. -/
structure Step where
  part : Seed.Part
  keys : List String
  columns : List String
  change : Database.Change

/-- The texts of profile fields that are not null, in the order of their columns. -/
def textsOf (c : Seed.ProfileColumns) : List String :=
  Seed.ProfileField.all.filterMap c.get

/-- The entries of a seed, section by section. -/
def stepsOf (t : Times) (seed : Seed) : List Step :=
  seed.accounts.map (fun e =>
      ⟨.accounts, [e.id], textsOf e.columns, fun db => db.putAccount (t.account e.id) e⟩) ++
    seed.memberships.map (fun e =>
      ⟨.memberships, [e.group, e.member], [], fun db => db.putMembership e⟩) ++
    seed.connections.map (fun e =>
      ⟨.connections, [e.owner, e.target], [],
        fun db => db.putConnection (t.connection e.owner e.target) e⟩)

/-- What keeps an entry from being written. -/
def Step.tear? (st : Text.Standins) (step : Step) : Option Text.EncodeError :=
  st.tearIn? (step.keys ++ step.columns)

/-- Writes entries one after the other. A sealed database takes only those that leave it as it
is. -/
def writeSteps (st : Text.Standins) (isSealed : Bool) (db : Database) :
    List Step → Except Failure Database
  | [] => .ok db
  | step :: rest =>
    match step.change db with
    | none => .error (.refused .atOnce)
    | some changed =>
      match step.tear? st with
      | some e => .error (.untranslated (.unencodable e))
      | none =>
        if isSealed && changed != db then
          .error (.refused (if rest.isEmpty then .atOnce else .atNext))
        else writeSteps st isSealed changed rest

/-- An entry is written: its table is there, its texts can be encoded, and a sealed database has it
already. -/
structure Step.Writes (st : Text.Standins) (isSealed : Bool) (step : Step)
    (db changed : Database) : Prop where
  changes : step.change db = some changed
  whole : step.tear? st = none
  keeps : isSealed = true → changed = db

section

variable {st : Text.Standins} {isSealed : Bool} {db changed after : Database} {step : Step}
  {rest : List Step} {s : Surprise}

theorem writeSteps_of_writes (h : step.Writes st isSealed db changed) (rest : List Step) :
    writeSteps st isSealed db (step :: rest) = writeSteps st isSealed changed rest := by
  have hkeeps : (isSealed && changed != db) = false := by
    simpa using h.keeps
  rw [writeSteps]
  simp [h.changes, h.whole, hkeeps]

theorem writeSteps_cons_eq_ok_iff :
    writeSteps st isSealed db (step :: rest) = .ok after ↔
      ∃ changed, step.Writes st isSealed db changed ∧
        writeSteps st isSealed changed rest = .ok after := by
  constructor
  · intro h
    cases hchange : step.change db with
    | none => simp [writeSteps, hchange] at h
    | some changed =>
      cases htear : step.tear? st with
      | some e => simp [writeSteps, hchange, htear] at h
      | none =>
        by_cases hsealed : (isSealed && changed != db) = true
        · simp [writeSteps, hchange, htear, hsealed] at h
        · have hwrites : step.Writes st isSealed db changed :=
            ⟨hchange, htear, by simpa using hsealed⟩
          exact ⟨changed, hwrites, writeSteps_of_writes hwrites rest ▸ h⟩
  · rintro ⟨changed, hwrites, h⟩
    exact (writeSteps_of_writes hwrites rest).trans h

theorem writeSteps_cons_eq_untranslated_iff :
    writeSteps st isSealed db (step :: rest) = .error (.untranslated s) ↔
      ((step.change db).isSome ∧ ∃ e, step.tear? st = some e ∧ s = .unencodable e) ∨
      ∃ changed, step.Writes st isSealed db changed ∧
        writeSteps st isSealed changed rest = .error (.untranslated s) := by
  constructor
  · intro h
    cases hchange : step.change db with
    | none => simp [writeSteps, hchange] at h
    | some changed =>
      cases htear : step.tear? st with
      | some e =>
        simp [writeSteps, hchange, htear] at h
        exact .inl ⟨rfl, e, rfl, h.symm⟩
      | none =>
        by_cases hsealed : (isSealed && changed != db) = true
        · simp [writeSteps, hchange, htear, hsealed] at h
        · have hwrites : step.Writes st isSealed db changed :=
            ⟨hchange, htear, by simpa using hsealed⟩
          exact .inr ⟨changed, hwrites, writeSteps_of_writes hwrites rest ▸ h⟩
  · rintro (⟨hthere, e, htear, rfl⟩ | ⟨changed, hwrites, h⟩)
    · obtain ⟨changed, hchange⟩ := Option.isSome_iff_exists.mp hthere
      simp [writeSteps, hchange, htear]
    · exact (writeSteps_of_writes hwrites rest).trans h

end

/-- Writes the entries of a seed. -/
def writeSeed (st : Text.Standins) (t : Times) (db : Database) (isSealed : Bool) (seed : Seed) :
    Except Failure Database :=
  writeSteps st isSealed db (stepsOf t seed)

/-- The ids of accounts that a seed adds to a database, in the order in which it adds them. -/
def addedAccounts (db : Database) (seed : Seed) : List String :=
  let known := (db.accounts.rows?.getD []).map (·.entry.id)
  (seed.accounts.map (·.id)).eraseDups.filter fun id => !known.contains id

/-- The owners and targets of connections that a seed adds to a database, in the order in which it
adds them. -/
def addedConnections (db : Database) (seed : Seed) : List (String × String) :=
  let known := (db.connections.rows?.getD []).map fun r => (r.entry.owner, r.entry.target)
  (seed.connections.map fun e => (e.owner, e.target)).eraseDups.filter fun pair =>
    !known.contains pair

/-- The times by a clock that is read for each row that is added. -/
def Times.ofClock (clock : Nat → Nat) (db : Database) (seed : Seed) : Times where
  account id := clock ((addedAccounts db seed).idxOf id)
  connection owner target :=
    clock ((addedAccounts db seed).length + (addedConnections db seed).idxOf (owner, target))

/-- The note that tells of a loaded seed. -/
def loadedNote (path : String) (c : Counts) : Log.Note :=
  ⟨.info, "Loaded directory seed from " ++ path, c.entries.map fun e => (e.1, .int e.2)⟩

/-- Loads the seed in the file under a path. -/
def load (c : Json.Codec) (t : Times) (path : String) (file : Json.File) (db : Database)
    (isSealed : Bool) : Except Fault (Counts × Database) :=
  match readSeed c path file with
  | .error fault => .error fault
  | .ok seed =>
    match writeSeed c.standins t db isSealed seed with
    | .ok db => .ok (Counts.ofSeed seed, db)
    | .error failure => .error (failure.fault path)

end PeopleFeed.Directory
