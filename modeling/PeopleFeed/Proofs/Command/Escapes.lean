import PeopleFeed.Proofs.Command.Printing

/-! What comes out of the program without being told. A command tells of a failure that it provides
for and exits; everything else passes through it, and this is just what is named here. -/
namespace PeopleFeed.Command

open PeopleFeed.Directory (Counts Torn Unread)
open PeopleFeed.Disk (Node Tree)
open PeopleFeed.Environment (Variables)
open PeopleFeed.Feed (Call Count)
open PeopleFeed.Text (encodeUtf8 normalPath)

variable {p : Platform} {a b : Surroundings} {s : Settings} {l : p.engine.Location} {e : Surprise}
  {fault : Fault}

/-- What a listing does not provide for: a database that it cannot find or not list. -/
inductive ListOptions.Escapes (o : ListOptions) (p : Platform) (s : Settings) (a : Surroundings) :
    Surprise → Prop
  | unlocated {e : Surprise} (h : Unlocated p (databasePath o.database s) a e) : o.Escapes p s a e
  | unlisted {l : p.engine.Location} {e : Surprise}
      (hat : Located p (databasePath o.database s) a l)
      (h : (p.engine.found l a.disk).Unlisted e) : o.Escapes p s a e

/-- All entries of a seed are written at a location. Where there are none nobody looks there. -/
def WritesAll (p : Platform) (l : p.engine.Location) (found : Seed) (a : Surroundings) : Prop :=
  Directory.stepsOf a.times found = [] ∨
    ∃ db after, (p.engine.found l a.disk).answering = .ok db ∧
      Directory.writeSeed p.standins a.times db (p.engine.found l a.disk).isSealed found = .ok after

/-- What writing a seed does not provide for: there are entries and no connection, one of them
cannot be encoded, or all are written and the note that tells of it cannot be. -/
inductive WriteEscapes (p : Platform) (input : String) (l : p.engine.Location) (found : Seed)
    (a : Surroundings) : Surprise → Prop
  | barred {e : Surprise} (hsome : Directory.stepsOf a.times found ≠ [])
      (h : p.engine.found l a.disk = .barred e) : WriteEscapes p input l found a e
  | torn {db : Directory.Database} {error : Text.EncodeError}
      (hdatabase : (p.engine.found l a.disk).answering = .ok db)
      (h : Torn p.standins (p.engine.found l a.disk).isSealed db
        (Directory.stepsOf a.times found) error) :
      WriteEscapes p input l found a (.unencodable error)
  | untold {error : Json.WriteError} (hwritten : WritesAll p l found a)
      (h : (Directory.loadedNote input (.ofSeed found)).error? (p.codec .notes) = some error) :
      WriteEscapes p input l found a (.unwritable error)

section

variable {input database : String} {found : Seed} {counts : Counts}

/-- What is told of a loaded seed hangs on its note alone. -/
theorem result_tellLoaded (p : Platform) (input : String) (counts : Counts) (a : Surroundings) :
    (tellLoaded p input counts a).result =
      match (Directory.loadedNote input counts).error? (p.codec .notes) with
      | some error => .error (.surprise (.unwritable error))
      | none => .ok counts := by
  have hone (n : Log.Note) : Log.unwritable? (p.codec .notes) [n] = n.error? (p.codec .notes) := by
    simp [Log.unwritable?]
  simp only [tellLoaded, hone]
  cases (Directory.loadedNote input counts).error? (p.codec .notes) <;> rfl

theorem tellLoaded_eq_error_iff : (tellLoaded p input counts a).result = .error fault ↔
    ∃ error, (Directory.loadedNote input counts).error? (p.codec .notes) = some error ∧
      fault = .surprise (.unwritable error) := by
  rw [result_tellLoaded]
  cases (Directory.loadedNote input counts).error? (p.codec .notes) <;> simp [eq_comm]

/-- What becomes of a seed that is written. -/
theorem result_writeFound (p : Platform) (input : String) (l : p.engine.Location) (found : Seed)
    (a : Surroundings) :
    (writeFound p input l found a).result =
      if Directory.stepsOf a.times found = [] then (tellLoaded p input (.ofSeed found) a).result
      else
        match (p.engine.found l a.disk).answering with
        | .error e => .error (.surprise e)
        | .ok db =>
          match Directory.writeSeed p.standins a.times db (p.engine.found l a.disk).isSealed
              found with
          | .error failure => .error (failure.fault input)
          | .ok _ => (tellLoaded p input (.ofSeed found) a).result := by
  by_cases hnone : Directory.stepsOf a.times found = []
  · simp only [writeFound, hnone, List.isEmpty_nil, if_true]
  · have hsome : (Directory.stepsOf a.times found).isEmpty = false := by
      simpa using hnone
    simp only [writeFound, hsome, Bool.false_eq_true, if_false, hnone, Disk.Engine.found]
    cases (p.engine.connect l a.disk).2.answering with
    | error e => rfl
    | ok db =>
      dsimp only
      cases Directory.writeSeed p.standins a.times db (p.engine.connect l a.disk).2.isSealed found
        with
      | error failure => rfl
      | ok after => simp only [result_tellLoaded]

theorem writeFound_eq_surprise_iff :
    (writeFound p input l found a).result = .error (.surprise e) ↔
      WriteEscapes p input l found a e := by
  rw [result_writeFound]
  constructor
  · intro h
    split at h
    · rename_i hnone
      obtain ⟨error, herror, he⟩ := tellLoaded_eq_error_iff.mp h
      cases he
      exact .untold (.inl hnone) herror
    rename_i hsome
    split at h
    · rename_i hdatabase
      cases h
      exact .barred hsome (Directory.Stored.answering_eq_error_iff.mp hdatabase)
    rename_i db hdatabase
    split at h
    · rename_i failure hwrite
      cases failure with
      | refused rejection => cases h
      | untranslated s =>
        cases h
        obtain ⟨error, rfl, htorn⟩ := Directory.writeSteps_eq_untranslated_iff.mp hwrite
        exact .torn hdatabase htorn
    · rename_i after hwrite
      obtain ⟨error, herror, he⟩ := tellLoaded_eq_error_iff.mp h
      cases he
      exact .untold (.inr ⟨db, after, hdatabase, hwrite⟩) herror
  · rintro (⟨hsome, hbarred⟩ | ⟨hdatabase, htorn⟩ | ⟨hwritten, herror⟩)
    · rw [if_neg hsome, hbarred]
      rfl
    · have hsome : Directory.stepsOf a.times found ≠ [] := by
        obtain ⟨before, step, behind, -, hsteps, -⟩ := htorn.exists_step
        rw [hsteps]
        simp
      have hwrite : Directory.writeSeed p.standins a.times _ _ found = _ :=
        Directory.writeSteps_eq_untranslated_iff.mpr ⟨_, rfl, htorn⟩
      rw [if_neg hsome, hdatabase]
      simp only [hwrite]
      rfl
    · have htold : (tellLoaded p input (.ofSeed found) a).result =
          .error (.surprise (.unwritable _)) := tellLoaded_eq_error_iff.mpr ⟨_, herror, rfl⟩
      rcases hwritten with hnone | ⟨db, after, hdatabase, hwrite⟩
      · rw [if_pos hnone, htold]
      · split
        · exact htold
        · simp only [hdatabase, hwrite, htold]

/-- What loading a seed does not provide for: tables that cannot be made, or, with the tables made,
a seed that cannot be read or, as it is read, not be written. -/
inductive LoadEscapes (p : Platform) (site : Site) (input database : String) (a : Surroundings) :
    Surprise → Prop
  | unprepared {e : Surprise} (h : p.engine.Unprepared a.disk database e) :
      LoadEscapes p site input database a e
  | unread {t : Tree} {l : p.engine.Location} {e : Surprise}
      (hprepared : p.engine.prepareDatabase a.disk database = (t, .ok l))
      (h : Unread (p.codec site) input (t.file p.engine input) e) :
      LoadEscapes p site input database a e
  | unwritten {t : Tree} {l : p.engine.Location} {found : Seed} {e : Surprise}
      (hprepared : p.engine.prepareDatabase a.disk database = (t, .ok l))
      (hread : Directory.readSeed (p.codec site) input (t.file p.engine input) = .ok found)
      (h : WriteEscapes p input l found { a with disk := t } e) :
      LoadEscapes p site input database a e

theorem loadSeed_eq_surprise_iff {site : Site} :
    (loadSeed p site input database a).result = .error (.surprise e) ↔
      LoadEscapes p site input database a e := by
  constructor
  · intro h
    unfold loadSeed at h
    split at h
    · rename_i hprepared
      cases h
      exact .unprepared (Disk.Engine.prepareDatabase_eq_error_iff.mp (congrArg Prod.snd hprepared))
    rename_i t l hprepared
    dsimp only at h
    split at h
    · rename_i hread
      cases h
      exact .unread hprepared (Directory.readSeed_eq_surprise_iff.mp hread)
    · rename_i found hread
      exact .unwritten hprepared hread (writeFound_eq_surprise_iff.mp h)
  · rintro (hunprepared | ⟨hprepared, hunread⟩ | ⟨hprepared, hread, hunwritten⟩)
    · have hprepared := Disk.Engine.prepareDatabase_eq_error_iff.mpr hunprepared
      unfold loadSeed
      generalize p.engine.prepareDatabase a.disk database = prepared at hprepared
      obtain ⟨t, made⟩ := prepared
      cases hprepared
      rfl
    · simp only [loadSeed, hprepared, Directory.readSeed_eq_surprise_iff.mpr hunread]
      rfl
    · simp only [loadSeed, hprepared, hread]
      exact writeFound_eq_surprise_iff.mpr hunwritten

end

/-- What the command that loads a seed does not provide for: an input that is not given a value or
whose path is too long, and what the loading of a seed that is there does not provide for. -/
inductive SeedOptions.Escapes (o : SeedOptions) (p : Platform) (s : Settings) (a : Surroundings) :
    Surprise → Prop
  | valueMissing (h : o.input = none) : o.Escapes p s a (.valueMissing inputSwitch.name)
  | tooLong {input : String} (hinput : o.input.map normalPath = some input)
      (h : a.disk.find (encodeUtf8 input) = .error .tooLong) : o.Escapes p s a (.pathTooLong input)
  | loading {input : String} {n : Node} {e : Surprise}
      (hinput : o.input.map normalPath = some input)
      (hfound : a.disk.find (encodeUtf8 input) = .ok n)
      (h : LoadEscapes p .seeding input (databasePath o.database s) a e) : o.Escapes p s a e

/-- The run that the ingredients of a feed make, after a number of steps. -/
def Ingredients.runFor (g : Ingredients p) (o : RelatedOptions) (a : Surroundings) (quota : Count)
    (k : Nat) : Feed.State Directory.Backend Shuffler.Order :=
  o.order.run (collaborators p o.user) Shuffler.ofOrder Feed.publicFieldNames quota k
    ⟨(p.engine.found g.location a.disk).answering, g.source⟩ g.order

/-- What assembling a feed does not provide for: what it is made of cannot be gathered, a note that
tells of it cannot be written, or, with all notes written, the run is upset. -/
inductive RelatedOptions.Escapes (o : RelatedOptions) (p : Platform) (s : Settings)
    (a : Surroundings) : Surprise → Prop
  | ungathered {e : Surprise} (h : o.Ungathered p s a e) : o.Escapes p s a e
  | unnoted {g : Ingredients p} {before behind : List Log.Note} {note : Log.Note}
      {error : Json.WriteError} (hg : ingredients p o s a = .ok g)
      (hnotes : g.notes o a = before ++ note :: behind)
      (hbefore : ∀ n ∈ before, n.error? (p.codec .notes) = none)
      (h : note.error? (p.codec .notes) = some error) : o.Escapes p s a (.unwritable error)
  | upset {g : Ingredients p} {quota : Count} {k : Nat} {call : Call} {e : Surprise}
      (hg : ingredients p o s a = .ok g)
      (hnotes : ∀ n ∈ g.notes o a, n.error? (p.codec .notes) = none)
      (hcheck : o.order.check g.policy = .ok quota) (hk : k < Feed.stepLimit)
      (hcall : (g.runFor o a quota k).nextCall (o.order.request quota Feed.publicFieldNames) =
        some call)
      (h : Upsets p o.user (g.runFor o a quota k).env call e) : o.Escapes p s a e

section

variable {o : RelatedOptions} {g : Ingredients p}

end

/-! The whole program. -/

/-- What a task does not provide for. -/
def Task.Escapes (p : Platform) (s : Settings) (a : Surroundings) : Task → Surprise → Prop
  | .related o => o.Escapes p s a
  | .seed o => o.Escapes p s a
  | .list o => o.Escapes p s a

/-- What an invocation does not provide for: a level without its value, a directory of the journal
that cannot be made, and, with the journal open, what its task does not provide for. -/
inductive Invocation.Escapes (i : Invocation) (p : Platform) (s : Settings) (a : Surroundings) :
    Surprise → Prop
  | valueMissing (h : i.logLevel = some none) : i.Escapes p s a (.valueMissing levelSwitch.name)
  | journal {level : Log.Level} {e : Surprise} (hlevel : i.level s = .ok level)
      (h : a.disk.Unmakeable s.logDirectory e) : i.Escapes p s a e
  | task {level : Log.Level} {b : Surroundings} {task : Task} {e : Surprise}
      (hlevel : i.level s = .ok level)
      (hopen : a.openJournal s.logDirectory level = (b, .ok ())) (htask : i.task = some task)
      (h : task.Escapes p s b e) : i.Escapes p s a e

/-- What the program does not provide for: an environment file that cannot be loaded, and what the
invocation does not provide for that its arguments ask for. -/
inductive Escapes (p : Platform) (args : List String) (vars : Variables) (a : Surroundings) :
    Surprise → Prop
  | environment {e : Surprise} (h : Unconfigured p vars a e) : Escapes p args vars a e
  | invocation {s : Settings} {i : Invocation} {e : Surprise}
      (hs : settingsAround p vars a = .ok s) (hread : Invocation.read args = .ok i)
      (hversion : i.showsVersion = false) (h : i.Escapes p s a e) : Escapes p args vars a e

theorem ofArgument?_db :
    Word.ofArgument? (helpSwitches ++ programSwitches) "--db" = some .unknown :=
  ofArgument?_of_unlike rfl (by decide) (by decide +kernel) (by decide +kernel) (by simp) rfl
    (by simp [helpSwitches, programSwitches, shortHelp, levelSwitch])

end PeopleFeed.Command
