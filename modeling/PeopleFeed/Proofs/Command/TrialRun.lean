import PeopleFeed.Proofs.Command.Escapes
import PeopleFeed.Proofs.Directory.Transaction
import PeopleFeed.Proofs.Disk.Keeping
import PeopleFeed.Proofs.Json.Room
import PeopleFeed.Proofs.Log.Writing

/-! The trial run of a seed, the loading of it step by step and the command that loads it. Where the
tables of a database are made and found again, and the seed with them, the three agree. -/
namespace PeopleFeed.Command

open PeopleFeed.Directory (Counts Database IsEncodable Rows loadedNote readSeed writtenOver)
open PeopleFeed.Disk (Tree)
open PeopleFeed.Environment (Variables)
open PeopleFeed.Json (FitsIn Value)
open PeopleFeed.Text (encodeUtf8 normalPath)

variable {p : Platform} {rowsAt : Tree → p.engine.Location → Rows} {vars : Variables}
  {a b c : Surroundings} {s : Settings} {l : p.engine.Location} {site : Site} {t u : Tree}
  {input database : String} {content : List UInt8} {fault : Fault} {found : Seed} {db : Database}

/-- The arguments that ask for a seed to be loaded. -/
def seedArguments (input database : String) : List String :=
  ["seed", "--input", input, "--db", database]

theorem ofArgument?_input :
    Word.ofArgument? (helpSwitches ++ programSwitches) "--input" = some .unknown :=
  ofArgument?_of_unlike rfl (by decide) (by decide +kernel) (by decide +kernel) (by simp) rfl
    (by simp [helpSwitches, programSwitches, shortHelp, levelSwitch])

theorem ofArgument?_inputSwitch : Word.ofArgument? (helpSwitches ++ seedSwitches) "--input" =
    some (.switch inputSwitch none) := by
  cbv

theorem ofArgument?_databaseSwitch : Word.ofArgument? (helpSwitches ++ seedSwitches) "--db" =
    some (.switch databaseSwitch none) := by
  cbv

theorem readArguments_seed (hinput : IsPlain input) (hdatabase : IsPlain database) :
    readArguments seedSwitches false ["--input", input, "--db", database] =
      .ok ⟨[("--input", some input), ("--db", some database)], false, none⟩ := by
  simp only [readArguments, wordsOf?, ofArgument?_inputSwitch, ofArgument?_databaseSwitch,
    ofArgument?_of_isPlain hinput, ofArgument?_of_isPlain hdatabase]
  rfl

theorem read_seedArguments (hinput : IsPlain input) (hdatabase : IsPlain database) :
    Invocation.read (seedArguments input database) =
      .ok ⟨false, none, some (.seed ⟨some input, some database⟩)⟩ := by
  have hrest : ∀ arg ∈ ["--input", input, "--db", database],
      Word.ofArgument? (helpSwitches ++ programSwitches) arg ≠ none := by
    simp [ofArgument?_input, ofArgument?_db, ofArgument?_of_isPlain hinput,
      ofArgument?_of_isPlain hdatabase]
  rw [Invocation.read, seedArguments, readArguments_command rfl hrest]
  simp only [Except.mapError, bind, Except.bind, Task.read, SeedOptions.read, readAll,
    readArguments_seed hinput hdatabase]
  rfl

/-! What is read of a seed. -/

/-- The places at which a seed is read. -/
def seedSites : List Site := [.trial, .loading, .seeding]

/-- The bytes of a seed that all loaders treat alike: there is room for its brackets with all of
them or with none, its texts can be encoded, and so can the note that tells of it. -/
structure Loadable (p : Platform) (input : String) (content : List UInt8) : Prop where
  room : (∀ site ∈ seedSites, FitsIn (p.codec site) content) ∨
    ∀ site ∈ seedSites, ¬FitsIn (p.codec site) content
  encodable {found : Seed} (h : readSeed (p.codec .trial) input (.bytes content) = .ok found) :
    IsEncodable p.standins found
  told {found : Seed} (h : readSeed (p.codec .trial) input (.bytes content) = .ok found) :
    (loadedNote input (.ofSeed found)).error? (p.codec .notes) = none

/-- All loaders read the same seed, or none of them reads any. -/
theorem Loadable.readSeed_cases (h : Loadable p input content) :
    (∃ found, ∀ site ∈ seedSites, readSeed (p.codec site) input (.bytes content) = .ok found) ∨
      ∀ site ∈ seedSites, ∃ fault,
        readSeed (p.codec site) input (.bytes content) = .error fault := by
  rcases h.room with hroom | hnone
  · have hsame : ∀ site ∈ seedSites, readSeed (p.codec site) input (.bytes content) =
        readSeed (p.codec .trial) input (.bytes content) := by
      intro site hsite
      have hparse : Json.parseBytes (p.codec site) content =
          Json.parseBytes (p.codec .trial) content :=
        Json.parseBytes_eq_of_fitsIn (hroom site hsite) (hroom .trial (by decide))
      simp only [readSeed, Json.File.read, hparse]
    cases hread : readSeed (p.codec .trial) input (.bytes content) with
    | ok found => exact .inl ⟨found, fun site hsite => (hsame site hsite).trans hread⟩
    | error fault => exact .inr fun site hsite => ⟨fault, (hsame site hsite).trans hread⟩
  · right
    intro site hsite
    obtain ⟨bracket, hdeep⟩ : ∃ bracket,
        Json.parseBytes (p.codec site) content = .error (.json (.tooDeep bracket)) := by
      simpa [FitsIn] using hnone site hsite
    exact ⟨_, Directory.readSeed_eq_surprise_iff.mpr (.nested ⟨content, rfl, hdeep⟩)⟩

/-! A database that can be loaded into. -/

/-- A seed and a place for a database: the tables of the database can be made there and the seed is
as it was, and who connects then finds a directory that may be changed. -/
structure Ready (p : Platform) (input database : String) (content : List UInt8)
    (l : p.engine.Location) (t : Tree) : Prop where
  seed : t.file p.engine input = .bytes content
  prepared : ∃ made, p.engine.prepareDatabase t database = (made, .ok l) ∧
    made.file p.engine input = .bytes content ∧
      ∃ db, p.engine.found l made = .database db false ∧ db.IsDirectory

theorem Ready.has_eq (h : Ready p input database content l t) : t.has input = .ok true := by
  have hseed := h.seed
  rw [Tree.has_eq_true_iff]
  unfold Tree.file at hseed
  cases hfound : t.find (encodeUtf8 input) with
  | ok n => exact ⟨n, rfl⟩
  | error obstacle =>
    rw [hfound] at hseed
    cases hseed

/-- A seed that is not read leaves the rows as they were. -/
theorem Ready.loadSeed_of_error (hlaws : p.engine.Lawful rowsAt)
    (h : Ready p input database content l a.disk)
    (hread : readSeed (p.codec site) input (.bytes content) = .error fault) :
    (loadSeed p site input database a).result = .error fault ∧
      rowsAt (loadSeed p site input database a).after.disk l = rowsAt a.disk l := by
  obtain ⟨made, hprepared, hseed, -⟩ := h.prepared
  have hload : loadSeed p site input database a = .failed fault { a with disk := made } := by
    simp only [loadSeed, hprepared, hseed, hread]
  rw [hload]
  exact ⟨rfl, hlaws.rowsAt_prepareDatabase hprepared⟩

theorem entries_rows (db : Database) : db.rows.entries = db.entries := by
  simp [Database.rows, Rows.entries, Database.entries, Database.datedAccounts,
    Database.datedConnections, Database.membershipRows, Function.comp_def]

theorem tellLoaded_eq (h : (loadedNote input (.ofSeed found)).error? (p.codec .notes) = none) :
    tellLoaded p input (.ofSeed found) a =
      ⟨.ok (.ofSeed found), a.printed (p.codec .notes) [loadedNote input (.ofSeed found)],
        a.note (p.codec .notes) [loadedNote input (.ofSeed found)]⟩ := by
  have hnotes : Log.unwritable? (p.codec .notes) [loadedNote input (.ofSeed found)] = none := by
    simp [Log.unwritable?, h]
  simp only [tellLoaded, hnotes]

theorem disk_note (codec : Json.Codec) (a : Surroundings) (notes : List Log.Note) :
    (a.note codec notes).disk = a.disk := by
  unfold Surroundings.note
  split <;> rfl

/-- A seed that is read is written over the rows. -/
theorem Ready.loadSeed_of_ok (hlaws : p.engine.Lawful rowsAt)
    (h : Ready p input database content l a.disk)
    (hread : readSeed (p.codec site) input (.bytes content) = .ok found)
    (hencodable : IsEncodable p.standins found)
    (htold : (loadedNote input (.ofSeed found)).error? (p.codec .notes) = none) :
    (loadSeed p site input database a).result = .ok (.ofSeed found) ∧
      (rowsAt (loadSeed p site input database a).after.disk l).entries =
        writtenOver (rowsAt a.disk l).entries found := by
  obtain ⟨made, hprepared, hseed, db, hdb, hdirectory⟩ := h.prepared
  have hrows : db.entries = (rowsAt a.disk l).entries := by
    rw [← entries_rows, hlaws.found hdb, hlaws.rowsAt_prepareDatabase hprepared]
  have hload : loadSeed p site input database a =
      writeFound p input l found { a with disk := made } := by
    simp only [loadSeed, hprepared, hseed, hread]
  have hwrite : Directory.writeSeed p.standins a.times db false found =
      .ok (db.withSeed a.times found) := by
    rw [Directory.writeSeed_of_isEncodable hencodable,
      Database.write_eq_withSeed hdirectory]
    rfl
  have htables : db ≠ .bare := by
    rintro rfl
    obtain ⟨rows, hrows, -⟩ := hdirectory.accounts
    cases hrows
  rw [hload, ← hrows, ← Database.entries_withSeed a.times]
  by_cases hnone : Directory.stepsOf a.times found = []
  · have hsame : db.withSeed a.times found = db := by
      rw [Directory.writeSeed, hnone] at hwrite
      exact (Except.ok.inj hwrite).symm
    simp only [writeFound, hnone, List.isEmpty_nil, if_true, tellLoaded_eq htold, disk_note, hsame]
    refine ⟨trivial, ?_⟩
    rw [hrows, hlaws.rowsAt_prepareDatabase hprepared]
  · have hsome : (Directory.stepsOf a.times found).isEmpty = false := by simpa using hnone
    have hstored : (p.engine.connect l made).2 = .database db false := hdb
    simp only [writeFound, hsome, Bool.false_eq_true, if_false, hstored,
      Directory.Stored.answering, Directory.Stored.isSealed, hwrite, tellLoaded_eq htold, disk_note]
    refine ⟨trivial, ?_⟩
    rw [hlaws.changed hdb htables, entries_rows]

/-! The three loaders. -/

theorem ending_unreadReport_ne (fault : Fault) : (unreadReport fault).ending ≠ .done := by
  unfold unreadReport
  split <;> exact nofun

theorem ending_loadedReport_ne (fault : Fault) : (loadedReport (.error fault)).ending ≠ .done := by
  cases fault <;> exact nofun

/-- What a loader tells before all else. -/
def heading (input : String) : String :=
  s!"Loading seed from {input}...\n"

/-- A seed that cannot be read is loaded into nothing. -/
theorem loadStepwise_of_error
    (h : readSeed (p.codec .trial) input (a.disk.file p.engine input) = .error fault)
    (database : String) (dryRun : Bool) :
    (loadStepwise p input (some database) dryRun a).1.ending ≠ .done ∧
      (loadStepwise p input (some database) dryRun a).2 = a := by
  unfold loadStepwise
  rw [h]
  exact ⟨ending_unreadReport_ne fault, rfl⟩

theorem loadStepwise_of_ok
    (h : readSeed (p.codec .trial) input (a.disk.file p.engine input) = .ok found)
    (database : String) :
    loadStepwise p input (some database) true a =
        (.done (heading input ++ foundText (.ofSeed found) ++ trialText found.accounts), a) ∧
      loadStepwise p input (some database) false a =
        ((((completeReport (loadSeed p .loading input database a).result).after
            (loadSeed p .loading input database a).printed).after
              (loadingText (some database))).after (heading input ++ foundText (.ofSeed found)),
          (loadSeed p .loading input database a).after) := by
  unfold loadStepwise
  rw [h]
  exact ⟨rfl, rfl⟩

theorem console_of_openJournal {directory : String} {level : Log.Level}
    (h : a.openJournal directory level = (b, .ok ())) : b.console = none := by
  unfold Surroundings.openJournal at h
  split at h
  · cases h
  · split at h
    · cases h
    · cases h
      rfl

/-- Without a console nothing is printed of notes. -/
theorem printed_loadSeed (h : a.console = none) :
    (loadSeed p site input database a).printed = "" := by
  have htold (counts : Counts) {a : Surroundings} (h : a.console = none) :
      (tellLoaded p input counts a).printed = "" := by
    unfold tellLoaded
    dsimp only
    split
    · rfl
    · simp [Surroundings.printed, h]
  unfold loadSeed
  split
  · rfl
  · dsimp only
    split
    · rfl
    · unfold writeFound
      split
      · exact htold _ h
      · dsimp only
        split
        · rfl
        · split
          · rfl
          · exact htold _ h

/-- The command with its settings read and its journal open loads a seed that is there. -/
theorem run_seedArguments {rawInput rawDatabase : String} (hinput : IsPlain rawInput)
    (hdatabase : IsPlain rawDatabase) (hs : settingsAround p vars a = .ok s)
    (hopen : a.openJournal s.logDirectory s.logLevel = (b, .ok ()))
    (hhas : b.disk.has (normalPath rawInput) = .ok true) :
    run p (seedArguments rawInput rawDatabase) vars a =
      (loadedReport (loadSeed p .seeding (normalPath rawInput)
          (databasePath (some rawDatabase) s) b).result,
        (loadSeed p .seeding (normalPath rawInput)
          (databasePath (some rawDatabase) s) b).after) := by
  have hlevel : Invocation.level ⟨false, none, some (.seed ⟨some rawInput, some rawDatabase⟩)⟩ s =
      .ok s.logLevel := rfl
  simp only [run, hs, read_seedArguments hinput hdatabase]
  rw [run_of_task rfl rfl hlevel hopen]
  simp only [Task.run, seed, Option.map_some, hhas, printed_loadSeed (console_of_openJournal hopen),
    Report.after, String.empty_append]

/-- A trial run, the loading of a seed step by step, and the command that loads it, on the same
files. Where the command has its settings and its journal, where all loaders treat the seed alike,
and where the tables of the database can be made and a directory that may be changed is found behind
them, the trial run ends well just if the loading step by step does, and that just if the command
does. Then the two leave the same rows, but for when these were added, and both tell the counts that
the trial run tells. If they do not end well, no row is changed. A trial run never changes
anything. -/
theorem trial_agrees {rawInput rawDatabase : String} (hlaws : p.engine.Lawful rowsAt)
    (hinput : IsPlain rawInput) (hdatabase : IsPlain rawDatabase) (hfiles : c.disk = a.disk)
    (hs : settingsAround p vars c = .ok s)
    (hopen : c.openJournal s.logDirectory s.logLevel = (b, .ok ()))
    (hseed : Loadable p (normalPath rawInput) content)
    (hready : Ready p (normalPath rawInput) (databasePath (some rawDatabase) s) content l a.disk)
    (hopened :
      Ready p (normalPath rawInput) (databasePath (some rawDatabase) s) content l b.disk) :
    let input := normalPath rawInput
    let database := databasePath (some rawDatabase) s
    let trial := loadStepwise p input (some database) true a
    let script := loadStepwise p input (some database) false a
    let command := run p (seedArguments rawInput rawDatabase) vars c
    (trial.1.ending = .done ↔ script.1.ending = .done) ∧
    (script.1.ending = .done ↔ command.1.ending = .done) ∧
    (trial.1.ending = .done →
      (rowsAt script.2.disk l).entries = (rowsAt command.2.disk l).entries ∧
      ∃ found : Seed, readSeed (p.codec .trial) input (.bytes content) = .ok found ∧
        trial.1.output = heading input ++ foundText (.ofSeed found) ++ trialText found.accounts ∧
        script.1.output = heading input ++ foundText (.ofSeed found) ++
          (loadingText (some database) ++
            ((loadSeed p .loading input database a).printed ++ completeText (.ofSeed found))) ∧
        command.1 = loadedReport (.ok (.ofSeed found))) ∧
    (trial.1.ending ≠ .done →
      rowsAt script.2.disk l = rowsAt a.disk l ∧ rowsAt command.2.disk l = rowsAt a.disk l) ∧
    trial.2 = a := by
  intro input database trial script command
  have hcommand : command = (loadedReport (loadSeed p .seeding input database b).result,
      (loadSeed p .seeding input database b).after) :=
    run_seedArguments hinput hdatabase hs hopen hopened.has_eq
  have hrows : rowsAt b.disk l = rowsAt a.disk l :=
    hlaws.made l (hfiles ▸ extends_openJournal hopen)
  rcases hseed.readSeed_cases with ⟨found, hread⟩ | hunread
  · have hfound := hread .trial (by decide)
    have hencodable := hseed.encodable hfound
    have htold := hseed.told hfound
    obtain ⟨hloaded, hleft⟩ :=
      hready.loadSeed_of_ok hlaws (hread .loading (by decide)) hencodable htold
    obtain ⟨hcounts, hkept⟩ :=
      hopened.loadSeed_of_ok hlaws (hread .seeding (by decide)) hencodable htold
    obtain ⟨htrial, hscript⟩ : trial = _ ∧ script = _ :=
      loadStepwise_of_ok (hready.seed ▸ hfound) database
    rw [hloaded] at hscript
    rw [hcounts] at hcommand
    rw [htrial, hscript, hcommand]
    refine ⟨iff_of_true rfl rfl, iff_of_true rfl rfl, ?_, fun hfailed => absurd rfl hfailed, rfl⟩
    intro _
    exact ⟨by rw [hleft, hkept, hrows], found, hfound, rfl, rfl, rfl⟩
  · obtain ⟨fault, hfault⟩ := hunread .trial (by decide)
    obtain ⟨later, hlater⟩ := hunread .seeding (by decide)
    obtain ⟨htrial, hsame⟩ : trial.1.ending ≠ .done ∧ trial.2 = a :=
      loadStepwise_of_error (hready.seed ▸ hfault) database true
    obtain ⟨hscript, hnothing⟩ : script.1.ending ≠ .done ∧ script.2 = a :=
      loadStepwise_of_error (hready.seed ▸ hfault) database false
    obtain ⟨hresult, hleft⟩ := hopened.loadSeed_of_error hlaws hlater
    have hrefused : command.1.ending ≠ .done := by
      rw [hcommand, hresult]
      exact ending_loadedReport_ne later
    refine ⟨iff_of_false htrial hscript, iff_of_false hscript hrefused,
      fun hdone => absurd hdone htrial, ?_, hsame⟩
    intro _
    rw [hnothing, hcommand]
    exact ⟨rfl, hleft.trans hrows⟩

/-! A seed of Dan. -/

/-- The bytes of a seed. -/
def bytesOf (v : Value) : List UInt8 :=
  encodeUtf8 (v.toJson .plain)

/-- A disk with a seed on it. -/
def seedDisk (content : List UInt8) : Tree :=
  ⟨[([encodeUtf8 "seed.json"], .bytes content)], []⟩

/-- A seed of Dan, and nothing else. -/
def danAround (time : Nat) : Surroundings :=
  .start (seedDisk (bytesOf Directory.danSeed)) [] .keep (.constant time)

theorem parseBytes_danSeed :
    Json.parseBytes .ample (bytesOf Directory.danSeed) = .ok Directory.danSeed :=
  Json.parseBytes_of_read Directory.read_danSeed

theorem readSeed_danSeed (input : String) :
    readSeed .ample input (.bytes (bytesOf Directory.danSeed)) =
      .ok (Directory.seedIn Directory.danSeed) :=
  Directory.readSeed_of_validate (Json.read_of_parseBytes parseBytes_danSeed) rfl

theorem loadable_danSeed : Loadable filePlatform "seed.json" (bytesOf Directory.danSeed) where
  room := by
    left
    intro site _ bracket hdeep
    have hparse : Json.parseBytes (filePlatform.codec site) (bytesOf Directory.danSeed) =
        .ok Directory.danSeed := parseBytes_danSeed
    rw [hparse] at hdeep
    cases hdeep
  encodable h := by
    cases (readSeed_danSeed "seed.json").symm.trans h
    constructor <;> decide
  told h := by
    cases (readSeed_danSeed "seed.json").symm.trans h
    apply Log.error?_eq_none (by decide)
    intro f hf
    simp [loadedNote, Counts.entries] at hf
    rcases hf with rfl | rfl | rfl
    all_goals exact .int (by decide)

theorem locate_plain : filePlatform.engine.locate "d.db" = .ok (.ofName "d.db") :=
  locate_of_plain (by decide +kernel) (by simp)

theorem isDirectory_fresh : Database.fresh.IsDirectory :=
  ⟨⟨[], rfl, List.nodup_nil⟩, ⟨[], rfl, List.nodup_nil⟩, ⟨[], rfl, List.nodup_nil⟩⟩

theorem ready_seedDisk (content : List UInt8) :
    Ready filePlatform "seed.json" "d.db" content (.ofName "d.db") (seedDisk content) where
  seed := rfl
  prepared := by
    simp only [Disk.Engine.prepareDatabase, locate_plain]
    exact ⟨_, rfl, rfl, .fresh, rfl, isDirectory_fresh⟩

theorem openJournal_danAround (time : Nat) :
    ∃ b, (danAround time).openJournal "logs" .info = (b, .ok ()) ∧
      Ready filePlatform "seed.json" "d.db" (bytesOf Directory.danSeed) (.ofName "d.db")
        b.disk := by
  refine ⟨_, rfl, rfl, ?_⟩
  simp only [Disk.Engine.prepareDatabase, locate_plain]
  exact ⟨_, rfl, rfl, .fresh, rfl, isDirectory_fresh⟩

/-- Where there is no database yet, Dan is loaded both ways as the trial run tells, each time at its
own time. -/
theorem trial_agrees_danAround :
    (loadStepwise filePlatform "seed.json" (some "d.db") true (danAround 3)).1.ending = .done ∧
    (loadStepwise filePlatform "seed.json" (some "d.db") false (danAround 3)).1.ending = .done ∧
    (run filePlatform (seedArguments "seed.json" "d.db") [] (danAround 7)).1.ending = .done ∧
    ((loadStepwise filePlatform "seed.json" (some "d.db") false (danAround 3)).2.disk.rowsAt
        (.ofName "d.db")).entries =
      ((run filePlatform (seedArguments "seed.json" "d.db") [] (danAround 7)).2.disk.rowsAt
        (.ofName "d.db")).entries := by
  obtain ⟨b, hopen, hopened⟩ := openJournal_danAround 7
  have hinput : normalPath "seed.json" = "seed.json" := by decide +kernel
  have hdatabase : databasePath (some "d.db") .standard = "d.db" := by decide +kernel
  have hseed : Loadable filePlatform (normalPath "seed.json") (bytesOf Directory.danSeed) :=
    hinput.symm ▸ loadable_danSeed
  have hready := ready_seedDisk (bytesOf Directory.danSeed)
  rw [← hinput, ← hdatabase] at hready hopened
  have hplainInput : IsPlain "seed.json" := by simp [IsPlain]
  have hplainDatabase : IsPlain "d.db" := by simp [IsPlain]
  have hfiles : (danAround 7).disk = (danAround 3).disk := rfl
  have hsettings : settingsAround filePlatform [] (danAround 7) = .ok .standard := rfl
  obtain ⟨hscript, hcommand, hrows, -⟩ := trial_agrees (Disk.lawful_fileEngine _ _) hplainInput
    hplainDatabase hfiles hsettings hopen hseed hready hopened
  rw [hinput, hdatabase] at hscript hcommand hrows
  have htrial : (loadStepwise filePlatform "seed.json" (some "d.db") true
      (danAround 3)).1.ending = .done := by
    have hread : readSeed (filePlatform.codec .trial) "seed.json"
        ((danAround 3).disk.file filePlatform.engine "seed.json") =
          .ok (Directory.seedIn Directory.danSeed) := readSeed_danSeed "seed.json"
    rw [(loadStepwise_of_ok hread "d.db").1]
    rfl
  exact ⟨htrial, hscript.mp htrial, hcommand.mp (hscript.mp htrial), (hrows htrial).1⟩

/-! Where a trial run misleads. -/

/-- A trial run ends well, and no loading does. -/
def Misleads (input database : String) (a : Surroundings) : Prop :=
  (loadStepwise filePlatform input (some database) true a).1.ending = .done ∧
    (loadStepwise filePlatform input (some database) false a).1.ending ≠ .done ∧
    (run filePlatform (seedArguments input database) [] a).1.ending ≠ .done

/-- On a disk the tables of a database can be made, and a seed is then not loaded into what is found
there. -/
def Fails (input database : String) (disk : Tree) : Prop :=
  ∃ t l db isSealed fault, filePlatform.engine.prepareDatabase disk database = (t, .ok l) ∧
    filePlatform.engine.found l t = .database db isSealed ∧
    Directory.load .ample (.constant 0) input (t.file filePlatform.engine input) db isSealed =
      .error fault

theorem loadSeed_of_fails (h : Fails input database a.disk) (htimes : a.times = .constant 0)
    (site : Site) :
    ∃ fault, (loadSeed filePlatform site input database a).result = .error fault := by
  obtain ⟨t, l, db, isSealed, fault, hprepared, hfound, hload⟩ := h
  have hcodec : filePlatform.codec site = .ample := rfl
  refine ⟨fault, ?_⟩
  unfold Directory.load at hload
  cases hread : readSeed .ample input (t.file filePlatform.engine input) with
  | error e =>
    rw [hread] at hload
    cases hload
    simp only [loadSeed, hprepared, hcodec, hread]
    rfl
  | ok found =>
    simp only [hread] at hload
    simp only [loadSeed, hprepared, hcodec, hread]
    cases hwrite :
        Directory.writeSeed Json.Codec.ample.standins (.constant 0) db isSealed found with
    | ok after =>
      rw [hwrite] at hload
      cases hload
    | error failure =>
      rw [hwrite] at hload
      cases hload
      have hsome : Directory.stepsOf (.constant 0) found ≠ [] := by
        intro hnone
        rw [Directory.writeSeed, hnone] at hwrite
        cases hwrite
      have hstandins : filePlatform.standins = Json.Codec.ample.standins := rfl
      simp only [result_writeFound, htimes, hsome, if_false, hfound, Directory.Stored.answering,
        Directory.Stored.isSealed, hstandins, hwrite]

theorem misleads_of_fails (hinput : IsPlain input) (hdatabase : IsPlain database)
    (hnormal : normalPath input = input) (hpath : databasePath (some database) .standard = database)
    (hsettings : settingsAround filePlatform [] a = .ok .standard)
    (hopen : a.openJournal "logs" .info = (b, .ok ())) (hhas : b.disk.has input = .ok true)
    (hread : readSeed .ample input (a.disk.file filePlatform.engine input) = .ok found)
    (htimes : a.times = .constant 0) (htimes' : b.times = .constant 0)
    (h : Fails input database a.disk) (h' : Fails input database b.disk) :
    Misleads input database a := by
  obtain ⟨fault, hscript⟩ := loadSeed_of_fails h htimes .loading
  obtain ⟨later, hcommand⟩ := loadSeed_of_fails h' htimes' .seeding
  have hread' : readSeed (filePlatform.codec .trial) input
      (a.disk.file filePlatform.engine input) = .ok found := hread
  obtain ⟨htrial, hloading⟩ := loadStepwise_of_ok hread' database
  have hrun := run_seedArguments hinput hdatabase hsettings hopen (hnormal.symm ▸ hhas)
  rw [hnormal, hpath, hcommand] at hrun
  rw [hscript] at hloading
  refine ⟨by rw [htrial]; rfl, ?_, ?_⟩
  · rw [hloading]
    cases fault <;> exact nofun
  · rw [hrun]
    exact ending_loadedReport_ne later

/-- A disk after a journal is opened on it. -/
def opened (a : Surroundings) : Surroundings :=
  (a.openJournal "logs" .info).1

/-- A seed without entries, under the name that a journal of the database would have. -/
def journalAround : Surroundings :=
  .start ⟨[([encodeUtf8 "d.db-journal"], .bytes (bytesOf (.obj [])))], []⟩ [] .keep (.constant 0)

/-- A seed of Dan, and a directory without him. -/
def emptyAround : Surroundings :=
  .start ⟨[([encodeUtf8 "seed.json"], .bytes (bytesOf Directory.danSeed)),
    ([encodeUtf8 "d.db"], .database .fresh)], []⟩ [] .keep (.constant 0)

/-- A seed with a lone surrogate in it. -/
def tornAround : Surroundings :=
  .start (seedDisk (encodeUtf8 Directory.tornText)) [] .keep (.constant 0)

theorem fails_journal : Fails "d.db-journal" "d.db" journalAround.disk ∧
    Fails "d.db-journal" "d.db" (opened journalAround).disk := by
  unfold Fails
  simp only [Disk.Engine.prepareDatabase, locate_plain]
  exact ⟨⟨_, _, .fresh, false, .surprise (.pathMissing "d.db-journal"), rfl, rfl, rfl⟩,
    ⟨_, _, .fresh, false, .surprise (.pathMissing "d.db-journal"), rfl, rfl, rfl⟩⟩

theorem misleads_journal : Misleads "d.db-journal" "d.db" journalAround := by
  have hread : Json.parseBytes .ample (bytesOf (.obj [])) = .ok (.obj []) :=
    Json.parseBytes_of_read (Json.read_ofValue (.obj (by decide) (by simp)) "d.db-journal")
  have hseed : readSeed .ample "d.db-journal" (.bytes (bytesOf (.obj []))) =
      .ok (Directory.seedIn (.obj [])) :=
    Directory.readSeed_of_validate (Json.read_of_parseBytes hread) rfl
  obtain ⟨hfails, hlater⟩ := fails_journal
  exact misleads_of_fails (by simp [IsPlain]) (by simp [IsPlain]) (by decide +kernel)
    (by decide +kernel) rfl rfl rfl hseed rfl rfl hfails hlater

/-- A database in memory is gone with the connection that its tables are made by. -/
theorem fails_memory : Fails "seed.json" ":memory:" (danAround 0).disk ∧
    Fails "seed.json" ":memory:" (opened (danAround 0)).disk := by
  have hlocate : filePlatform.engine.locate ":memory:" = .ok (.ofName ":memory:") :=
    locate_of_plain (by decide +kernel) (by simp)
  have hload : Directory.load .ample (.constant 0) "seed.json"
      (.bytes (bytesOf Directory.danSeed)) .bare false =
        .error (.outage (.seedNotLoaded "seed.json" false)) := by
    rw [Directory.load, readSeed_danSeed]
    rfl
  unfold Fails
  simp only [Disk.Engine.prepareDatabase, hlocate]
  exact ⟨⟨_, _, .bare, false, _, rfl, rfl, hload⟩, ⟨_, _, .bare, false, _, rfl, rfl, hload⟩⟩

/-- A use of a file that is only read. -/
def readOnlyUse : Directory.FileUse :=
  ⟨.system, .readOnly, false, false, none⟩

def readOnlyPath : String := "file:d.db?mode=ro&uri=true"

theorem locate_readOnly :
    filePlatform.engine.locate readOnlyPath = .ok (.file (encodeUtf8 "d.db") readOnlyUse) := by
  have haddress : Directory.Address.ofText readOnlyPath =
      ⟨"file:d.db", [("mode", "ro"), ("uri", "true")]⟩ := by decide +kernel
  have htarget : (⟨"file:d.db", [("mode", "ro"), ("uri", "true")]⟩ : Directory.Address).target =
      "file:d.db?mode=ro" := by decide +kernel
  have hresource :
      (⟨"file:d.db", [("mode", "ro"), ("uri", "true")]⟩ : Directory.Address).isResource = true := by
    decide +kernel
  have herror : (⟨"file:d.db", [("mode", "ro"), ("uri", "true")]⟩ :
      Directory.Address).connectionError? = none := by
    simp [Directory.Address.connectionError?, Directory.Address.values, htarget]
  have hlocation : Directory.Location.ofText 511 "file:d.db?mode=ro" =
      .file (encodeUtf8 "d.db") readOnlyUse := by decide +kernel
  have hlocate : (⟨"file:d.db", [("mode", "ro"), ("uri", "true")]⟩ :
      Directory.Address).locate 511 = .ok (.file (encodeUtf8 "d.db") readOnlyUse) := by
    rw [Directory.Address.locate, herror]
    simp only [hresource, htarget, hlocation, if_true]
    rfl
  show ((Directory.Address.ofText readOnlyPath).locate 511).mapError _ = _
  rw [haddress, hlocate]
  rfl

/-- A database that is only read takes no entries. -/
theorem fails_readOnly : Fails "seed.json" readOnlyPath emptyAround.disk ∧
    Fails "seed.json" readOnlyPath (opened emptyAround).disk := by
  have hload : Directory.load .ample (.constant 0) "seed.json"
      (.bytes (bytesOf Directory.danSeed)) .fresh true =
        .error (.outage (.seedNotLoaded "seed.json" false)) := by
    rw [Directory.load, readSeed_danSeed]
    rfl
  unfold Fails
  simp only [Disk.Engine.prepareDatabase, locate_readOnly]
  exact ⟨⟨_, _, .fresh, true, _, rfl, rfl, hload⟩, ⟨_, _, .fresh, true, _, rfl, rfl, hload⟩⟩

/-- Nothing is looked up by half of a pair. -/
theorem fails_torn : Fails "seed.json" "d.db" tornAround.disk ∧
    Fails "seed.json" "d.db" (opened tornAround).disk := by
  have hload : Directory.load .ample (.constant 0) "seed.json"
      (.bytes (encodeUtf8 Directory.tornText)) .fresh false =
        .error (.surprise (.unencodable ⟨0xD800, 0, 1⟩)) := by
    rw [Directory.load, Directory.readSeed_tornText]
    rfl
  unfold Fails
  simp only [Disk.Engine.prepareDatabase, locate_plain]
  exact ⟨⟨_, _, .fresh, false, _, rfl, rfl, hload⟩, ⟨_, _, .fresh, false, _, rfl, rfl, hload⟩⟩

/-- A path that starts like a switch. -/
def hyphenPath : String := "-x.db"

theorem ofArgument?_hyphenPath {switches : List Switch}
    (h : switches.find? (·.name == hyphenPath) = none) :
    Word.ofArgument? switches hyphenPath = some .unknown := by
  have hlist : hyphenPath.toList = ['-', 'x', '.', 'd', 'b'] := rfl
  have hsplit : splitAttached hyphenPath = (hyphenPath, none) := by decide +kernel
  have hend : hyphenPath ≠ endOfSwitches := by decide
  have hshort : String.ofList ['-', 'x'] ≠ shortHelp := by decide
  have hsecond : 'x' ≠ '-' := by decide
  have hword : unswitched hyphenPath = .unknown := by
    have hnumber : isNegativeNumber hyphenPath.toList = false := by decide +kernel
    have hblank : hyphenPath.contains ' ' = false := by simp [hyphenPath]
    simp only [unswitched, hnumber, hblank]
    rfl
  simp only [Word.ofArgument?, hlist, hend, if_false, h, hsplit, hsecond, hshort, hword]

/-- Such a path is no value of a switch. -/
theorem read_hyphenPath :
    Invocation.read (seedArguments "seed.json" hyphenPath) = .error .misuse := by
  have hplain : IsPlain "seed.json" := by simp [IsPlain]
  have hprogram :
      Word.ofArgument? (helpSwitches ++ programSwitches) hyphenPath = some .unknown :=
    ofArgument?_hyphenPath rfl
  have hseed : Word.ofArgument? (helpSwitches ++ seedSwitches) hyphenPath = some .unknown :=
    ofArgument?_hyphenPath rfl
  have hrest : ∀ arg ∈ ["--input", "seed.json", "--db", hyphenPath],
      Word.ofArgument? (helpSwitches ++ programSwitches) arg ≠ none := by
    simp [ofArgument?_input, ofArgument?_db, ofArgument?_of_isPlain hplain, hprogram]
  have hunread : readArguments seedSwitches false ["--input", "seed.json", "--db", hyphenPath] =
      .error .misuse := by
    simp only [readArguments, wordsOf?, ofArgument?_inputSwitch, ofArgument?_databaseSwitch,
      ofArgument?_of_isPlain hplain, hseed]
    rfl
  rw [Invocation.read, seedArguments, readArguments_command rfl hrest]
  simp only [Except.mapError, bind, Except.bind, Task.read, SeedOptions.read, readAll, hunread]
  rfl

theorem ready_hyphenPath :
    Ready filePlatform "seed.json" hyphenPath (bytesOf Directory.danSeed) (.ofName hyphenPath)
      (danAround 0).disk where
  seed := rfl
  prepared := by
    have hlocate : filePlatform.engine.locate hyphenPath = .ok (.ofName hyphenPath) :=
      locate_of_plain (by decide +kernel) (by simp [hyphenPath])
    simp only [Disk.Engine.prepareDatabase, hlocate]
    exact ⟨_, rfl, rfl, .fresh, rfl, isDirectory_fresh⟩

/-- The loading step by step takes a path that the command takes for a switch. -/
theorem parts_hyphenPath :
    (loadStepwise filePlatform "seed.json" (some hyphenPath) false (danAround 0)).1.ending = .done ∧
      (run filePlatform (seedArguments "seed.json" hyphenPath) [] (danAround 0)).1.ending =
        .misused := by
  have hread (site : Site) : readSeed (filePlatform.codec site) "seed.json"
      (.bytes (bytesOf Directory.danSeed)) = .ok (Directory.seedIn Directory.danSeed) :=
    readSeed_danSeed "seed.json"
  have hfile : readSeed (filePlatform.codec .trial) "seed.json"
      ((danAround 0).disk.file filePlatform.engine "seed.json") =
        .ok (Directory.seedIn Directory.danSeed) := hread .trial
  obtain ⟨hloaded, -⟩ := ready_hyphenPath.loadSeed_of_ok (Disk.lawful_fileEngine _ _)
    (hread .loading) (loadable_danSeed.encodable (hread .trial))
    (loadable_danSeed.told (hread .trial))
  have hsettings : settingsAround filePlatform [] (danAround 0) = .ok .standard := rfl
  constructor
  · rw [(loadStepwise_of_ok hfile hyphenPath).2, hloaded]
    rfl
  · simp only [run, hsettings, read_hyphenPath]
    rfl

/-- A platform on which one place has other room for brackets than the others. -/
def narrowed (narrow : Site) (room : Nat) (h : narrow ≠ .feed) : Platform :=
  { filePlatform with
    room := Function.update filePlatform.room narrow room
    room_feed := by
      rw [Function.update_of_ne h.symm]
      exact filePlatform.room_feed }

theorem codec_narrowed {narrow site : Site} {room : Nat} {h : narrow ≠ .feed}
    (hsite : site ≠ narrow) : (narrowed narrow room h).codec site = .ample := by
  show (⟨_, Function.update filePlatform.room narrow room site, _⟩ : Json.Codec) = _
  rw [Function.update_of_ne hsite]
  rfl

theorem codec_narrowed_self {narrow : Site} {room : Nat} {h : narrow ≠ .feed} :
    (narrowed narrow room h).codec narrow = ⟨Text.maxDigits, room, .last⟩ := by
  show (⟨_, Function.update filePlatform.room narrow room narrow, _⟩ : Json.Codec) = _
  rw [Function.update_self]
  rfl

section

variable {narrow : Site} (room : Nat) (h : narrow ≠ .feed)

theorem readSeed_narrowed (hsite : site ≠ narrow) :
    readSeed ((narrowed narrow room h).codec site) "seed.json"
      (.bytes (bytesOf Directory.danSeed)) = .ok (Directory.seedIn Directory.danSeed) := by
  rw [codec_narrowed hsite]
  exact readSeed_danSeed "seed.json"

theorem ready_narrowed :
    Ready (narrowed narrow room h) "seed.json" "d.db" (bytesOf Directory.danSeed)
      (.ofName "d.db") (seedDisk (bytesOf Directory.danSeed)) where
  seed := (ready_seedDisk _).seed
  prepared := (ready_seedDisk _).prepared

theorem isEncodable_narrowed :
    IsEncodable (narrowed narrow room h).standins (Directory.seedIn Directory.danSeed) :=
  loadable_danSeed.encodable (readSeed_danSeed "seed.json")

end

theorem parseBytes_narrow :
    Json.parseBytes ⟨Text.maxDigits, 2, .last⟩ (bytesOf Directory.danSeed) =
      .error (.json (.tooDeep .object)) := by
  have hparse : Json.parse ⟨Text.maxDigits, 2, .last⟩ (Directory.danSeed.toJson .plain) =
      .error (.tooDeep .object) := by
    cbv
  rw [bytesOf, Json.parseBytes_toJson, hparse]
  rfl

/-- The command may lack the room that the loading step by step has. -/
theorem parts_narrow (h : Site.seeding ≠ .feed) :
    (loadStepwise (narrowed .seeding 2 h) "seed.json" (some "d.db") false
        (danAround 0)).1.ending = .done ∧
      (run (narrowed .seeding 2 h) (seedArguments "seed.json" "d.db") []
        (danAround 0)).1.ending ≠ .done := by
  have htold : (loadedNote "seed.json" (.ofSeed (Directory.seedIn Directory.danSeed))).error?
      ((narrowed .seeding 2 h).codec .notes) = none := by
    rw [codec_narrowed (by decide : Site.notes ≠ .seeding)]
    exact loadable_danSeed.told (readSeed_danSeed "seed.json")
  have hlaws := Disk.lawful_fileEngine ⟨511, 31, 15, 511⟩ fun _ => []
  obtain ⟨hloaded, -⟩ := Ready.loadSeed_of_ok (a := danAround 0) hlaws (ready_narrowed 2 h)
    (readSeed_narrowed 2 h (by decide : Site.loading ≠ .seeding)) (isEncodable_narrowed 2 h) htold
  constructor
  · have hread := readSeed_narrowed 2 h (by decide : Site.trial ≠ .seeding)
    rw [(loadStepwise_of_ok (a := danAround 0) hread "d.db").2, hloaded]
    rfl
  · have hinput : normalPath "seed.json" = "seed.json" := by decide +kernel
    have hdatabase : databasePath (some "d.db") .standard = "d.db" := by decide +kernel
    obtain ⟨b, hopen, hopened⟩ : ∃ b, (danAround 0).openJournal "logs" .info = (b, .ok ()) ∧
        Ready (narrowed .seeding 2 h) "seed.json" "d.db" (bytesOf Directory.danSeed)
          (.ofName "d.db") b.disk := by
      obtain ⟨b, hopen, hopened⟩ := openJournal_danAround 0
      exact ⟨b, hopen, hopened.seed, hopened.prepared⟩
    obtain ⟨fault, hdeep⟩ : ∃ fault, readSeed ((narrowed .seeding 2 h).codec .seeding) "seed.json"
        (.bytes (bytesOf Directory.danSeed)) = .error fault := by
      rw [codec_narrowed_self]
      exact ⟨_, Directory.readSeed_eq_surprise_iff.mpr (.nested ⟨_, rfl, parseBytes_narrow⟩)⟩
    have hplainInput : IsPlain "seed.json" := by simp [IsPlain]
    have hplainDatabase : IsPlain "d.db" := by simp [IsPlain]
    have hsettings : settingsAround (narrowed .seeding 2 h) [] (danAround 0) = .ok .standard := rfl
    have hrun := run_seedArguments hplainInput hplainDatabase hsettings hopen
      (hinput.symm ▸ hopened.has_eq)
    rw [hinput, hdatabase, (hopened.loadSeed_of_error hlaws hdeep).1] at hrun
    rw [hrun]
    exact ending_loadedReport_ne _

/-- A loading is not told of if there is no room for its note. -/
theorem untold_narrow (h : Site.notes ≠ .feed) :
    (loadStepwise (narrowed .notes 0 h) "seed.json" (some "d.db") true
        (danAround 0)).1.ending = .done ∧
      (loadStepwise (narrowed .notes 0 h) "seed.json" (some "d.db") false
        (danAround 0)).1.ending ≠ .done := by
  have hread := readSeed_narrowed 0 h (by decide : Site.trial ≠ .notes)
  obtain ⟨htrial, hscript⟩ := loadStepwise_of_ok (a := danAround 0) hread "d.db"
  constructor
  · rw [htrial]
    rfl
  · have huntold : (loadedNote "seed.json" (.ofSeed (Directory.seedIn Directory.danSeed))).error?
        ((narrowed .notes 0 h).codec .notes) = some .tooDeep := by
      rw [codec_narrowed_self]
      rfl
    obtain ⟨made, hprepared, hseed, db, hdb, hdirectory⟩ :=
      (ready_narrowed 0 h).prepared
    have hfile := readSeed_narrowed 0 h (by decide : Site.loading ≠ .notes)
    rw [← hseed] at hfile
    have hwritten : WritesAll (narrowed .notes 0 h) (.ofName "d.db")
        (Directory.seedIn Directory.danSeed) { danAround 0 with disk := made } := by
      refine .inr ⟨db, db.withSeed (.constant 0) (Directory.seedIn Directory.danSeed), ?_, ?_⟩
      · rw [hdb]
        rfl
      · rw [hdb, Directory.Stored.isSealed,
          Directory.writeSeed_of_isEncodable (isEncodable_narrowed 0 h),
          Database.write_eq_withSeed hdirectory]
        rfl
    have hloaded := loadSeed_eq_surprise_iff.mpr
      (LoadEscapes.unwritten hprepared hfile (.untold hwritten huntold))
    rw [hscript, hloaded]
    exact nofun

/-- A trial run misleads where the seed is taken for a journal of the database that is not there
yet, where the database is in memory, where it is only read, and where the seed has a lone surrogate
in it. The command parts with the loading step by step over a path that starts like a switch, and
where it has less room for brackets; and without room for its note no loading ends well. -/
theorem misleads_elsewhere :
    journalAround.disk.find (encodeUtf8 "d.db") = .error .missing ∧
      (∃ t l, filePlatform.engine.prepareDatabase journalAround.disk "d.db" = (t, .ok l)) ∧
      Misleads "d.db-journal" "d.db" journalAround ∧
      Misleads "seed.json" ":memory:" (danAround 0) ∧
      Misleads "seed.json" readOnlyPath emptyAround ∧
      Misleads "seed.json" "d.db" tornAround ∧
      ((loadStepwise filePlatform "seed.json" (some hyphenPath) false (danAround 0)).1.ending =
          .done ∧
        (run filePlatform (seedArguments "seed.json" hyphenPath) [] (danAround 0)).1.ending =
          .misused) ∧
      ((loadStepwise (narrowed .seeding 2 nofun) "seed.json" (some "d.db") false
          (danAround 0)).1.ending = .done ∧
        (run (narrowed .seeding 2 nofun) (seedArguments "seed.json" "d.db") []
          (danAround 0)).1.ending ≠ .done) ∧
      (loadStepwise (narrowed .notes 0 nofun) "seed.json" (some "d.db") true
          (danAround 0)).1.ending = .done ∧
        (loadStepwise (narrowed .notes 0 nofun) "seed.json" (some "d.db") false
          (danAround 0)).1.ending ≠ .done := by
  have hprepared : ∃ t l, filePlatform.engine.prepareDatabase journalAround.disk "d.db" =
      (t, .ok l) := by
    obtain ⟨⟨t, l, -, -, -, hprepared, -⟩, -⟩ := fails_journal
    exact ⟨t, l, hprepared⟩
  have hplain : IsPlain "seed.json" := by simp [IsPlain]
  have hinput : normalPath "seed.json" = "seed.json" := by decide +kernel
  have hmemory : Misleads "seed.json" ":memory:" (danAround 0) :=
    misleads_of_fails hplain (by simp [IsPlain]) hinput (by decide +kernel) rfl rfl rfl
      (readSeed_danSeed "seed.json") rfl rfl fails_memory.1 fails_memory.2
  have hreadOnly : Misleads "seed.json" readOnlyPath emptyAround :=
    misleads_of_fails hplain (by simp [IsPlain, readOnlyPath]) hinput (by decide +kernel) rfl rfl
      rfl (readSeed_danSeed "seed.json") rfl rfl fails_readOnly.1 fails_readOnly.2
  have htorn : Misleads "seed.json" "d.db" tornAround :=
    misleads_of_fails hplain (by simp [IsPlain]) hinput (by decide +kernel) rfl rfl rfl
      (Directory.readSeed_tornText "seed.json") rfl rfl fails_torn.1 fails_torn.2
  exact ⟨rfl, hprepared, misleads_journal, hmemory, hreadOnly, htorn, parts_hyphenPath,
    parts_narrow nofun, untold_narrow nofun⟩

end PeopleFeed.Command
