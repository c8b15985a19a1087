import PeopleFeed.Directory.Loading
import PeopleFeed.Proofs.Disk.Making

/-! What keeps a database from being opened and a seed from being read or written, where nobody
provides for it. Every such surprise is told just if its own reason holds. -/
namespace PeopleFeed

open PeopleFeed.Directory (Database Stored)

variable {codec : Json.Codec} {path : String} {file : Json.File} {bracket : Json.Bracket}
  {e : Surprise} {d : Denial} {stored : Stored} {db : Database} {isSealed : Bool}

namespace Json

/-- A file has more brackets inside of each other than its reader follows. -/
def File.NestsTooDeep (codec : Codec) (file : File) (bracket : Bracket) : Prop :=
  ∃ content, file = .bytes content ∧ parseBytes codec content = .error (.json (.tooDeep bracket))

theorem read_of_parseBytes {content : List UInt8} {v : Json.Value}
    (h : parseBytes codec content = .ok v) : (File.bytes content).read codec path = .ok v := by
  rw [File.read, h]
  rfl

theorem parseBytes_of_read {content : List UInt8} {v : Json.Value}
    (h : (File.bytes content).read codec path = .ok v) : parseBytes codec content = .ok v := by
  cases hparse : parseBytes codec content with
  | ok w =>
    rw [read_of_parseBytes hparse] at h
    cases h
    rfl
  | error flaw =>
    rw [File.read, hparse] at h
    cases h

theorem read_of_flaw {content : List UInt8} {flaw : ContentError}
    (h : parseBytes codec content = .error flaw) :
    (File.bytes content).read codec path = .error (.content flaw) := by
  rw [File.read, h]
  rfl

theorem read_eq_tooDeep_iff :
    file.read codec path = .error (.content (.json (.tooDeep bracket))) ↔
      file.NestsTooDeep codec bracket := by
  cases file with
  | missing | directory => simp [File.read, File.NestsTooDeep]
  | bytes content =>
    cases h : parseBytes codec content with
    | ok v => simp [read_of_parseBytes h, File.NestsTooDeep, h]
    | error flaw => simp [read_of_flaw h, File.NestsTooDeep, h]

end Json

namespace Directory

/-- A seed cannot be read, in a way that nobody provides for. -/
inductive Unread (codec : Json.Codec) (path : String) : Json.File → Surprise → Prop
  | missing : Unread codec path .missing (.pathMissing path)
  | directory : Unread codec path .directory (.pathIsDirectory path)
  | nested {file : Json.File} {bracket : Json.Bracket} (h : file.NestsTooDeep codec bracket) :
      Unread codec path file (.nestedTooDeep bracket)

/-- Reading a seed comes upon a surprise just if the seed cannot be read. -/
theorem readSeed_eq_surprise_iff :
    readSeed codec path file = .error (.surprise e) ↔ Unread codec path file e := by
  constructor
  · intro h
    cases file with
    | missing =>
      cases h
      exact .missing
    | directory =>
      cases h
      exact .directory
    | bytes content =>
      cases hparse : Json.parseBytes codec content with
      | ok v =>
        simp only [readSeed, Json.read_of_parseBytes hparse] at h
        split at h <;> cases h
      | error flaw =>
        unfold readSeed at h
        rw [Json.read_of_flaw hparse] at h
        rcases flaw with _ | (_ | _ | bracket)
        case json.tooDeep =>
          cases h
          exact .nested ⟨content, rfl, hparse⟩
        all_goals cases h
  · rintro (_ | _ | hnested)
    · rfl
    · rfl
    · simp only [readSeed, Json.read_eq_tooDeep_iff.mpr hnested]

section

variable {st : Text.Standins} {steps : List Step} {s : Surprise}

/-- Among entries that are to be written there is one that cannot be encoded. Those before it are
written, and its table is there. -/
structure Torn (st : Text.Standins) (isSealed : Bool) (db : Database) (steps : List Step)
    (error : Text.EncodeError) : Prop where
  exists_step : ∃ before step behind written, steps = before ++ step :: behind ∧
    writeSteps st isSealed db before = .ok written ∧ (step.change written).isSome ∧
      step.tear? st = some error

/-- Writing entries comes upon a surprise just if one cannot be encoded. -/
theorem writeSteps_eq_untranslated_iff :
    writeSteps st isSealed db steps = .error (.untranslated s) ↔
      ∃ error, s = .unencodable error ∧ Torn st isSealed db steps error := by
  induction steps generalizing db with
  | nil =>
    constructor
    · exact nofun
    · rintro ⟨error, -, ⟨before, step, behind, written, hsteps, -⟩⟩
      cases before <;> cases hsteps
  | cons step rest ih =>
    rw [writeSteps_cons_eq_untranslated_iff]
    constructor
    · rintro (⟨hthere, error, htear, rfl⟩ | ⟨changed, hwrites, hrest⟩)
      · exact ⟨error, rfl, ⟨[], step, rest, db, rfl, rfl, hthere, htear⟩⟩
      · obtain ⟨error, rfl, ⟨before, torn, behind, written, rfl, hbefore, hthere, htear⟩⟩ :=
          ih.mp hrest
        exact ⟨error, rfl, ⟨step :: before, torn, behind, written, rfl,
          writeSteps_cons_eq_ok_iff.mpr ⟨changed, hwrites, hbefore⟩, hthere, htear⟩⟩
    · rintro ⟨error, rfl, ⟨before, torn, behind, written, hsteps, hbefore, hthere, htear⟩⟩
      cases before with
      | nil =>
        cases hsteps
        cases hbefore
        exact .inl ⟨hthere, error, htear, rfl⟩
      | cons first before =>
        cases hsteps
        obtain ⟨changed, hwrites, hbefore⟩ := writeSteps_cons_eq_ok_iff.mp hbefore
        exact .inr ⟨changed, hwrites,
          ih.mpr ⟨error, rfl, ⟨before, torn, behind, written, rfl, hbefore, hthere, htear⟩⟩⟩

end

namespace Stored

/-- What is stored is no database that can be read. -/
inductive Unreadable : Stored → Surprise → Prop
  | unopenable : Unreadable .unopenable .statementRejected
  | garbage : Unreadable .garbage .notADatabase
  | barred (s : Surprise) : Unreadable (.barred s) s

/-- The accounts of what is stored cannot be listed: there is no database, or its table of accounts
is of no use. -/
inductive Unlisted : Stored → Surprise → Prop
  | unreadable {stored : Stored} {e : Surprise} (h : stored.Unreadable e) : Unlisted stored e
  | noAccounts {db : Database} (isSealed : Bool) (h : db.accounts.rows? = none) :
      Unlisted (.database db isSealed) .statementRejected

/-- The tables of what is stored cannot be made: there is no database, or it lacks tables and has
to stay as it is. -/
inductive Unmade : Stored → Surprise → Prop
  | unreadable {stored : Stored} {e : Surprise} (h : stored.Unreadable e) : Unmade stored e
  | lacking {db : Database} (h : db.createTables ≠ db) :
      Unmade (.database db true) .statementRejected

theorem answering_eq_error_iff :
    stored.answering = .error e ↔ stored = .barred e := by
  cases stored <;> simp [answering]

theorem prepare_eq_error_iff : stored.prepare = .error e ↔ stored.Unmade e := by
  constructor
  · intro h
    cases stored with
    | unopenable =>
      cases h
      exact .unreadable .unopenable
    | garbage =>
      cases h
      exact .unreadable .garbage
    | barred s =>
      cases h
      exact .unreadable (.barred _)
    | database db isSealed =>
      simp only [prepare] at h
      split at h
      · rename_i hlacks
        cases h
        simp only [Bool.and_eq_true, bne_iff_ne] at hlacks
        obtain ⟨rfl, hlacks⟩ := hlacks
        exact .lacking hlacks
      · cases h
  · rintro (⟨_ | _ | _⟩ | hlacks)
    case lacking => simp [prepare, hlacks]
    all_goals rfl

end Stored

end Directory

namespace Disk

variable {engine : Engine} {t t' : Tree} {l : engine.Location}

theorem Tree.has_eq_error_iff :
    t.has path = .error e ↔
      t.find (Text.encodeUtf8 path) = .error .tooLong ∧ e = .pathTooLong path := by
  unfold Tree.has
  split
  · rename_i hfound
    simp [hfound]
  · rename_i hfound
    simp [hfound, eq_comm]
  · rename_i hother hfound
    simp [hfound, show _ ≠ Obstacle.tooLong from hother]

theorem Tree.has_eq_true_iff :
    t.has path = .ok true ↔ ∃ n, t.find (Text.encodeUtf8 path) = .ok n := by
  unfold Tree.has
  split <;> rename_i hfound <;> simp [hfound]

namespace Engine

/-- The tables of the database under a path cannot be made: a directory above it cannot, the path
names no location, or what is found at the location has no room for tables. -/
inductive Unprepared (engine : Engine) (t : Tree) (path : String) : Surprise → Prop
  | parent {e : Surprise} (h : t.Unmakeable (Text.parentPath path) e) :
      Unprepared engine t path e
  | address {t' : Tree} {e : Surprise}
      (hparent : t.makeDirectories (Text.parentPath path) = (t', .ok ()))
      (h : engine.locate path = .error e) : Unprepared engine t path e
  | tables {t' : Tree} {l : engine.Location} {e : Surprise}
      (hparent : t.makeDirectories (Text.parentPath path) = (t', .ok ()))
      (hat : engine.locate path = .ok l) (h : (engine.found l t').Unmade e) :
      Unprepared engine t path e

theorem prepareDatabase_eq_error_iff :
    (engine.prepareDatabase t path).2 = .error e ↔ engine.Unprepared t path e := by
  constructor
  · intro h
    unfold prepareDatabase at h
    split at h
    · rename_i hparent
      cases h
      exact .parent (Tree.makeDirectories_eq_error_iff.mp (congrArg Prod.snd hparent))
    rename_i t' hparent
    split at h
    · rename_i hat
      cases h
      exact .address hparent hat
    rename_i l hat
    dsimp only at h
    split at h
    · rename_i hprepare
      cases h
      exact .tables hparent hat (Stored.prepare_eq_error_iff.mp hprepare)
    · cases h
  · intro h
    unfold prepareDatabase
    cases h with
    | parent h =>
      have h := Tree.makeDirectories_eq_error_iff.mpr h
      generalize t.makeDirectories (Text.parentPath path) = made at h
      obtain ⟨t', _⟩ := made
      cases h
      rfl
    | address hparent h => simp only [hparent, h]
    | tables hparent hat h =>
      have hprepare := Stored.prepare_eq_error_iff.mpr h
      unfold found at hprepare
      simp only [hparent, hat, hprepare]

end Engine

end Disk

end PeopleFeed
