import PeopleFeed.Proofs.Directory.Reloading
import PeopleFeed.Proofs.Directory.Session
import PeopleFeed.Proofs.Disk.Opening

/-! A seed is loaded in one session: all of it or nothing. What the database refuses is told; a text
that cannot be encoded is not. -/
namespace PeopleFeed.Directory

open PeopleFeed.Json (File Value parseBytes)
open PeopleFeed.Seed

/-- Loads the seed in the file under a path, act by act. -/
def loadInSession (codec : Json.Codec) (t : Times) (refuses : Refusal) (path : String) (file : File)
    (s : Session) : Session × Except Fault Counts :=
  match readSeed codec path file with
  | .error fault => (s, .error fault)
  | .ok seed =>
    match s.run codec.standins refuses (writing (stepsOf t seed) ++ [.commit]) with
    | (after, none) => (after, .ok (Counts.ofSeed seed))
    | (after, some failure) => (after, .error (failure.fault path))

variable {codec : Json.Codec} {t : Times} {refuses : Refusal} {s after : Session} {db : Database}
  {path : String} {file : File} {content : List UInt8} {v : Value} {fault : Fault}

/-- What a session comes to: the counts and what is kept. -/
def outcome (r : Session × Except Fault Counts) : Except Fault (Counts × Database) :=
  r.2.map fun counts => (counts, r.1.kept)

/-- Loading a seed is loading it in a session. -/
theorem load_eq_outcome (codec : Json.Codec) (t : Times) (path : String) (file : File)
    (db : Database) (isSealed : Bool) :
    load codec t path file db isSealed =
      outcome (loadInSession codec t (sealing isSealed) path file (.start db)) := by
  unfold load loadInSession
  cases readSeed codec path file with
  | error fault => rfl
  | ok seed =>
    have hfollows : Session.Follows _ db (writeSeed codec.standins t db isSealed seed) :=
      Session.follows_writeSteps (Session.matches_stepsOf t seed) (.start db)
    dsimp only
    generalize Session.run codec.standins (sealing isSealed) _ (.start db) = r at hfollows ⊢
    obtain ⟨after, outcome⟩ := r
    cases hwrite : writeSeed codec.standins t db isSealed seed with
    | error failure =>
      rw [hwrite] at hfollows
      obtain ⟨rfl, -⟩ := hfollows
      rfl
    | ok changed =>
      rw [hwrite] at hfollows
      obtain ⟨rfl, rfl⟩ := hfollows
      rfl

/-- The bytes of a seed that nobody takes: they are no document, or a document with problems. A
document of too many brackets is not among them. -/
def Unacceptable (codec : Json.Codec) (content : List UInt8) : Prop :=
  (∃ flaw, parseBytes codec content = .error flaw ∧
    ∀ bracket, flaw ≠ .json (.tooDeep bracket)) ∨
  ∃ v, parseBytes codec content = .ok v ∧ validate v ≠ []

theorem readSeed_cases (codec : Json.Codec) (path : String) (content : List UInt8) :
    (Unacceptable codec content ∧
      ∃ breach, readSeed codec path (.bytes content) = .error (.breach breach)) ∨
    ¬Unacceptable codec content ∧
      ((∃ bracket, parseBytes codec content = .error (.json (.tooDeep bracket)) ∧
        readSeed codec path (.bytes content) = .error (.surprise (.nestedTooDeep bracket))) ∨
      ∃ v, parseBytes codec content = .ok v ∧ validate v = [] ∧
        readSeed codec path (.bytes content) = .ok (seedIn v)) := by
  cases hparse : parseBytes codec content with
  | error flaw =>
    by_cases hdeep : ∃ bracket, flaw = .json (.tooDeep bracket)
    · obtain ⟨bracket, rfl⟩ := hdeep
      refine .inr ⟨?_, .inl ⟨bracket, rfl, ?_⟩⟩
      · simp [Unacceptable, hparse]
      · simp [readSeed, Json.read_of_flaw hparse]
    · have hflaw : ∀ bracket, flaw ≠ .json (.tooDeep bracket) := fun bracket h => hdeep ⟨bracket, h⟩
      refine .inl ⟨.inl ⟨flaw, hparse, hflaw⟩, .unreadableSeed path flaw, ?_⟩
      unfold readSeed
      rw [Json.read_of_flaw hparse]
      split <;> simp_all
  | ok v =>
    cases hproblems : validate v with
    | nil =>
      refine .inr ⟨by simp [Unacceptable, hparse, hproblems], .inr ⟨v, rfl, hproblems, ?_⟩⟩
      exact readSeed_of_validate (Json.read_of_parseBytes hparse) hproblems
    | cons problem rest =>
      have hvalue : Seed.ofValue v = .error (problem :: rest) := by
        unfold Seed.ofValue
        rw [hproblems]
      refine .inl ⟨.inr ⟨v, hparse, by simp [hproblems]⟩, .invalidSeed path (problem :: rest), ?_⟩
      simp [readSeed, Json.read_of_parseBytes hparse, hvalue]

/-- The acts by which a seed is loaded. -/
def actsOf (t : Times) (v : Value) : List Act :=
  writing (stepsOf t (seedIn v)) ++ [.commit]

/-- What comes of a good seed: all its entries are written, or an act fails, and what is kept is as
before. What the database refuses leaves nothing else behind either. -/
inductive Loads (codec : Json.Codec) (t : Times) (refuses : Refusal) (path : String) (v : Value)
    (db : Database) : Session × Except Fault Counts → Prop
  | written {after : Session} (hencodable : IsEncodable codec.standins (seedIn v))
      (hsame : after.kept = after.working)
      (hupserts : Upserts (entriesOf v) db after.kept) :
      Loads codec t refuses path v db (after, .ok (countsIn v))
  | failed {done rest : List Act} {a : Act} {last after : Session} {cause : Cause}
      (hfails :
        (Session.start db).FailsAt codec.standins refuses (actsOf t v) done a rest last cause)
      (hkept : after.kept = db) (hundone : cause = .database → after.working = db) :
      Loads codec t refuses path v db (after, .error ((a.failure rest cause).fault path))

theorem loads_loadInSession (refuses : Refusal) (db : Database) (hvalid : validate v = [])
    (hread : readSeed codec path file = .ok (seedIn v)) :
    Loads codec t refuses path v db (loadInSession codec t refuses path file (.start db)) := by
  have hvalue := ofValue_of_validate hvalid
  rcases Session.run_cases codec.standins refuses (.start db) (actsOf t v) with
    ⟨after, hdone, hrun⟩ | ⟨done, a, rest, last, cause, hfails, hrun⟩
  · obtain ⟨hsame, hchanges⟩ := Session.foldlM_of_writing hdone
    rw [map_change_stepsOf] at hchanges
    have hloaded : loadInSession codec t refuses path file (.start db) =
        (after, .ok (countsIn v)) := by
      rw [loadInSession, hread]
      dsimp only
      rw [← actsOf, hrun, countsIn_of_ofValue hvalue]
    rw [hloaded]
    exact .written (isEncodable_iff.mpr (Session.tear?_of_writing hdone)) hsame
      (upserts_of_merged (merged_of_write hchanges) (describes_of_ofValue hvalue))
  · have hloaded : loadInSession codec t refuses path file (.start db) =
        (last.failed a cause, .error ((a.failure rest cause).fault path)) := by
      rw [loadInSession, hread]
      dsimp only
      rw [← actsOf, hrun]
    have hlast : last.kept = db := hfails.kept_eq
    rw [hloaded]
    refine .failed hfails ?_ ?_
    · cases a <;> cases cause <;> exact hlast
    · rintro rfl
      cases a <;> exact hlast

theorem loadInSession_of_error (h : readSeed codec path file = .error fault) :
    loadInSession codec t refuses path file s = (s, .error fault) := by
  rw [loadInSession, h]

/-- Unacceptable bytes are refused before the first act. -/
theorem loadInSession_of_unacceptable (t : Times) (refuses : Refusal) (path : String) (s : Session)
    (h : Unacceptable codec content) :
    ∃ breach,
      loadInSession codec t refuses path (.bytes content) s = (s, .error (.breach breach)) := by
  rcases readSeed_cases codec path content with ⟨-, breach, hread⟩ | ⟨hgood, -⟩
  · exact ⟨breach, loadInSession_of_error hread⟩
  · exact absurd h hgood

/-- What nobody translates when a seed is loaded: a text of an entry that cannot be encoded, or what
comes from the database itself. -/
inductive Untranslated (codec : Json.Codec) (t : Times) (refuses : Refusal) (v : Value) :
    Surprise → Prop
  | torn {step : Step} {error : Text.EncodeError} (hstep : step ∈ stepsOf t (seedIn v))
      (h : codec.standins.tearIn? step.keys = some error ∨
        codec.standins.tearIn? step.columns = some error) :
      Untranslated codec t refuses v (.unencodable error)
  | other {n : Nat} {before after : Database} {e : Surprise}
      (h : refuses n before after = some (.other e)) : Untranslated codec t refuses v e

theorem untranslated_of_failsAt {done rest : List Act} {a : Act} {last : Session} {e : Surprise}
    (h : s.FailsAt codec.standins refuses (actsOf t v) done a rest last (.other e)) :
    Untranslated codec t refuses v e := by
  have ha : a ∈ actsOf t v := by
    rw [h.split]
    simp
  rcases Session.of_act_eq_other h.fails with ⟨error, htear, rfl⟩ | ⟨after, hrefused⟩
  · obtain ⟨step, hstep, htorn⟩ := Session.exists_step_of_writing ha htear
    exact .torn hstep htorn
  · exact .other hrefused

/-- What the session with a database fails with, if it fails. -/
theorem fault_of_loadInSession
    (h : (loadInSession codec t refuses path (.bytes content) (.start db)).2 = .error fault) :
    (Unacceptable codec content ∧ ∃ breach, fault = .breach breach) ∨
      (∃ isLate, fault = .outage (.seedNotLoaded path isLate)) ∨
      (∃ bracket, parseBytes codec content = .error (.json (.tooDeep bracket)) ∧
        fault = .surprise (.nestedTooDeep bracket)) ∨
      ∃ v e, parseBytes codec content = .ok v ∧ validate v = [] ∧ fault = .surprise e ∧
        Untranslated codec t refuses v e := by
  rcases readSeed_cases codec path content with
    ⟨hbad, breach, hread⟩ | ⟨-, ⟨bracket, hparse, hread⟩ | ⟨v, hparse, hvalid, hread⟩⟩
  · rw [loadInSession_of_error hread] at h
    cases h
    exact .inl ⟨hbad, breach, rfl⟩
  · rw [loadInSession_of_error hread] at h
    cases h
    exact .inr (.inr (.inl ⟨bracket, hparse, rfl⟩))
  · have hloads := loads_loadInSession (t := t) refuses db hvalid hread
    generalize loadInSession codec t refuses path (.bytes content) (.start db) = loaded at h hloads
    cases hloads with
    | written => cases h
    | @failed _ _ _ _ _ cause hfails =>
      cases h
      cases cause with
      | database => exact .inr (.inl ⟨_, rfl⟩)
      | other e =>
        exact .inr (.inr (.inr ⟨v, e, hparse, hvalid, rfl, untranslated_of_failsAt hfails⟩))

theorem breach_iff_unacceptable :
    (∃ breach, (loadInSession codec t refuses path (.bytes content) (.start db)).2 =
      .error (.breach breach)) ↔ Unacceptable codec content := by
  constructor
  · rintro ⟨breach, hbreach⟩
    rcases fault_of_loadInSession hbreach with
      ⟨hbad, -⟩ | ⟨isLate, hlate⟩ | ⟨bracket, -, hdeep⟩ | ⟨v, e, -, -, hother, -⟩
    · exact hbad
    · cases hlate
    · cases hdeep
    · cases hother
  · intro hbad
    obtain ⟨breach, hrun⟩ := loadInSession_of_unacceptable t refuses path (.start db) hbad
    exact ⟨breach, congrArg Prod.snd hrun⟩

/-- A seed is loaded as a whole or not at all. It is refused before the first act just if its bytes
are unacceptable. A good one is written with all its entries, or an act fails and what is kept stays
as it was. What the database refuses is told; nobody translates too many brackets, texts that cannot
be encoded, and what else comes from the database. -/
theorem loadInSession_atomic (codec : Json.Codec) (t : Times) (refuses : Refusal) (path : String)
    (content : List UInt8) (db : Database) :
    let loaded := loadInSession codec t refuses path (.bytes content) (.start db)
    ((∃ breach, loaded.2 = .error (.breach breach)) ↔ Unacceptable codec content) ∧
    (Unacceptable codec content → loaded.1 = .start db) ∧
    (∀ v, parseBytes codec content = .ok v → validate v = [] →
      Loads codec t refuses path v db loaded) ∧
    (∀ fault, loaded.2 = .error fault → (∃ breach, fault = .breach breach) ∨
      (∃ isLate, fault = .outage (.seedNotLoaded path isLate)) ∨
      (∃ bracket, parseBytes codec content = .error (.json (.tooDeep bracket)) ∧
        fault = .surprise (.nestedTooDeep bracket)) ∨
      ∃ v e, parseBytes codec content = .ok v ∧ validate v = [] ∧ fault = .surprise e ∧
        Untranslated codec t refuses v e) ∧
    ∀ isSealed, load codec t path (.bytes content) db isSealed =
      outcome (loadInSession codec t (sealing isSealed) path (.bytes content) (.start db)) := by
  refine ⟨breach_iff_unacceptable, ?_, ?_, ?_, load_eq_outcome codec t path (.bytes content) db⟩
  · intro hbad
    obtain ⟨breach, hrun⟩ := loadInSession_of_unacceptable t refuses path (.start db) hbad
    exact congrArg Prod.fst hrun
  · intro v hparse hvalid
    exact loads_loadInSession refuses db hvalid
      (readSeed_of_validate (Json.read_of_parseBytes hparse) hvalid)
  · intro fault hfault
    exact (fault_of_loadInSession hfault).imp_left And.right

/-! A seed with a lone surrogate in it. -/

/-- Somebody is in a group whose id is half of a pair. -/
def tornText : String :=
  "\x7b\"memberships\": [\x7b\"group\": \"\\ud800\", \"member\": \"ann\"\x7d]\x7d"

/-- What such a seed says, with the character that stands for the half. -/
def tornSeed : Value :=
  .obj [("memberships", .arr [.obj [
    ("group", .str (String.ofList [Text.Standins.last.char 0xD800])), ("member", .str "ann")]])]

theorem parseBytes_tornText : parseBytes .ample (Text.encodeUtf8 tornText) = .ok tornSeed := by
  have hlines : '\r' ∉ tornText.toList := by decide
  have hgroup : Json.Writes .last Text.maxDigits 61 _ (.str _) :=
    Json.writes_surrogate (Nat.le_refl 0xD800) (by decide)
  have hentry := (Json.WritesFields.cons "group" hgroup
    (.last "member" (Json.writes_str "ann"))).obj
  have hentries := (Json.WritesItems.last hentry List.all_nil).arr List.all_nil
  have hparse : Json.parse .ample tornText = .ok tornSeed :=
    Json.parse_of_writes (Json.WritesFields.last "memberships" hentries).obj List.all_nil
      (by decide)
  rw [Json.parseBytes_encodeUtf8 hlines, hparse]
  rfl

theorem readSeed_tornText (path : String) :
    readSeed .ample path (.bytes (Text.encodeUtf8 tornText)) = .ok (seedIn tornSeed) :=
  readSeed_of_validate (Json.read_of_parseBytes parseBytes_tornText) rfl

/-- The seed is a good one and the database refuses nothing, but the group cannot be looked up, and
nobody provides for that. -/
theorem loadInSession_tornText :
    parseBytes .ample (Text.encodeUtf8 tornText) = .ok tornSeed ∧ validate tornSeed = [] ∧
      (loadInSession .ample (.constant 1) (sealing false) "seed.json"
        (.bytes (Text.encodeUtf8 tornText)) (.start .fresh)).2 =
          .error (.surprise (.unencodable ⟨0xD800, 0, 1⟩)) := by
  refine ⟨parseBytes_tornText, rfl, ?_⟩
  simp only [loadInSession, readSeed_tornText]
  rfl

end PeopleFeed.Directory
