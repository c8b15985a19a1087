import PeopleFeed.Disk.Connection
import PeopleFeed.Environment.Expansion
import PeopleFeed.Proofs.Command.Mishaps
import PeopleFeed.Proofs.Command.Quota
import PeopleFeed.Proofs.Feed.Document
import PeopleFeed.Proofs.Log.Writing

/-! A command that assembles a feed prints all of it or nothing: one document that tells the page
size in force and the records in their order, or no character at all. -/
namespace PeopleFeed.Command

open PeopleFeed.Directory (Address Backend Database village villageRecord)
open PeopleFeed.Environment (Variables)
open PeopleFeed.Feed (HoldsTexts IsDocumentLine feedDocument)

variable {p : Platform} {vars : Variables} {a b : Surroundings} {s : Settings} {args : List String}
  {i : Invocation} {o : RelatedOptions} {g : Ingredients p} {r : Feed.Result} {report : Report}
  {level : Log.Level}

/-! Reports of what was not done. -/

/-- What is not done is told without printing anything. -/
def Report.IsSilent (r : Report) : Prop :=
  r.ending ≠ .done ∧ r.output = ""

theorem isSilent_refused (text : String) : (Report.refused text).IsSilent :=
  ⟨nofun, rfl⟩

theorem isSilent_raised (fault : Fault) : (Report.raised fault).IsSilent :=
  ⟨nofun, rfl⟩

theorem isSilent_surprised (e : Surprise) : (Report.surprised e).IsSilent :=
  isSilent_raised _

theorem Report.Stops.isSilent {Surprises : Surprise → Prop} (h : report.Stops Surprises) :
    report.IsSilent := by
  obtain ⟨text, rfl⟩ | ⟨e, rfl, -⟩ := h
  · exact isSilent_refused text
  · exact isSilent_surprised e

theorem isSilent_reportFeed (p : Platform) (o : RelatedOptions) (e : Feed.AssemblyError) :
    (reportFeed p o (.error e)).IsSilent := by
  unfold reportFeed
  split
  · rename_i h
    cases h
  · exact isSilent_refused _
  · exact isSilent_raised _
  · exact isSilent_refused _

/-! What is assembled. -/

namespace Ingredients

/-- What comes of the ingredients of a feed. -/
def outcome (g : Ingredients p) (o : RelatedOptions) (a : Surroundings) :
    Feed.Outcome Backend Shuffler.Order :=
  assembleFeed p o g.policy g.order ⟨(p.engine.found g.location a.disk).answering, g.source⟩

/-- The notes that tell of it. -/
def notes (g : Ingredients p) (o : RelatedOptions) (a : Surroundings) : List Log.Note :=
  Feed.notesOf (g.outcome o a).events

end Ingredients

theorem report_related (hg : ingredients p o s a = .ok g) :
    (related p o s a).1 = match Log.unwritable? (p.codec .notes) (g.notes o a) with
      | some e => .surprised (.unwritable e)
      | none => reportFeed p o (g.outcome o a).result := by
  simp only [related, hg]
  rfl

/-- Where all notes of a feed can be written it is reported. -/
theorem report_related_of_writable (hg : ingredients p o s a = .ok g)
    (hnotes : Log.unwritable? (p.codec .notes) (g.notes o a) = none) :
    (related p o s a).1 = reportFeed p o (g.outcome o a).result := by
  rw [report_related hg, hnotes]

theorem holdsTexts_propertiesOf (e : Seed.AccountEntry) :
    HoldsTexts (Directory.propertiesOf e) := by
  intro f hf
  obtain ⟨field, -, hfield⟩ := List.mem_filterMap.mp hf
  obtain ⟨text, -, rfl⟩ := Option.map_eq_some_iff.mp hfield
  exact ⟨text, rfl⟩

/-- Whomever a command finds has texts for properties. -/
theorem holdsTexts_of_find (p : Platform) (viewer id : String) {env : Backend} {e : Feed.Entity}
    (h : ((collaborators p viewer).respond (.find (some id)) env).answer = .ok (some e)) :
    HoldsTexts e.properties := by
  obtain ⟨db, -, hfind⟩ := exists_of_bind_eq_ok (answer_of_respond h)
  obtain ⟨row, -, hshown⟩ := Database.exists_row_of_find hfind
  rw [Database.eq_entityOf_of_shown hshown]
  exact holdsTexts_propertiesOf row.entry

/-- A feed has the page size in force, no more records than that, and nothing but texts in them. -/
theorem feed_of_ingredients (hg : ingredients p o s a = .ok g)
    (hr : (g.outcome o b).result = .ok r) :
    ∃ n, o.pageSize? s = some n ∧ r.quota = .number n ∧ (r.records.length : Int) ≤ n ∧
      ∀ record ∈ r.records, HoldsTexts record.profile := by
  have htexts : ∀ record ∈ r.records, HoldsTexts record.profile := by
    intro record hrecord
    obtain ⟨e, he, -, hprofile⟩ := Feed.exists_shown_of_ok (P := fun _ => True)
      (Q := fun _ e => HoldsTexts e.properties) (fun _ _ _ => trivial) (fun _ _ _ => trivial)
      (fun id _ _ _ => holdsTexts_of_find p o.user id) trivial hr record hrecord
    rw [hprofile]
    exact Feed.holdsTexts_publicFields he _
  obtain ⟨-, -, hpolicy, -⟩ := eq_of_ingredients hg
  obtain ⟨quota, hcheck⟩ := Feed.exists_check_of_ok hr
  obtain ⟨n, hn, rfl, hpos⟩ := exists_pageSize_of_check hpolicy hcheck
  obtain ⟨denied, -, rfl⟩ := (Feed.assemble_eq_ok_iff hcheck).1 hr
  have hsound := Feed.sound_run (collaborators p o.user) Shuffler.ofOrder
    (o.order.request (.number n) Feed.publicFieldNames)
    ⟨(p.engine.found g.location b.disk).answering, g.source⟩ g.order Feed.stepLimit
  have hsize : _ ≤ n.toNat := hsound.size_eq ▸ hsound.size_le
  exact ⟨n, hn, rfl, Int.le_trans (Int.ofNat_le.mpr hsize) (by omega), htexts⟩

/-- There is always room to write a record of texts. -/
theorem write_toValue (p : Platform) {record : Feed.Record} (h : HoldsTexts record.profile) :
    record.toValue.write (p.codec .feed) .plain = .ok record.text := by
  obtain ⟨room, hroom⟩ := Nat.exists_eq_add_of_le p.room_feed
  have hnone :
      Json.obstacle? (p.codec .feed).digits (p.codec .feed).room record.toValue = none := by
    have hrereadable : Json.Rereadable (p.codec .feed).digits (room + 2) record.toValue :=
      Feed.rereadable_toValue h
    rw [Nat.add_comm, ← hroom] at hrereadable
    exact Json.obstacle?_of_rereadable hrereadable
  rw [Json.Value.write, hnone]
  rfl

theorem reportFeed_ok {n : Int} (hn : r.quota = .number n)
    (hsize : (Nat.toDigits 10 n.natAbs).length ≤ Text.maxDigits)
    (htotal : (Nat.toDigits 10 r.records.length).length ≤ Text.maxDigits)
    (htexts : ∀ record ∈ r.records, HoldsTexts record.profile) :
    reportFeed p o (.ok r) = .done (Feed.feedText o.layout n r.records) := by
  have hwritten : Feed.writeFeed (p.codec .feed) o.layout r.quota.toValue r.records =
      ⟨Feed.feedText o.layout n r.records, .ok r.records.length⟩ := by
    rw [hn]
    exact Feed.writeFeed_of_write o.layout rfl hsize htotal fun record hrecord =>
      write_toValue p (htexts record hrecord)
  simp only [reportFeed, hwritten]

/-! The whole command. -/

/-- An invocation comes to a feed: its settings are read, its journal is opened, what is there then
makes the feed, and all notes of this can be written. -/
def Invocation.ComesTo (i : Invocation) (p : Platform) (o : RelatedOptions) (vars : Variables)
    (a : Surroundings) (s : Settings) (r : Feed.Result) : Prop :=
  settingsAround p vars a = .ok s ∧ ∃ level opened g, i.level s = .ok level ∧
    a.openJournal s.logDirectory level = (opened, .ok ()) ∧ ingredients p o s opened = .ok g ∧
    (g.outcome o opened).result = .ok r ∧
    Log.unwritable? (p.codec .notes) (g.notes o opened) = none

theorem Invocation.ComesTo.eq {s' : Settings} {r' : Feed.Result} (h : i.ComesTo p o vars a s r)
    (h' : i.ComesTo p o vars a s' r') : s = s' ∧ r = r' := by
  obtain ⟨hs, level, opened, g, hlevel, hopen, hg, hr, -⟩ := h
  obtain ⟨hs', level', opened', g', hlevel', hopen', hg', hr', -⟩ := h'
  obtain rfl := Except.ok.inj (hs.symm.trans hs')
  obtain rfl := Except.ok.inj (hlevel.symm.trans hlevel')
  obtain rfl := (Prod.mk.inj (hopen.symm.trans hopen')).1
  obtain rfl := Except.ok.inj (hg.symm.trans hg')
  exact ⟨rfl, Except.ok.inj (hr.symm.trans hr')⟩

/-- With the journal open an invocation does its task. -/
theorem run_of_task {task : Task} (hversion : i.showsVersion = false) (htask : i.task = some task)
    (hlevel : i.level s = .ok level)
    (hopen : a.openJournal s.logDirectory level = (b, .ok ())) :
    i.run p s a = task.run p s b := by
  simp [Invocation.run, hversion, htask, hlevel, hopen]

/-- A feed that an invocation comes to is reported. -/
theorem report_of_comesTo (hread : Invocation.read args = .ok i)
    (hversion : i.showsVersion = false) (htask : i.task = some (.related o))
    (h : i.ComesTo p o vars a s r) : (run p args vars a).1 = reportFeed p o (.ok r) := by
  obtain ⟨hs, level, opened, g, hlevel, hopen, hg, hr, hnotes⟩ := h
  have hrun : i.run p s a = related p o s opened := run_of_task hversion htask hlevel hopen
  rw [← hr, ← report_related_of_writable hg hnotes, ← hrun]
  simp only [run, hs, hread]

/-- A command is silent unless its invocation comes to a feed. -/
theorem isSilent_or_comesTo (p : Platform) (hread : Invocation.read args = .ok i)
    (hversion : i.showsVersion = false) (htask : i.task = some (.related o)) (vars : Variables)
    (a : Surroundings) :
    (run p args vars a).1.IsSilent ∨ ∃ s r, i.ComesTo p o vars a s r := by
  -- Every stage either ends the command silently or leads to the next.
  unfold run
  cases hs : settingsAround p vars a with
  | error report => exact .inl (stops_of_settingsAround hs).isSilent
  | ok s =>
    simp only [hread]
    cases hlevel : i.level s with
    | error e =>
      left
      simpa [Invocation.run, hversion, hlevel] using isSilent_surprised e
    | ok level =>
      obtain ⟨⟨opened, outcome⟩, hopen⟩ : ∃ made, a.openJournal s.logDirectory level = made :=
        ⟨_, rfl⟩
      cases outcome with
      | error e =>
        left
        simpa [Invocation.run, hversion, hlevel, hopen] using isSilent_surprised e
      | ok _ =>
        rw [run_of_task hversion htask hlevel hopen, Task.run]
        cases hg : ingredients p o s opened with
        | error report =>
          left
          simpa [related, hg] using (stops_of_ingredients hg).isSilent
        | ok g =>
          cases hnotes : Log.unwritable? (p.codec .notes) (g.notes o opened) with
          | some e =>
            left
            simpa [report_related hg, hnotes] using isSilent_surprised _
          | none =>
            rw [report_related_of_writable hg hnotes]
            cases hr : (g.outcome o opened).result with
            | error e => exact .inl (isSilent_reportFeed p o e)
            | ok r => exact .inr ⟨s, r, hs, level, opened, g, hlevel, hopen, hg, hr, hnotes⟩

/-- A feed that an invocation comes to is printed as one document, and the command is done. -/
theorem prints_of_comesTo (hread : Invocation.read args = .ok i)
    (hversion : i.showsVersion = false) (htask : i.task = some (.related o))
    (h : i.ComesTo p o vars a s r) :
    (run p args vars a).1.ending = .done ∧ ∃ n, o.pageSize? s = some n ∧
      (r.records.length : Int) ≤ n ∧
      IsDocumentLine (run p args vars a).1.output (feedDocument n r.records) := by
  have hreport := report_of_comesTo hread hversion htask h
  obtain ⟨hs, -, opened, g, -, -, hg, hr, -⟩ := h
  obtain ⟨n, hn, hquota, htotal, htexts⟩ := feed_of_ingredients hg hr
  have hdigits := length_toDigits_pageSize hread htask hs hn
  have htotalDigits : (Nat.toDigits 10 r.records.length).length ≤ Text.maxDigits :=
    Text.length_toDigits_of_le (by omega) hdigits
  rw [reportFeed_ok hquota hdigits htotalDigits htexts] at hreport
  rw [hreport]
  exact ⟨rfl, n, hn, htotal, Feed.isDocumentLine_feedText o.layout hdigits htotalDigits htexts⟩

/-! A command in the village. -/

/-- What Ann asks for. -/
def annOptions : RelatedOptions := ⟨"ann", none, none, none, none, none, .compact⟩

def annArguments : List String := ["related", "--user", "ann"]

/-- An argument that no switch begins like is unknown. -/
theorem ofArgument?_of_unlike {switches : List Switch} {arg : String} {letters : List Char}
    (hlist : arg.toList = '-' :: '-' :: letters) (hend : arg ≠ endOfSwitches)
    (hsplit : splitAttached arg = (arg, none)) (hnumber : isNegativeNumber arg.toList = false)
    (hblank : arg.contains ' ' = false) (hfind : switches.find? (·.name == arg) = none)
    (hlike : (switches.filter fun s => s.name.startsWith arg) = []) :
    Word.ofArgument? switches arg = some .unknown := by
  have hshort : shortened? switches arg = some .unknown := by
    unfold shortened?
    rw [hsplit]
    simp only [hlike]
  have hword : unswitched arg = .unknown := by
    simp only [unswitched, hnumber, hblank]
    rfl
  simp only [Word.ofArgument?, hlist, hend, if_false, hfind, hsplit, hshort, hword, if_true]

theorem ofArgument?_user :
    Word.ofArgument? (helpSwitches ++ programSwitches) "--user" = some .unknown :=
  ofArgument?_of_unlike rfl (by decide) (by decide +kernel) (by decide +kernel) (by simp) rfl
    (by simp [helpSwitches, programSwitches, shortHelp, levelSwitch])

/-- Every argument is a word, unless it shortens several switches. -/
theorem exists_wordsOf? {switches : List Switch} {args : List String}
    (h : ∀ arg ∈ args, Word.ofArgument? switches arg ≠ none) :
    ∃ words, wordsOf? switches args = some words ∧ words.map (·.2) = args := by
  induction args with
  | nil => exact ⟨[], rfl, rfl⟩
  | cons arg rest ih =>
    obtain ⟨harg, hrest⟩ := List.forall_mem_cons.mp h
    obtain ⟨w, hw⟩ := Option.ne_none_iff_exists'.mp harg
    obtain ⟨words, hwords, hargs⟩ := ih hrest
    cases w with
    | separator =>
      refine ⟨(.separator, arg) :: rest.map fun a => (.plain, a), ?_, by simp⟩
      simp only [wordsOf?, hw]
    | plain | switch | cluster | unknown =>
      exact ⟨(_, arg) :: words, by simp only [wordsOf?, hw, hwords]; rfl, by simp [hargs]⟩

/-- The name of a task with all that stands behind it is a command. -/
theorem readArguments_command {name : String} {rest : List String}
    (hname : Word.ofArgument? (helpSwitches ++ programSwitches) name = some .plain)
    (hrest : ∀ arg ∈ rest, Word.ofArgument? (helpSwitches ++ programSwitches) arg ≠ none) :
    readArguments programSwitches true (name :: rest) = .ok ⟨[], false, some (name, rest)⟩ := by
  obtain ⟨words, hwords, hargs⟩ := exists_wordsOf? hrest
  simp only [readArguments, wordsOf?, hname, hwords, Option.map_some, readWords, if_true, hargs]
  rfl

/-- An argument that does not start like a switch. -/
def IsPlain (arg : String) : Prop :=
  arg.toList.head? ≠ some '-'

theorem ofArgument?_of_isPlain {arg : String} (h : IsPlain arg) (switches : List Switch) :
    Word.ofArgument? switches arg = some .plain := by
  unfold Word.ofArgument?
  split
  · rename_i harg
    exact absurd (by rw [harg]; rfl) h
  · rfl

theorem read_annArguments :
    Invocation.read annArguments = .ok ⟨false, none, some (.related annOptions)⟩ := by
  have hplain : IsPlain "ann" := by simp [IsPlain]
  have hrest : ∀ arg ∈ ["--user", "ann"],
      Word.ofArgument? (helpSwitches ++ programSwitches) arg ≠ none := by
    simp [ofArgument?_user, ofArgument?_of_isPlain hplain]
  rw [Invocation.read, annArguments, readArguments_command rfl hrest]
  rfl

/-- A platform that keeps databases in files, with the same room for JSON everywhere. -/
def filePlatform : Platform where
  engine := Disk.fileEngine ⟨511, 31, 15, 511⟩ fun _ => []
  environment := Environment.readBindings
  standins := .last
  room _ := 64
  room_feed := by decide

/-- A disk with the village where directories are looked for. -/
def villageDisk : Disk.Tree :=
  ⟨[([Text.encodeUtf8 "data"], .directory),
    (["data", "directory.db"].map Text.encodeUtf8, .database (village "Ann" "Cat"))], []⟩

def villageAround : Surroundings := .start villageDisk [] .keep (.constant 0)

/-- In the village Ann is shown Bob and Eve, who sing with her. -/
def villageFeed : Feed.Result where
  requester := "ann"
  quota := .number 25
  records := [villageRecord "bob" "Bob", villageRecord "eve" "Eve"]
  states := [.consumingPrimary, .consumingFallback, .done]
  denied := none
  shortfall := true

/-- A path without options is the name of a file. -/
theorem locate_of_plain {path : String} (haddress : Address.ofText path = ⟨path, []⟩)
    (hnul : path.contains '\x00' = false) :
    filePlatform.engine.locate path = .ok (.ofName path) := by
  have herror : (⟨path, []⟩ : Address).connectionError? = none := by
    have htarget : (⟨path, []⟩ : Address).target = path := rfl
    simp [Address.connectionError?, Address.values, htarget, hnul]
  have hlocate : (⟨path, []⟩ : Address).locate 511 = .ok (.ofName path) := by
    rw [Address.locate, herror]
    rfl
  show ((Address.ofText path).locate 511).mapError _ = _
  rw [haddress, hlocate]
  rfl

theorem locate_villageDirectory :
    filePlatform.engine.locate "data/directory.db" = .ok (.ofName "data/directory.db") :=
  locate_of_plain (by decide +kernel) (by simp)

theorem ingredients_village (hfound : a.disk.has "data/directory.db" = .ok true) :
    ingredients filePlatform annOptions .standard a =
      .ok ⟨.ofName "data/directory.db", .empty, .standard, a.order⟩ := by
  have hat : databaseAt filePlatform "data/directory.db" a =
      .ok (some (.ofName "data/directory.db")) := by
    rw [databaseAt, hfound]
    simp only [bind, Except.bind, if_true, locate_villageDirectory]
    rfl
  have hpath : databasePath annOptions.database .standard = "data/directory.db" := rfl
  simp only [ingredients, hpath, hat]
  rfl

/-- What Ann's feed is made of. -/
def villageIngredients : Ingredients filePlatform :=
  ⟨.ofName "data/directory.db", .empty, .standard, .keep⟩

/-- What comes of it in a number of steps. -/
def villageOutcome (fuel : Nat) : Feed.Outcome Backend Shuffler.Order :=
  Feed.assemble (collaborators filePlatform "ann") Shuffler.ofOrder .standard
    Feed.publicFieldNames fuel annOptions.order ⟨.ok (village "Ann" "Cat"), .empty⟩ .keep

theorem result_villageOutcome : (villageOutcome 60).result = .ok villageFeed := by
  cbv

/-- The village with a journal. -/
def villageOpened : Surroundings :=
  (villageAround.openJournal "logs" .info).1

theorem events_villageOutcome : (villageOutcome 60).events =
    [.started, .considered .fallback, .considered .fallback, .emitted .fallback,
      .considered .fallback, .considered .fallback, .emitted .fallback, .drawn "ann" 1 4 2,
      .fellShort "ann" (.number 25) (.number 11) 2] := by
  cbv

/-- The notes of Ann's feed are short. -/
theorem writable_villageOutcome : Log.unwritable? (filePlatform.codec .notes)
    (Feed.notesOf (villageOutcome 60).events) = none := by
  rw [events_villageOutcome, Log.unwritable?, List.findSome?_eq_none_iff]
  intro note hnote
  apply Log.error?_eq_none (by decide)
  simp only [Feed.notesOf, Feed.Event.note?, List.filterMap_cons, List.filterMap_nil,
    List.mem_cons, List.not_mem_nil, or_false] at hnote
  rcases hnote with rfl | rfl
  all_goals
    intro f hf
    simp only [List.mem_cons, List.not_mem_nil, or_false] at hf
    rcases hf with rfl | rfl | rfl | rfl
    all_goals first | exact .str _ | exact .int (by decide)

theorem outcome_village :
    villageIngredients.outcome annOptions villageOpened = villageOutcome 60 := by
  have hfound : (filePlatform.engine.found villageIngredients.location
      villageOpened.disk).answering = .ok (village "Ann" "Cat") := rfl
  rw [Ingredients.outcome, hfound]
  exact Feed.assemble_of_le result_villageOutcome (by decide)

theorem comesTo_villageFeed :
    Invocation.ComesTo ⟨false, none, some (.related annOptions)⟩ filePlatform annOptions []
      villageAround .standard villageFeed := by
  refine ⟨rfl, .info, villageOpened, villageIngredients, rfl, rfl, ingredients_village rfl, ?_, ?_⟩
  · rw [outcome_village]
    exact result_villageOutcome
  · rw [Ingredients.notes, outcome_village]
    exact writable_villageOutcome

/-- A command that assembles a feed is done just if its invocation comes to one. Then it prints one
document in one go, which holds the page size in force, the number of the records, no larger than
that, and the records as they were emitted. However else it ends, it has printed nothing. -/
theorem prints_feed_or_nothing {level : Option (Option Log.Level)}
    (h : Invocation.read args = .ok ⟨false, level, some (.related o)⟩) (p : Platform)
    (vars : Variables) (a : Surroundings) :
    let report := (run p args vars a).1
    (report.ending = .done ↔ ∃ s n r,
      Invocation.ComesTo ⟨false, level, some (.related o)⟩ p o vars a s r ∧
        o.pageSize? s = some n ∧ (r.records.length : Int) ≤ n ∧
        IsDocumentLine report.output (feedDocument n r.records)) ∧
      (report.ending ≠ .done → report.output = "") := by
  rcases isSilent_or_comesTo p h rfl rfl vars a with hsilent | ⟨s, r, hcomes⟩
  · refine ⟨⟨fun hdone => absurd hdone hsilent.1, ?_⟩, fun _ => hsilent.2⟩
    rintro ⟨s, n, r, hcomes, -⟩
    exact (prints_of_comesTo h rfl rfl hcomes).1
  · obtain ⟨hdone, n, hprints⟩ := prints_of_comesTo h rfl rfl hcomes
    exact ⟨⟨fun _ => ⟨s, n, r, hcomes, hprints⟩, fun _ => hdone⟩, fun hnot => absurd hdone hnot⟩

/-- Ann's command prints a page of 25 with Bob and Eve on it. -/
theorem prints_feed_or_nothing_village :
    Invocation.read annArguments = .ok ⟨false, none, some (.related annOptions)⟩ ∧
      (run filePlatform annArguments [] villageAround).1.ending = .done ∧
      IsDocumentLine (run filePlatform annArguments [] villageAround).1.output
        (feedDocument 25 [villageRecord "bob" "Bob", villageRecord "eve" "Eve"]) := by
  have hdone := (prints_of_comesTo read_annArguments rfl rfl comesTo_villageFeed).1
  obtain ⟨s, n, r, hcomes, hn, -, hline⟩ :=
    (prints_feed_or_nothing read_annArguments filePlatform [] villageAround).1.mp hdone
  obtain ⟨rfl, rfl⟩ := hcomes.eq comesTo_villageFeed
  obtain rfl : 25 = n := Option.some.inj hn
  exact ⟨read_annArguments, hdone, hline⟩

end PeopleFeed.Command
