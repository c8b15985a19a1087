import PeopleFeed.Proofs.Feed.Document
import PeopleFeed.Proofs.Json.RoundTrip

/-! A written feed is read back as it was, whatever its texts are and in whichever layout. -/
namespace PeopleFeed.Feed

open PeopleFeed.Json (Value Writes readText)

variable {st : Text.Standins} {codec : Json.Codec} {digits room : Nat} {pageSize : Value}
  {n : Int} {r : Record} {records : List Record}

/-- A record as a JSON value. -/
def toldRecord (r : Record) : Value :=
  .obj [("target", .str r.target), ("profile", .obj r.profile)]

/-- A feed as a JSON value. -/
def toldFeed (pageSize : Int) (records : List Record) : Value :=
  .obj [("items", .int pageSize), ("total", .int records.length),
    ("results", .arr (records.map toldRecord))]

/-! Records. -/

/-- A record is printed as it is told if its profile has distinct keys. -/
theorem toValue_eq (h : (Value.obj r.profile).IsKeyed) : r.toValue = toldRecord r := by
  rw [Record.toValue, Json.Fields.ofEntries_of_nodup (h r.profile rfl), toldRecord]

theorem throughout_toldRecord (h : (Value.obj r.profile).Throughout Value.IsKeyed) :
    (toldRecord r).Throughout Value.IsKeyed := by
  have hkeys : ["target", "profile"].Nodup := by decide
  simpa [toldRecord, Value.IsKeyed, Json.Fields.keys] using h

theorem writes_text (h : (Value.obj r.profile).Throughout Value.IsKeyed)
    (hdigits : (toldRecord r).longestNumber ≤ digits) (hroom : (toldRecord r).nesting ≤ room) :
    Writes st digits room r.text.toList (toldRecord r).quiet := by
  have hwrites : Writes st digits room _ (toldRecord r).quiet :=
    Json.writes_quiet (throughout_toldRecord h) hdigits hroom
  rwa [Record.text, toValue_eq h.here, Value.toJson, String.toList_ofList]

/-- The text of a record on its own is a document of the record. -/
theorem readText_text (h : (Value.obj r.profile).Throughout Value.IsKeyed)
    (hfits : codec.Fits (toldRecord r)) :
    readText codec r.text.toList = .ok (toldRecord r).quiet := by
  rw [Record.text, toValue_eq h.here]
  exact Json.readText_toJson (throughout_toldRecord h) hfits

/-- A record without floating point numbers is told as it is. -/
theorem quiet_toldRecord (h : (Value.obj r.profile).Throughout Value.IsNoFloat) :
    (toldRecord r).quiet = toldRecord r := by
  simpa [toldRecord, Value.quiet, Json.quietFields] using Json.quiet_eq_self h

/-! Feeds. -/

/-- The whole numbers of a feed are the page size, the number of records and those of the
records. -/
theorem numbers_toldFeed (h : (toldFeed n records).longestNumber ≤ digits) :
    (Nat.toDigits 10 n.natAbs).length ≤ digits ∧
      (Nat.toDigits 10 records.length).length ≤ digits ∧
      Json.measureItems Value.digitCount 0 (records.map toldRecord) ≤ digits := by
  simp only [toldFeed, Value.longestNumber, Value.measure, Json.measureFields, Value.digitCount,
    Int.natAbs_natCast] at h
  omega

/-- The records of a feed stand inside of two brackets. -/
theorem brackets_toldFeed (h : (toldFeed n records).nesting ≤ room) :
    ∃ inside, room = inside + 2 ∧
      Json.measureItems (fun _ => 0) 1 (records.map toldRecord) ≤ inside := by
  simp only [toldFeed, Value.nesting, Value.measure, Json.measureFields] at h
  exact ⟨room - 2, by omega, by omega⟩

/-- Neither the page size nor the number of records nor a record is too long or too deep. -/
structure Admits (codec : Json.Codec) (pageSize : Int) (records : List Record) : Prop where
  pageSize : codec.Fits (.int pageSize)
  total : codec.Fits (.int records.length)
  records : ∀ r ∈ records, codec.Fits (toldRecord r)

/-- The whole text of a feed is written if nothing in it is too long or too deep. -/
theorem writeFeed_eq (l : Layout) (hsize : pageSize.toInteger = .ok n)
    (h : ∀ r ∈ records, (Value.obj r.profile).Throughout Value.IsKeyed)
    (hadmits : Admits codec n records) :
    writeFeed codec l pageSize records = ⟨feedText l n records, .ok records.length⟩ := by
  have hrecords : ∀ r ∈ records, r.toValue.write codec .plain = .ok r.text := by
    intro r hr
    have hfits : codec.Fits r.toValue := toValue_eq (h r hr).here ▸ hadmits.records r hr
    exact Json.write_eq_ok_iff.mpr ⟨hfits, rfl⟩
  exact writeFeed_of_write l hsize hadmits.pageSize.digits hadmits.total.digits hrecords

/-- What is written of a feed is a document with a line break behind it. The document, and all of
what is written, is read as the object of the page size, of how many records there are, and of the
records in their order. -/
theorem readText_writeFeed (hsize : pageSize.toInteger = .ok n)
    (h : ∀ r ∈ records,
      (Value.obj r.profile).Throughout fun v => v.IsKeyed ∧ v.IsNoFloat) (l : Layout) :
    ∃ document inner, document.toList = '\x7b' :: inner ++ ['\x7d'] ∧
      (∀ codec, Admits codec n records →
        writeFeed codec l pageSize records = ⟨document ++ "\n", .ok records.length⟩) ∧
      ∀ codec : Json.Codec, codec.Fits (toldFeed n records) →
        readText codec document.toList = .ok (toldFeed n records) ∧
          readText codec (document ++ "\n").toList = .ok (toldFeed n records) := by
  have hkeyed : ∀ r ∈ records, (Value.obj r.profile).Throughout Value.IsKeyed := fun r hr =>
    (h r hr).mono fun _ hv => hv.1
  obtain ⟨inner, hinner⟩ := exists_braces l n records
  refine ⟨documentText l n records, inner, hinner, fun codec hadmits => ?_, fun codec hfits => ?_⟩
  · rw [writeFeed_eq l hsize hkeyed hadmits, feedText_eq]
  obtain ⟨hpages, htotal, hnumbers⟩ := numbers_toldFeed hfits.digits
  obtain ⟨room, hroom, hbrackets⟩ := brackets_toldFeed hfits.room
  have hrecords : ∀ r ∈ records,
      Writes codec.standins codec.digits room r.text.toList (toldRecord r) := by
    intro r hr
    have hquiet := quiet_toldRecord ((h r hr).mono fun _ hv => hv.2)
    have hmem : toldRecord r ∈ records.map toldRecord := List.mem_map_of_mem hr
    have hwrites : Writes codec.standins codec.digits room _ (toldRecord r).quiet :=
      writes_text (hkeyed r hr) ((Json.measure_le_measureItems hmem).trans hnumbers)
        ((Json.measure_le_measureItems hmem).trans hbrackets)
    rwa [hquiet] at hwrites
  have hdocument := writes_documentText l hpages htotal hrecords
  rw [← hroom] at hdocument
  constructor
  · rw [← List.append_nil (documentText l n records).toList]
    exact Json.readText_of_writes hdocument List.all_nil
  · rw [String.toList_append]
    exact Json.readText_of_writes hdocument (by decide)

/-! A feed of texts that need escapes. -/

/-- A record whose texts have quotes, backslashes, line breaks and characters beyond ASCII. -/
def oddRecord : Record :=
  ⟨"a\"b\\c", [("näme", .str "two\r\nlines"), ("tags", .arr [.null, .obj [("x", .int (-12))]])]⟩

theorem throughout_oddRecord : (Value.obj oddRecord.profile).Throughout
    fun v => v.IsKeyed ∧ v.IsNoFloat := by
  simp [oddRecord, Value.IsKeyed, Value.IsNoFloat, Json.Fields.keys]

/-- A writer and reader of numbers of two digits and of six brackets inside of each other. -/
def narrowCodec : Json.Codec :=
  ⟨2, 6, .last⟩

theorem readText_writeFeed_oddRecord : ∃ compact lines,
    writeFeed narrowCodec .compact (.int 25) [oddRecord] = ⟨compact ++ "\n", .ok 1⟩ ∧
      writeFeed narrowCodec .lines (.int 25) [oddRecord] = ⟨lines ++ "\n", .ok 1⟩ ∧
      readText narrowCodec compact.toList = .ok (toldFeed 25 [oddRecord]) ∧
      readText narrowCodec lines.toList = .ok (toldFeed 25 [oddRecord]) := by
  have hrecords : ∀ r ∈ [oddRecord],
      (Value.obj r.profile).Throughout fun v => v.IsKeyed ∧ v.IsNoFloat := by
    intro r hr
    rw [List.mem_singleton.mp hr]
    exact throughout_oddRecord
  have hadmits : Admits narrowCodec 25 [oddRecord] := by
    refine ⟨⟨by decide, by decide⟩, ⟨by decide, by decide⟩, fun r hr => ?_⟩
    rw [List.mem_singleton.mp hr]
    exact ⟨by decide, by decide⟩
  have hfits : narrowCodec.Fits (toldFeed 25 [oddRecord]) := ⟨by decide, by decide⟩
  have hsize : (Value.int 25).toInteger = .ok 25 := rfl
  obtain ⟨compact, -, -, hcompact, hread⟩ := readText_writeFeed hsize hrecords .compact
  obtain ⟨lines, -, -, hlines, hread'⟩ := readText_writeFeed hsize hrecords .lines
  exact ⟨compact, lines, hcompact narrowCodec hadmits, hlines narrowCodec hadmits,
    (hread narrowCodec hfits).1, (hread' narrowCodec hfits).1⟩

end PeopleFeed.Feed
