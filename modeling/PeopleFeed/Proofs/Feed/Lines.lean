import PeopleFeed.Proofs.Feed.ReadBack

/-! In the line layout a feed stands on lines: a header, a line for each record and a last one. No
text of a record breaks a line. -/
namespace PeopleFeed.Feed

open PeopleFeed.Json (Value IsVisible readText)

variable {pageSize : Value} {n : Int} {r : Record} {records : List Record}

/-- A text has no break of a line. -/
def IsLine (line : String) : Prop :=
  '\n' ∉ line.toList ∧ '\r' ∉ line.toList

theorem IsLine.of_isVisible {line : String} (h : IsVisible line.toList) : IsLine line :=
  ⟨h.notMem (by decide), h.notMem (by decide)⟩

/-- Lines, each ended by a line feed. -/
def ended (lines : List String) : String :=
  String.join (lines.map (· ++ "\n"))

/-- The line of a record. -/
def recordLine (r : Record) (isLast : Bool) : String :=
  "  " ++ r.text ++ if isLast then "" else ","

/-- The lines of records. -/
def recordLines : List Record → List String
  | [] => []
  | r :: rest => recordLine r rest.isEmpty :: recordLines rest

theorem length_recordLines (records : List Record) :
    (recordLines records).length = records.length := by
  induction records with
  | nil => rfl
  | cons r rest ih => rw [recordLines, List.length_cons, List.length_cons, ih]

theorem getElem?_recordLines {i : Nat} (hr : records[i]? = some r) :
    (recordLines records)[i]? = some (recordLine r (i + 1 == records.length)) := by
  induction records generalizing i with
  | nil => cases hr
  | cons r' rest ih =>
    cases i with
    | zero =>
      cases hr
      cases rest <;> simp [recordLines]
    | succ i =>
      rw [List.getElem?_cons_succ] at hr
      simp [recordLines, ih hr]

/-! The lines of a feed. -/

theorem ended_cons (line : String) (lines : List String) :
    ended (line :: lines) = line ++ "\n" ++ ended lines := by
  rw [ended, List.map_cons, String.join_cons, ended]

theorem ended_append (lines lines' : List String) :
    ended (lines ++ lines') = ended lines ++ ended lines' := by
  rw [ended, List.map_append, String.join_append, ended, ended]

theorem beforeRecord_lines : Layout.lines.beforeRecord = "\n" ++ "  " := by
  decide

/-- Records with the line feeds before and behind them are their lines. -/
theorem recordsText_eq (hsome : records ≠ []) :
    recordsText .lines records ++ "\n" = "\n" ++ ended (recordLines records) := by
  induction records with
  | nil => exact absurd rfl hsome
  | cons r rest ih =>
    cases rest with
    | nil =>
      simp only [recordsText, beforeRecord_lines, recordLines, recordLine, ended, List.map_cons,
        List.map_nil, String.intercalate_singleton, String.join_cons, String.join_nil,
        String.append_assoc]
      rfl
    | cons r' rest =>
      have hsplit : recordsText .lines (r :: r' :: rest) =
          "\n" ++ "  " ++ r.text ++ "," ++ recordsText .lines (r' :: rest) := by
        simp only [recordsText, List.map_cons, String.intercalate_cons_cons, beforeRecord_lines]
      have hlines : ended (recordLines (r :: r' :: rest)) =
          "  " ++ r.text ++ "," ++ "\n" ++ ended (recordLines (r' :: rest)) :=
        ended_cons _ _
      calc recordsText .lines (r :: r' :: rest) ++ "\n"
        _ = "\n" ++ "  " ++ r.text ++ "," ++ (recordsText .lines (r' :: rest) ++ "\n") := by
          rw [hsplit, String.append_assoc]
        _ = "\n" ++ ended (recordLines (r :: r' :: rest)) := by
          rw [ih (by simp), hlines]
          simp only [String.append_assoc]

theorem isVisible_text (r : Record) : IsVisible r.text.toList := by
  rw [Record.text, Value.toJson, String.toList_ofList]
  exact Json.isVisible_print .plain r.toValue

theorem isVisible_headerText (pageSize : Int) (total : Nat) :
    IsVisible (headerText pageSize total).toList := by
  simp only [headerText, String.toList_append, toList_toString, toList_toString_int,
    Json.isVisible_append, Json.isVisible_printInt]
  simp

theorem isLine_of_mem_recordLines {line : String} (h : line ∈ recordLines records) :
    IsLine line := by
  induction records with
  | nil => cases h
  | cons r rest ih =>
    rcases List.mem_cons.mp h with rfl | h
    · apply IsLine.of_isVisible
      cases rest <;> simp [recordLine, isVisible_text]
    · exact ih h

/-- Lines without carriage returns are a text without one. -/
theorem notMem_ended {lines : List String} (h : ∀ line ∈ lines, IsLine line) :
    '\r' ∉ (ended lines).toList := by
  intro hmem
  rw [ended, String.toList_join, List.flatMap_map] at hmem
  obtain ⟨line, hline, hmem⟩ := List.mem_flatMap.mp hmem
  simp [(h line hline).2] at hmem

/-- A feed starts with its header and ends with its last line. -/
theorem feedText_eq_header (l : Layout) (pageSize : Int) (records : List Record) :
    feedText l pageSize records = headerText pageSize records.length ++
      (recordsText l records ++ l.afterRecords records) ++ ended ["]\x7d"] := by
  have hlast : ended ["]\x7d"] = "]\x7d\n" := by decide
  rw [hlast]
  simp only [feedText, headerText, String.append_assoc]

theorem feedText_nil (pageSize : Int) :
    feedText .lines pageSize [] = ended [headerText pageSize 0 ++ "]\x7d"] := by
  have hnone : recordsText .lines [] ++ Layout.lines.afterRecords [] = "" := rfl
  rw [feedText_eq_header, hnone, String.append_empty, ended_cons, ended_cons]
  simp only [List.length_nil, String.append_assoc]

theorem feedText_lines (pageSize : Int) (hsome : records ≠ []) :
    feedText .lines pageSize records =
      ended (headerText pageSize records.length :: (recordLines records ++ ["]\x7d"])) := by
  have hafter : Layout.lines.afterRecords records = "\n" := by
    cases records with
    | nil => exact absurd rfl hsome
    | cons r rest => rfl
  rw [feedText_eq_header, hafter, recordsText_eq hsome, ended_cons (headerText pageSize _),
    ended_append]
  simp only [String.append_assoc]

/-- The lines that a feed is written on: one if it is empty, and otherwise a header, one for each
record and a last one. The text on the line of a record is read as the record. -/
theorem writeFeed_lines (hsize : pageSize.toInteger = .ok n)
    (h : ∀ r ∈ records, (Value.obj r.profile).Throughout Value.IsKeyed) :
    ∃ lines, (∀ codec, Admits codec n records →
        writeFeed codec .lines pageSize records = ⟨ended lines, .ok records.length⟩) ∧
      '\r' ∉ (ended lines).toList ∧ (∀ line ∈ lines, IsLine line) ∧
      (records = [] → lines = [headerText n 0 ++ "]\x7d"]) ∧
      (records ≠ [] → lines.length = records.length + 2 ∧
        lines[0]? = some (headerText n records.length) ∧
        lines[records.length + 1]? = some "]\x7d" ∧
        ∀ i r, records[i]? = some r →
          lines[i + 1]? = some (recordLine r (i + 1 == records.length)) ∧
            ∀ codec : Json.Codec, codec.Fits (toldRecord r) →
              readText codec r.text.toList = .ok (toldRecord r).quiet) := by
  have hwrite : ∀ codec, Admits codec n records →
      writeFeed codec .lines pageSize records = ⟨feedText .lines n records, .ok records.length⟩ :=
    fun _ => writeFeed_eq .lines hsize h
  by_cases hsome : records = []
  · subst hsome
    have hlines : ∀ line ∈ [headerText n 0 ++ "]\x7d"], IsLine line := by
      intro line hmem
      rw [List.mem_singleton.mp hmem]
      apply IsLine.of_isVisible
      simp [isVisible_headerText]
    exact ⟨_, feedText_nil n ▸ hwrite, notMem_ended hlines, hlines, fun _ => rfl,
      fun hne => absurd rfl hne⟩
  · have hlines : ∀ line ∈ headerText n records.length :: (recordLines records ++ ["]\x7d"]),
        IsLine line := by
      intro line hmem
      rcases List.mem_cons.mp hmem with rfl | hmem
      · exact .of_isVisible (isVisible_headerText n records.length)
      rcases List.mem_append.mp hmem with hmem | hmem
      · exact isLine_of_mem_recordLines hmem
      · rw [List.mem_singleton.mp hmem]
        exact .of_isVisible (by simp)
    refine ⟨_, feedText_lines n hsome ▸ hwrite, notMem_ended hlines, hlines,
      fun hnone => absurd hnone hsome, fun _ => ⟨?_, rfl, ?_, ?_⟩⟩
    · simp [length_recordLines]
    · simp [length_recordLines]
    · intro i r hr
      obtain ⟨hi, -⟩ := List.getElem?_eq_some_iff.mp hr
      constructor
      · rw [List.getElem?_cons_succ, List.getElem?_append_left (by rwa [length_recordLines])]
        exact getElem?_recordLines hr
      · exact fun codec hfits => readText_text (h r (List.mem_of_getElem? hr)) hfits

/-! Two records on lines. -/

/-- A record with a tenth in it. -/
def tenthRecord : Record :=
  ⟨"line\nfeed", [("score", .float ⟨0x3FB999999999999A⟩)]⟩

theorem throughout_tenthRecord : (Value.obj tenthRecord.profile).Throughout Value.IsKeyed := by
  simp [tenthRecord, Value.IsKeyed, Json.Fields.keys]

theorem writeFeed_lines_tenthRecord : ∃ lines,
    writeFeed narrowCodec .lines (.int 25) [oddRecord, tenthRecord] = ⟨ended lines, .ok 2⟩ ∧
      (∀ line ∈ lines, IsLine line) ∧ lines.length = 4 ∧
      lines[1]? = some ("  " ++ oddRecord.text ++ ",") ∧
      lines[2]? = some ("  " ++ tenthRecord.text) ∧
      readText narrowCodec tenthRecord.text.toList = .ok (toldRecord tenthRecord) := by
  have hsize : (Value.int 25).toInteger = .ok 25 := rfl
  have hrecords : ∀ r ∈ [oddRecord, tenthRecord],
      (Value.obj r.profile).Throughout Value.IsKeyed ∧ narrowCodec.Fits (toldRecord r) := by
    intro r hr
    rcases List.mem_cons.mp hr with rfl | hr
    · exact ⟨throughout_oddRecord.mono fun _ hv => hv.1, by decide, by decide⟩
    · rw [List.mem_singleton.mp hr]
      exact ⟨throughout_tenthRecord, by decide, by decide⟩
  have hadmits : Admits narrowCodec 25 [oddRecord, tenthRecord] :=
    ⟨⟨by decide, by decide⟩, ⟨by decide, by decide⟩, fun r hr => (hrecords r hr).2⟩
  have hquiet : (toldRecord tenthRecord).quiet = toldRecord tenthRecord := by rfl
  obtain ⟨lines, hwrite, -, hlines, -, hmany⟩ :=
    writeFeed_lines hsize fun r hr => (hrecords r hr).1
  obtain ⟨hlength, -, -, hline⟩ := hmany (by simp)
  obtain ⟨hodd, -⟩ := hline 0 oddRecord rfl
  obtain ⟨htenth, hread⟩ := hline 1 tenthRecord rfl
  have htold := hread narrowCodec (hrecords tenthRecord (by simp)).2
  rw [hquiet] at htold
  exact ⟨lines, hwrite narrowCodec hadmits, hlines, hlength, hodd,
    by simpa [recordLine] using htenth, htold⟩

end PeopleFeed.Feed
