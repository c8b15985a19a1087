import PeopleFeed.Feed.Writer
import PeopleFeed.Proofs.Feed.Showing

/-! What is written of a feed is one JSON document with one line break behind it, on one line or on
many. -/
namespace PeopleFeed.Feed

open PeopleFeed.Json (Value Writes WritesFields WritesItems isJsonBlank printInt printString)
open PeopleFeed.Text (maxDigits)

variable {st : Text.Standins} {codec : Json.Codec} {digits room : Nat} {pageSize : Int}
  {records : List Record} {f : Record → Value}

/-- A feed as a JSON value. -/
def feedDocument (pageSize : Int) (records : List Record) : Value :=
  .obj [("items", .int pageSize), ("total", .int records.length),
    ("results", .arr (records.map Record.toValue))]

/-- A text is one document from the first brace to the last, and one line break behind it. It is
read back by every reader that has room for a feed. -/
def IsDocumentLine (text : String) (v : Value) : Prop :=
  ∃ document inner, text = document ++ "\n" ∧ document.toList = '\x7b' :: inner ++ ['\x7d'] ∧
    ∀ c : Json.Codec, maxDigits ≤ c.digits → 4 ≤ c.room → Json.parse c document = .ok v

theorem toList_toString (n : Nat) : (toString n).toList = printInt n := by
  simp [printInt, Nat.repr_eq_ofList_toDigits]

theorem toList_toString_int (n : Int) : (toString n).toList = printInt n := by
  rw [Int.toString_eq_repr, Int.repr_eq_if]
  unfold printInt
  by_cases hn : 0 ≤ n
  · have habs : n.natAbs = n.toNat := by omega
    rw [if_pos hn, if_neg (by omega), habs, Nat.repr_eq_ofList_toDigits, String.toList_ofList]
  · have habs : n.natAbs = (-n).toNat := by omega
    rw [if_neg hn, if_pos (by omega), habs, Nat.repr_eq_ofList_toDigits]
    simp

/-- Blanks may stand before every record and behind the last. -/
theorem exists_writesItems {before after : List Char} (hbefore : before.all isJsonBlank = true)
    (hafter : after.all isJsonBlank = true) (hsome : records ≠ [])
    (h : ∀ r ∈ records, Writes st digits room r.text.toList (f r)) :
    ∃ w, List.intercalate [','] (records.map fun r => before ++ r.text.toList) ++
        (after ++ [']']) = before ++ w ∧ WritesItems st digits room w (records.map f) := by
  induction records with
  | nil => exact absurd rfl hsome
  | cons r rest ih =>
    have hr := h r List.mem_cons_self
    cases rest with
    | nil => exact ⟨r.text.toList ++ (after ++ [']']), by simp, .last hr hafter⟩
    | cons r' rest =>
      obtain ⟨w, hw, hitems⟩ := ih (by simp) fun q hq => h q (List.mem_cons_of_mem r hq)
      refine ⟨r.text.toList ++ ',' :: (before ++ w), ?_, .cons hr hbefore hitems⟩
      rw [← hw]
      simp [List.intercalate_cons_cons]

/-- The records between their brackets are the array of them. -/
theorem writes_results (l : Layout) (h : ∀ r ∈ records, Writes st digits room r.text.toList (f r)) :
    Writes st digits (room + 1)
      ('[' :: (recordsText l records ++ l.afterRecords records ++ "]").toList)
      (.arr (records.map f)) := by
  cases records with
  | nil =>
    have hnone : (recordsText l [] ++ l.afterRecords [] ++ "]").toList = [']'] := by
      cases l <;> rfl
    rw [hnone]
    exact Json.writes_arr_nil
  | cons r rest =>
    have hbefore : l.beforeRecord.toList.all isJsonBlank = true := by cases l <;> rfl
    have hafter : (l.afterRecords (r :: rest)).toList.all isJsonBlank = true := by
      cases l <;> simp [Layout.afterRecords, isJsonBlank]
    obtain ⟨w, hw, hitems⟩ := exists_writesItems hbefore hafter (by simp) h
    have htext : (recordsText l (r :: rest) ++ l.afterRecords (r :: rest) ++ "]").toList =
        l.beforeRecord.toList ++ w := by
      rw [← hw]
      simp only [recordsText, String.toList_append, String.toList_intercalate, List.map_map,
        Function.comp_def, List.append_assoc]
      rfl
    rw [htext]
    exact hitems.arr hbefore

/-- The entries of a feed as they stand behind its first brace, up to the last one. -/
def entriesText (l : Layout) (pageSize : Int) (records : List Record) : List Char :=
  printString .plain "items" ++ ':' :: ' ' :: (printInt pageSize ++ ',' :: ' ' ::
    (printString .plain "total" ++ ':' :: ' ' :: (printInt records.length ++ ',' :: ' ' ::
      (printString .plain "results" ++ ':' :: ' ' ::
        ('[' :: (recordsText l records ++ l.afterRecords records ++ "]").toList ++ ['\x7d'])))))

/-- The text of a feed without the line break behind it. -/
def documentText (l : Layout) (pageSize : Int) (records : List Record) : String :=
  String.ofList ('\x7b' :: entriesText l pageSize records)

theorem feedText_eq (l : Layout) (pageSize : Int) (records : List Record) :
    feedText l pageSize records = documentText l pageSize records ++ "\n" := by
  have hitems : printString .plain "items" = "\"items\"".toList := rfl
  have htotal : printString .plain "total" = "\"total\"".toList := rfl
  have hresults : printString .plain "results" = "\"results\"".toList := rfl
  apply String.toList_injective
  simp only [feedText, headerText, documentText, entriesText, String.toList_append, toList_toString,
    toList_toString_int, hitems, htotal, hresults]
  simp

theorem exists_braces (l : Layout) (pageSize : Int) (records : List Record) :
    ∃ inner, (documentText l pageSize records).toList = '\x7b' :: inner ++ ['\x7d'] := by
  simp only [documentText, entriesText, String.toList_ofList, ← List.cons_append,
    ← List.append_assoc]
  exact ⟨_, rfl⟩

/-- The text of a feed is the text of an object if its records are printed as what they are read
as. -/
theorem writes_documentText (l : Layout)
    (hsize : (Nat.toDigits 10 pageSize.natAbs).length ≤ digits)
    (htotal : (Nat.toDigits 10 records.length).length ≤ digits)
    (h : ∀ r ∈ records, Writes st digits room r.text.toList (f r)) :
    Writes st digits (room + 2) (documentText l pageSize records).toList
      (.obj [("items", .int pageSize), ("total", .int records.length),
        ("results", .arr (records.map f))]) := by
  have hfields := (WritesFields.cons "items" (Json.writes_int hsize)
    (.cons "total" (Json.writes_int (n := records.length) htotal)
      (.last "results" (writes_results l h)))).obj
  rw [documentText, String.toList_ofList]
  exact hfields

/-- The text of a feed is read as the feed. -/
theorem isDocumentLine_feedText (l : Layout)
    (hsize : (Nat.toDigits 10 pageSize.natAbs).length ≤ maxDigits)
    (htotal : (Nat.toDigits 10 records.length).length ≤ maxDigits)
    (h : ∀ r ∈ records, HoldsTexts r.profile) :
    IsDocumentLine (feedText l pageSize records) (feedDocument pageSize records) := by
  obtain ⟨inner, hinner⟩ := exists_braces l pageSize records
  refine ⟨documentText l pageSize records, inner, feedText_eq l pageSize records, hinner, ?_⟩
  intro c hdigits hroom
  obtain ⟨room, hroom⟩ := Nat.exists_eq_add_of_le hroom
  have hrecords : ∀ r ∈ records, Writes c.standins c.digits (room + 2) r.text.toList r.toValue := by
    intro r hr
    have hrereadable : Json.Rereadable c.digits (room + 2) r.toValue := rereadable_toValue (h r hr)
    have hwrites : Writes c.standins c.digits (room + 2) _ r.toValue :=
      Json.writes_print hrereadable
    simpa [Record.text, Value.toJson] using hwrites
  have hwrites := writes_documentText l (hsize.trans hdigits) (htotal.trans hdigits) hrecords
  rw [show room + 2 + 2 = c.room by omega] at hwrites
  exact Json.parse_of_writes hwrites List.all_nil (by simp)

/-! Writing stops nowhere if nothing in the feed cannot be written. -/

theorem writeRecords_of_write (l : Layout) (before : String)
    (h : ∀ r ∈ records, r.toValue.write codec .plain = .ok r.text) :
    writeRecords codec l before records =
      ((if records = [] then "" else before) ++ recordsText l records, .ok ()) := by
  induction records generalizing before with
  | nil => rfl
  | cons r rest ih =>
    obtain ⟨hr, hrest⟩ := List.forall_mem_cons.mp h
    rw [writeRecords, hr, ih "," hrest]
    cases rest with
    | nil => simp [recordsText, String.append_assoc]
    | cons r' rest => simp [recordsText, String.append_assoc, String.intercalate_cons_cons]

theorem writeFeed_of_write {size : Value} (l : Layout) (hint : size.toInteger = .ok pageSize)
    (hsize : (Nat.toDigits 10 pageSize.natAbs).length ≤ codec.digits)
    (htotal : (Nat.toDigits 10 records.length).length ≤ codec.digits)
    (h : ∀ r ∈ records, r.toValue.write codec .plain = .ok r.text) :
    writeFeed codec l size records = ⟨feedText l pageSize records, .ok records.length⟩ := by
  have hshort : Json.isTooLong codec.digits pageSize = false := by
    simpa [Json.isTooLong] using hsize
  have hfew : Json.isTooLong codec.digits records.length = false := by
    simpa [Json.isTooLong] using htotal
  have hstart : (if records = [] then "" else "") = "" := ite_self _
  rw [writeFeed, hint]
  simp only [hshort, hfew, Bool.or_false, Bool.false_eq_true, if_false,
    writeRecords_of_write l "" h, hstart, String.empty_append]
  rfl

end PeopleFeed.Feed
