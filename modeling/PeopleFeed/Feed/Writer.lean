import PeopleFeed.Fault
import PeopleFeed.Feed.Record

/-!
Writing a feed: one JSON object with the page size, the number of records and the records. In the
line layout every record has a line of its own. Writing stops at what cannot be written.
-/
namespace PeopleFeed.Feed

/-- Whether records stand on one line or on a line each. -/
inductive Layout
  | compact
  | lines
  deriving DecidableEq, Repr

def Layout.beforeRecord : Layout → String
  | compact => ""
  | lines => "\n  "

/-- What stands between the records and the closing bracket. -/
def Layout.afterRecords (l : Layout) (records : List Record) : String :=
  match l, records with
  | lines, _ :: _ => "\n"
  | _, _ => ""

/-- The text of one record. -/
def Record.text (r : Record) : String :=
  r.toValue.toJson .plain

/-- The records as they stand between the brackets. -/
def recordsText (l : Layout) (records : List Record) : String :=
  String.intercalate "," (records.map fun r => l.beforeRecord ++ r.text)

/-- What stands in front of the records. -/
def headerText (pageSize : Int) (total : Nat) : String :=
  "\x7b\"items\": " ++ toString pageSize ++ ", \"total\": " ++ toString total ++ ", \"results\": ["

/-- The text of a feed with the given page size. -/
def feedText (l : Layout) (pageSize : Int) (records : List Record) : String :=
  headerText pageSize records.length ++ recordsText l records ++ l.afterRecords records ++ "]\x7d\n"

/-- What is written of a feed, and the number of records, unless the writing stops on the way. -/
structure Writing where
  text : String
  result : Except Surprise Nat

/-- Writes records up to one that cannot be written. -/
def writeRecords (c : Json.Codec) (l : Layout) :
    String → List Record → String × Except Json.WriteError Unit
  | _, [] => ("", .ok ())
  | before, r :: rest =>
    let start := before ++ l.beforeRecord
    match r.toValue.write c .plain with
    | .error e => (start, .error e)
    | .ok text =>
      let (more, outcome) := writeRecords c l "," rest
      (start ++ text ++ more, outcome)

/-- Writes a feed. The page size may be any value that gives a whole number. -/
def writeFeed (c : Json.Codec) (l : Layout) (pageSize : Json.Value) (records : List Record) :
    Writing :=
  match pageSize.toInteger with
  | .error e => ⟨"", .error (.integral e)⟩
  | .ok n =>
    if Json.isTooLong c.digits n || Json.isTooLong c.digits records.length then
      ⟨"", .error (.unwritable .tooManyDigits)⟩
    else
      let header := headerText n records.length
      match writeRecords c l "" records with
      | (text, .error e) => ⟨header ++ text, .error (.unwritable e)⟩
      | (text, .ok ()) =>
        ⟨header ++ text ++ l.afterRecords records ++ "]\x7d\n", .ok records.length⟩

end PeopleFeed.Feed
