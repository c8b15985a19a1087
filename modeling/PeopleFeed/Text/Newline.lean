/-! Line ends: a carriage return, alone or before a line feed, is read as a line feed. -/
namespace PeopleFeed.Text

def foldNewlines : List Char → List Char
  | [] => []
  | '\r' :: '\n' :: cs => '\n' :: foldNewlines cs
  | c :: cs => (if c = '\r' then '\n' else c) :: foldNewlines cs

/-- A text with every line end read as a line feed. -/
def normalizeNewlines (s : String) : String :=
  if s.contains '\r' then String.ofList (foldNewlines s.toList) else s

theorem normalizeNewlines_of_notMem {s : String} (h : '\r' ∉ s.toList) :
    normalizeNewlines s = s := by
  simp [normalizeNewlines, String.contains_char_eq, h]

end PeopleFeed.Text
