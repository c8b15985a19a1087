import PeopleFeed.Decimal.Shortest
import PeopleFeed.Json.Value
import PeopleFeed.Text.Quoted

/-! The text by which a message shows a value: strings in quotes, lists in square brackets and
objects in braces. -/
namespace PeopleFeed.Json

mutual

/-- The text by which a message shows a value. -/
def Value.literal : Value → String
  | .null => "None"
  | .bool true => "True"
  | .bool false => "False"
  | .int n => toString n
  | .float x => x.text
  | .str s => Text.quoted s
  | .arr items => "[" ++ String.intercalate ", " (literalItems items) ++ "]"
  | .obj fields => "\x7b" ++ String.intercalate ", " (literalFields fields) ++ "\x7d"

/-- The texts of the items of a list. -/
def literalItems : List Value → List String
  | [] => []
  | v :: rest => v.literal :: literalItems rest

/-- The texts of the entries of an object. -/
def literalFields : List (String × Value) → List String
  | [] => []
  | (k, v) :: rest => (Text.quoted k ++ ": " ++ v.literal) :: literalFields rest

end

/-- The text by which a message shows a text that may be missing. -/
def literalText? : Option String → String
  | none => Value.null.literal
  | some s => (Value.str s).literal

end PeopleFeed.Json
