import PeopleFeed.Fault
import PeopleFeed.Log.Note

/-!
Levels by the names that callers give. The layout of a line and the styles of layouts go by names
like those of the levels and are no levels.
-/
namespace PeopleFeed.Log.Level

/-- The name of the layout of a line. -/
def layoutName : String := "BASIC_FORMAT"

/-- The layout of a line. -/
def layout : String := "%(levelname)s:%(name)s:%(message)s"

/-- The name of the styles of layouts. -/
def stylesName : String := "_STYLES"

/-- The level of a name in any case. -/
def named (s : String) : Except Surprise Level :=
  match ofName? s with
  | some l => .ok l
  | none =>
    let name := Text.upper s
    if name = layoutName then .error (.notALevel layout)
    else if name = stylesName then .error .levelOfOtherKind
    else .error (.unknownLevel s)

/-- Every level is found by its name. -/
theorem named_name (l : Level) : named l.name = .ok l := by
  cases l <;> rfl

end PeopleFeed.Log.Level
