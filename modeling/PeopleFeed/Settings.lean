import PeopleFeed.Environment.Variables
import PeopleFeed.Feed.Policy
import PeopleFeed.Log.Note
import PeopleFeed.Text.Integer
import PeopleFeed.Text.PathForm

/-! The settings of the program, read from environment variables. -/
namespace PeopleFeed

open PeopleFeed.Environment (Variables)
open PeopleFeed.Log (Level)

/-- Where the directory is, where to search, how full feeds are meant to be, and the log. -/
structure Settings where
  databasePath : String
  searchUrl : Option String
  itemsPerPage : Int
  minimumAcceptable : Int
  logLevel : Level
  logDirectory : String
  deriving DecidableEq, Repr

namespace Settings

/-- The settings where no variable is set. -/
def standard : Settings :=
  { databasePath := "data/directory.db"
    searchUrl := none
    itemsPerPage := Feed.standardQuota
    minimumAcceptable := Feed.standardMinimum
    logLevel := .info
    logDirectory := "logs" }

/-- The levels that a user may choose. -/
def levels : List Level :=
  [.debug, .info, .warning, .error, .critical]

/-- The level of a name in upper case. -/
def level? (name : String) : Option Level :=
  levels.find? fun l => l.name == name

/-- A variable that holds a whole number; what is blank counts as not set. -/
def integer (vs : Variables) (name : String) (default : Int) : Except Breach Int :=
  match vs.get? name with
  | none => .ok default
  | some raw =>
    if Text.isBlank raw then .ok default
    else (Text.readInteger raw).mapError fun _ => .settingNotInteger name raw

/-- A variable that holds the name of a level in any case. -/
def level (vs : Variables) (name : String) (default : Level) : Except Breach Level :=
  let raw := match vs.get? name with
    | none | some "" => default.name
    | some raw => raw
  let chosen := Text.upper (Text.trim raw)
  match level? chosen with
  | some l => .ok l
  | none => .error (.settingNotLevel name chosen (levels.map (·.name)))

/-- A variable that holds a path. -/
def path (vs : Variables) (name : String) (default : String) : String :=
  Text.normalPath ((vs.get? name).getD default)

def databaseVariable : String := "RELATEDFEED_DB_PATH"

def searchVariable : String := "RELATEDFEED_SEARCH_URL"

def itemsVariable : String := "RELATEDFEED_ITEMS_PER_PAGE"

def minimumVariable : String := "RELATEDFEED_MINIMUM_ACCEPTABLE"

def levelVariable : String := "RELATEDFEED_LOG_LEVEL"

def directoryVariable : String := "RELATEDFEED_LOG_DIR"

/-- The variables that settings are read from. -/
def variableNames : List String :=
  [databaseVariable, searchVariable, itemsVariable, minimumVariable, levelVariable,
    directoryVariable]

/-- The settings that variables make. -/
def ofVariables (vs : Variables) : Except Breach Settings := do
  let itemsPerPage ← integer vs itemsVariable standard.itemsPerPage
  let minimumAcceptable ← integer vs minimumVariable standard.minimumAcceptable
  let logLevel ← level vs levelVariable standard.logLevel
  pure
    { databasePath := path vs databaseVariable standard.databasePath
      searchUrl := (vs.get? searchVariable).filter (· != "")
      itemsPerPage
      minimumAcceptable
      logLevel
      logDirectory := path vs directoryVariable standard.logDirectory }

/-- The feed policy of the settings, if their numbers make one. -/
def policy (s : Settings) : Except Breach Feed.Policy :=
  Feed.Policy.make (.int s.itemsPerPage) (.int s.minimumAcceptable)

/-- Every level that may be chosen is chosen by its name. -/
theorem level?_name : ∀ l ∈ levels, level? l.name = some l := by
  decide

end Settings

end PeopleFeed
