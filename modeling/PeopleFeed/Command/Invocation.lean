import PeopleFeed.Command.Arguments
import PeopleFeed.Feed.Writer
import PeopleFeed.Settings

/-! What the arguments of the program ask it to do. -/
namespace PeopleFeed.Command

open PeopleFeed.Feed (Layout)
open PeopleFeed.Log (Level)

/-- Assembling the feed of a user. The number of items and the seed may be given without a
value. -/
structure RelatedOptions where
  user : String
  database : Option String
  results : Option String
  searchUrl : Option String
  items : Option (Option Int)
  seed : Option (Option Int)
  layout : Layout
  deriving DecidableEq, Repr

/-- Loading a seed into the directory. The input may be given without a value. -/
structure SeedOptions where
  input : Option String
  database : Option String
  deriving DecidableEq, Repr

/-- Listing the accounts of the directory. -/
structure ListOptions where
  database : Option String
  deriving DecidableEq, Repr

/-- What the program can do. -/
inductive Task
  | related (options : RelatedOptions)
  | seed (options : SeedOptions)
  | list (options : ListOptions)
  deriving DecidableEq, Repr

/-- What the program is asked for. The level of the log may be given without a value. -/
structure Invocation where
  showsVersion : Bool
  logLevel : Option (Option Level)
  task : Option Task
  deriving DecidableEq, Repr

/-- What a loader of seeds is asked for. Both paths may be given without a value. -/
structure LoadOptions where
  input : Option String
  database : Option String
  dryRun : Bool
  deriving DecidableEq, Repr

/-- What help is about. -/
inductive Topic
  | program
  | related
  | seed
  | list
  | loader
  deriving DecidableEq, Repr

/-- Why there is nothing to do. -/
inductive Refusal
  | misuse
  | help (topic : Topic)
  deriving DecidableEq, Repr

/-- A stop in the arguments of a topic. -/
def Stop.about (topic : Topic) : Stop → Refusal
  | misuse => .misuse
  | help => .help topic

def anyValue : Arity := .value fun _ => true

/-- The whole number that a value writes. -/
def integer? (v : String) : Option Int :=
  (Text.readInteger v).toOption

def integerValue : Arity := .value fun v => (integer? v).isSome

/-- The level that a value names in any case. -/
def level? (v : String) : Option Level :=
  Settings.level? (Text.upper v)

def levelValue : Arity := .value fun v => (level? v).isSome

def levelSwitch : Switch := ⟨"--log-level", levelValue⟩

def databaseSwitch : Switch := ⟨"--db", anyValue⟩

def itemsSwitch : Switch := ⟨"--items", integerValue⟩

/-- The switch for the seed of an order. -/
def orderSwitch : Switch := ⟨"--seed", integerValue⟩

def inputSwitch : Switch := ⟨"--input", anyValue⟩

/-- The switch for the document of a loader. -/
def documentSwitch : Switch := ⟨"--json", anyValue⟩

def programSwitches : List Switch :=
  [⟨"--version", .flag⟩, levelSwitch]

def relatedSwitches : List Switch :=
  [⟨"--user", anyValue⟩, databaseSwitch, ⟨"--results", anyValue⟩, ⟨"--search-url", anyValue⟩,
    itemsSwitch, orderSwitch, ⟨"--pretty", .flag⟩]

def seedSwitches : List Switch :=
  [inputSwitch, databaseSwitch]

def listSwitches : List Switch :=
  [databaseSwitch]

def loaderSwitches : List Switch :=
  [documentSwitch, databaseSwitch, ⟨"--dry-run", .flag⟩]

/-- What is given to a switch that may not be left out. -/
def Given.required (g : Given) (name : String) : Except Refusal (Option String) :=
  match g.last? name with
  | some v => .ok v
  | none => .error .misuse

/-- Reads arguments that take no command and leave nothing over. -/
def readAll (topic : Topic) (switches : List Switch) (args : List String) :
    Except Refusal Given := do
  let given ← (readArguments switches false args).mapError (Stop.about topic)
  if given.hasSurplus then .error .misuse else pure given

def RelatedOptions.read (args : List String) : Except Refusal RelatedOptions := do
  let given ← readAll .related relatedSwitches args
  let user ← given.required "--user"
  pure
    { user := user.getD ""
      database := given.value? databaseSwitch.name
      results := given.value? "--results"
      searchUrl := given.value? "--search-url"
      items := (given.last? itemsSwitch.name).map (·.bind integer?)
      seed := (given.last? orderSwitch.name).map (·.bind integer?)
      layout := if given.has "--pretty" then .lines else .compact }

def SeedOptions.read (args : List String) : Except Refusal SeedOptions := do
  let given ← readAll .seed seedSwitches args
  let input ← given.required inputSwitch.name
  pure ⟨input, given.value? databaseSwitch.name⟩

def ListOptions.read (args : List String) : Except Refusal ListOptions := do
  let given ← readAll .list listSwitches args
  pure ⟨given.value? databaseSwitch.name⟩

/-- Reads a task from its name and its arguments. -/
def Task.read (name : String) (args : List String) : Except Refusal Task :=
  match name with
  | "related" => (RelatedOptions.read args).map .related
  | "seed" => (SeedOptions.read args).map .seed
  | "list" => (ListOptions.read args).map .list
  | _ => .error .misuse

/-- Reads the arguments of the program. -/
def Invocation.read (args : List String) : Except Refusal Invocation := do
  let given ← (readArguments programSwitches true args).mapError (Stop.about .program)
  let task ← match given.command with
    | some (name, rest) => (Task.read name rest).map some
    | none => pure none
  if given.hasSurplus then .error .misuse
  else
    pure
      { showsVersion := given.has "--version"
        logLevel := (given.last? levelSwitch.name).map (·.bind level?)
        task }

/-- The document that a loader reads unless told otherwise. -/
def standardDocument : String := "data/directory.json"

def LoadOptions.read (args : List String) : Except Refusal LoadOptions := do
  let given ← readAll .loader loaderSwitches args
  pure
    { input := (given.last? documentSwitch.name).getD standardDocument
      database := (given.last? databaseSwitch.name).getD Settings.standard.databasePath
      dryRun := given.has "--dry-run" }

end PeopleFeed.Command
