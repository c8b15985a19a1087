import PeopleFeed.Json.Printer
import PeopleFeed.Text.UpperCase

/-! Log notes: a level, a message and a context, which is written as JSON behind the message. A note
whose context cannot be written is not written either. -/
namespace PeopleFeed.Log

/-- The levels of a log, from the one that admits everything. -/
inductive Level
  | notset
  | debug
  | info
  | warning
  | error
  | critical
  deriving DecidableEq, Repr, Inhabited

namespace Level

def rank : Level → Nat
  | notset => 0
  | debug => 10
  | info => 20
  | warning => 30
  | error => 40
  | critical => 50

def name : Level → String
  | notset => "NOTSET"
  | debug => "DEBUG"
  | info => "INFO"
  | warning => "WARNING"
  | error => "ERROR"
  | critical => "CRITICAL"

/-- The levels and the names they go by. -/
def names : List (String × Level) :=
  [("NOTSET", notset), ("DEBUG", debug), ("INFO", info), ("WARN", warning), ("WARNING", warning),
    ("ERROR", error), ("CRITICAL", critical), ("FATAL", critical)]

/-- The level of a name in any case. -/
def ofName? (s : String) : Option Level :=
  names.lookup (Text.upper s)

/-- A log without a level of its own admits warnings and what is graver. -/
def effective : Level → Level
  | notset => warning
  | l => l

/-- Whether a log of the level admits a note of the other. -/
def admits (threshold l : Level) : Bool :=
  threshold.effective.rank ≤ l.rank

end Level

/-- A line for the log. -/
structure Note where
  level : Level
  message : String
  context : Json.Fields

/-- The message followed by the context, its keys sorted. -/
def Note.text (c : Json.Codec) (n : Note) : Except Json.WriteError String :=
  if n.context.isEmpty then .ok n.message
  else
    ((Json.sortKeys (.obj n.context)).write c (.ascii c.standins)).map fun context =>
      n.message ++ " | Context: " ++ context

/-- What keeps a note from being written. -/
def Note.error? (c : Json.Codec) (n : Note) : Option Json.WriteError :=
  match n.text c with
  | .ok _ => none
  | .error e => some e

/-- What keeps the first of some notes that cannot be written from being written. -/
def unwritable? (c : Json.Codec) (notes : List Note) : Option Json.WriteError :=
  notes.findSome? (Note.error? c)

end PeopleFeed.Log
