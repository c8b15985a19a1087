import PeopleFeed.Disk.Files
import PeopleFeed.Environment.Variables

/-! What the program is given from outside and does not decide: how databases are kept, how
environment files are read, and how many brackets of JSON fit inside of each other. -/
namespace PeopleFeed.Command

/-- The places of the program at which JSON is read or written. The deeper the calls that lead
there, the less room is left. -/
inductive Site
  /-- A loader of seeds reads a seed before it loads it. -/
  | trial
  | loading
  | seeding
  | results
  | response
  | feed
  | notes
  deriving DecidableEq, Repr

/-- What the program is given. A feed always has room for a record with its profile. -/
structure Platform where
  engine : Disk.Engine
  environment : Environment.Reader
  standins : Text.Standins
  room : Site → Nat
  room_feed : 2 ≤ room .feed

/-- What JSON is read and written by at a place of the program. -/
def Platform.codec (p : Platform) (site : Site) : Json.Codec :=
  ⟨Text.maxDigits, p.room site, p.standins⟩

end PeopleFeed.Command
