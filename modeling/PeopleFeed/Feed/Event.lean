import PeopleFeed.Fault
import PeopleFeed.Feed.Count
import PeopleFeed.Log.Note

/-! What happens in the runs of a feed, and the log notes that tell of it. -/
namespace PeopleFeed.Feed

open PeopleFeed.Json (Value)
open PeopleFeed.Log (Note)

/-- Where records come from: the ranked stream or the requester's groups. -/
structure Phase where
  name : String
  deriving DecidableEq, Repr

def Phase.primary : Phase := ⟨"primary"⟩

def Phase.fallback : Phase := ⟨"fallback"⟩

/-- Something that happens in a run. -/
inductive Event
  | started
  | noted (note : Note)
  | unrecognized (candidate : Search.Candidate)
  | considered (phase : Phase)
  | skipped (phase : Phase) (id : String)
  | emitted (phase : Phase)
  | ungrouped (requester : String)
  | drawn (requester : String) (groups size count : Nat)
  | denied (requester : String) (denial : Denial)
  | failed (requester : String) (outage : Outage)
  | fellShort (requester : String) (quota minimum : Count) (found : Nat)

/-- A text or null. -/
def textValue : Option String → Value
  | some s => .str s
  | none => .null

/-- The note that tells of an event; some events are only counted. -/
def Event.note? : Event → Option Note
  | started | considered _ | emitted _ => none
  | noted note => some note
  | unrecognized c =>
    some ⟨.warning, "No handler for this resource type",
      [("resource_type", textValue c.resourceType), ("path", .str c.path),
        ("properties", .obj c.properties)]⟩
  | skipped phase id =>
    some ⟨.debug, "Skipping unresolvable candidate",
      [("target", .str id), ("phase", .str phase.name)]⟩
  | ungrouped requester =>
    some ⟨.debug, "Requester has no group memberships", [("requester", .str requester)]⟩
  | drawn requester groups size count =>
    some ⟨.debug, "Fallback pool drawn",
      [("requester", .str requester), ("groups", .int groups), ("pool_size", .int size),
        ("emitted", .int count)]⟩
  | denied requester denial =>
    some ⟨.debug, "Access denied, returning partial feed: " ++ denial.message,
      [("requester", .str requester)]⟩
  | failed requester outage =>
    some ⟨.error, "Feed assembly failed",
      [("requester", .str requester), ("error", .str outage.message)]⟩
  | fellShort requester quota minimum found =>
    some ⟨.info, s!"Feed shortfall: expected at least {minimum.text} results, got {found}",
      [("requester", .str requester), ("quota", quota.toValue)]⟩

/-- The notes that tell of events. -/
def notesOf (events : List Event) : List Note :=
  events.filterMap Event.note?

end PeopleFeed.Feed
