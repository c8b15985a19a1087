import PeopleFeed.Fault
import PeopleFeed.Feed.Record
import PeopleFeed.Log.Note

/-!
The collaborators of a feed: the stream of search results, the connections of people and the
directory of people and groups. They answer calls and may change with every call.
-/
namespace PeopleFeed.Feed

/-- A call of a collaborator. Listings of the directory may hold nothing in the place of an id,
and such a place may be looked up. -/
inductive Call
  | connected (requester : String)
  | pull
  | find (id : Option String)
  | principals (profile : String)
  | members (group : String)
  deriving DecidableEq, Repr

/-- What a call is answered with. -/
abbrev Call.Answer : Call → Type
  | connected _ => List String
  | pull => Option Search.Candidate
  | find _ => Option Entity
  | principals _ => List (Option String)
  | members _ => List (Option String)

/-- Whether a call goes to the directory. -/
def Call.isLookup : Call → Bool
  | connected _ | pull => false
  | find _ | principals _ | members _ => true

/-- What comes back from a call: the answer, the notes written on the way, and the collaborators
after the call. -/
structure Reply (σ α : Type) where
  answer : Except Fault α
  notes : List Log.Note
  env : σ

/-- Collaborators whose common state is a `σ`. Opening the stream sends nothing yet. -/
structure Collaborators (σ : Type) where
  query : Json.Fields → σ → σ
  respond : (call : Call) → σ → Reply σ call.Answer

end PeopleFeed.Feed
