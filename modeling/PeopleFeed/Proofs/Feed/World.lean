import Mathlib
import PeopleFeed.Feed.Assembly

/-! Collaborators that answer a question always in the same way, and give a stream in its order.
How they keep their state is left open. -/
namespace PeopleFeed.Feed

open PeopleFeed.Json (Fields)

variable {σ : Type}

/-- What the pulls of a stream give, the first at zero. -/
abbrev Ahead := Nat → Except Fault (Option Search.Candidate)

/-- Answers that depend on the question alone. -/
structure World where
  stream : Fields → Ahead
  answer : (call : Call) → Except Fault call.Answer

/-- The collaborators answer as the world does. `At` relates their state to what lies ahead on the
stream. -/
structure Plays (c : Collaborators σ) (w : World) (At : σ → Ahead → Prop) : Prop where
  query : ∀ criteria env ahead, At env ahead → At (c.query criteria env) (w.stream criteria)
  pull : ∀ env ahead, At env ahead →
    (c.respond .pull env).answer = ahead 0 ∧
      At (c.respond .pull env).env fun n => ahead (n + 1)
  answer : ∀ call env ahead, call ≠ .pull → At env ahead →
    (c.respond call env).answer = w.answer call ∧ At (c.respond call env).env ahead

/-- The plainest collaborators of a world: their state is what lies ahead. -/
def World.collaborators (w : World) : Collaborators Ahead where
  query criteria _ := w.stream criteria
  respond call ahead :=
    match call with
    | .pull => ⟨ahead 0, [], fun n => ahead (n + 1)⟩
    | call => ⟨w.answer call, [], ahead⟩

theorem World.plays (w : World) : Plays w.collaborators w Eq where
  query := by
    rintro criteria env _ rfl
    rfl
  pull := by
    rintro env _ rfl
    exact ⟨rfl, rfl⟩
  answer := by
    rintro call env _ hc rfl
    cases call with
    | pull => exact absurd rfl hc
    | _ => exact ⟨rfl, rfl⟩

/-- A directory whose lookups all succeed, each answered by the id alone. -/
structure Register where
  find : Option String → Option Entity
  principals : String → List (Option String)
  members : String → List (Option String)

/-- The world of a finite stream, known connections and a directory, where nothing fails. -/
def World.calm (stream : Fields → List Search.Candidate) (connected : String → List String)
    (d : Register) : World where
  stream criteria n := .ok (stream criteria)[n]?
  answer
    | .connected requester => .ok (connected requester)
    | .pull => .ok none
    | .find id => .ok (d.find id)
    | .principals profile => .ok (d.principals profile)
    | .members group => .ok (d.members group)

end PeopleFeed.Feed
