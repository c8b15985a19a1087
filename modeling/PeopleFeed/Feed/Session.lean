import PeopleFeed.Feed.Machine

/-!
The parts of a run one at a time: rendering a single candidate, consuming the stream, collecting
from the groups. They share the records, the ledger and the stream of one run.
-/
namespace PeopleFeed.Feed.Session

variable {σ τ : Type}

/-- What a part gives, and the run after it. The answer is missing if the part is not over after
the steps it had. -/
structure Part (σ τ α : Type) where
  answer : Option (Except Fault α)
  state : State σ τ

/-- A run with its stream opened. -/
def start (c : Collaborators σ) (env : σ) (shuffler : τ) (requester : String)
    (connected : List String) : State σ τ :=
  { State.initial (c.query [] env) shuffler requester with
    ledger := ⟨requester, connected, []⟩
    stage := .pulling }

/-- Renders one candidate; what is not eligible or stands for no person has no record. -/
def render (c : Collaborators σ) (fieldNames : List String) (phase : Phase)
    (id : Option String) (s : State σ τ) : Part σ τ (Option Record) :=
  match id with
  | none => ⟨some (.error (.breach (.badCandidateId none))), s⟩
  | some "" => ⟨some (.error (.breach (.badCandidateId (some "")))), s⟩
  | some id =>
    let s := s.log (.considered phase)
    if s.ledger.isEligible id then
      let before := s.records.length
      let s := (s.goto .pulling).ask c (.find (some id)) fun found s =>
        s.settle fieldNames phase id found
      match s.stage with
      | .halted (some fault) => ⟨some (.error fault), s⟩
      | _ => ⟨some (.ok s.records[before]?), s⟩
    else ⟨some (.ok none), s⟩

/-- Where the consumption of the stream is over. -/
def isConsumed : Stage → Bool
  | .drained | .halted _ => true
  | _ => false

/-- Consumes the stream: whether it was exhausted before the quota was met. -/
def consume (c : Collaborators σ) (sh : Shuffler τ) (rq : Request) (fuel : Nat)
    (s : State σ τ) : Part σ τ Bool :=
  let s := runTo isConsumed c sh rq fuel (s.goto .pulling)
  match s.stage with
  | .drained => ⟨some (.ok true), s⟩
  | .halted none => ⟨some (.ok false), s⟩
  | .halted (some fault) => ⟨some (.error fault), s⟩
  | _ => ⟨none, s⟩

/-- Fills up from the requester's groups: the people pooled from them. -/
def collect (c : Collaborators σ) (sh : Shuffler τ) (rq : Request) (fuel : Nat)
    (s : State σ τ) : Part σ τ (List String) :=
  let s := run c sh rq fuel (s.goto .resolving)
  match s.stage with
  | .halted none => ⟨some (.ok (State.sortedPool s.pool)), s⟩
  | .halted (some fault) => ⟨some (.error fault), s⟩
  | _ => ⟨none, s⟩

/-- Enters an id in the ledger. -/
def mark (id : String) (s : State σ τ) : State σ τ :=
  { s with ledger := s.ledger.mark id }

end PeopleFeed.Feed.Session
