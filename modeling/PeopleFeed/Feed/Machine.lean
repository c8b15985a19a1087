import PeopleFeed.Feed.Collaborators
import PeopleFeed.Feed.Event
import PeopleFeed.Feed.Ledger
import PeopleFeed.Shuffle.Basic

/-!
The run of a feed, step by step. First the ranked stream is pulled until the quota is met. If it
ends before, the members of the requester's groups are pooled, and the feed is filled from the
shuffled pool. A step makes at most one call of a collaborator; a fault in its answer ends the
run.
-/
namespace PeopleFeed.Feed

/-- What a run is for. -/
structure Request where
  requester : String
  quota : Nat
  fieldNames : List String
  criteria : Json.Fields

/-- The states of a run that its result tells. -/
inductive AssemblyState
  | consumingPrimary
  | consumingFallback
  | done
  deriving DecidableEq, Repr

def AssemblyState.name : AssemblyState → String
  | consumingPrimary => "consuming_primary"
  | consumingFallback => "consuming_fallback"
  | done => "done"

/-- Where a candidate comes from, and for the pool what is left of it. -/
inductive Origin
  | stream
  | pool (rest : List String)
  deriving DecidableEq, Repr

def Origin.phase : Origin → Phase
  | stream => .primary
  | pool _ => .fallback

/-- What a run does next. -/
inductive Stage
  /-- Ask for the requester's connections. -/
  | connecting
  /-- Pull the next search result, unless the quota is met. -/
  | pulling
  /-- Look a candidate up. -/
  | looking (origin : Origin) (id : String)
  /-- Turn to the groups, unless the quota is met. -/
  | drained
  /-- Look the requester up. -/
  | resolving
  /-- Ask for the requester's groups. -/
  | listing (profile : String)
  /-- Look the next group up. -/
  | grouping (todo : List (Option String))
  /-- Ask for the members of a group. -/
  | gathering (group : String) (todo : List (Option String))
  /-- Consider the next member of the pool, unless the quota is met. -/
  | filling (todo : List String)
  /-- Nothing: the run has ended, by a fault or without one. -/
  | halted (fault : Option Fault)

def Stage.isHalted : Stage → Bool
  | halted _ => true
  | _ => false

/-- Where a run goes on after a candidate. -/
def Origin.next : Origin → Stage
  | stream => .pulling
  | pool rest => .filling rest

/-- A run at some point. -/
structure State (σ τ : Type) where
  env : σ
  shuffler : τ
  stage : Stage
  ledger : Ledger
  records : List Record
  states : List AssemblyState
  /-- The number of the requester's groups. -/
  groups : Nat
  /-- The members of the groups looked up so far. -/
  pool : List String
  calls : List Call
  events : List Event

variable {σ τ : Type}

namespace State

/-- A run before its first step. -/
def initial (env : σ) (shuffler : τ) (requester : String) : State σ τ :=
  { env, shuffler
    stage := .connecting
    ledger := ⟨requester, [], []⟩
    records := []
    states := []
    groups := 0
    pool := []
    calls := []
    events := [] }

def log (s : State σ τ) (e : Event) : State σ τ :=
  { s with events := s.events ++ [e] }

/-- Goes on with a stage. -/
def goto (s : State σ τ) (stage : Stage) : State σ τ :=
  { s with stage }

/-- Makes a call and goes on with its answer; a fault halts the run. -/
def ask (c : Collaborators σ) (call : Call) (s : State σ τ)
    (next : call.Answer → State σ τ → State σ τ) : State σ τ :=
  let reply := c.respond call s.env
  let s :=
    { s with
      env := reply.env
      calls := s.calls ++ [call]
      events := s.events ++ reply.notes.map Event.noted }
  match reply.answer with
  | .ok a => next a s
  | .error f => s.goto (.halted (some f))

/-- Considers an id: if it is eligible it is looked up next. An empty id breaks the contract. -/
def consider (s : State σ τ) (origin : Origin) (id : String) : State σ τ :=
  if id = "" then s.goto (.halted (some (.breach (.badCandidateId (some id)))))
  else
    let s := s.log (.considered origin.phase)
    s.goto (if s.ledger.isEligible id then .looking origin id else origin.next)

/-- Emits the record of an id that stands for a person; others are skipped. -/
def settle (s : State σ τ) (fieldNames : List String) (phase : Phase) (id : String)
    (found : Option Entity) : State σ τ :=
  match found with
  | some ⟨.profile, entityId, properties⟩ =>
    { s with
      records := s.records ++ [⟨id, publicFields fieldNames ⟨.profile, entityId, properties⟩⟩]
      ledger := s.ledger.mark id
      events := s.events ++ [.emitted phase] }
  | _ => s.log (.skipped phase id)

/-- Takes a search result in. -/
def screen (s : State σ τ) (candidate : Search.Candidate) : State σ τ :=
  match candidate.entityId with
  | .error path => s.goto (.halted (some (.breach (.namelessPath path))))
  | .ok none => (s.log (.unrecognized candidate)).goto .pulling
  | .ok (some id) => s.consider .stream id

/-- The ids in a listing: places that hold nothing or an empty text are left out. -/
def namesIn (listing : List (Option String)) : List String :=
  listing.filterMap fun id => if id = some "" then none else id

/-- A pool with names added, each only once. -/
def pooled (pool names : List String) : List String :=
  names.foldl (fun acc name => acc.insert name) pool

/-- The pool in code point order. -/
def sortedPool (pool : List String) : List String :=
  pool.mergeSort fun a b => a ≤ b

/-- Draws the pool: sorted first, so that its order depends on nothing but its members. -/
def draw (sh : Shuffler τ) (s : State σ τ) : State σ τ :=
  let drawn := sh.shuffle s.shuffler (sortedPool s.pool)
  { s with shuffler := drawn.2, stage := .filling drawn.1 }

/-- Starts on the groups in a shuffled order; without groups the run is over. -/
def startGroups (sh : Shuffler τ) (requester : String) (s : State σ τ)
    (principals : List (Option String)) : State σ τ :=
  let s := { s with groups := principals.length, pool := [] }
  if principals.isEmpty then (s.log (.ungrouped requester)).goto (.halted none)
  else
    let shuffled := sh.shuffle s.shuffler principals
    { s with shuffler := shuffled.2, stage := .grouping shuffled.1 }

/-- Ends the run with the pool drawn. -/
def finishPool (requester : String) (s : State σ τ) : State σ τ :=
  (s.log (.drawn requester s.groups s.pool.length s.ledger.size)).goto (.halted none)

end State

/-- One step of a run; a run that has ended stays as it is. -/
def step (c : Collaborators σ) (sh : Shuffler τ) (rq : Request) (s : State σ τ) : State σ τ :=
  match s.stage with
  | .connecting =>
    s.ask c (.connected rq.requester) fun ids s =>
      { s with
        env := c.query rq.criteria s.env
        ledger := ⟨rq.requester, ids, []⟩
        states := s.states ++ [.consumingPrimary]
        stage := .pulling }
  | .pulling =>
    if s.ledger.size < rq.quota then
      s.ask c .pull fun found s =>
        match found with
        | none => s.goto .drained
        | some candidate => s.screen candidate
    else s.goto (.halted none)
  | .looking origin id =>
    s.ask c (.find (some id)) fun found s =>
      (s.settle rq.fieldNames origin.phase id found).goto origin.next
  | .drained =>
    if s.ledger.size < rq.quota then
      { s with states := s.states ++ [.consumingFallback], stage := .resolving }
    else s.goto (.halted none)
  | .resolving =>
    s.ask c (.find (some rq.requester)) fun found s =>
      match found with
      | some ⟨.profile, id, _⟩ => s.goto (.listing id)
      | _ => s.goto (.halted (some (.breach (.requesterNotFound (some rq.requester)))))
  | .listing profile =>
    s.ask c (.principals profile) fun principals s => s.startGroups sh rq.requester principals
  | .grouping [] => s.draw sh
  | .grouping (principal :: todo) =>
    if s.ledger.size < rq.quota then
      s.ask c (.find principal) fun found s =>
        match found with
        | some ⟨.group, id, _⟩ => s.goto (.gathering id todo)
        | _ => s.goto (.grouping todo)
    else s.draw sh
  | .gathering group todo =>
    s.ask c (.members group) fun members s =>
      { s with pool := State.pooled s.pool (State.namesIn members), stage := .grouping todo }
  | .filling [] => s.finishPool rq.requester
  | .filling (id :: todo) =>
    if s.ledger.size < rq.quota then s.consider (.pool todo) id else s.finishPool rq.requester
  | .halted _ => s

/-- Steps until a stage is reached where the run is to stop, at most as many as the fuel. -/
def runTo (stop : Stage → Bool) (c : Collaborators σ) (sh : Shuffler τ) (rq : Request) :
    Nat → State σ τ → State σ τ
  | 0, s => s
  | fuel + 1, s => if stop s.stage then s else runTo stop c sh rq fuel (step c sh rq s)

/-- Steps until the run has ended, at most as many as the fuel. -/
def run (c : Collaborators σ) (sh : Shuffler τ) (rq : Request) (fuel : Nat) (s : State σ τ) :
    State σ τ :=
  runTo Stage.isHalted c sh rq fuel s

/-- More steps than any machine makes. -/
def stepLimit : Nat := Nat.pow 2 60

end PeopleFeed.Feed
