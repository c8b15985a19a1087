import PeopleFeed.Feed.Machine
import PeopleFeed.Feed.Policy

/-!
Assembling a feed: the request is checked, the run is made, and its end is told. A denial ends
the feed early with what was collected, a failing backend leaves no feed, and any other fault
passes through.
-/
namespace PeopleFeed.Feed

open PeopleFeed.Json (Value Fields)

/-- A feed. It tells whether a denial cut it short and whether it has too few records. -/
structure Result where
  requester : String
  quota : Count
  records : List Record
  states : List AssemblyState
  denied : Option Denial
  shortfall : Bool

namespace Result

def targets (r : Result) : List String :=
  r.records.map (·.target)

/-- The last state. -/
def state? (r : Result) : Option AssemblyState :=
  r.states.getLast?

def complete (r : Result) : Bool :=
  r.denied.isNone

end Result

/-- Why there is no feed. -/
inductive AssemblyError
  /-- A backend failed. -/
  | failed (requester : String) (outage : Outage)
  /-- A fault passed through. -/
  | raised (fault : Fault)
  /-- The run was not over after the steps it had. -/
  | unfinished

def AssemblyError.message : AssemblyError → String
  | failed requester outage => s!"Feed assembly failed for {requester}: {outage.message}"
  | raised fault => fault.message
  | unfinished => "Feed assembly has not ended"

/-- What assembling a feed leaves behind. -/
structure Outcome (σ τ : Type) where
  result : Except AssemblyError Result
  env : σ
  shuffler : τ
  calls : List Call
  events : List Event

/-- The criteria of a search: the requester, and what the caller adds or overrides. -/
def searchCriteria (requester : String) (extra : Fields) : Fields :=
  Fields.update [("userid", .str requester)] extra

variable {σ τ : Type}

/-- The feed of a run that has ended, by a denial or without a fault. -/
def resultOf (p : Policy) (quota : Count) (denied : Option Denial) (s : State σ τ) : Result :=
  { requester := s.ledger.requester
    quota
    records := s.records
    states := s.states ++ [.done]
    denied
    shortfall := s.records.length < p.minimumAcceptable.toInt }

/-- The events behind the end of a run: a denial or a failure, and a feed that falls short. -/
def closingEvents (p : Policy) (quota : Count) (s : State σ τ) : List Event :=
  let requester := s.ledger.requester
  let short (denied : Option Denial) : List Event :=
    if (resultOf p quota denied s).shortfall then
      [.fellShort requester quota p.minimumAcceptable s.records.length]
    else []
  match s.stage with
  | .halted none => short none
  | .halted (some (.denial d)) => .denied requester d :: short (some d)
  | .halted (some (.outage o)) => [.failed requester o]
  | _ => []

/-- How a run has ended. -/
def conclude (p : Policy) (quota : Count) (s : State σ τ) : Except AssemblyError Result :=
  match s.stage with
  | .halted none => .ok (resultOf p quota none s)
  | .halted (some (.denial d)) => .ok (resultOf p quota (some d) s)
  | .halted (some (.outage o)) => .error (.failed s.ledger.requester o)
  | .halted (some fault) => .error (.raised fault)
  | _ => .error .unfinished

/-- What a caller asks for. -/
structure Order where
  requester : String
  criteria : Fields
  itemsPerPage : Option Value

/-- The page size of an order whose requester is named. -/
def Order.check (p : Policy) (o : Order) : Except Breach Count :=
  if o.requester = "" then .error .missingRequester else p.resolveQuota o.itemsPerPage

/-- The request of an order with its page size. -/
def Order.request (o : Order) (quota : Count) (fieldNames : List String) : Request :=
  { requester := o.requester
    quota := quota.toNat
    fieldNames
    criteria := searchCriteria o.requester o.criteria }

/-- Assembles a feed. An order that breaks the contract calls nobody and counts as no run. -/
def assemble (c : Collaborators σ) (sh : Shuffler τ) (p : Policy) (fieldNames : List String)
    (fuel : Nat) (o : Order) (env : σ) (shuffler : τ) : Outcome σ τ :=
  match o.check p with
  | .error b => ⟨.error (.raised (.breach b)), env, shuffler, [], []⟩
  | .ok quota =>
    let s := run c sh (o.request quota fieldNames) fuel (.initial env shuffler o.requester)
    { result := conclude p quota s
      env := s.env
      shuffler := s.shuffler
      calls := s.calls
      events := .started :: s.events ++ closingEvents p quota s }

end PeopleFeed.Feed
