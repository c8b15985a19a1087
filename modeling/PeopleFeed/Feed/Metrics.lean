import PeopleFeed.Decimal.Fixed
import PeopleFeed.Feed.Event

/-! Counters over the runs of a feed, and the notes that sum them up. -/
namespace PeopleFeed.Feed

open PeopleFeed.Decimal (Double)
open PeopleFeed.Json (Value)
open PeopleFeed.Log (Note)

/-- Counts by name, in the order in which the names came up. -/
abbrev Tally := List (String × Nat)

namespace Tally

/-- Counts one more under a name. -/
def bump (name : String) : Tally → Tally
  | [] => [(name, 1)]
  | (k, n) :: rest => if k = name then (k, n + 1) :: rest else (k, n) :: bump name rest

/-- The sum of all counts. -/
def total (t : Tally) : Nat :=
  (List.map Prod.snd t).foldr (· + ·) 0

def toValue (t : Tally) : Value :=
  .obj (List.map (fun e => (e.1, .int e.2)) t)

theorem total_bump (name : String) (t : Tally) : (bump name t).total = t.total + 1 := by
  induction t with
  | nil => simp [bump, total]
  | cons e rest ih =>
    obtain ⟨k, n⟩ := e
    by_cases h : k = name
    · simp [bump, total, h]
      omega
    · simp only [total] at ih
      simp [bump, total, h, ih]
      omega

end Tally

/-- The counters. -/
structure Metrics where
  runs : Nat
  considered : Nat
  emitted : Nat
  byPhase : Tally
  unrecognized : Tally
  denied : Nat
  shortfalls : Nat
  failures : Nat
  deriving Inhabited, DecidableEq, Repr

namespace Metrics

/-- All counters at zero. -/
def zero : Metrics :=
  ⟨0, 0, 0, [], [], 0, 0, 0⟩

/-- The name under which candidates of an unrecognized type are counted. -/
def typeKey (type : Option String) : String :=
  match type with
  | none | some "" => "<none>"
  | some t => t

/-- Counts an event. -/
def record (m : Metrics) : Event → Metrics
  | .started => { m with runs := m.runs + 1 }
  | .considered _ => { m with considered := m.considered + 1 }
  | .emitted phase =>
    { m with emitted := m.emitted + 1, byPhase := m.byPhase.bump phase.name }
  | .unrecognized c => { m with unrecognized := m.unrecognized.bump (typeKey c.resourceType) }
  | .denied .. => { m with denied := m.denied + 1 }
  | .fellShort .. => { m with shortfalls := m.shortfalls + 1 }
  | .failed .. => { m with failures := m.failures + 1 }
  | .noted _ | .skipped .. | .ungrouped _ | .drawn .. => m

/-- Counts events in their order. -/
def recordAll (m : Metrics) (events : List Event) : Metrics :=
  events.foldl record m

/-- The share of runs that fell short, to three places; there is none before the first run. -/
def shortfallRate? (m : Metrics) : Option Double :=
  if m.runs = 0 then none
  else some ((Double.ofRatio false m.shortfalls m.runs).roundTo 3)

/-- The counters as a JSON object. -/
def toValue (m : Metrics) : Value :=
  .obj <|
    [("runs", .int m.runs), ("candidates_considered", .int m.considered),
      ("records_emitted", .int m.emitted), ("records_by_phase", m.byPhase.toValue),
      ("unrecognized_kinds", m.unrecognized.toValue), ("access_denied", .int m.denied),
      ("shortfalls", .int m.shortfalls), ("failures", .int m.failures)] ++
    (match m.shortfallRate? with
      | some rate => [("shortfall_rate", .float rate)]
      | none => [])

/-- A headed list of counts, if there are any. -/
def tallyLines (heading : String) (t : Tally) : List String :=
  if t.isEmpty then []
  else heading :: List.map (fun e => s!"  {e.1}: {e.2}") t

/-- The lines that sum the counters up. -/
def summaryLines (m : Metrics) : List String :=
  ["=== Feed Assembly Metrics ===", s!"Runs: {m.runs} (failures: {m.failures})",
    s!"Records: {m.emitted} emitted from {m.considered} candidates"] ++
  tallyLines "Records by phase:" m.byPhase ++
  (match m.shortfallRate? with
    | some rate =>
      [s!"Shortfalls: {m.shortfalls}/{m.runs} (" ++ (rate.scaleBy 100).fixed 1 ++ "%)"]
    | none => []) ++
  (if m.denied = 0 then [] else [s!"Access denied: {m.denied}"]) ++
  tallyLines "Unrecognized kinds:" m.unrecognized

/-- The notes that sum the counters up. -/
def summary (m : Metrics) : List Note :=
  m.summaryLines.map fun line => ⟨.info, line, []⟩

end Metrics

end PeopleFeed.Feed
