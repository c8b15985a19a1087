import PeopleFeed.Feed.Collaborators
import PeopleFeed.Search.Source
import PeopleFeed.Text.UpperCase

/-!
Collaborators held in memory. Their answers are set beforehand, and faults can be planted in their
calls.
-/
namespace PeopleFeed.Rehearsal

open PeopleFeed.Feed (Entity EntityKind Call Collaborators)
open PeopleFeed.Json (Fields)

/-- The kinds of faults that can be planted. -/
inductive Planted
  | denial
  | outage
  | breach
  | other
  deriving DecidableEq, Repr

def Planted.fault (p : Planted) (text : String) : Fault :=
  match p with
  | denial => .denial (.reported text)
  | outage => .outage (.reported text)
  | breach => .breach (.reported text)
  | other => .surprise (.reported text)

/-- An entity with the ids listed under it: a person's groups or a group's members. -/
structure Entry where
  entity : Entity
  listing : List (Option String)

/-- The properties of an entity for which none are given. -/
def defaultProperties (id : String) : Fields :=
  [("firstName", .str (Text.upper id))]

/-- A directory in memory: its entries, and the faults planted in lookups of an id. -/
structure Directory where
  entries : List Entry
  faults : List ((Statement × String) × Planted)

namespace Directory

/-- The directory with an entry in the place of those of the same id. -/
def put (d : Directory) (e : Entry) : Directory :=
  { d with entries := d.entries.filter (·.entity.id != e.entity.id) ++ [e] }

def get? (d : Directory) (id : String) : Option Entry :=
  d.entries.find? (·.entity.id == id)

def remove (d : Directory) (id : String) : Directory :=
  { d with entries := d.entries.filter (·.entity.id != id) }

/-- Plants a fault, or clears one. -/
def plant (d : Directory) (statement : Statement) (id : String) (p : Option Planted) :
    Directory :=
  { d with
    faults := d.faults.filter (·.1 != (statement, id)) ++
      (match p with
        | some p => [((statement, id), p)]
        | none => []) }

/-- The answer to a lookup of an id, unless a fault is planted in it. -/
def answer {α : Type} (d : Directory) (statement : Statement) (id : String) (a : α) :
    Except Fault α :=
  match d.faults.lookup (statement, id) with
  | some p => .error (p.fault (statement.name ++ " " ++ id))
  | none => .ok a

/-- The name by which nothing is looked up. -/
def nameOf (id : Option String) : String :=
  id.getD "None"

def find (d : Directory) (id : Option String) : Except Fault (Option Entity) :=
  d.answer .findEntity (nameOf id) ((id.bind d.get?).map (·.entity))

def listing (d : Directory) (statement : Statement) (id : String) :
    Except Fault (List (Option String)) :=
  d.answer statement id (((d.get? id).map (·.listing)).getD [])

end Directory

/-- Connections in memory; with a fault, every call fails. -/
structure Connections where
  connected : List (String × List String)
  fault : Option Planted

def Connections.answer (c : Connections) (requester : String) : Except Fault (List String) :=
  match c.fault with
  | some p => .error (p.fault "connections unavailable")
  | none => .ok ((c.connected.lookup requester).getD [])

/-- All collaborators of a feed. -/
structure Cast where
  directory : Directory
  connections : Connections
  search : Search.Source

/-- The collaborators that a cast plays. -/
def collaborators : Collaborators Cast where
  query criteria c := { c with search := c.search.query criteria }
  respond call c :=
    match call with
    | .connected requester => ⟨c.connections.answer requester, [], c⟩
    | .pull =>
      let p := c.search.pull
      ⟨p.answer, p.notes, { c with search := p.after }⟩
    | .find id => ⟨c.directory.find id, [], c⟩
    | .principals profile => ⟨c.directory.listing .listPrincipals profile, [], c⟩
    | .members group => ⟨c.directory.listing .listMembers group, [], c⟩

end PeopleFeed.Rehearsal
