import PeopleFeed.Directory.Tables
import PeopleFeed.Feed.Collaborators
import PeopleFeed.Search.Source

/-!
What a directory database answers to a viewer. A private account is shown only to itself and to
those who hold an accepted connection to it.
-/
namespace PeopleFeed.Directory

open PeopleFeed.Feed (Entity EntityKind Call Reply Collaborators)
open PeopleFeed.Json (Value Fields)
open PeopleFeed.Seed (ConnectionState ProfileField)

/-- The rows of a table; a statement on one that is not usable fails. -/
def rowsFor {α : Type} (statement : Statement) (t : Table α) : Except Fault (List α) :=
  match t.rows? with
  | some rows => .ok rows
  | none => .error (.outage (.statementFailed statement))

/-- The properties of an account: its profile fields that are not null. -/
def propertiesOf (e : Seed.AccountEntry) : Fields :=
  ProfileField.all.filterMap fun f => (e.columns.get f).map fun s => (f.name, .str s)

/-- The entity of an account. -/
def entityOf (e : Seed.AccountEntry) : Entity :=
  { kind := match e.kind with
      | .user => .profile
      | .group => .group
    id := e.id
    properties := propertiesOf e }

namespace Database

/-- Whether the viewer may read a private account. -/
def mayView (db : Database) (viewer id : String) : Except Fault Bool :=
  if id = viewer then .ok true
  else
    (rowsFor .findEntity db.connections).map fun rows =>
      rows.any fun r =>
        r.entry.owner == viewer && r.entry.target == id && r.entry.state == .accepted

/-- The entity of an id, as the viewer sees it. -/
def find (db : Database) (viewer : String) (id : Option String) :
    Except Fault (Option Entity) := do
  let rows ← rowsFor .findEntity db.accounts
  match rows.find? fun r => some r.entry.id == id with
  | none => pure none
  | some row =>
    if row.entry.isPrivate then
      if ← db.mayView viewer row.entry.id then pure (some (entityOf row.entry))
      else .error (.denial (.unreadable viewer row.entry.id))
    else pure (some (entityOf row.entry))

/-- Ids in code point order. -/
def sortedIds (ids : List String) : List String :=
  ids.mergeSort fun a b => a ≤ b

/-- The groups of a member. -/
def principals (db : Database) (member : String) : Except Fault (List String) :=
  (rowsFor .listPrincipals db.memberships).map fun rows =>
    sortedIds ((rows.filter fun r => r.member == member).map (·.group))

/-- The members of a group. -/
def members (db : Database) (group : String) : Except Fault (List String) :=
  (rowsFor .listMembers db.memberships).map fun rows =>
    sortedIds ((rows.filter fun r => r.group == group).map (·.member))

/-- Whether a row comes first: by the time of creation, then by the target. -/
def isBefore (a b : ConnectionRow) : Bool :=
  a.createdAt < b.createdAt || (a.createdAt == b.createdAt && a.entry.target ≤ b.entry.target)

/-- Those whom the owner has a connection to that stands as given. -/
def connected (db : Database) (owner : String) (state : ConnectionState) :
    Except Fault (List String) :=
  (rowsFor .listConnected db.connections).map fun rows =>
    ((rows.filter fun r => r.entry.owner == owner && r.entry.state == state).mergeSort
      isBefore).map (·.entry.target)

end Database

/-- A source of search results, and a database if there is a connection to one. -/
structure Backend where
  database : Except Surprise Database
  search : Search.Source

/-- What the database answers to a question. -/
def Backend.ask {α : Type} (b : Backend) (question : Database → Except Fault α) : Except Fault α :=
  (b.database.mapError .surprise).bind question

/-- The collaborators of a feed that the viewer asks for. -/
def collaborators (viewer : String) : Collaborators Backend where
  query criteria b := { b with search := b.search.query criteria }
  respond call b :=
    match call with
    | .connected requester => ⟨b.ask (·.connected requester .accepted), [], b⟩
    | .pull =>
      let p := b.search.pull
      ⟨p.answer, p.notes, { b with search := p.after }⟩
    | .find id => ⟨b.ask (·.find viewer id), [], b⟩
    | .principals profile => ⟨(b.ask (·.principals profile)).map (·.map some), [], b⟩
    | .members group => ⟨(b.ask (·.members group)).map (·.map some), [], b⟩

end PeopleFeed.Directory
