import PeopleFeed.Seed.Validation

/-!
The tables of a directory database. A row is found by its key, and writing an entry replaces the
row of its key or adds one; a replaced row keeps the time of its creation, which is given to the
database from outside.
-/
namespace PeopleFeed.Directory

open PeopleFeed.Seed (AccountEntry MembershipEntry ConnectionEntry)

/-- An account and when its row was added. -/
structure AccountRow where
  entry : AccountEntry
  createdAt : Nat
  deriving DecidableEq, Repr

/-- A connection and when its row was added. -/
structure ConnectionRow where
  entry : ConnectionEntry
  createdAt : Nat
  deriving DecidableEq, Repr

/-- A table of a database: it may be absent, and there may be one of the same name that has other
columns. -/
inductive Table (α : Type)
  | absent
  | foreign
  | rows (rows : List α)
  deriving DecidableEq, Repr

/-- The rows of a table, if statements on it succeed. -/
def Table.rows? {α : Type} : Table α → Option (List α)
  | rows rs => some rs
  | absent | foreign => none

/-- The table after creating it if it is absent. -/
def Table.create {α : Type} : Table α → Table α
  | absent => rows []
  | t => t

/-- The tables. -/
structure Database where
  accounts : Table AccountRow
  memberships : Table MembershipEntry
  connections : Table ConnectionRow
  deriving DecidableEq, Repr

namespace Database

/-- A database without tables. -/
def bare : Database :=
  ⟨.absent, .absent, .absent⟩

/-- The database with the absent tables created. -/
def createTables (db : Database) : Database :=
  { accounts := db.accounts.create
    memberships := db.memberships.create
    connections := db.connections.create }

/-- A new directory database. -/
def fresh : Database :=
  bare.createTables

end Database

/-- The rows with the one that `matches` says replaced, if there is one. -/
def replaceRow? {α : Type} (isSame : α → Bool) (change : α → α) : List α → Option (List α)
  | [] => none
  | r :: rest =>
    if isSame r then some (change r :: rest)
    else (replaceRow? isSame change rest).map (r :: ·)

/-- Whether two connections join the same two accounts in the same direction. -/
def joinsSame (a b : ConnectionEntry) : Bool :=
  a.owner == b.owner && a.target == b.target

/-- When the rows of a loading are added: of each key at most one is. -/
structure Times where
  account : String → Nat
  connection : String → String → Nat

/-- Whatever is added is of one time. -/
def Times.constant (time : Nat) : Times :=
  ⟨fun _ => time, fun _ _ => time⟩

namespace Database

/-- Writes an account, at a time. -/
def putAccount (time : Nat) (db : Database) (e : AccountEntry) : Option Database :=
  db.accounts.rows?.map fun rows =>
    match replaceRow? (·.entry.id == e.id) ({ · with entry := e }) rows with
    | some rows => { db with accounts := .rows rows }
    | none => { db with accounts := .rows (rows ++ [⟨e, time⟩]) }

/-- Writes a membership. -/
def putMembership (db : Database) (e : MembershipEntry) : Option Database :=
  db.memberships.rows?.map fun rows =>
    if rows.contains e then db else { db with memberships := .rows (rows ++ [e]) }

/-- Writes a connection, at a time. -/
def putConnection (time : Nat) (db : Database) (e : ConnectionEntry) : Option Database :=
  db.connections.rows?.map fun rows =>
    match replaceRow? (fun r => joinsSame r.entry e) ({ · with entry := e }) rows with
    | some rows => { db with connections := .rows rows }
    | none => { db with connections := .rows (rows ++ [⟨e, time⟩]) }

/-- What an entry makes of a database; nothing if a statement fails. -/
abbrev Change := Database → Option Database

/-- The changes of the entries of a seed, section by section. -/
def changesOf (t : Times) (seed : Seed) : List Change :=
  seed.accounts.map (fun e db => db.putAccount (t.account e.id) e) ++
    seed.memberships.map (fun e db => db.putMembership e) ++
    seed.connections.map (fun e db => db.putConnection (t.connection e.owner e.target) e)

/-- Writes the entries of a seed; nothing if a statement fails. -/
def write (t : Times) (db : Database) (seed : Seed) : Option Database :=
  (changesOf t seed).foldlM (fun db change => change db) db

end Database

end PeopleFeed.Directory
