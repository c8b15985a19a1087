import PeopleFeed.Directory.Tables
import PeopleFeed.Json.File
import PeopleFeed.Json.Printer

/-!
The bytes in which a directory database may be kept: a heading, which is no text so that nobody
reads an archive as a document, and one JSON value.
-/
namespace PeopleFeed.Directory.Archive

open PeopleFeed.Json (Value)
open PeopleFeed.Seed (AccountEntry AccountKind ConnectionState ProfileColumns ProfileField)

/-- What an archive starts with: a line of ASCII and a byte that no text has. -/
def standardHeading : List UInt8 :=
  Text.encodeUtf8 "PeopleFeed directory 1\n" ++ [0xFF]

def ofText? : Option String → Value
  | some s => .str s
  | none => .null

def text? : Value → Option (Option String)
  | .str s => some (some s)
  | .null => some none
  | _ => none

/-- What stands for a table with other columns. -/
def foreignMark : String := "foreign"

/-- A table with its rows written. -/
def ofTable {α : Type} (ofRow : α → Value) : Table α → Value
  | .absent => .null
  | .foreign => .str foreignMark
  | .rows rows => .arr (rows.map ofRow)

/-- Reads a table. -/
def table? {α : Type} (row? : Value → Option α) : Value → Option (Table α)
  | .null => some .absent
  | .str s => if s = foreignMark then some .foreign else none
  | .arr items => (items.mapM row?).map .rows
  | _ => none

def ofAccount (r : AccountRow) : Value :=
  .arr <|
    [.str r.entry.id, .str r.entry.kind.name, .bool r.entry.isPrivate, .int r.createdAt] ++
      ProfileField.all.map fun f => ofText? (r.entry.columns.get f)

def account? : Value → Option AccountRow
  | .arr [.str id, .str kind, .bool isPrivate, .int createdAt, firstName, lastName,
      preferredName, email, picture, department] => do
    let kind ← AccountKind.ofName? kind
    let firstName ← text? firstName
    let lastName ← text? lastName
    let preferredName ← text? preferredName
    let email ← text? email
    let picture ← text? picture
    let department ← text? department
    pure ⟨⟨id, kind, ⟨firstName, lastName, preferredName, email, picture, department⟩, isPrivate⟩,
      createdAt.toNat⟩
  | _ => none

def ofMembership (r : Seed.MembershipEntry) : Value :=
  .arr [.str r.group, .str r.member]

def membership? : Value → Option Seed.MembershipEntry
  | .arr [.str group, .str member] => some ⟨group, member⟩
  | _ => none

def ofConnection (r : ConnectionRow) : Value :=
  .arr [.str r.entry.owner, .str r.entry.target, .str r.entry.state.name, .int r.createdAt]

def connection? : Value → Option ConnectionRow
  | .arr [.str owner, .str target, .str state, .int createdAt] =>
    (ConnectionState.ofName? state).map fun state => ⟨⟨owner, target, state⟩, createdAt.toNat⟩
  | _ => none

/-- A database as a JSON value. -/
def ofDatabase (db : Database) : Value :=
  .arr [ofTable ofAccount db.accounts, ofTable ofMembership db.memberships,
    ofTable ofConnection db.connections]

/-- Reads a database. -/
def database? : Value → Option Database
  | .arr [accounts, memberships, connections] => do
    let accounts ← table? account? accounts
    let memberships ← table? membership? memberships
    let connections ← table? connection? connections
    pure ⟨accounts, memberships, connections⟩
  | _ => none

/-- The bytes of a database behind a heading. -/
def encode (heading : List UInt8) (db : Database) : List UInt8 :=
  heading ++ Text.encodeUtf8 ((ofDatabase db).toJson .plain)

/-- The database that bytes keep, if they are an archive. -/
def decode? (c : Json.Codec) (content : List UInt8) : Option Database :=
  if standardHeading.isPrefixOf content then
    match Json.parseBytes c (content.drop standardHeading.length) with
    | .ok v => database? v
    | .error _ => none
  else none

theorem account?_ofAccount (r : AccountRow) : account? (ofAccount r) = some r := by
  obtain ⟨⟨id, kind, ⟨a, b, c, d, e, f⟩, isPrivate⟩, createdAt⟩ := r
  cases kind <;> cases a <;> cases b <;> cases c <;> cases d <;> cases e <;> cases f <;> rfl

theorem membership?_ofMembership (r : Seed.MembershipEntry) :
    membership? (ofMembership r) = some r := rfl

theorem connection?_ofConnection (r : ConnectionRow) :
    connection? (ofConnection r) = some r := by
  obtain ⟨⟨owner, target, state⟩, createdAt⟩ := r
  cases state <;> rfl

theorem table?_ofTable {α : Type} {ofRow : α → Value} {row? : Value → Option α}
    (h : ∀ r, row? (ofRow r) = some r) (t : Table α) : table? row? (ofTable ofRow t) = some t := by
  cases t with
  | absent => rfl
  | foreign => rfl
  | rows rows =>
    have hm : (rows.map ofRow).mapM row? = some rows := by
      induction rows with
      | nil => rfl
      | cons r rows ih => simp [h, ih]
    simp [ofTable, table?, hm]

/-- A database is read back from its value. -/
theorem database?_ofDatabase (db : Database) : database? (ofDatabase db) = some db := by
  simp [database?, ofDatabase, table?_ofTable account?_ofAccount,
    table?_ofTable membership?_ofMembership, table?_ofTable connection?_ofConnection]

end PeopleFeed.Directory.Archive
