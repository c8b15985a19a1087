import PeopleFeed.Directory.Tables
import PeopleFeed.Fault

/-! What a connection to a directory database finds, and what may be done with it. -/
namespace PeopleFeed.Directory

open PeopleFeed.Seed (AccountEntry)

/-- What is found where a database is looked for. -/
inductive Stored
  | unopenable
  | garbage
  /-- A database, which stays as it is if it is sealed. -/
  | database (db : Database) (isSealed : Bool)
  /-- There is no connection at all. -/
  | barred (surprise : Surprise)

namespace Stored

/-- The database that answers questions. Where none can be read every statement fails, as it does
without tables. -/
def answering : Stored → Except Surprise Database
  | database db _ => .ok db
  | unopenable | garbage => .ok .bare
  | barred s => .error s

def isSealed : Stored → Bool
  | database _ isSealed => isSealed
  | unopenable | garbage | barred _ => false

/-- The database with its tables made. -/
def prepare : Stored → Except Surprise Database
  | unopenable => .error .statementRejected
  | garbage => .error .notADatabase
  | barred s => .error s
  | database db isSealed =>
    let made := db.createTables
    if isSealed && made != db then .error .statementRejected else .ok made

/-- Whether an account comes first: groups before users, then by id. -/
def isListedBefore (a b : AccountEntry) : Bool :=
  a.kind.name < b.kind.name || (a.kind.name == b.kind.name && a.id ≤ b.id)

/-- The accounts in the order of a listing. -/
def accounts : Stored → Except Surprise (List AccountEntry)
  | unopenable => .error .statementRejected
  | garbage => .error .notADatabase
  | barred s => .error s
  | database db _ =>
    match db.accounts.rows? with
    | some rows => .ok ((rows.map (·.entry)).mergeSort isListedBefore)
    | none => .error .statementRejected

end Stored

end PeopleFeed.Directory
