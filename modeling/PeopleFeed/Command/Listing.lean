import PeopleFeed.Command.Related

/-! The command that lists the accounts of the directory. -/
namespace PeopleFeed.Command

/-- The name of an account: first and last name as far as there are any. -/
def fullName (e : Seed.AccountEntry) : String :=
  let parts := [e.columns.firstName, e.columns.lastName].map (·.getD "")
  String.intercalate " " (parts.filter (· != ""))

/-- The line of an account. -/
def listLine (e : Seed.AccountEntry) : String :=
  let name := fullName e
  "[" ++ e.kind.name ++ "] " ++ e.id ++ (if e.isPrivate then " (private)" else "") ++
    (if name = "" then "" else "  " ++ name) ++ "\n"

/-- The listing of the accounts in the database under a path. -/
def listText (path : String) : List Seed.AccountEntry → String
  | [] => "No accounts in directory.\n"
  | accounts =>
    s!"Found {accounts.length} accounts in {path}:\n\n" ++ String.join (accounts.map listLine)

/-- What is told of the accounts in the database under a path. -/
def listReport (path : String) : Except Surprise (List Seed.AccountEntry) → Report
  | .ok accounts => .done (listText path accounts)
  | .error e => .surprised e

/-- Lists the accounts of the directory. -/
def list (p : Platform) (o : ListOptions) (s : Settings) (a : Surroundings) :
    Report × Surroundings :=
  let path := databasePath o.database s
  match databaseAt p path a with
  | .error e => (.surprised e, a)
  | .ok none => (.done ("Directory database not found: " ++ path ++ "\n"), a)
  | .ok (some location) =>
    let (disk, stored) := p.engine.connect location a.disk
    (listReport path stored.accounts, { a with disk })

end PeopleFeed.Command
