import PeopleFeed.Json.Value

/-! The entries of a directory seed: accounts, memberships of groups and connections. -/
namespace PeopleFeed.Seed

/-- What an account is for. -/
inductive AccountKind
  | user
  | group
  deriving DecidableEq, Repr, Inhabited

def AccountKind.name : AccountKind → String
  | user => "user"
  | group => "group"

def AccountKind.ofName? (name : String) : Option AccountKind :=
  [user, group].find? fun k => k.name = name

/-- How a connection stands. -/
inductive ConnectionState
  | accepted
  | pending
  | invited
  | blocked
  | ignored
  | rejected
  deriving DecidableEq, Repr, Inhabited

def ConnectionState.name : ConnectionState → String
  | accepted => "ACCEPTED"
  | pending => "PENDING"
  | invited => "INVITED"
  | blocked => "BLOCKED"
  | ignored => "IGNORED"
  | rejected => "REJECTED"

def ConnectionState.ofName? (name : String) : Option ConnectionState :=
  [accepted, pending, invited, blocked, ignored, rejected].find? fun s => s.name = name

/-- The fields of a profile, in the order in which they are shown. -/
inductive ProfileField
  | firstName
  | lastName
  | preferredName
  | email
  | picture
  | department
  deriving DecidableEq, Repr

def ProfileField.name : ProfileField → String
  | firstName => "firstName"
  | lastName => "lastName"
  | preferredName => "preferredName"
  | email => "email"
  | picture => "picture"
  | department => "department"

def ProfileField.all : List ProfileField :=
  [firstName, lastName, preferredName, email, picture, department]

/-- The fields of a profile with their values. -/
structure ProfileColumns where
  firstName : Option String
  lastName : Option String
  preferredName : Option String
  email : Option String
  picture : Option String
  department : Option String
  deriving DecidableEq, Repr, Inhabited

namespace ProfileColumns

def get (c : ProfileColumns) : ProfileField → Option String
  | .firstName => c.firstName
  | .lastName => c.lastName
  | .preferredName => c.preferredName
  | .email => c.email
  | .picture => c.picture
  | .department => c.department

def ofFunction (value : ProfileField → Option String) : ProfileColumns :=
  { firstName := value .firstName
    lastName := value .lastName
    preferredName := value .preferredName
    email := value .email
    picture := value .picture
    department := value .department }

theorem get_ofFunction (value : ProfileField → Option String) (f : ProfileField) :
    (ofFunction value).get f = value f := by
  cases f <;> rfl

end ProfileColumns

/-- A user or a group. -/
structure AccountEntry where
  id : String
  kind : AccountKind
  columns : ProfileColumns
  isPrivate : Bool
  deriving DecidableEq, Repr

/-- A member of a group. -/
structure MembershipEntry where
  group : String
  member : String
  deriving DecidableEq, Repr

/-- A connection from its owner to its target. -/
structure ConnectionEntry where
  owner : String
  target : String
  state : ConnectionState
  deriving DecidableEq, Repr

theorem AccountKind.ofName?_name (k : AccountKind) : ofName? k.name = some k := by
  cases k <;> decide

theorem ConnectionState.ofName?_name (s : ConnectionState) : ofName? s.name = some s := by
  cases s <;> decide

end PeopleFeed.Seed
