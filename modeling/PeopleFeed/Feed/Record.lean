import PeopleFeed.Seed.Entry

/-!
Entities of the directory and the records made of them: a record shows an account's id and those
of its public fields that hold something.
-/
namespace PeopleFeed.Feed

open PeopleFeed.Json (Value Fields)

/-- Whether an entity is a person's profile or a group. -/
inductive EntityKind
  | profile
  | group
  deriving DecidableEq, Repr

/-- What an id of the directory stands for. -/
structure Entity where
  kind : EntityKind
  id : String
  properties : Fields

/-- One unit of output: a person's id and public profile. -/
structure Record where
  target : String
  profile : Fields

/-- The names of the public fields in the order of output. -/
def publicFieldNames : List String :=
  Seed.ProfileField.all.map (·.name)

/-- Whether a field holds something worth showing: null and the empty text do not. -/
def isShown : Value → Bool
  | .null => false
  | .str s => s != ""
  | _ => true

/-- The public profile of an entity: its id followed by the named fields that hold something. -/
def publicFields (names : List String) (e : Entity) : Fields :=
  names.foldl
    (fun acc name =>
      match e.properties.get? name with
      | some v => if isShown v then acc.insert name v else acc
      | none => acc)
    [("userid", .str e.id)]

/-- The record as a JSON object. -/
def Record.toValue (r : Record) : Value :=
  .obj [("target", .str r.target), ("profile", .obj (Fields.ofEntries r.profile))]

end PeopleFeed.Feed
