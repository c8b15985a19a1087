import PeopleFeed.Json.Value

/-!
Candidates: what a search finds. The resource type tells how the path of a candidate names a
person; candidates of other types name nobody.
-/
namespace PeopleFeed.Search

/-- One item of the ranked search results. -/
structure Candidate where
  resourceType : Option String
  path : String
  properties : Json.Fields
  deriving Inhabited

/-- The kinds of candidates. -/
inductive Kind
  | contact
  | entity
  | unrecognized
  deriving DecidableEq, Repr

namespace Kind

/-- The resource type of a kind. -/
def resourceType : Kind → String
  | contact => "sakai/contact"
  | entity => "authorizable"
  | unrecognized => "unrecognized"

def ofResourceType (type : Option String) : Kind :=
  if type = some contact.resourceType then contact
  else if type = some entity.resourceType then entity
  else unrecognized

end Kind

/-- A candidate of a recognized kind whose path names nobody. -/
structure NamelessPath where
  kind : Kind
  path : String
  deriving DecidableEq, Repr

/-- The text after the last slash. -/
def lastSegment (path : String) : String :=
  String.ofList (path.toList.reverse.takeWhile (· != '/')).reverse

namespace Candidate

def kind (c : Candidate) : Kind :=
  Kind.ofResourceType c.resourceType

/-- What the path names by its kind: the last segment for a contact, which lies in its owner's
folder, and the whole path for an entity. -/
def name? (c : Candidate) : Option String :=
  match c.kind with
  | .contact => some (lastSegment c.path)
  | .entity => some c.path
  | .unrecognized => none

/-- The id that the candidate points at; an unrecognized one points at none, and a recognized one
has to point at one that is not empty. -/
def entityId (c : Candidate) : Except NamelessPath (Option String) :=
  match c.name? with
  | none => .ok none
  | some id => if id = "" then .error ⟨c.kind, c.path⟩ else .ok (some id)

theorem entityId_ne_empty {c : Candidate} {id : String} (h : c.entityId = .ok (some id)) :
    id ≠ "" := by
  simp only [entityId] at h
  split at h
  · cases h
  · split at h
    · cases h
    · cases h
      assumption

theorem entityId_eq_error_iff {c : Candidate} {path : NamelessPath} :
    c.entityId = .error path ↔ c.name? = some "" ∧ path = ⟨c.kind, c.path⟩ := by
  simp only [entityId]
  split
  · rename_i hname
    simp [hname]
  · rename_i id hname
    by_cases hid : id = ""
    · simp [hname, hid, eq_comm]
    · simp [hname, hid]

end Candidate

end PeopleFeed.Search
