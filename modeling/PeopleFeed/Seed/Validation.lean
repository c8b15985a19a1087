import PeopleFeed.Json.Literal
import PeopleFeed.Search.Document
import PeopleFeed.Seed.Entry

/-!
Directory seeds out of JSON values. A seed has up to three sections, each a list of entries; every
entry is checked by itself, and a seed is read only if nothing is wrong with any.
-/
namespace PeopleFeed.Seed

open PeopleFeed.Json (Value Fields)
open PeopleFeed.Search (namingText?)

/-- The sections of a seed. -/
inductive Part
  | accounts
  | memberships
  | connections
  deriving DecidableEq, Repr

def Part.name : Part → String
  | accounts => "accounts"
  | memberships => "memberships"
  | connections => "connections"

/-- What is wrong with an entry. -/
inductive EntryProblem
  | notAnObject
  | blankText (field : String)
  | unknownKind (found : Value)
  | badText (field : ProfileField)
  | unknownState (found : Value)

def EntryProblem.message : EntryProblem → String
  | .notAnObject => "must be an object"
  | .blankText field => s!"field '{field}' must be a non-empty string"
  | .unknownKind found => s!"unknown kind {found.literal}"
  | .badText field => s!"field '{field.name}' must be a string if provided"
  | .unknownState found => s!"unknown state {found.literal}"

/-- What is wrong with a seed. -/
inductive Problem
  | notAnObject
  | notAList (part : Part)
  | entry (part : Part) (index : Nat) (problem : EntryProblem)

def Problem.message : Problem → String
  | .notAnObject => "Seed must be a JSON object"
  | .notAList part => s!"Field '{part.name}' must be a list"
  | .entry part index problem => part.name ++ "[" ++ toString index ++ "]: " ++ problem.message

/-- The text under a key of an entry, if it is one and not blank. -/
def nameIn? (fields : Fields) (key : String) : Option String :=
  (fields.get? key).bind namingText?

/-- The problem of an entry without a name under a key. -/
def nameProblems (fields : Fields) (key : String) : List EntryProblem :=
  if (nameIn? fields key).isSome then [] else [.blankText key]

/-- The value under `kind`; an account is a user unless it says otherwise. -/
def kindValue (fields : Fields) : Value :=
  (fields.get? "kind").getD (.str AccountKind.user.name)

/-- The value under `state`; a connection is accepted unless it says otherwise. -/
def stateValue (fields : Fields) : Value :=
  (fields.get? "state").getD (.str ConnectionState.accepted.name)

def kind? (fields : Fields) : Option AccountKind :=
  (kindValue fields).string?.bind AccountKind.ofName?

def state? (fields : Fields) : Option ConnectionState :=
  (stateValue fields).string?.bind ConnectionState.ofName?

/-- Whether a profile field is absent, null or a text. -/
def isColumn : Option Value → Bool
  | none | some .null | some (.str _) => true
  | some _ => false

def columnProblems (fields : Fields) (f : ProfileField) : List EntryProblem :=
  if isColumn (fields.get? f.name) then [] else [.badText f]

/-- The problems of an account. -/
def accountProblems : Value → List EntryProblem
  | .obj fields =>
    nameProblems fields "id" ++
      (if (kind? fields).isSome then [] else [.unknownKind (kindValue fields)]) ++
      ProfileField.all.flatMap (columnProblems fields)
  | _ => [.notAnObject]

/-- The problems of a membership. -/
def membershipProblems : Value → List EntryProblem
  | .obj fields => nameProblems fields "group" ++ nameProblems fields "member"
  | _ => [.notAnObject]

/-- The problems of a connection. -/
def connectionProblems : Value → List EntryProblem
  | .obj fields =>
    nameProblems fields "owner" ++ nameProblems fields "target" ++
      (if (state? fields).isSome then [] else [.unknownState (stateValue fields)])
  | _ => [.notAnObject]

/-- The problems of an entry of a section. -/
def Part.entryProblems : Part → Value → List EntryProblem
  | accounts => accountProblems
  | memberships => membershipProblems
  | connections => connectionProblems

/-- The problems of the entries from the given index on. -/
def listProblems (part : Part) (index : Nat) : List Value → List Problem
  | [] => []
  | v :: rest =>
    (part.entryProblems v).map (Problem.entry part index) ++ listProblems part (index + 1) rest

/-- The problems of a section, which may be absent. -/
def partProblems (fields : Fields) (part : Part) : List Problem :=
  match fields.get? part.name with
  | none => []
  | some (.arr entries) => listProblems part 0 entries
  | some _ => [.notAList part]

/-- The problems of a seed; a good one has none. -/
def validate : Value → List Problem
  | .obj fields =>
    partProblems fields .accounts ++ partProblems fields .memberships ++
      partProblems fields .connections
  | _ => [.notAnObject]

/-- The account of an entry without problems. -/
def account? : Value → Option AccountEntry
  | .obj fields => do
    let id ← nameIn? fields "id"
    let kind ← kind? fields
    pure
      { id, kind
        columns := .ofFunction fun f => (Fields.get? f.name fields).bind Value.string?
        isPrivate := ((Fields.get? "private" fields).map Value.isTruthy).getD false }
  | _ => none

/-- The membership of an entry without problems. -/
def membership? : Value → Option MembershipEntry
  | .obj fields => do
    let group ← nameIn? fields "group"
    let member ← nameIn? fields "member"
    pure { group, member }
  | _ => none

/-- The connection of an entry without problems. -/
def connection? : Value → Option ConnectionEntry
  | .obj fields => do
    let owner ← nameIn? fields "owner"
    let target ← nameIn? fields "target"
    let state ← state? fields
    pure { owner, target, state }
  | _ => none

/-- The entries of a section. -/
def entriesOf (v : Value) (part : Part) : List Value :=
  match v.get? part.name with
  | some (.arr entries) => entries
  | _ => []

end Seed

/-- The entries of a directory seed. -/
structure Seed where
  accounts : List Seed.AccountEntry
  memberships : List Seed.MembershipEntry
  connections : List Seed.ConnectionEntry
  deriving DecidableEq, Repr

namespace Seed

/-- The seed that a value without problems describes. -/
def ofValue (v : Json.Value) : Except (List Problem) Seed :=
  match validate v with
  | [] =>
    .ok
      { accounts := (entriesOf v .accounts).filterMap account?
        memberships := (entriesOf v .memberships).filterMap membership?
        connections := (entriesOf v .connections).filterMap connection? }
  | problems => .error problems

theorem account?_isSome_of_accountProblems {v : Json.Value} (h : accountProblems v = []) :
    (account? v).isSome := by
  cases v <;> simp_all [accountProblems, account?, nameProblems, Option.isSome_iff_exists]
  obtain ⟨⟨id, hid⟩, ⟨kind, hkind⟩, _⟩ := h
  simp [hid, hkind]

theorem membership?_isSome_of_membershipProblems {v : Json.Value}
    (h : membershipProblems v = []) : (membership? v).isSome := by
  cases v <;> simp_all [membershipProblems, membership?, nameProblems, Option.isSome_iff_exists]
  obtain ⟨⟨group, hgroup⟩, member, hmember⟩ := h
  simp [hgroup, hmember]

theorem connection?_isSome_of_connectionProblems {v : Json.Value}
    (h : connectionProblems v = []) : (connection? v).isSome := by
  cases v <;> simp_all [connectionProblems, connection?, nameProblems, Option.isSome_iff_exists]
  obtain ⟨⟨owner, howner⟩, ⟨target, htarget⟩, state, hstate⟩ := h
  simp [howner, htarget, hstate]

end Seed

end PeopleFeed
