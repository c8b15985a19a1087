import PeopleFeed.Search.Candidate
import PeopleFeed.Text.Blank

/-!
Search documents: JSON values that candidates are made of. The two reserved fields may come as a
list, whose first item counts.
-/
namespace PeopleFeed.Search

open PeopleFeed.Json (Value Fields)

/-- What is wrong with a search document. -/
inductive DocumentProblem
  | notAnObject (typeName : String)
  | missingPath
  | blankPath
  | badResourceType
  deriving DecidableEq, Repr

def DocumentProblem.message : DocumentProblem → String
  | .notAnObject typeName => "Search document must be an object, got " ++ typeName
  | .missingPath => "Missing required field: path"
  | .blankPath => "Field 'path' must be a non-empty string"
  | .badResourceType => "Field 'resourceType' must be a string if provided"

/-- The text of a value that is a text and not blank. -/
def namingText? : Value → Option String
  | .str s => if Text.isBlank s then none else some s
  | _ => none

/-- The problems of the fields of a document. -/
def fieldProblems (fields : Fields) : List DocumentProblem :=
  (match fields.get? "path" with
    | none => [.missingPath]
    | some v => if (namingText? v).isSome then [] else [.blankPath]) ++
  (match fields.get? "resourceType" with
    | none => []
    | some v => if v.string?.isSome then [] else [.badResourceType])

/-- The problems of a document; a good one has none. -/
def validateDocument : Value → List DocumentProblem
  | .obj fields => fieldProblems fields
  | v => [.notAnObject v.typeName]

/-- The first item of a list, null for an empty one; other values stand for themselves. -/
def firstValue : Value → Value
  | .arr [] => .null
  | .arr (v :: _) => v
  | v => v

def isReserved (key : String) : Bool :=
  key == "path" || key == "resourceType"

/-- The fields with the reserved ones reduced to their first value. -/
def unwrapReserved (fields : Fields) : Fields :=
  fields.map fun f => if isReserved f.1 then (f.1, firstValue f.2) else f

/-- The candidate that a document describes. -/
def candidateOfDocument (doc : Value) : Except (List DocumentProblem) Candidate :=
  match doc with
  | .obj fields =>
    let fields := unwrapReserved fields
    match fieldProblems fields with
    | [] =>
      .ok
        { resourceType := (fields.get? "resourceType").bind Value.string?
          path := ((fields.get? "path").bind Value.string?).getD ""
          properties := fields.filter fun f => !isReserved f.1 }
    | problems => .error problems
  | v => .error (validateDocument v)

end PeopleFeed.Search
