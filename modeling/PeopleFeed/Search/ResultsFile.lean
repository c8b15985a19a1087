import PeopleFeed.Fault

/-! Search results out of a file: a list of documents, alone or as the response of a search. -/
namespace PeopleFeed.Search

open PeopleFeed.Json (Value Fields)

/-- The documents of a search that a value holds. -/
def documentsIn? : Value → Option (List Value)
  | .arr documents => some documents
  | .obj fields =>
    match Fields.get? "response" fields with
    | some (.obj response) =>
      match Fields.get? "docs" response with
      | none => some []
      | some (.arr documents) => some documents
      | some _ => none
    | _ => none
  | _ => none

/-- The documents in the file under a path. -/
def readResults (c : Json.Codec) (path : String) (file : Json.File) : Except Fault (List Value) :=
  match file.read c path with
  | .error (.content (.json (.tooDeep bracket))) => .error (.surprise (.nestedTooDeep bracket))
  | .error e => .error (.outage (.unreadableResults path e))
  | .ok v =>
    match documentsIn? v with
    | some documents => .ok documents
    | none => .error (.outage (.resultsNotAList path))

end PeopleFeed.Search
