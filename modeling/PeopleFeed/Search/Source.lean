import PeopleFeed.Search.Paging
import PeopleFeed.Search.ResultsFile

/-!
Sources of search results. A source is lazy: opening it does nothing, and what it has to read or
to request is read or requested by a pull. Once it has ended or failed it gives nothing more.
-/
namespace PeopleFeed.Search

open PeopleFeed.Json (Value Fields)

/-- A prepared stream: items, which may come round again, and a fault in the place of one. -/
structure Script where
  items : List (Except Fault Candidate)
  cycles : Bool
  /-- The fault, and the number of the item in whose place it comes; a list that is shorter ends
  with it. -/
  faultAt : Option (Nat × Fault)

/-- The item of a number; none behind the last. -/
def Script.item? (s : Script) (n : Nat) : Option (Except Fault Candidate) :=
  s.items[if s.cycles then n % s.items.length else n]?

/-- What a pull of the item of a number gives, and whether an item was taken for it. -/
def Script.pull (s : Script) (n : Nat) : Except Fault (Option Candidate) × Bool :=
  match s.faultAt, s.item? n with
  | some (_, fault), none => (.error fault, false)
  | some (k, fault), some item => if n = k then (.error fault, false) else (item.map some, true)
  | none, none => (.ok none, false)
  | none, some item => (item.map some, true)

/-- A prepared stream at work: the number of the next item unless it is exhausted, how many
items were pulled in all, the criteria of its opening and those of the last pull. -/
structure Prepared where
  script : Script
  position : Option Nat
  pulled : Nat
  opened : Fields
  criteria : Option Fields

/-- A stream over documents that are read at the first pull. -/
inductive Reading
  | unread
  | left (documents : List Value)
  | exhausted

/-- A source of search results. -/
inductive Source
  | empty
  | prepared (p : Prepared)
  | file (codec : Json.Codec) (path : String) (content : Json.File) (reading : Reading)
  /-- A search of an endpoint: what its requests will become, in order, and those sent. -/
  | endpoint (e : Endpoint) (paging : Paging) (ahead : List Transport) (sent : List PageRequest)

/-- The server that answers as prepared; behind the last answer it is not reached. -/
def preparedServer : Server (List Transport × List PageRequest) where
  send request state :=
    match state with
    | ([], sent) => (.disconnected "no response scripted", [], sent ++ [request])
    | (t :: ahead, sent) => (t, ahead, sent ++ [request])

namespace Source

def ofScript (s : Script) : Source :=
  .prepared ⟨s, none, 0, [], none⟩

def ofFile (c : Json.Codec) (path : String) (content : Json.File) : Source :=
  .file c path content .exhausted

def ofEndpoint (e : Endpoint) (ahead : List Transport) (sent : List PageRequest) : Source :=
  .endpoint e .closed ahead sent

/-- Opens a stream for criteria. -/
def query (criteria : Fields) : Source → Source
  | empty => empty
  | prepared p => prepared { p with position := some 0, opened := criteria }
  | file c path content _ => file c path content .unread
  | endpoint e _ ahead sent => endpoint e (.awaiting criteria 0) ahead sent

/-- Pulls from a list of documents. -/
def pullReading (documents : List Value) : Except Fault (Option Candidate) × Reading :=
  match documents with
  | [] => (.ok none, .exhausted)
  | doc :: left =>
    match pullDocument doc with
    | .ok candidate => (.ok (some candidate), .left left)
    | .error fault => (.error fault, .exhausted)

/-- Pulls the next candidate. -/
def pull : Source → Pulled Source
  | empty => ⟨.ok none, [], empty⟩
  | prepared p =>
    match p.position with
    | none => ⟨.ok none, [], prepared p⟩
    | some n =>
      let (answer, taken) := p.script.pull n
      let goesOn := match answer with
        | .ok (some _) => some (n + 1)
        | _ => none
      ⟨answer, [], prepared
        { p with
          position := goesOn
          pulled := if taken then p.pulled + 1 else p.pulled
          criteria := some p.opened }⟩
  | file c path content reading =>
    match reading with
    | .exhausted => ⟨.ok none, [], file c path content .exhausted⟩
    | .left documents =>
      let (answer, reading) := pullReading documents
      ⟨answer, [], file c path content reading⟩
    | .unread =>
      match readResults c path content with
      | .error fault => ⟨.error fault, [], file c path content .exhausted⟩
      | .ok documents =>
        let (answer, reading) := pullReading documents
        ⟨answer, [], file c path content reading⟩
  | endpoint e paging ahead sent =>
    let (p, ahead, sent) := paging.pull preparedServer e (ahead, sent)
    ⟨p.answer, p.notes, endpoint e p.after ahead sent⟩

end Source

end PeopleFeed.Search
