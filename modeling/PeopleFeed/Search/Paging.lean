import PeopleFeed.Fault
import PeopleFeed.Log.Note

/-!
Searching an endpoint page by page. A page is requested only when all documents of the one before
have been pulled, so that stopping early requests no more than needed. Whatever goes wrong on the
way is told as a denial, an outage or a malformed document.
-/
namespace PeopleFeed.Search

open PeopleFeed.Json (Value Fields)
open PeopleFeed.Log (Note)

/-- Where to search, how many documents a page has, how long to wait for it, and what responses are
read by. -/
structure Endpoint where
  url : String
  rows : Value
  timeout : Value
  codec : Json.Codec

/-- The page size of a search unless set otherwise. -/
def standardRows : Value := .int 25

/-- The seconds to wait for a page unless set otherwise. -/
def standardTimeout : Value := .int 20

/-- The request of a page. -/
structure PageRequest where
  url : String
  params : Fields
  timeout : Value

/-- What becomes of a request. -/
inductive Transport
  | answered (status : Nat) (body : String)
  | timedOut
  | disconnected (text : String)
  /-- An error of the protocol without a response. -/
  | unanswered
  /-- The response cannot be handled at all. -/
  | invalid

/-- A server: what becomes of a request, and what the server is afterwards. -/
structure Server (ρ : Type) where
  send : PageRequest → ρ → Transport × ρ

/-- The parameters of a request: the criteria may override the question and the format, and
nothing overrides the place and the size of the page. -/
def pageParams (e : Endpoint) (criteria : Fields) (start : Nat) : Fields :=
  ((Fields.update [("q", .str "*:*"), ("wt", .str "json")] criteria).insert
    "start" (.int start)).insert "rows" e.rows

def pageRequest (e : Endpoint) (criteria : Fields) (start : Nat) : PageRequest :=
  ⟨e.url, pageParams e criteria start, e.timeout⟩

/-- A page: its documents, and how many documents the search has found. -/
structure Page where
  documents : List Value
  found : Int

/-- Something read, or the fault that prevents it, with the notes written about it. -/
abbrev Noted (α : Type) := Except Fault α × List Note

/-- The URL as the context of a note, with more behind it. -/
def urlNote (level : Log.Level) (message : String) (e : Endpoint) (more : Fields) : Note :=
  ⟨level, message, ("url", .str e.url) :: more⟩

/-- A response with a status that tells of an error. -/
def statusFault (e : Endpoint) (status : Option Nat) : Noted Page :=
  match status with
  | some 401 => (.error (.denial (.search 401 e.url)), [])
  | some 403 => (.error (.denial (.search 403 e.url)), [])
  | status =>
    let shown : Value := match status with
      | some n => .int n
      | none => .null
    (.error (.outage (.requestFailed status e.url)),
      [urlNote .error "Search request failed" e [("status", shown)]])

/-- A request that fails on the way. -/
def requestFault (e : Endpoint) (text : String) : Noted Page :=
  (.error (.outage (.requestError text)),
    [urlNote .error "Search request error" e [("error", .str text)]])

/-- The number of documents that a search has found; none is told as zero. -/
def numFound (e : Endpoint) (response : Fields) : Except Fault Int :=
  let told := (response.get? "numFound").getD (.int 0)
  match told.toInteger with
  | .ok n => .ok n
  | .error .infinite => .error (.surprise (.integral .infinite))
  | .error _ =>
    .error (.outage (.badNumFound ((response.get? "numFound").getD .null) e.url))

/-- The page that a response object holds. What counts as false stands for no documents. -/
def pageOfResponse (e : Endpoint) (response : Fields) : Except Fault Page :=
  let told := (response.get? "docs").getD .null
  match if told.isTruthy then told else .arr [] with
  | .arr documents => (numFound e response).map fun found => ⟨documents, found⟩
  | _ => .error (.outage (.documentsNotAList e.url))

/-- The page that the body of a response holds. -/
def pageOfBody (e : Endpoint) (body : String) : Noted Page :=
  match Json.parse e.codec body with
  | .error (.malformed flaw line column offset) =>
    requestFault e (Json.ParseError.malformed flaw line column offset).message
  | .error (.tooManyDigits _) => (.error (.outage (.responseNotJson e.url)), [])
  | .error (.tooDeep bracket) => (.error (.surprise (.nestedTooDeep bracket)), [])
  | .ok data =>
    match data.get? "response" with
    | some (.obj response) => (pageOfResponse e response, [])
    | _ =>
      (.error (.outage (.malformedResponse e.url)),
        [urlNote .error "Search response has no response object" e []])

/-- The page that becomes of a request. -/
def pageOf (e : Endpoint) : Transport → Noted Page
  | .answered status body =>
    if 400 ≤ status && status < 600 then statusFault e (some status) else pageOfBody e body
  | .unanswered => statusFault e none
  | .timedOut =>
    (.error (.outage (.requestTimedOut e.url)),
      [urlNote .warning "Search request timed out" e []])
  | .disconnected text => requestFault e text
  | .invalid => (.error (.outage (.responseNotJson e.url)), [])

/-- The candidate of a document; a malformed one breaks the contract. -/
def pullDocument (doc : Value) : Except Fault Candidate :=
  (candidateOfDocument doc).mapError fun problems => .breach (.malformedDocument problems)

/-- How far a search has come. -/
inductive Paging
  /-- The page from `start` on is requested next. -/
  | awaiting (criteria : Fields) (start : Nat)
  /-- Documents of the last page are left, or it is known what comes behind them: `next` is the
  place of the next page, `found` the number of documents told with the last one. -/
  | serving (criteria : Fields) (left : List Value) (next : Nat) (found : Int)
  | closed

/-- What a pull gives: a candidate, or none at the end. -/
structure Pulled (π : Type) where
  answer : Except Fault (Option Candidate)
  notes : List Note
  after : π

/-- Pulls the first of some documents. -/
def pullFirst (criteria : Fields) (next : Nat) (found : Int) (notes : List Note) :
    List Value → Pulled Paging
  | [] => ⟨.ok none, notes, .closed⟩
  | doc :: left =>
    match pullDocument doc with
    | .ok candidate => ⟨.ok (some candidate), notes, .serving criteria left next found⟩
    | .error fault => ⟨.error fault, notes, .closed⟩

/-- Requests the page from `start` on and pulls its first document. -/
def pullPage {ρ : Type} (server : Server ρ) (e : Endpoint) (criteria : Fields) (start : Nat)
    (r : ρ) : Pulled Paging × ρ :=
  let (transport, r) := server.send (pageRequest e criteria start) r
  match pageOf e transport with
  | (.error fault, notes) => (⟨.error fault, notes, .closed⟩, r)
  | (.ok page, notes) =>
    (pullFirst criteria (start + page.documents.length) page.found notes page.documents, r)

/-- Pulls the next candidate of a search. -/
def Paging.pull {ρ : Type} (server : Server ρ) (e : Endpoint) (p : Paging) (r : ρ) :
    Pulled Paging × ρ :=
  match p with
  | closed => (⟨.ok none, [], closed⟩, r)
  | awaiting criteria start => pullPage server e criteria start r
  | serving criteria [] next found =>
    if found ≤ next then (⟨.ok none, [], closed⟩, r) else pullPage server e criteria next r
  | serving criteria left next found => (pullFirst criteria next found [] left, r)

end PeopleFeed.Search
