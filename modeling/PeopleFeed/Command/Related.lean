import PeopleFeed.Command.Surroundings
import PeopleFeed.Directory.Services
import PeopleFeed.Feed.Assembly

/-! The command that assembles the feed of a user out of the directory database. -/
namespace PeopleFeed.Command

open PeopleFeed.Directory (Backend)
open PeopleFeed.Feed (Call Collaborators Event)

/-- A path that is given, if it is not empty. -/
def givenPath? (path : Option String) : Option String :=
  (path.filter (· != "")).map Text.normalPath

/-- The path of the directory database: the one given or else that of the settings. -/
def databasePath (given : Option String) (s : Settings) : String :=
  (givenPath? given).getD s.databasePath

/-- The location of the database under a path, if anything is there. -/
def databaseAt (p : Platform) (path : String) (a : Surroundings) :
    Except Surprise (Option p.engine.Location) := do
  if ← a.disk.has path then (p.engine.locate path).map some else pure none

/-- The page size of a search: the number of items asked for, unless it is zero or missing. -/
def searchRows (o : RelatedOptions) (s : Settings) : Json.Value :=
  .int ((o.items.join.filter (· != 0)).getD s.itemsPerPage)

/-- The source of results that the options and the settings name: a file, or else an endpoint, or
else none. -/
def searchSource (p : Platform) (o : RelatedOptions) (s : Settings) (a : Surroundings) :
    Except Report Search.Source :=
  match givenPath? o.results with
  | some path =>
    match a.disk.has path with
    | .ok true => .ok (.ofFile (p.codec .results) path (a.disk.file p.engine path))
    | .ok false => .error (.refused ("Results file not found: " ++ path))
    | .error e => .error (.surprised e)
  | none =>
    match (o.searchUrl.filter (· != "")).or s.searchUrl with
    | some url =>
      let endpoint : Search.Endpoint :=
        ⟨url, searchRows o s, Search.standardTimeout, p.codec .response⟩
      .ok (.ofEndpoint endpoint a.ahead a.sent)
    | none => .ok .empty

/-- The order of a feed: that of its seed, or else the one around. -/
def feedOrder (o : RelatedOptions) (a : Surroundings) : Except Surprise Shuffler.Order :=
  match o.seed with
  | some (some n) => .ok (.random (.ofSeed n))
  | some none => .error (.valueMissing orderSwitch.name)
  | none => .ok a.order

/-- The request for a feed. A number of items that is missing is no number. -/
def RelatedOptions.order (o : RelatedOptions) : Feed.Order :=
  ⟨o.user, [], o.items.map fun n => n.elim (.arr []) Json.Value.int⟩

/-- What a feed is assembled from. -/
structure Ingredients (p : Platform) where
  location : p.engine.Location
  source : Search.Source
  policy : Feed.Policy
  order : Shuffler.Order

/-- Gathers what a feed is assembled from, or tells what is wrong with it. -/
def ingredients (p : Platform) (o : RelatedOptions) (s : Settings) (a : Surroundings) :
    Except Report (Ingredients p) := do
  let path := databasePath o.database s
  match ← (databaseAt p path a).mapError .surprised with
  | none => throw (.refused ("Directory database not found: " ++ path))
  | some location =>
    let source ← searchSource p o s a
    let policy ← s.policy.mapError fun b => .refused b.message
    let order ← (feedOrder o a).mapError .surprised
    pure ⟨location, source, policy, order⟩

/-- The texts that a question puts into a statement. -/
def textsIn : Call → List String
  | .connected id | .principals id | .members id => [id]
  | .find id => id.toList
  | .pull => []

/-- What keeps the note of a candidate from being written, if there has to be one. -/
def noteError? (c : Json.Codec) (candidate : Search.Candidate) : Option Json.WriteError :=
  if candidate.kind = .unrecognized then
    (Event.unrecognized candidate).note?.bind (Log.Note.error? c)
  else none

/-- What goes wrong with an answer that is no fault of the one who gives it: a text of the question
cannot be encoded, or a note about a candidate cannot be written. -/
def mishap? (p : Platform) : (call : Call) → call.Answer → Option Surprise
  | .pull, candidate => (candidate.bind (noteError? (p.codec .notes))).map .unwritable
  | call, _ => (p.standins.tearIn? (textsIn call)).map .unencodable

/-- The collaborators of a command. -/
def collaborators (p : Platform) (viewer : String) : Collaborators Backend where
  query := (Directory.collaborators viewer).query
  respond call b :=
    let reply := (Directory.collaborators viewer).respond call b
    let answer := reply.answer.bind fun a =>
      match mishap? p call a with
      | some s => .error (.surprise s)
      | none => .ok a
    { reply with answer }

/-- The feed assembled from a backend. -/
def assembleFeed (p : Platform) (o : RelatedOptions) (policy : Feed.Policy)
    (order : Shuffler.Order) (backend : Backend) : Feed.Outcome Backend Shuffler.Order :=
  Feed.assemble (collaborators p o.user) Shuffler.ofOrder policy Feed.publicFieldNames
    Feed.stepLimit o.order backend order

/-- What is printed of an assembled feed. -/
def reportFeed (p : Platform) (o : RelatedOptions) :
    Except Feed.AssemblyError Feed.Result → Report
  | .ok r =>
    let written := Feed.writeFeed (p.codec .feed) o.layout r.quota.toValue r.records
    match written.result with
    | .ok _ => .done written.text
    | .error s => ⟨written.text, .raised (.surprise s)⟩
  | .error (.raised (.breach b)) => .refused b.message
  | .error (.raised fault) => .raised fault
  | .error e => .refused e.message

/-- Assembles the feed of a user and prints it. The first question connects to the database. -/
def related (p : Platform) (o : RelatedOptions) (s : Settings) (a : Surroundings) :
    Report × Surroundings :=
  match ingredients p o s a with
  | .error report => (report, a)
  | .ok i =>
    let (disk, stored) := p.engine.connect i.location a.disk
    let out := assembleFeed p o i.policy i.order ⟨stored.answering, i.source⟩
    let a := if out.calls.isEmpty then a else { a with disk }
    let notes := Feed.notesOf out.events
    let report := match Log.unwritable? (p.codec .notes) notes with
      | some e => .surprised (.unwritable e)
      | none => reportFeed p o out.result
    (report, (a.note (p.codec .notes) notes).afterSearch out.env.search)

end PeopleFeed.Command
