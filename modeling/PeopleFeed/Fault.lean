import PeopleFeed.Directory.Address
import PeopleFeed.Json.File
import PeopleFeed.Json.Integral
import PeopleFeed.Json.Printer
import PeopleFeed.Search.Document
import PeopleFeed.Seed.Validation

/-!
What can go wrong, by cause. A caller may break its contract, a collaborator may refuse to show
something, a backend may fail; everything else is unexpected and passes through as it is.
-/
namespace PeopleFeed

open PeopleFeed.Json (Value)

/-- The numbers of items that a caller may set. -/
inductive Limit
  | defaultQuota
  | minimumAcceptable
  | itemsPerPage
  deriving DecidableEq, Repr

def Limit.name : Limit → String
  | defaultQuota => "default_quota"
  | minimumAcceptable => "minimum_acceptable"
  | itemsPerPage => "items_per_page"

def Limit.demand : Limit → String
  | minimumAcceptable => "a non-negative integer"
  | _ => "a positive integer"

/-- How a caller breaks its contract. -/
inductive Breach
  | missingRequester
  | badLimit (limit : Limit) (found : Value)
  | badCandidateId (id : Option String)
  | namelessPath (path : Search.NamelessPath)
  | requesterNotFound (id : Option String)
  | malformedDocument (problems : List Search.DocumentProblem)
  | unreadableSeed (path : String) (error : Json.ContentError)
  | invalidSeed (path : String) (problems : List Seed.Problem)
  | settingNotInteger (name raw : String)
  | settingNotLevel (name level : String) (allowed : List String)
  | reported (text : String)

def Breach.message : Breach → String
  | missingRequester => "requester_id must be a non-empty string"
  | badLimit limit found => s!"{limit.name} must be {limit.demand}, got {found.literal}"
  | badCandidateId id => s!"Candidate id must be a non-empty string, got {Json.literalText? id}"
  | namelessPath p =>
    s!"Missing entity id in {p.kind.resourceType} result path: {Text.quoted p.path}"
  | requesterNotFound id => "Requester not found: " ++ id.getD "None"
  | malformedDocument problems =>
    "Malformed search result: " ++ String.intercalate "; " (problems.map (·.message))
  | unreadableSeed path error => s!"Seed file {path} is not valid JSON: {error.message}"
  | invalidSeed path problems =>
    s!"Invalid seed file {path}: " ++ String.intercalate "; " (problems.map (·.message))
  | settingNotInteger name raw => s!"{name} must be an integer, got {Text.quoted raw}"
  | settingNotLevel name level allowed =>
    s!"{name} must be one of " ++ String.intercalate ", " allowed ++
      s!", got {Text.quoted level}"
  | reported text => text

/-- What a collaborator refuses to do. -/
inductive Denial
  | unreadable (viewer id : String)
  | search (status : Nat) (endpoint : String)
  | reported (text : String)
  deriving DecidableEq, Repr

def Denial.message : Denial → String
  | unreadable viewer id => s!"{viewer} may not read {id}"
  | search status endpoint => s!"Search request denied ({status}): {endpoint}"
  | reported text => text

/-- The statements that the directory services run. -/
inductive Statement
  | findEntity
  | listPrincipals
  | listMembers
  | listConnected
  deriving DecidableEq, Repr

def Statement.name : Statement → String
  | findEntity => "find_authorizable"
  | listPrincipals => "get_principals"
  | listMembers => "get_members"
  | listConnected => "get_connected_users"

/-- What stands for the text of a database error. -/
def databaseErrorText : String := "<sql>"

/-- What stands before a database error that shows when something else is looked up. -/
def lateFailureText : String :=
  "(raised as a result of Query-invoked autoflush; consider using a session.no_autoflush block " ++
    "if this flush is occurring prematurely)\n"

/-- How a backend fails. -/
inductive Outage
  | requestFailed (status : Option Nat) (endpoint : String)
  | requestTimedOut (endpoint : String)
  | requestError (text : String)
  | responseNotJson (endpoint : String)
  | malformedResponse (endpoint : String)
  | documentsNotAList (endpoint : String)
  | badNumFound (found : Value) (endpoint : String)
  | unreadableResults (path : String) (error : Json.FileError)
  | resultsNotAList (path : String)
  | statementFailed (statement : Statement)
  /-- Told is whether the failure shows only when something else is looked up. -/
  | seedNotLoaded (path : String) (isLate : Bool)
  | reported (text : String)

def Outage.message : Outage → String
  | requestFailed status endpoint =>
    let shown := match status with
      | some n => toString n
      | none => "None"
    s!"Search request failed ({shown}): {endpoint}"
  | requestTimedOut endpoint => s!"Search request timed out: {endpoint}"
  | requestError text => s!"Search request error: {text}"
  | responseNotJson endpoint => s!"Search response is not JSON: {endpoint}"
  | malformedResponse endpoint => s!"Malformed search response from {endpoint}"
  | documentsNotAList endpoint => s!"Search response 'docs' is not a list: {endpoint}"
  | badNumFound found endpoint =>
    s!"Search response has invalid numFound {found.literal}: {endpoint}"
  | unreadableResults path error => s!"Cannot read search results from {path}: {error.message}"
  | resultsNotAList path => s!"Search results in {path} are not a list of documents"
  | statementFailed statement => s!"{statement.name} failed: {databaseErrorText}"
  | seedNotLoaded path isLate =>
    s!"Failed to load seed {path}: " ++ (if isLate then lateFailureText else "") ++
      databaseErrorText
  | reported text => text

/-- What nobody provides for. -/
inductive Surprise
  | integral (error : Json.IntegralError)
  | unknownState (found : Value)
  | unknownLevel (name : String)
  | notALevel (text : String)
  | levelOfOtherKind
  | statementRejected
  | notADatabase
  | pathIsDirectory (path : String)
  | pathMissing (path : String)
  | pathExists (path : String)
  | pathNotDirectory (path : String)
  | pathTooLong (path : String)
  | undecodable (error : Text.Utf8Error)
  | embeddedNul
  | equalsInVariable
  | badAddress (error : Directory.AddressError)
  | noConnection (error : Directory.ConnectionError)
  | nestedTooDeep (bracket : Json.Bracket)
  | unencodable (error : Text.EncodeError)
  | unwritable (error : Json.WriteError)
  /-- A switch of a command is given without a value and needs one. -/
  | valueMissing (switch : String)
  | reported (text : String)

def Surprise.message : Surprise → String
  | integral error => error.message
  | unknownState found => s!"{found.literal} is not a valid ConnectionState"
  | unknownLevel name => s!"{Text.quoted name} is not a log level"
  | notALevel text => s!"Unknown level: {Text.quoted text}"
  | levelOfOtherKind => "a level is neither a number nor a text"
  | statementRejected | notADatabase => databaseErrorText
  | pathIsDirectory path => (Json.FileError.directory path).message
  | pathMissing path => (Json.FileError.missing path).message
  | pathExists path => "[Errno 17] File exists: " ++ Text.quoted path
  | pathNotDirectory path => "[Errno 20] Not a directory: " ++ Text.quoted path
  | pathTooLong path => "[Errno 36] File name too long: " ++ Text.quoted path
  | undecodable error => error.message
  | embeddedNul => "embedded null byte"
  | equalsInVariable => "illegal environment variable name"
  | badAddress error => error.message
  | noConnection error => error.message
  | nestedTooDeep bracket => (Json.ParseError.tooDeep bracket).message
  | unencodable error => error.message
  | unwritable error => error.message
  | valueMissing switch => s!"{switch} has no value"
  | reported text => text

/-- Anything that goes wrong. -/
inductive Fault
  | breach (b : Breach)
  | denial (d : Denial)
  | outage (o : Outage)
  | surprise (s : Surprise)

def Fault.message : Fault → String
  | breach b => b.message
  | denial d => d.message
  | outage o => o.message
  | surprise s => s.message

end PeopleFeed
