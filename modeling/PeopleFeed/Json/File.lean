import PeopleFeed.Json.Parser
import PeopleFeed.Text.Newline
import PeopleFeed.Text.Quoted
import PeopleFeed.Text.Utf8

/-! JSON documents in files: bytes that are decoded, get their line ends folded and are read. -/
namespace PeopleFeed.Json

/-- What is found under the path of a file. -/
inductive File
  | missing
  | directory
  | bytes (content : List UInt8)
  deriving Repr

/-- Why the content of a file is not a JSON document. -/
inductive ContentError
  | encoding (error : Text.Utf8Error)
  | json (error : ParseError)
  deriving DecidableEq, Repr

def ContentError.message : ContentError → String
  | .encoding error => error.message
  | .json error => error.message

/-- Why a JSON document is not read from a file. -/
inductive FileError
  | missing (path : String)
  | directory (path : String)
  | content (error : ContentError)
  deriving DecidableEq, Repr

def FileError.message : FileError → String
  | .missing path => "[Errno 2] No such file or directory: " ++ Text.quoted path
  | .directory path => "[Errno 21] Is a directory: " ++ Text.quoted path
  | .content error => error.message

/-- The JSON value that bytes encode. -/
def parseBytes (c : Codec) (content : List UInt8) : Except ContentError Value :=
  match Text.decodeUtf8 content with
  | .error e => .error (.encoding e)
  | .ok text => (parse c (Text.normalizeNewlines text)).mapError .json

/-- The JSON value in a file. -/
def File.read (c : Codec) (path : String) : File → Except FileError Value
  | .missing => .error (.missing path)
  | .directory => .error (.directory path)
  | .bytes content => (parseBytes c content).mapError .content

end PeopleFeed.Json
