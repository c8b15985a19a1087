import PeopleFeed.Text.Blank

/-!
The assignments in the text of an environment file, a line for each: a name, an equals sign and a
value, which may be quoted and then go on over several lines. What cannot be read is skipped to
the end of its line.
-/
namespace PeopleFeed.Environment

/-- A name, and the value given to it if there is an equals sign. -/
structure Assignment where
  name : String
  value : Option String
  deriving DecidableEq, Repr

/-- A blank that ends no line. -/
def isInlineBlank (c : Char) : Bool :=
  Text.isBlankChar c && c != '\n' && c != '\r'

def isLineEnd (c : Char) : Bool :=
  c == '\n' || c == '\r'

/-- What is left behind the blanks of a line. -/
def skipInlineBlanks (cs : List Char) : List Char :=
  cs.dropWhile isInlineBlank

/-- The word that may stand before a name. -/
def exportWord : List Char := "export".toList

/-- What is left behind the word that may stand before a name and the blanks that part it. -/
def skipExport (cs : List Char) : List Char :=
  let rest := cs.drop exportWord.length
  if cs.take exportWord.length == exportWord && rest.head?.any isInlineBlank then
    skipInlineBlanks rest
  else cs

/-- Whether a character may stand in a name that is not quoted. -/
def isNameChar (c : Char) : Bool :=
  !(c == '=' || c == '#' || Text.isBlankChar c)

/-- Reads a name, which single quotes may hold; a comment stands for no name. -/
def readName : List Char → Option (Option (List Char) × List Char)
  | '#' :: cs => some (none, '#' :: cs)
  | '\'' :: cs =>
    match cs.takeWhile (· != '\''), cs.dropWhile (· != '\'') with
    | c :: name, _ :: rest => some (some (c :: name), rest)
    | _, _ => none
  | cs =>
    match cs.takeWhile isNameChar with
    | [] => none
    | c :: name => some (some (c :: name), cs.dropWhile isNameChar)

/-- Reads to the closing quote. A quote behind a backslash closes only if no other one does. -/
def readQuotedBody (quote : Char) : List Char → Option (List Char × List Char)
  | [] => none
  | '\\' :: c :: cs =>
    if c = quote then
      match readQuotedBody quote cs with
      | some (body, rest) => some ('\\' :: quote :: body, rest)
      | none => some (['\\'], cs)
    else (readQuotedBody quote (c :: cs)).map fun r => ('\\' :: r.1, r.2)
  | c :: cs =>
    if c = quote then some ([], cs)
    else (readQuotedBody quote cs).map fun r => (c :: r.1, r.2)

/-- What a backslash and a character stand for between single quotes. -/
def singleEscape? : Char → Option Char
  | '\\' => some '\\'
  | '\'' => some '\''
  | _ => none

/-- What a backslash and a character stand for between double quotes. -/
def doubleEscape? : Char → Option Char
  | '\\' => some '\\'
  | '\'' => some '\''
  | '"' => some '"'
  | 'a' => some '\x07'
  | 'b' => some '\x08'
  | 'f' => some '\x0c'
  | 'n' => some '\n'
  | 'r' => some '\r'
  | 't' => some '\t'
  | 'v' => some '\x0b'
  | _ => none

/-- A text with its escapes replaced; a backslash that starts none stays. -/
def unescape (escape? : Char → Option Char) : List Char → List Char
  | [] => []
  | '\\' :: c :: cs =>
    match escape? c with
    | some d => d :: unescape escape? cs
    | none => '\\' :: unescape escape? (c :: cs)
  | c :: cs => c :: unescape escape? cs

/-- A line up to the blanks before its first comment. -/
def dropComment : List Char → List Char
  | [] => []
  | c :: cs =>
    if Text.isBlankChar c && ((c :: cs).dropWhile Text.isBlankChar).head? == some '#' then []
    else c :: dropComment cs

/-- Reads a value. -/
def readValue : List Char → Option (List Char × List Char)
  | '\'' :: cs => (readQuotedBody '\'' cs).map fun r => (unescape singleEscape? r.1, r.2)
  | '"' :: cs => (readQuotedBody '"' cs).map fun r => (unescape doubleEscape? r.1, r.2)
  | cs =>
    some (Text.trimEndChars (dropComment (cs.takeWhile (!isLineEnd ·))),
      cs.dropWhile (!isLineEnd ·))

/-- What is left behind the end of the line. -/
def afterLine (cs : List Char) : List Char :=
  (cs.dropWhile (!isLineEnd ·)).drop 1

/-- What is left behind the end of the line, if nothing but a comment comes before it. -/
def endOfLine? (cs : List Char) : Option (List Char) :=
  match skipInlineBlanks cs with
  | [] => some []
  | c :: cs => if c == '#' || isLineEnd c then some (afterLine (c :: cs)) else none

/-- The assignment of a name and a value, when the line has come to its end. -/
def closeLine (name : Option (List Char)) (value : Option (List Char)) (cs : List Char) :
    Option Assignment × List Char :=
  match endOfLine? cs with
  | some rest => (name.map fun n => ⟨String.ofList n, value.map String.ofList⟩, rest)
  | none => (none, afterLine cs)

/-- Reads the next assignment: none where a comment stands or something cannot be read. -/
def readAssignment (cs : List Char) : Option Assignment × List Char :=
  let cs := skipExport (cs.dropWhile Text.isBlankChar)
  match readName cs with
  | none => (none, afterLine cs)
  | some (name, rest) =>
    match skipInlineBlanks rest with
    | '=' :: rest =>
      let rest := skipInlineBlanks rest
      match readValue rest with
      | none => (none, afterLine rest)
      | some (value, rest) => closeLine name (some value) rest
    | rest => closeLine name none rest

/-- The assignments in their order. -/
def assignmentsIn (cs : List Char) : List Assignment :=
  let (a, rest) := readAssignment cs
  if rest.length < cs.length then a.toList ++ assignmentsIn rest else a.toList
termination_by cs.length

/-- The assignments in a text. -/
def readAssignments (text : String) : List Assignment :=
  assignmentsIn text.toList

/-- The names that an environment file speaks of: those it assigns to and those that may be
referred to. -/
def mentionedNames (text : String) : List String :=
  let mentions := (text.splitOn "$\x7b").drop 1
  (readAssignments text).map (·.name) ++
    mentions.map fun s => String.ofList (s.toList.takeWhile fun c => c != '}' && c != ':')

end PeopleFeed.Environment
