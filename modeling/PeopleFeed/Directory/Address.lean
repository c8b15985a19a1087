import PeopleFeed.Directory.Resource
import PeopleFeed.Text.DecimalNumeral
import PeopleFeed.Text.LowerCase

/-!
Addresses of directory databases. What stands in front of the first question mark names a file or
the memory; options may stand behind it. With the option `uri` the name may be a resource, and
options that a connection does not know become its parameters.
-/
namespace PeopleFeed.Directory

/-- Why the options of an address make no sense. -/
inductive AddressError
  | unknownPlugin
  | notTruthValue (text : String)
  | notDecimal (text : String)
  | notInteger (error : Text.IntegerError)
  | repeatedNumber
  deriving DecidableEq, Repr

def AddressError.message : AddressError → String
  | unknownPlugin => "unknown plugin"
  | notTruthValue text => "String is not true/false: " ++ Text.quoted text
  | notDecimal text => "could not convert string to float: " ++ Text.quoted text
  | notInteger error => error.message
  | repeatedNumber => "a number is given more than once"

/-- A name with the options behind it. -/
structure Address where
  name : String
  options : List (String × String)
  deriving DecidableEq, Repr

namespace Address

/-- A part of an option; a plus sign is a blank. -/
def optionText (cs : List Char) : String :=
  String.ofList (Text.unescapePercent (cs.map fun c => if c = '+' then ' ' else c))

/-- The options in a line of text. One without a value is none. -/
def optionsIn (cs : List Char) : List (String × String) :=
  ((cs.takeWhile (· != '\n')).splitOn '&').filterMap fun part =>
    let (name, value) := cutAt '=' part
    if value.isEmpty then none else some (optionText name, optionText value)

/-- The address that a text writes. -/
def ofText (text : String) : Address :=
  let (name, options) := cutAt '?' text.toList
  ⟨String.ofList name, optionsIn options⟩

/-- The values given to an option. -/
def values (a : Address) (name : String) : List String :=
  (a.options.filter fun o => o.1 == name).map (·.2)

end Address

/-- What the value of an option is. -/
inductive OptionKind
  | truth
  | decimal
  | integer
  | word
  deriving DecidableEq, Repr

/-- The option that makes the name a resource. -/
def resourceOption : String := "uri"

/-- The options of a connection. -/
def connectionOptions : List (String × OptionKind) :=
  [(resourceOption, .truth), ("timeout", .decimal), ("isolation_level", .word),
    ("detect_types", .integer), ("check_same_thread", .truth), ("cached_statements", .integer)]

/-- The truth value that a word of either case stands for. -/
def truthOf (text : String) : Except AddressError Bool :=
  let word := Text.lower (Text.trim text)
  if ["true", "yes", "on", "y", "t", "1"].contains word then .ok true
  else if ["false", "no", "off", "n", "f", "0"].contains word then .ok false
  else .error (.notTruthValue word)

/-- Checks the values of an option. -/
def OptionKind.check : OptionKind → List String → Except AddressError Unit
  | _, [] | word, _ => .ok ()
  | truth, [v] => (truthOf v).map fun _ => ()
  | truth, _ => .ok ()
  | decimal, [v] => if Text.isDecimalNumeral v then .ok () else .error (.notDecimal v)
  | integer, [v] => ((Text.readInteger v).mapError .notInteger).map fun _ => ()
  | decimal, _ | integer, _ => .error .repeatedNumber

/-- The value that an option has in a resource: the one given, or all of them as a list. -/
def listed : List String → String
  | [value] => value
  | values => "(" ++ String.intercalate ", " (values.map Text.quoted) ++ ")"

/-- Whether a number is too large for a connection. -/
def isTooLarge (text : String) : Bool :=
  match Text.readInteger text with
  | .ok n => n < -0x80000000 || 0x80000000 ≤ n
  | .error _ => false

namespace Address

/-- Whether the name is a resource. -/
def isResource (a : Address) : Bool :=
  match a.values resourceOption with
  | [] => false
  | [v] => (truthOf v).toOption.getD false
  | _ => true

/-- The names of the options that a connection does not take for itself, in order. -/
def parameterNames (a : Address) : List String :=
  let names := (a.options.map (·.1)).filter fun name => (connectionOptions.lookup name).isNone
  names.eraseDups.mergeSort fun x y => x ≤ y

/-- The text that is opened: the name, and behind that of a resource its parameters. -/
def target (a : Address) : String :=
  if !a.isResource || a.parameterNames.isEmpty then a.name
  else
    let parameters := a.parameterNames.map fun name => name ++ "=" ++ listed (a.values name)
    a.name ++ "?" ++ String.intercalate "&" parameters

/-- Why there can be no connection to the address. -/
def connectionError? (a : Address) : Option ConnectionError :=
  let isTooLarge (name : String) := (a.values name).any isTooLarge
  if isTooLarge "detect_types" then some .numberTooLarge
  else if 1 < (a.values "isolation_level").length then some .unknownIsolation
  else if isTooLarge "cached_statements" then some .numberTooLarge
  else if a.target.contains '\x00' then some .embeddedNul
  else none

/-- The location of an address. A name in the memory has at most so many bytes. -/
def locate (longest : Nat) (a : Address) : Except AddressError Location := do
  if !(a.values "plugin").isEmpty then throw .unknownPlugin
  connectionOptions.forM fun o => o.2.check (a.values o.1)
  match a.connectionError? with
  | some e => pure (.barred e)
  | none => pure (if a.isResource then .ofText longest a.target else .ofName a.target)

end Address

end PeopleFeed.Directory
