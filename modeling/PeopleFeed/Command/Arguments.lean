import PeopleFeed.Text.DecimalDigit

/-!
Reading the arguments of a command line by its switches. A switch may be shortened as long as no
other one begins alike, and a value stands behind its switch or after an equals sign. Two hyphens
alone end the switches; after an equals sign they leave the switch without a value.
-/
namespace PeopleFeed.Command

/-- What a switch asks for. -/
inductive Arity
  | help
  | flag
  | value (accepts : String → Bool)

/-- A switch with its hyphens. -/
structure Switch where
  name : String
  arity : Arity

/-- Why arguments are not read to their end. -/
inductive Stop
  | misuse
  | help
  deriving DecidableEq, Repr

/-- The short form of the switch that asks for help. -/
def shortHelp : String := "-h"

/-- The switches that every command has. -/
def helpSwitches : List Switch :=
  [⟨shortHelp, .help⟩, ⟨"--help", .help⟩]

/-- What an argument is. -/
inductive Word
  | plain
  | switch (s : Switch) (attached : Option String)
  /-- Letters behind the short form of help. -/
  | cluster (letters : List Char)
  | unknown
  | separator

/-- The digits at the start left out. -/
def afterDigits (cs : List Char) : List Char :=
  cs.dropWhile fun c => (Text.digitValue? c).isSome

/-- Whether nothing is left but at most the end of a line. -/
def isSpent (cs : List Char) : Bool :=
  cs.isEmpty || cs == ['\n']

/-- Whether an argument reads as a negative number and so is no switch. -/
def isNegativeNumber : List Char → Bool
  | '-' :: cs =>
    let rest := afterDigits cs
    (rest != cs && isSpent rest) ||
      match rest with
      | '.' :: fraction =>
        afterDigits fraction != fraction && isSpent (afterDigits fraction)
      | _ => false
  | _ => false

/-- An argument parted at its first equals sign. -/
def splitAttached (arg : String) : String × Option String :=
  match arg.toList.dropWhile (· != '=') with
  | _ :: value => (String.ofList (arg.toList.takeWhile (· != '=')), some (String.ofList value))
  | [] => (arg, none)

/-- What an argument with two hyphens that names no switch in full is; none if it shortens
several. -/
def shortened? (switches : List Switch) (arg : String) : Option Word :=
  let (name, attached) := splitAttached arg
  match switches.filter fun s => s.name.startsWith name with
  | [] => some .unknown
  | [s] => some (.switch s attached)
  | _ => none

/-- What an argument that is no switch is, seeing that it starts with a hyphen. -/
def unswitched (arg : String) : Word :=
  if isNegativeNumber arg.toList || arg.contains ' ' then .plain else .unknown

/-- What ends the switches. -/
def endOfSwitches : String := "--"

/-- What an argument is; none if it shortens several switches. -/
def Word.ofArgument? (switches : List Switch) (arg : String) : Option Word :=
  match arg.toList with
  | '-' :: second :: rest =>
    if arg = endOfSwitches then some .separator
    else
      match switches.find? (·.name == arg) with
      | some s => some (.switch s none)
      | none =>
        let (name, attached) := splitAttached arg
        match attached, switches.find? (·.name == name) with
        | some value, some s =>
          if name = shortHelp then some (.cluster value.toList) else some (.switch s attached)
        | _, _ =>
          if second = '-' then
            match shortened? switches arg with
            | some .unknown => some (unswitched arg)
            | w => w
          else if String.ofList ['-', second] = shortHelp then some (.cluster rest)
          else some (unswitched arg)
  | _ => some .plain

/-- The words of arguments; behind a separator all are plain. -/
def wordsOf? (switches : List Switch) : List String → Option (List (Word × String))
  | [] => some []
  | arg :: rest =>
    match Word.ofArgument? switches arg with
    | none => none
    | some .separator => some ((.separator, arg) :: rest.map fun a => (.plain, a))
    | some w => (wordsOf? switches rest).map ((w, arg) :: ·)

/-- Whether letters behind the short form of help ask for it once more. -/
def clusterHelps (letters : List Char) : Bool :=
  !letters.isEmpty && letters.all (· == 'h')

/-- What arguments give: switches with their values, whether there is anything that nobody asks
for, and the first plain argument with all behind it, where that is a command. A switch that is
given may be left without a value. -/
structure Given where
  values : List (String × Option String)
  hasSurplus : Bool
  command : Option (String × List String)

namespace Given

def nothing : Given := ⟨[], false, none⟩

/-- Adds a switch in front. -/
def add (name : String) (value : Option String) (g : Given) : Given :=
  { g with values := (name, value) :: g.values }

/-- What is given last to a switch. -/
def last? (g : Given) (name : String) : Option (Option String) :=
  g.values.reverse.lookup name

/-- The value given last to a switch, if it has one. -/
def value? (g : Given) (name : String) : Option String :=
  (g.last? name).join

/-- Whether a switch is given. -/
def has (g : Given) (name : String) : Bool :=
  (g.last? name).isSome

end Given

/-- Adds a switch with its value to what is given behind it, if it takes the value. -/
def accept (name : String) (accepts : String → Bool) (v : String)
    (behind : Except Stop Given) : Except Stop Given :=
  if accepts v then behind.map (Given.add name (some v)) else .error .misuse

/-- Adds a switch with what is attached to it. -/
def acceptAttached (name : String) (accepts : String → Bool) (v : String)
    (behind : Except Stop Given) : Except Stop Given :=
  if v = endOfSwitches then behind.map (Given.add name none) else accept name accepts v behind

/-- Reads words. -/
def readWords (takesCommand : Bool) : List (Word × String) → Except Stop Given
  | [] => .ok .nothing
  | (.plain, arg) :: rest =>
    if takesCommand then .ok { Given.nothing with command := some (arg, rest.map (·.2)) }
    else (readWords takesCommand rest).map ({ · with hasSurplus := true })
  | (.unknown, _) :: rest =>
    (readWords takesCommand rest).map ({ · with hasSurplus := true })
  | (.separator, _) :: _ => .error .misuse
  | (.cluster letters, _) :: _ => .error (if clusterHelps letters then .help else .misuse)
  | (.switch ⟨_, .help⟩ none, _) :: _ => .error .help
  | (.switch ⟨name, .flag⟩ none, _) :: rest =>
    (readWords takesCommand rest).map (Given.add name none)
  | (.switch ⟨name, .value accepts⟩ (some v), _) :: rest =>
    acceptAttached name accepts v (readWords takesCommand rest)
  | (.switch ⟨name, .value accepts⟩ none, _) :: (.plain, v) :: rest =>
    accept name accepts v (readWords takesCommand rest)
  | (.switch _ _, _) :: _ => .error .misuse

/-- Reads arguments by switches. -/
def readArguments (switches : List Switch) (takesCommand : Bool) (args : List String) :
    Except Stop Given :=
  match wordsOf? (helpSwitches ++ switches) args with
  | some words => readWords takesCommand words
  | none => .error .misuse

end PeopleFeed.Command
