import PeopleFeed.Directory.Location
import PeopleFeed.Text.PercentEscape

/-!
Resources: names of databases with parameters that tell how they are opened. Both are bytes with
percent escapes, and a byte of zero ends each of them.
-/
namespace PeopleFeed.Directory

open PeopleFeed.Text (encodeUtf8 hexValue?)

/-- The items in front of the first of a kind, and those behind it. -/
def cutAt {α : Type} [BEq α] (x : α) (xs : List α) : List α × List α :=
  (xs.takeWhile (· != x), (xs.dropWhile (· != x)).drop 1)

/-- How a resource says that its database is opened. -/
inductive Mode
  | readOnly
  | existing
  | creating
  | memory
  deriving DecidableEq, Repr

namespace Mode

def all : List Mode :=
  [readOnly, existing, creating, memory]

def name : Mode → String
  | readOnly => "ro"
  | existing => "rw"
  | creating => "rwc"
  | memory => "memory"

/-- The mode of a name. -/
def named? (name : List UInt8) : Option Mode :=
  all.find? fun m => encodeUtf8 m.name == name

/-- How much a mode leaves open to the one behind it. -/
def reach : Mode → Nat
  | readOnly => 1
  | existing => 2
  | creating => 3
  | memory => 4

/-- Whether a mode may stand behind another: none allows more than the one before. -/
def mayFollow (m before : Mode) : Bool :=
  m = memory || m.reach ≤ before.reach

/-- The access to a file. -/
def access : Mode → Access
  | readOnly => .readOnly
  | existing => .existing
  | creating | memory => .creating

end Mode

/-- What the parameters of a resource say about the way to open it. -/
structure Opening where
  mode : Mode
  isShared : Bool
  keeperName : List UInt8

namespace Opening

/-- The way to open a resource without parameters. -/
def standard : Opening :=
  ⟨.creating, false, encodeUtf8 Keeper.system.name⟩

/-- What a parameter makes of the way to open a resource. -/
def change (o : Opening) (parameter : List UInt8 × List UInt8) : Option Opening :=
  let (key, value) := parameter
  if key == encodeUtf8 "vfs" then some { o with keeperName := value }
  else if key == encodeUtf8 "cache" then
    if value == encodeUtf8 "shared" then some { o with isShared := true }
    else if value == encodeUtf8 "private" then some { o with isShared := false }
    else none
  else if key == encodeUtf8 "mode" then
    match Mode.named? value with
    | some mode => if mode.mayFollow o.mode then some { o with mode } else none
    | none => none
  else some o

end Opening

/-- A number of 32 bits that a text starts with; what is larger counts as zero. -/
def readSmall (cs : List Char) : Nat :=
  let bounded (base width : Nat) (digits : List Char) : Nat :=
    let digits := digits.dropWhile (· == '0')
    let n := digits.foldl (fun n c => base * n + (hexValue? c).getD 0) 0
    if width < digits.length || 0x80000000 ≤ n then 0 else n
  let hexadecimal : List Char :=
    match cs with
    | '0' :: x :: rest =>
      if x = 'x' || x = 'X' then rest.takeWhile fun c => (hexValue? c).isSome else []
    | _ => []
  if hexadecimal.isEmpty then bounded 10 10 (cs.takeWhile (·.isDigit))
  else bounded 16 8 hexadecimal

/-- Whether the value of a parameter stands for truth. Of a number only the last byte counts. -/
def isTrueValue (value : List UInt8) : Bool :=
  let cs := value.map fun b => Char.ofNat b.toNat
  if (cs.head?.map (·.isDigit)).getD false then readSmall cs % 256 != 0
  else ["on", "yes", "true"].contains (String.ofList (cs.map (·.toLower)))

/-- A name with parameters behind it. -/
structure Resource where
  name : List UInt8
  parameters : List (List UInt8 × List UInt8)
  deriving DecidableEq, Repr

namespace Resource

/-- What all resources start with. -/
def scheme : List UInt8 := encodeUtf8 "file:"

/-- A part of a resource: its escapes are replaced, and a byte of zero ends it. -/
def part (bytes : List UInt8) : List UInt8 :=
  (Text.unescapeBytes bytes).takeWhile (· != 0)

/-- The parameter in a part of a query. -/
def parameter (bytes : List UInt8) : List UInt8 × List UInt8 :=
  let (key, value) := cutAt 0x3D bytes
  (part key, part value)

/-- The resource that bytes write behind the scheme. What is behind a number sign is no part of
it. -/
def ofBytes (bytes : List UInt8) : Resource :=
  let (name, query) := cutAt 0x3F (bytes.takeWhile (· != 0x23))
  ⟨part name, (query.splitOn 0x26).map parameter⟩

/-- The first value of a parameter. -/
def value? (r : Resource) (key : String) : Option (List UInt8) :=
  r.parameters.lookup (encodeUtf8 key)

/-- Whether a parameter is given and stands for truth. -/
def affirms (r : Resource) (key : String) : Bool :=
  ((r.value? key).map isTrueValue).getD false

/-- The way to open the resource that its parameters agree on. -/
def opening? (r : Resource) : Option Opening :=
  r.parameters.foldlM Opening.change .standard

/-- Whether all connections share what the keeper has in the memory under the name. -/
def isCommon (r : Resource) : Bool :=
  match r.name with
  | first :: _ :: _ => first == 0x2F || first == 0x5C
  | _ => false

/-- The location of the resource when a keeper opens it. A name in the memory has at most so many
bytes. -/
def locationAt (longest : Nat) (r : Resource) (o : Opening) (keeper : Keeper) : Location :=
  let isSealed := o.mode = .readOnly
  if r.name.isEmpty then .memory none isSealed
  else if o.mode = .memory || r.name == encodeUtf8 memoryName then
    .memory (if o.isShared then some ⟨keeper, true, r.name⟩ else none) isSealed
  else if keeper = .memory then
    if longest < r.name.length then .nowhere
    else
      .memory (if o.isShared || r.isCommon then some ⟨keeper, false, r.name⟩ else none)
        (isSealed || r.affirms "immutable")
  else
    .file r.name
      ⟨keeper, o.mode.access, r.affirms "immutable", r.affirms "nolock", r.value? "modeof"⟩

/-- The location of the resource. -/
def location (longest : Nat) (r : Resource) : Location :=
  match r.opening? with
  | none => .nowhere
  | some o =>
    match Keeper.named? o.keeperName with
    | none => .nowhere
    | some keeper => r.locationAt longest o keeper

end Resource

/-- The location that a text names, which is a resource if it starts like one. -/
def Location.ofText (longest : Nat) (text : String) : Location :=
  let bytes := encodeUtf8 text
  if Resource.scheme.isPrefixOf bytes then
    (Resource.ofBytes (bytes.drop Resource.scheme.length)).location longest
  else if text = "" || text = memoryName then .memory none false
  else .file bytes .plain

end PeopleFeed.Directory
