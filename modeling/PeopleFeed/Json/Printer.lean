import PeopleFeed.Decimal.Shortest
import PeopleFeed.Json.Codec
import PeopleFeed.Json.Value
import PeopleFeed.Text.Hexadecimal
import PeopleFeed.Text.Integer

/-!
JSON text of values, on one line, with a blank after each comma and colon. Two styles: one keeps
characters beyond ASCII as they are, the other escapes all that is not printable ASCII. A value with
a number too long or with brackets too deep is not written.
-/
namespace PeopleFeed.Json

open PeopleFeed.Text (Standins hexadecimal)

/-- Whether characters beyond ASCII stay as they are, or else which stand for lone surrogates. -/
inductive Style
  | plain
  | ascii (standins : Standins)

/-- A code unit as an escape. -/
def unicodeEscape (n : Nat) : List Char :=
  '\\' :: 'u' :: hexadecimal 4 n

/-- A character as code units; above the first plane two are needed. -/
def escapeUnits (c : Char) : List Char :=
  if c.toNat < 0x10000 then unicodeEscape c.toNat
  else
    let n := c.toNat - 0x10000
    unicodeEscape (0xD800 + n / 0x400) ++ unicodeEscape (0xDC00 + n % 0x400)

/-- The code units that a style writes for a character. -/
def Style.units : Style → Char → List Char
  | .plain, c => escapeUnits c
  | .ascii st, c =>
    match st.unit? c with
    | some unit => unicodeEscape unit
    | none => escapeUnits c

/-- Whether a style writes a character without a letter escape as code units. -/
def Style.escapes : Style → Char → Bool
  | .plain, c => c.toNat < 0x20
  | .ascii _, c => c.toNat < 0x20 || 0x7E < c.toNat

/-- A character inside a JSON string. -/
def escapeChar (style : Style) (c : Char) : List Char :=
  if c = '"' then ['\\', '"']
  else if c = '\\' then ['\\', '\\']
  else if c = '\n' then ['\\', 'n']
  else if c = '\r' then ['\\', 'r']
  else if c = '\t' then ['\\', 't']
  else if c = '\x08' then ['\\', 'b']
  else if c = '\x0c' then ['\\', 'f']
  else if style.escapes c then style.units c
  else [c]

/-- A JSON string. -/
def printString (style : Style) (s : String) : List Char :=
  '"' :: s.toList.flatMap (escapeChar style) ++ ['"']

/-- A whole number in decimal digits. -/
def printInt (n : Int) : List Char :=
  if n < 0 then '-' :: Nat.toDigits 10 n.natAbs else Nat.toDigits 10 n.natAbs

/-- A floating point number; those that JSON has no numeral for are written as words. -/
def printFloat (x : Decimal.Double) : List Char :=
  if x.isNaN then "NaN".toList
  else if !x.isFinite then (if x.isNegative then "-Infinity".toList else "Infinity".toList)
  else x.text.toList

mutual

/-- The JSON text of a value. -/
def print (style : Style) : Value → List Char
  | .null => "null".toList
  | .bool true => "true".toList
  | .bool false => "false".toList
  | .int n => printInt n
  | .float x => printFloat x
  | .str s => printString style s
  | .arr items => '[' :: printItems style items ++ [']']
  | .obj fields => '{' :: printFields style fields ++ ['}']

/-- The items of an array, separated by commas. -/
def printItems (style : Style) : List Value → List Char
  | [] => []
  | [v] => print style v
  | v :: w :: rest => print style v ++ ',' :: ' ' :: printItems style (w :: rest)

/-- The entries of an object, separated by commas. -/
def printFields (style : Style) : List (String × Value) → List Char
  | [] => []
  | [(k, v)] => printString style k ++ ':' :: ' ' :: print style v
  | (k, v) :: f :: rest =>
    printString style k ++ ':' :: ' ' ::
      (print style v ++ ',' :: ' ' :: printFields style (f :: rest))

end

/-- The JSON text of a value. -/
def Value.toJson (style : Style) (v : Value) : String :=
  String.ofList (print style v)

/-- Why a value is not written. -/
inductive WriteError
  | tooManyDigits
  | tooDeep
  deriving DecidableEq, Repr

def WriteError.message : WriteError → String
  | .tooManyDigits =>
    s!"Exceeds the limit ({Text.maxDigits} digits) for integer string conversion; " ++
      "use sys.set_int_max_str_digits() to increase the limit"
  | .tooDeep => "maximum recursion depth exceeded while encoding a JSON object"

/-- Whether a whole number has more than so many digits. -/
def isTooLong (digits : Nat) (n : Int) : Bool :=
  digits < (Nat.toDigits 10 n.natAbs).length

mutual

/-- What a writer of numbers of so many digits comes upon first that it cannot write, where there
is room for so many brackets. -/
def obstacle? (digits : Nat) : Nat → Value → Option WriteError
  | _, .int n => if isTooLong digits n then some .tooManyDigits else none
  | 0, .arr _ | 0, .obj _ => some .tooDeep
  | room + 1, .arr items => itemsObstacle? digits room items
  | room + 1, .obj fields => fieldsObstacle? digits room fields
  | _, _ => none

/-- What a writer comes upon first in items. -/
def itemsObstacle? (digits : Nat) : Nat → List Value → Option WriteError
  | _, [] => none
  | room, v :: rest => (obstacle? digits room v).or (itemsObstacle? digits room rest)

/-- What a writer comes upon first in entries. -/
def fieldsObstacle? (digits : Nat) : Nat → List (String × Value) → Option WriteError
  | _, [] => none
  | room, (_, v) :: rest => (obstacle? digits room v).or (fieldsObstacle? digits room rest)

end

/-- Writes a value in a style. -/
def Value.write (c : Codec) (style : Style) (v : Value) : Except WriteError String :=
  match obstacle? c.digits c.room v with
  | some e => .error e
  | none => .ok (v.toJson style)

mutual

/-- The value with the keys of all objects in code point order. -/
def sortKeys : Value → Value
  | .arr items => .arr (sortItems items)
  | .obj fields => .obj ((sortFields fields).mergeSort fun f g => f.1 ≤ g.1)
  | v => v

/-- The items with the keys of all their objects sorted. -/
def sortItems : List Value → List Value
  | [] => []
  | v :: rest => sortKeys v :: sortItems rest

/-- The entries, in their order, with the keys of all objects below them sorted. -/
def sortFields : List (String × Value) → List (String × Value)
  | [] => []
  | (k, v) :: rest => (k, sortKeys v) :: sortFields rest

end

end PeopleFeed.Json
