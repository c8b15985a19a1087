import PeopleFeed.Json.Codec
import PeopleFeed.Json.Value
import PeopleFeed.Text.Hexadecimal
import PeopleFeed.Text.Integer

/-!
Reading JSON text. Besides the values of the standard the words `NaN`, `Infinity` and
`-Infinity` are read. An error names what was expected and where.
-/
namespace PeopleFeed.Json

open PeopleFeed.Decimal (Double)
open PeopleFeed.Text (Standins hexValue?)

/-- What is wrong at the place where reading stops. -/
inductive Flaw
  | noValue
  | noPropertyName
  | noColon
  | noComma
  | extraData
  | unterminatedString
  | controlCharacter
  | badEscape
  | badUnicodeEscape
  | byteOrderMark
  deriving DecidableEq, Repr

def Flaw.text : Flaw → String
  | .noValue => "Expecting value"
  | .noPropertyName => "Expecting property name enclosed in double quotes"
  | .noColon => "Expecting ':' delimiter"
  | .noComma => "Expecting ',' delimiter"
  | .extraData => "Extra data"
  | .unterminatedString => "Unterminated string starting at"
  | .controlCharacter => "Invalid control character at"
  | .badEscape => "Invalid \\escape"
  | .badUnicodeEscape => "Invalid \\uXXXX escape"
  | .byteOrderMark => "Unexpected UTF-8 BOM (decode using utf-8-sig)"

/-- Why reading stops: a flaw in front of the text that is left, a whole number of too many
digits, or a bracket inside of too many others. -/
inductive Stop
  | malformed (flaw : Flaw) (rest : List Char)
  | tooManyDigits (count : Nat)
  | tooDeep (bracket : Bracket)

def malformed {α : Type} (flaw : Flaw) (rest : List Char) : Except Stop α :=
  .error (.malformed flaw rest)

def isJsonBlank (c : Char) : Bool :=
  c == ' ' || c == '\t' || c == '\n' || c == '\r'

def skipBlanks (cs : List Char) : List Char :=
  cs.dropWhile isJsonBlank

/-- The character that a letter escape stands for. -/
def letterEscape? : Char → Option Char
  | '"' => some '"'
  | '\\' => some '\\'
  | '/' => some '/'
  | 'b' => some '\x08'
  | 'f' => some '\x0c'
  | 'n' => some '\n'
  | 'r' => some '\r'
  | 't' => some '\t'
  | _ => none

/-- The code unit that four hexadecimal digits write. -/
def codeUnit? (a b c d : Char) : Option Nat := do
  let a ← hexValue? a
  let b ← hexValue? b
  let c ← hexValue? c
  let d ← hexValue? d
  pure (((a * 16 + b) * 16 + c) * 16 + d)

def isHighSurrogate (n : Nat) : Bool :=
  0xD800 ≤ n && n < 0xDC00

def isLowSurrogate (n : Nat) : Bool :=
  0xDC00 ≤ n && n < 0xE000

/-- The character of one code unit; for a surrogate on its own another one stands. -/
def unitChar (st : Standins) (n : Nat) : Char :=
  if isHighSurrogate n || isLowSurrogate n then st.char n else Char.ofNat n

/-- The character of a pair of surrogates. -/
def pairChar (high low : Nat) : Char :=
  Char.ofNat (0x10000 + (high - 0xD800) * 0x400 + (low - 0xDC00))

/-- The rest of a string after its opening quote, which `start` begins with. -/
def readString (st : Standins) (start : List Char) (done : List Char) :
    List Char → Except Stop (String × List Char)
  | [] => malformed .unterminatedString start
  | '"' :: rest => .ok (String.ofList done.reverse, rest)
  | ['\\'] => malformed .unterminatedString start
  | '\\' :: 'u' :: a :: b :: c :: d :: rest =>
    let here := 'u' :: a :: b :: c :: d :: rest
    match codeUnit? a b c d, rest with
    | none, _ | _, [] => malformed .badUnicodeEscape here
    | some n, rest =>
      if isHighSurrogate n then
        match rest with
        | '\\' :: 'u' :: e :: f :: g :: h :: i :: rest' =>
          match codeUnit? e f g h with
          | none => malformed .badUnicodeEscape ('u' :: e :: f :: g :: h :: i :: rest')
          | some m =>
            if isLowSurrogate m then readString st start (pairChar n m :: done) (i :: rest')
            else readString st start (unitChar st n :: done)
              ('\\' :: 'u' :: e :: f :: g :: h :: i :: rest')
        | rest => readString st start (unitChar st n :: done) rest
      else readString st start (unitChar st n :: done) rest
  | '\\' :: 'u' :: rest => malformed .badUnicodeEscape ('u' :: rest)
  | '\\' :: c :: rest =>
    match letterEscape? c with
    | some e => readString st start (e :: done) rest
    | none => malformed .badEscape ('\\' :: c :: rest)
  | c :: rest =>
    if c.toNat < 0x20 then malformed .controlCharacter (c :: rest)
    else readString st start (c :: done) rest
  termination_by cs => cs.length

def isDigitChar (c : Char) : Bool :=
  '0' ≤ c && c ≤ '9'

/-- The number that decimal digits write. -/
def digitsValue (digits : List Char) : Nat :=
  digits.foldl (fun n c => 10 * n + (c.toNat - 0x30)) 0

/-- The fraction digits at the start of a text: a point and at least one digit. -/
def readFraction (cs : List Char) : List Char × List Char :=
  match cs with
  | '.' :: c :: rest =>
    if isDigitChar c then
      (c :: rest.takeWhile isDigitChar, rest.dropWhile isDigitChar)
    else ([], cs)
  | _ => ([], cs)

/-- A written exponent at the start of a text, if there is one. -/
def readExponent (cs : List Char) : Option Int × List Char :=
  match cs with
  | e :: rest =>
    if e == 'e' || e == 'E' then
      let (negative, unsigned) :=
        match rest with
        | '-' :: r => (true, r)
        | '+' :: r => (false, r)
        | r => (false, r)
      let digits := unsigned.takeWhile isDigitChar
      if digits.isEmpty then (none, cs)
      else
        let n : Int := digitsValue digits
        (some (if negative then -n else n), unsigned.dropWhile isDigitChar)
    else (none, cs)
  | [] => (none, cs)

/-- The digits before the point: a zero stands alone. -/
def readWhole : List Char → List Char × List Char
  | '0' :: rest => (['0'], rest)
  | cs => (cs.takeWhile isDigitChar, cs.dropWhile isDigitChar)

/-- A number at the start of a text. A whole number may have so many digits. -/
def readNumber (digits : Nat) (cs : List Char) : Except Stop (Value × List Char) :=
  let (negative, unsigned) :=
    match cs with
    | '-' :: r => (true, r)
    | r => (false, r)
  let (whole, rest) := readWhole unsigned
  if whole.isEmpty then malformed .noValue cs
  else
    let (fraction, rest) := readFraction rest
    let (exponent, rest) := readExponent rest
    if fraction.isEmpty && exponent.isNone then
      if digits < whole.length then .error (.tooManyDigits whole.length)
      else
        let n : Int := digitsValue whole
        .ok (.int (if negative then -n else n), rest)
    else
      let shift : Int := exponent.getD 0 - fraction.length
      .ok (.float (Double.ofDecimal negative (digitsValue (whole ++ fraction)) shift), rest)

/-- The words that stand for a value. -/
def words : List (List Char × Value) :=
  [("null".toList, .null), ("true".toList, .bool true), ("false".toList, .bool false),
    ("NaN".toList, .float Double.notANumber), ("Infinity".toList, .float (Double.infinity false)),
    ("-Infinity".toList, .float (Double.infinity true))]

/-- A word or a number at the start of a text. -/
def readScalar (digits : Nat) (cs : List Char) : Except Stop (Value × List Char) :=
  match words.find? fun w => w.1.isPrefixOf cs with
  | some (word, v) => .ok (v, cs.drop word.length)
  | none => readNumber digits cs

mutual

/-- A value at the start of a text. So many brackets may be open inside of each other as there is
room. The fuel bounds the nesting and the number of items; twice the length of the text is
enough. -/
def readValue (st : Standins) (digits room : Nat) :
    Nat → List Char → Except Stop (Value × List Char)
  | 0, cs => malformed .noValue cs
  | fuel + 1, cs =>
    match cs with
    | '"' :: rest => do
      let (s, rest) ← readString st cs [] rest
      pure (.str s, rest)
    | '[' :: rest =>
      if room = 0 then .error (.tooDeep .array)
      else
        match skipBlanks rest with
        | ']' :: rest => .ok (.arr [], rest)
        | rest => readItems st digits (room - 1) fuel [] rest
    | '{' :: rest =>
      if room = 0 then .error (.tooDeep .object)
      else
        match skipBlanks rest with
        | '}' :: rest => .ok (.obj [], rest)
        | rest => readFields st digits (room - 1) fuel [] rest
    | _ => readScalar digits cs

/-- The items of an array up to its end, after those read so far in reverse. -/
def readItems (st : Standins) (digits room : Nat) :
    Nat → List Value → List Char → Except Stop (Value × List Char)
  | 0, _, cs => malformed .noValue cs
  | fuel + 1, done, cs => do
    let (v, rest) ← readValue st digits room fuel cs
    match skipBlanks rest with
    | ']' :: rest => .ok (.arr (v :: done).reverse, rest)
    | ',' :: rest => readItems st digits room fuel (v :: done) (skipBlanks rest)
    | rest => malformed .noComma rest

/-- The entries of an object up to its end, after those read so far. -/
def readFields (st : Standins) (digits room : Nat) :
    Nat → Fields → List Char → Except Stop (Value × List Char)
  | 0, _, cs => malformed .noPropertyName cs
  | fuel + 1, done, cs =>
    match cs with
    | '"' :: rest => do
      let (key, rest) ← readString st cs [] rest
      match skipBlanks rest with
      | ':' :: rest =>
        let (v, rest) ← readValue st digits room fuel (skipBlanks rest)
        let done := done.insert key v
        match skipBlanks rest with
        | '}' :: rest => .ok (.obj done, rest)
        | ',' :: rest => readFields st digits room fuel done (skipBlanks rest)
        | rest => malformed .noComma rest
      | rest => malformed .noColon rest
    | _ => malformed .noPropertyName cs

end

/-- A value with nothing but blanks around it. -/
def readText (c : Codec) (cs : List Char) : Except Stop Value :=
  match cs with
  | '\uFEFF' :: _ => malformed .byteOrderMark cs
  | _ => do
    let (v, rest) ← readValue c.standins c.digits c.room (2 * cs.length + 2) (skipBlanks cs)
    match skipBlanks rest with
    | [] => pure v
    | rest => malformed .extraData rest

/-- Why a text is not read as JSON. -/
inductive ParseError
  | malformed (flaw : Flaw) (line column offset : Nat)
  | tooManyDigits (count : Nat)
  | tooDeep (bracket : Bracket)
  deriving DecidableEq, Repr

/-- Lines and columns count from one, characters from zero. -/
def ParseError.message : ParseError → String
  | .malformed flaw line column offset =>
    flaw.text ++ s!": line {line} column {column} (char {offset})"
  | .tooManyDigits count => (Text.IntegerError.tooManyDigits count).message
  | .tooDeep bracket =>
    s!"maximum recursion depth exceeded while decoding a JSON {bracket.name} from a unicode string"

/-- The error of a stop in a text. -/
def Stop.toError (cs : List Char) : Stop → ParseError
  | .tooManyDigits count => .tooManyDigits count
  | .tooDeep bracket => .tooDeep bracket
  | .malformed flaw rest =>
    let offset := cs.length - rest.length
    let before := cs.take offset
    .malformed flaw (before.count '\n' + 1) ((before.reverse.takeWhile (· != '\n')).length + 1)
      offset

/-- The value that a JSON text writes. -/
def parse (c : Codec) (s : String) : Except ParseError Value :=
  let cs := s.toList
  (readText c cs).mapError (Stop.toError cs)

end PeopleFeed.Json
