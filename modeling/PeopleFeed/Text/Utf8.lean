import PeopleFeed.Text.Hexadecimal

/-!
Decoding bytes as UTF-8. The first sequence that is not well formed stops the decoding, and the
error tells which bytes it is made of; or else every such sequence is replaced.
-/
namespace PeopleFeed.Text

/-- Why a byte sequence is not a character. -/
inductive Utf8Defect
  | badStart
  | badContinuation
  | truncated
  deriving DecidableEq, Repr

/-- The `length` bytes from `position` on are not the encoding of a character. -/
structure Utf8Error where
  defect : Utf8Defect
  position : Nat
  length : Nat
  firstByte : Nat
  deriving DecidableEq, Repr

/-- What the defect is called. -/
def Utf8Defect.text : Utf8Defect → String
  | .badStart => "invalid start byte"
  | .badContinuation => "invalid continuation byte"
  | .truncated => "unexpected end of data"

def Utf8Error.message (e : Utf8Error) : String :=
  let bytes :=
    if e.length = 1 then "byte 0x" ++ String.ofList (hexadecimal 2 e.firstByte) ++
      s!" in position {e.position}"
    else s!"bytes in position {e.position}-{e.position + e.length - 1}"
  "'utf-8' codec can't decode " ++ bytes ++ ": " ++ e.defect.text

/-- Whether a byte may follow the first byte of a sequence. -/
def isContinuation (b : UInt8) : Bool :=
  0x80 ≤ b && b < 0xC0

/-- Whether a byte may come second after the given first byte: the overlong forms, the
surrogates and what lies above the last code point are left out. -/
def isSecond (first b : UInt8) : Bool :=
  isContinuation b &&
    (if first == 0xE0 then 0xA0 ≤ b
     else if first == 0xED then b < 0xA0
     else if first == 0xF0 then 0x90 ≤ b
     else if first == 0xF4 then b < 0x90
     else true)

/-- The code point of a first byte's payload followed by continuation bytes. -/
def codePoint (payload : Nat) (rest : List UInt8) : Char :=
  Char.ofNat (rest.foldl (fun n b => n * 64 + (b.toNat - 0x80)) payload)

/-- Decodes from the given position on, after the characters read so far in reverse. -/
def decodeUtf8From (position : Nat) (read : List Char) :
    List UInt8 → Except Utf8Error (List Char)
  | [] => .ok read.reverse
  | a :: rest =>
    let defective (defect : Utf8Defect) (length : Nat) : Except Utf8Error (List Char) :=
      .error ⟨defect, position, length, a.toNat⟩
    if a < 0x80 then decodeUtf8From (position + 1) (codePoint a.toNat [] :: read) rest
    else if a < 0xC2 || 0xF5 ≤ a then defective .badStart 1
    else match rest with
    | [] => defective .truncated 1
    | b :: rest =>
      if !isSecond a b then defective .badContinuation 1
      else if a < 0xE0 then
        decodeUtf8From (position + 2) (codePoint (a.toNat - 0xC0) [b] :: read) rest
      else match rest with
      | [] => defective .truncated 2
      | c :: rest =>
        if !isContinuation c then defective .badContinuation 2
        else if a < 0xF0 then
          decodeUtf8From (position + 3) (codePoint (a.toNat - 0xE0) [b, c] :: read) rest
        else match rest with
        | [] => defective .truncated 3
        | d :: rest =>
          if !isContinuation d then defective .badContinuation 3
          else decodeUtf8From (position + 4) (codePoint (a.toNat - 0xF0) [b, c, d] :: read) rest

/-- The text that the bytes encode. -/
def decodeUtf8 (bytes : List UInt8) : Except Utf8Error String :=
  (decodeUtf8From 0 [] bytes).map String.ofList

/-- The bytes that encode a text. -/
def encodeUtf8 (s : String) : List UInt8 :=
  s.toUTF8.data.toList

/-- What stands for bytes that are no character. -/
def replacementChar : Char := '\uFFFD'

/-- The characters that bytes encode, with every sequence that is not well formed replaced. -/
def decodeReplacing : List UInt8 → List Char
  | [] => []
  | b :: bs =>
    match decodeUtf8From 0 [] (b :: bs) with
    | .ok cs => cs
    | .error e =>
      ((decodeUtf8From 0 [] ((b :: bs).take e.position)).toOption.getD []) ++
        replacementChar :: decodeReplacing (bs.drop (e.position + e.length - 1))
  termination_by bytes => bytes.length

end PeopleFeed.Text
