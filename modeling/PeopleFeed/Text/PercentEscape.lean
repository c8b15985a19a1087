import PeopleFeed.Text.Utf8

/-!
Percent escapes: a percent sign and two hexadecimal digits stand for a byte. The bytes of a run of
ASCII characters are read as UTF-8 together, and what is no character is replaced.
-/
namespace PeopleFeed.Text

/-- Whether a character is one byte in UTF-8. -/
def isAsciiChar (c : Char) : Bool :=
  c.toNat < 0x80

/-- Bytes with their escapes replaced. A percent sign without two digits is itself. -/
def unescapeBytes (bytes : List UInt8) : List UInt8 :=
  match bytes with
  | 0x25 :: a :: b :: rest =>
    match hexValue? (Char.ofNat a.toNat), hexValue? (Char.ofNat b.toNat) with
    | some x, some y => UInt8.ofNat (16 * x + y) :: unescapeBytes rest
    | _, _ => 0x25 :: unescapeBytes (a :: b :: rest)
  | c :: rest => c :: unescapeBytes rest
  | [] => []
  termination_by bytes.length

/-- A text with its escapes replaced by what they stand for. -/
def unescapePercent (cs : List Char) : List Char :=
  (cs.splitBy fun a b => isAsciiChar a == isAsciiChar b).flatMap fun run =>
    if run.all isAsciiChar then
      decodeReplacing (unescapeBytes (run.map fun c => UInt8.ofNat c.toNat))
    else run

end PeopleFeed.Text
