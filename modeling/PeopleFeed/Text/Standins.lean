import PeopleFeed.Text.Hexadecimal

/-!
Lone surrogates. A JSON text may write code units of pairs that belong to no pair. They are no
characters, so a block of characters that the texts do not use otherwise stands for them. A text
with one of them cannot be encoded.
-/
namespace PeopleFeed.Text

/-- The first of the code units that make up pairs. -/
def firstSurrogate : Nat := 0xD800

/-- How many code units make up pairs. -/
def surrogateCount : Nat := 0x800

/-- The block of characters that stands for lone surrogates. -/
structure Standins where
  first : Nat
  beyond_plane : 0x10000 ≤ first
  within_planes : first + surrogateCount ≤ 0x110000

/-- The last block. -/
def Standins.last : Standins where
  first := 0x10F800
  beyond_plane := by decide
  within_planes := by decide

/-- The first lone surrogate of a text, and how many of them stand together there. -/
structure EncodeError where
  unit : Nat
  position : Nat
  length : Nat
  deriving DecidableEq, Repr

def EncodeError.message (e : EncodeError) : String :=
  let units :=
    if e.length = 1 then "character '\\u" ++ String.ofList (hexadecimal 4 e.unit) ++
      s!"' in position {e.position}"
    else s!"characters in position {e.position}-{e.position + e.length - 1}"
  "'utf-8' codec can't encode " ++ units ++ ": surrogates not allowed"

namespace Standins

variable (st : Standins)

/-- The character that stands for a lone surrogate. -/
def char (unit : Nat) : Char :=
  Char.ofNat (st.first + (unit - firstSurrogate))

/-- The lone surrogate that a character stands for, if it stands for one. -/
def unit? (c : Char) : Option Nat :=
  if st.first ≤ c.toNat ∧ c.toNat < st.first + surrogateCount then
    some (firstSurrogate + (c.toNat - st.first))
  else none

/-- What keeps characters from being encoded, those from a position on. -/
def tearFrom? (position : Nat) : List Char → Option EncodeError
  | [] => none
  | c :: rest =>
    match st.unit? c with
    | some unit => some ⟨unit, position, 1 + (rest.takeWhile fun d => (st.unit? d).isSome).length⟩
    | none => tearFrom? (position + 1) rest

/-- What keeps a text from being encoded. -/
def tear? (s : String) : Option EncodeError :=
  st.tearFrom? 0 s.toList

/-- What keeps the first of some texts that cannot be encoded from being encoded. -/
def tearIn? (texts : List String) : Option EncodeError :=
  texts.findSome? st.tear?

variable {st}

theorem toNat_char {unit : Nat} (h : firstSurrogate ≤ unit)
    (hlast : unit < firstSurrogate + surrogateCount) :
    (st.char unit).toNat = st.first + (unit - firstSurrogate) := by
  have hbeyond := st.beyond_plane
  have hwithin := st.within_planes
  have hunit := Nat.sub_lt_left_of_lt_add h hlast
  have hvalid : (st.first + (unit - firstSurrogate)).isValidChar :=
    .inr ⟨Nat.lt_of_lt_of_le (by decide) (Nat.le_add_right_of_le hbeyond),
      Nat.lt_of_lt_of_le (Nat.add_lt_add_left hunit _) hwithin⟩
  rw [char, Char.ofNat, dif_pos hvalid]
  rfl

/-- Every lone surrogate has a character of its own. -/
theorem unit?_char {unit : Nat} (h : firstSurrogate ≤ unit)
    (hlast : unit < firstSurrogate + surrogateCount) : st.unit? (st.char unit) = some unit := by
  have hunit := Nat.sub_lt_left_of_lt_add h hlast
  rw [unit?, toNat_char h hlast, if_pos ⟨Nat.le_add_right _ _, Nat.add_lt_add_left hunit _⟩,
    Nat.add_sub_cancel_left, Nat.add_sub_cancel' h]

theorem tearFrom?_eq_none_iff {position : Nat} {cs : List Char} :
    st.tearFrom? position cs = none ↔ ∀ c ∈ cs, st.unit? c = none := by
  induction cs generalizing position with
  | nil => simp [tearFrom?]
  | cons c cs ih => cases h : st.unit? c <;> simp [tearFrom?, h, ih]

/-- A text can be encoded exactly if no character of it stands for a lone surrogate. -/
theorem tear?_eq_none_iff {s : String} :
    st.tear? s = none ↔ ∀ c ∈ s.toList, st.unit? c = none :=
  tearFrom?_eq_none_iff

end Standins

end PeopleFeed.Text
