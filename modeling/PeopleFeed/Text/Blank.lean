/-!
Blank characters and trimming. A text is blank when trimming leaves nothing of it.
-/
namespace PeopleFeed.Text

/-- White space of every script, and the four information separators. -/
def isBlankChar (c : Char) : Bool :=
  let n := c.toNat
  (0x09 ≤ n && n ≤ 0x0D) || (0x1C ≤ n && n ≤ 0x20) || n == 0x85 || n == 0xA0 || n == 0x1680 ||
    (0x2000 ≤ n && n ≤ 0x200A) || n == 0x2028 || n == 0x2029 || n == 0x202F || n == 0x205F ||
    n == 0x3000

/-- A list of characters without the blanks at its end. -/
def trimEndChars (cs : List Char) : List Char :=
  (cs.reverse.dropWhile isBlankChar).reverse

/-- A list of characters without the blanks at either end. -/
def trimChars (cs : List Char) : List Char :=
  trimEndChars (cs.dropWhile isBlankChar)

/-- A text without the blanks at either end. -/
def trim (s : String) : String :=
  String.ofList (trimChars s.toList)

/-- Whether a text holds blanks only. -/
def isBlank (s : String) : Bool :=
  s.toList.all isBlankChar

theorem dropWhile_isBlankChar_eq_nil_iff {cs : List Char} :
    cs.dropWhile isBlankChar = [] ↔ ∀ c ∈ cs, isBlankChar c = true := by
  induction cs with
  | nil => simp
  | cons c cs ih => by_cases h : isBlankChar c <;> simp [h, ih]

theorem trimEndChars_eq_nil_iff {cs : List Char} :
    trimEndChars cs = [] ↔ ∀ c ∈ cs, isBlankChar c = true := by
  simp only [trimEndChars, List.reverse_eq_nil_iff, dropWhile_isBlankChar_eq_nil_iff,
    List.mem_reverse]

/-- Trimming leaves nothing exactly of the blank texts. -/
theorem trimChars_eq_nil_iff {cs : List Char} :
    trimChars cs = [] ↔ cs.all isBlankChar = true := by
  rw [trimChars, trimEndChars_eq_nil_iff, List.all_eq_true]
  constructor
  · intro h
    apply dropWhile_isBlankChar_eq_nil_iff.1
    cases hd : cs.dropWhile isBlankChar with
    | nil => rfl
    | cons x xs =>
      have hx := h x (by simp [hd])
      have hhead := List.head?_dropWhile_not isBlankChar cs
      simp [hd, hx] at hhead
  · intro h c hc
    exact h c ((List.dropWhile_sublist _).subset hc)

end PeopleFeed.Text
