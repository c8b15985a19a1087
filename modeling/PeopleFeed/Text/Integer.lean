import PeopleFeed.Text.Blank
import PeopleFeed.Text.DecimalDigit
import PeopleFeed.Text.Quoted

/-!
Reading whole numbers: blanks around, one sign, digits of any script, and single underscores
between digits. The information separators are no blanks here.
-/
namespace PeopleFeed.Text

/-- Why a text is not read as a whole number. -/
inductive IntegerError
  | notANumeral (text : String)
  | tooManyDigits (count : Nat)
  deriving DecidableEq, Repr

/-- The most digits that are read. -/
def maxDigits : Nat := 4300

/-- At most so many characters of a quoted text are shown. -/
def shownNumeral : Nat := 200

def IntegerError.message : IntegerError → String
  | .notANumeral text =>
    "invalid literal for int() with base 10: " ++
      String.ofList ((quoted text).toList.take shownNumeral)
  | .tooManyDigits count =>
    s!"Exceeds the limit ({maxDigits} digits) for integer string conversion: value has {count} " ++
      "digits; use sys.set_int_max_str_digits() to increase the limit"

/-- A blank that may stand around a numeral. -/
def isNumeralBlank (c : Char) : Bool :=
  isBlankChar c && !(0x1C ≤ c.toNat && c.toNat ≤ 0x1F)

/-- The digits at the start of a text, and what is left. A single underscore may stand between
two digits; none is returned when an underscore stands elsewhere. -/
def readDigits (read : List Nat) (afterDigit : Bool) : List Char → Option (List Nat × List Char)
  | [] => if afterDigit then some (read.reverse, []) else none
  | c :: cs =>
    match digitValue? c with
    | some d => readDigits (d :: read) true cs
    | none =>
      if !afterDigit then none
      else if c == '_' then readDigits read false cs
      else some (read.reverse, c :: cs)

/-- The number that a list of decimal digits writes. -/
def ofDigits (digits : List Nat) : Nat :=
  digits.foldl (fun n d => 10 * n + d) 0

/-- A sign, if there is one, and what is left. -/
def readSign : List Char → Bool × List Char
  | '-' :: cs => (true, cs)
  | '+' :: cs => (false, cs)
  | cs => (false, cs)

/-- The whole number that a text writes. -/
def readInteger (text : String) : Except IntegerError Int :=
  let (negative, cs) := readSign (text.toList.dropWhile isNumeralBlank)
  match readDigits [] false cs with
  | none => .error (.notANumeral text)
  | some (digits, rest) =>
    if maxDigits < digits.length then .error (.tooManyDigits digits.length)
    else if !rest.all isNumeralBlank then .error (.notANumeral text)
    else
      let n : Int := ofDigits digits
      .ok (if negative then -n else n)

theorem readDigits_lt {cs rest : List Char} {read digits : List Nat} {afterDigit : Bool}
    (h : readDigits read afterDigit cs = some (digits, rest)) (hread : ∀ d ∈ read, d < 10) :
    ∀ d ∈ digits, d < 10 := by
  induction cs generalizing read afterDigit with
  | nil =>
    cases afterDigit with
    | false => simp [readDigits] at h
    | true =>
      obtain ⟨rfl, -⟩ : read.reverse = digits ∧ [] = rest := by simpa [readDigits] using h
      simpa using hread
  | cons c cs ih =>
    cases hc : digitValue? c with
    | some d =>
      have hmore : ∀ e ∈ d :: read, e < 10 :=
        List.forall_mem_cons.mpr ⟨digitValue?_lt hc, hread⟩
      exact ih (by simpa [readDigits, hc] using h) hmore
    | none =>
      simp only [readDigits, hc] at h
      split at h
      · cases h
      · split at h
        · exact ih h hread
        · obtain ⟨rfl, -⟩ : read.reverse = digits ∧ c :: cs = rest := by simpa using h
          simpa using hread

/-- A number has no more digits than it was written with. -/
theorem length_toDigits_ofDigits {digits : List Nat} {k : Nat} (h : ∀ d ∈ digits, d < 10)
    (hk : digits.length ≤ k) (hpos : 0 < k) :
    (Nat.toDigits 10 (ofDigits digits)).length ≤ k := by
  have hfold : ∀ n, digits.foldl (fun n d => 10 * n + d) n < (n + 1) * 10 ^ digits.length := by
    clear hk
    induction digits with
    | nil => simp
    | cons d digits ih =>
      obtain ⟨hd, hdigits⟩ := List.forall_mem_cons.mp h
      intro n
      have hn : 10 * n + d + 1 ≤ (n + 1) * 10 := by omega
      calc (d :: digits).foldl (fun n d => 10 * n + d) n
        _ < (10 * n + d + 1) * 10 ^ digits.length := ih hdigits _
        _ ≤ (n + 1) * 10 * 10 ^ digits.length := Nat.mul_le_mul_right _ hn
        _ = (n + 1) * 10 ^ (d :: digits).length := by
          rw [List.length_cons, Nat.pow_succ, Nat.mul_assoc, Nat.mul_comm 10]
  have hbelow : ofDigits digits < 10 ^ digits.length := by simpa [ofDigits] using hfold 0
  exact (Nat.length_toDigits_le_iff (by decide) hpos).mpr
    (Nat.lt_of_lt_of_le hbelow (Nat.pow_le_pow_right (by decide) hk))

/-- What is read has no more digits than may be. -/
theorem length_toDigits_of_readInteger {text : String} {n : Int} (h : readInteger text = .ok n) :
    (Nat.toDigits 10 n.natAbs).length ≤ maxDigits := by
  unfold readInteger at h
  split at h
  rename_i negative cs _
  split at h
  · cases h
  · rename_i digits rest hread
    split at h
    · cases h
    · rename_i hlength
      split at h
      · cases h
      · have hdigits : ∀ d ∈ digits, d < 10 := readDigits_lt hread (fun _ hd => nomatch hd)
        have habs : n.natAbs = ofDigits digits := by
          cases negative <;> cases h <;> simp
        rw [habs]
        exact length_toDigits_ofDigits hdigits (Nat.le_of_not_lt hlength) (by decide)

theorem length_toDigits_of_le {m n : Nat} (h : m ≤ n)
    (hn : (Nat.toDigits 10 n).length ≤ maxDigits) : (Nat.toDigits 10 m).length ≤ maxDigits := by
  rw [Nat.length_toDigits_le_iff (by decide) (by decide)] at hn ⊢
  exact Nat.lt_of_le_of_lt h hn

end PeopleFeed.Text
