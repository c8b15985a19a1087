import PeopleFeed.Json.Printer

/-! The text of a value has no control characters: strings are written with escapes, and numbers
with digits, signs and points. So it stands on one line. -/
namespace PeopleFeed.Json

open PeopleFeed.Decimal (Double Layout positional scientific shortest)
open PeopleFeed.Text (hexadecimal hexDigit)

variable {s t : List Char} {c : Char}

/-- A text without control characters. -/
def IsVisible (t : List Char) : Prop :=
  ∀ c ∈ t, 0x20 ≤ c.toNat

@[simp] theorem isVisible_nil : IsVisible [] := by
  simp [IsVisible]

@[simp] theorem isVisible_cons : IsVisible (c :: t) ↔ 0x20 ≤ c.toNat ∧ IsVisible t := by
  simp [IsVisible]

@[simp] theorem isVisible_append : IsVisible (s ++ t) ↔ IsVisible s ∧ IsVisible t := by
  simp [IsVisible, or_imp, forall_and]

theorem IsVisible.notMem (h : IsVisible t) (hc : c.toNat < 0x20) : c ∉ t :=
  fun hmem => absurd (h c hmem) (Nat.not_le.mpr hc)

theorem IsVisible.take (h : IsVisible t) (n : Nat) : IsVisible (t.take n) :=
  fun c hc => h c (List.mem_of_mem_take hc)

theorem IsVisible.drop (h : IsVisible t) (n : Nat) : IsVisible (t.drop n) :=
  fun c hc => h c (List.mem_of_mem_drop hc)

theorem IsVisible.ite {p : Prop} [Decidable p] (hs : IsVisible s) (ht : IsVisible t) :
    IsVisible (if p then s else t) := by
  split <;> assumption

/-! Strings. -/

theorem isVisible_hexadecimal (width n : Nat) : IsVisible (hexadecimal width n) := by
  induction width generalizing n with
  | zero => exact isVisible_nil
  | succ width ih =>
    have hdigits : ∀ d : Fin 16, 0x20 ≤ (hexDigit d.val).toNat := by decide
    have hdigit := hdigits ⟨n % 16, Nat.mod_lt n (by decide)⟩
    simp [hexadecimal, ih, hdigit]

theorem isVisible_escapeUnits (c : Char) : IsVisible (escapeUnits c) := by
  unfold escapeUnits
  split <;> simp [unicodeEscape, isVisible_hexadecimal]

theorem isVisible_units (style : Style) (c : Char) : IsVisible (style.units c) := by
  cases style with
  | plain => exact isVisible_escapeUnits c
  | ascii st =>
    cases h : st.unit? c with
    | some unit => simp [Style.units, h, unicodeEscape, isVisible_hexadecimal]
    | none => simp only [Style.units, h, isVisible_escapeUnits]

/-- Control characters are written as letters or code units. -/
theorem isVisible_escapeChar (style : Style) (c : Char) : IsVisible (escapeChar style c) := by
  have hplain : style.escapes c = false → 0x20 ≤ c.toNat := by
    cases style with
    | plain => simp [Style.escapes]
    | ascii =>
      simp only [Style.escapes, Bool.or_eq_false_iff, decide_eq_false_iff_not]
      omega
  have hlast : IsVisible (if style.escapes c then style.units c else [c]) := by
    split
    · exact isVisible_units style c
    · rename_i h
      simpa using hplain (by simpa using h)
  unfold escapeChar
  iterate 7 refine IsVisible.ite (by simp) ?_
  exact hlast

theorem isVisible_printString (style : Style) (s : String) : IsVisible (printString style s) := by
  have hchars : IsVisible (s.toList.flatMap (escapeChar style)) := by
    intro c hc
    obtain ⟨d, -, hmem⟩ := List.mem_flatMap.mp hc
    exact isVisible_escapeChar style d c hmem
  simp [printString, hchars]

/-! Numbers. -/

theorem isVisible_toDigits (n : Nat) : IsVisible (Nat.toDigits 10 n) := by
  intro c hc
  have hdigit : c.isDigit = true := Nat.isDigit_of_mem_toDigits (by decide) (by decide) hc
  have hle : '0' ≤ c := by
    simp only [Char.isDigit, Bool.and_eq_true, decide_eq_true_eq] at hdigit
    exact hdigit.1
  have hzero : '0'.toNat ≤ c.toNat := hle
  exact Nat.le_trans (by decide) hzero

theorem isVisible_replicate_zero (n : Nat) : IsVisible (List.replicate n '0') := by
  intro c hc
  rw [List.eq_of_mem_replicate hc]
  decide

theorem isVisible_normal (n : Decimal.Numeral) : IsVisible n.normal.1 := by
  intro c hc
  apply isVisible_toDigits n.digits
  simp only [Decimal.Numeral.normal, List.mem_reverse] at hc
  exact List.mem_reverse.mp ((List.dropWhile_sublist _).mem hc)

theorem isVisible_positional (h : IsVisible t) (e : Int) : IsVisible (positional t e) := by
  have hback : IsVisible (if (t.drop (e.toNat + 1)).isEmpty then ['0']
      else t.drop (e.toNat + 1)) := .ite (by simp) (h.drop _)
  unfold positional
  apply IsVisible.ite
  · simp [h, isVisible_replicate_zero]
  · simpa [h.take, isVisible_replicate_zero] using hback

theorem isVisible_scientific (l : Layout) (h : IsVisible t) (e : Int) :
    IsVisible (scientific l t e) := by
  have hback : IsVisible (if (t.drop 1).isEmpty then [] else '.' :: t.drop 1) :=
    .ite (by simp) (isVisible_cons.mpr ⟨by decide, h.drop 1⟩)
  have hsign : 0x20 ≤ (if e < 0 then '-' else '+').toNat := by
    split <;> decide
  simpa [scientific, h.take, isVisible_replicate_zero, isVisible_toDigits, hsign] using hback

/-- The sign in front of a number. -/
def signText (negative : Bool) : List Char :=
  if negative then ['-'] else []

theorem isVisible_signText (negative : Bool) : IsVisible (signText negative) :=
  .ite (by simp) (by simp)

theorem printInt_eq (n : Int) :
    printInt n = signText (decide (n < 0)) ++ Nat.toDigits 10 n.natAbs := by
  by_cases hn : n < 0 <;> simp [printInt, signText, hn]

theorem isVisible_printInt (n : Int) : IsVisible (printInt n) := by
  simp [printInt_eq, isVisible_signText, isVisible_toDigits]

/-- A finite number is zero or written by its shortest numeral. -/
theorem printFloat_eq {x : Double} (hx : x.isFinite = true) :
    printFloat x = signText x.isNegative ++
      if x.isZero then "0.0".toList
      else if Layout.plain.leastPositional ≤ (shortest x).normal.2 &&
          (shortest x).normal.2 < Layout.plain.leastScientific then
        positional (shortest x).normal.1 (shortest x).normal.2
      else scientific Layout.plain (shortest x).normal.1 (shortest x).normal.2 := by
  have hnumber : x.isNaN = false := by simp [Double.isNaN, hx]
  cases hzero : x.isZero <;> simp [printFloat, Double.text, hnumber, hx, hzero, signText]

theorem isVisible_printFloat (x : Double) : IsVisible (printFloat x) := by
  cases hx : x.isFinite with
  | true =>
    have hdigits := isVisible_normal (shortest x)
    rw [printFloat_eq hx, isVisible_append]
    exact ⟨isVisible_signText _, .ite (by simp)
      (.ite (isVisible_positional hdigits _) (isVisible_scientific _ hdigits _))⟩
  | false =>
    simp only [printFloat, hx, Bool.not_false, if_true]
    exact .ite (by simp) (.ite (by simp) (by simp))

/-! Values. -/

section Values

variable (style : Style)

mutual

/-- The text of a value stands on one line. -/
theorem isVisible_print : ∀ v : Value, IsVisible (print style v)
  | .null => by simp [print]
  | .bool true => by simp [print]
  | .bool false => by simp [print]
  | .int n => isVisible_printInt n
  | .float x => isVisible_printFloat x
  | .str s => isVisible_printString style s
  | .arr items => by simp [print, isVisible_printItems items]
  | .obj fields => by simp [print, isVisible_printFields fields]

theorem isVisible_printItems : ∀ items : List Value, IsVisible (printItems style items)
  | [] => isVisible_nil
  | [v] => isVisible_print v
  | v :: w :: rest => by simp [printItems, isVisible_print v, isVisible_printItems (w :: rest)]

theorem isVisible_printFields : ∀ fields : Fields, IsVisible (printFields style fields)
  | [] => isVisible_nil
  | [(k, v)] => by simp [printFields, isVisible_printString style k, isVisible_print v]
  | (k, v) :: f :: rest => by
    simp [printFields, isVisible_printString style k, isVisible_print v,
      isVisible_printFields (f :: rest)]

end

end Values

end PeopleFeed.Json
