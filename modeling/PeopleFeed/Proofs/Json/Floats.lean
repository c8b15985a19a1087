import PeopleFeed.Proofs.Decimal.Shortest
import PeopleFeed.Proofs.Json.Reading

/-! A floating point number is read back from its text, whichever of the layouts the text has. -/
namespace PeopleFeed.Json

open PeopleFeed.Decimal (Double Layout Numeral positional scientific shortest)

variable {st : Text.Standins} {digits room : Nat} {rest ds fraction : List Char} {x : Double}
  {e : Int}

/-! Digits. -/

theorem digitsValue_eq (ds : List Char) : digitsValue ds = Nat.ofDigitChars 10 ds 0 :=
  rfl

/-- Zeros in front of digits do not count. -/
theorem digitsValue_zeros_append (n : Nat) (ds : List Char) :
    digitsValue (List.replicate n '0' ++ ds) = digitsValue ds := by
  simp [digitsValue_eq, Nat.ofDigitChars_append, Nat.ofDigitChars_replicate_zero]

/-- Zeros behind digits are powers of ten. -/
theorem digitsValue_append_zeros (ds : List Char) (n : Nat) :
    digitsValue (ds ++ List.replicate n '0') = digitsValue ds * 10 ^ n := by
  simp [digitsValue_eq, Nat.ofDigitChars_append, Nat.ofDigitChars_replicate_zero, Nat.mul_comm]

theorem isDigitChar_of_mem_zeros {n : Nat} {c : Char} (h : c ∈ List.replicate n '0') :
    isDigitChar c = true := by
  rw [List.eq_of_mem_replicate h]
  rfl

theorem isDigitChar_of_mem_zero {c : Char} (h : c ∈ ['0']) : isDigitChar c = true :=
  isDigitChar_of_mem_zeros (n := 1) h

/-- Digits that do not start with a zero. -/
structure IsNumeral (ds : List Char) : Prop where
  digits : ∀ c ∈ ds, isDigitChar c = true
  head : ∃ c cs, ds = c :: cs ∧ c ≠ '0'

theorem IsNumeral.ne_nil (h : IsNumeral ds) : ds ≠ [] := by
  obtain ⟨c, cs, rfl, -⟩ := h.head
  exact List.cons_ne_nil c cs

/-- What starts with such digits may stand before a point. -/
theorem IsNumeral.isWhole_take (h : IsNumeral ds) (n : Nat) (back : List Char)
    (hback : ∀ c ∈ back, isDigitChar c = true) : IsWhole (ds.take (n + 1) ++ back) := by
  obtain ⟨c, cs, rfl, hc⟩ := h.head
  refine ⟨?_, by simp, ?_⟩
  · intro d hd
    rcases List.mem_append.mp hd with hfront | hd
    · exact h.digits d (List.mem_of_mem_take hfront)
    · exact hback d hd
  · intro cs' hcons
    exact absurd (List.cons.inj hcons).1 hc

/-! Parts of a number. -/

theorem readFraction_point (hfraction : ∀ c ∈ fraction, isDigitChar c = true)
    (hsome : fraction ≠ []) (h : EndsDigits rest) :
    readFraction ('.' :: (fraction ++ rest)) = (fraction, rest) := by
  obtain ⟨c, cs, rfl⟩ := List.exists_cons_of_ne_nil hsome
  have hc := hfraction c List.mem_cons_self
  have hspan := span_digits (fun d hd => hfraction d (List.mem_cons_of_mem c hd)) h
  simp [readFraction, hc, hspan]

/-- A point may be left out with the digits behind it. -/
theorem readFraction_optional {r : List Char} (hfraction : ∀ c ∈ fraction, isDigitChar c = true)
    (h : EndsDigits r) (hpoint : ∀ cs, r ≠ '.' :: cs) :
    EndsDigits ((if fraction.isEmpty then [] else '.' :: fraction) ++ r) ∧
      readFraction ((if fraction.isEmpty then [] else '.' :: fraction) ++ r) = (fraction, r) := by
  cases fraction with
  | nil => exact ⟨h, readFraction_of_ne_point hpoint⟩
  | cons c cs =>
    exact ⟨endsDigits_cons _ (by decide), readFraction_point hfraction (List.cons_ne_nil c cs) h⟩

/-- A written exponent is read back. -/
theorem readExponent_written (n : Nat) (e : Int) (h : EndsDigits rest) :
    readExponent ('e' :: (if e < 0 then '-' else '+') ::
        (List.replicate n '0' ++ Nat.toDigits 10 e.natAbs ++ rest)) = (some e, rest) := by
  have hdigits : ∀ c ∈ List.replicate n '0' ++ Nat.toDigits 10 e.natAbs, isDigitChar c = true := by
    intro c hc
    rcases List.mem_append.mp hc with hc | hc
    · exact isDigitChar_of_mem_zeros hc
    · exact isDigitChar_of_mem_toDigits hc
  have hspan := span_digits hdigits h
  have hsome : (List.replicate n '0' ++ Nat.toDigits 10 e.natAbs).isEmpty = false := by
    simp [Nat.toDigits_ne_nil]
  have hvalue : digitsValue (List.replicate n '0' ++ Nat.toDigits 10 e.natAbs) = e.natAbs := by
    rw [digitsValue_zeros_append, digitsValue_toDigits]
  by_cases he : e < 0
  · have habs : -(e.natAbs : Int) = e := by omega
    simp only [readExponent, he, if_true, hspan, hsome, hvalue, habs]
    simp
  · have habs : (e.natAbs : Int) = e := by omega
    simp only [readExponent, he, if_false, hspan, hsome, hvalue, habs]
    simp

/-! Layouts. -/

section Told

variable (hx : x.isFinite = true) (hpos : 0 < x.significand)
include hx hpos

/-- Digits on both sides of a point. -/
theorem writes_point {whole : List Char} (hwhole : IsWhole whole)
    (hfraction : ∀ c ∈ fraction, isDigitChar c = true) (hsome : fraction ≠ [])
    (htold : x.IsToldBy (digitsValue (whole ++ fraction)) (-fraction.length))
    (hfew : -400 ≤ -(fraction.length : Int)) :
    Writes st digits room (signText x.isNegative ++ (whole ++ '.' :: fraction)) (.float x) := by
  apply writes_number x.isNegative _ hwhole
  intro rest hrest
  rw [List.cons_append, readNumber_parts x.isNegative hwhole (endsDigits_cons _ (by decide))
    (readFraction_point hfraction hsome hrest.endsDigits) (readExponent_of_endsNumber hrest)]
  simp [hsome, Double.ofDecimal_of_isToldBy hx hpos htold hfew]

variable (hds : IsNumeral ds) (htold : x.IsToldBy (digitsValue ds) (e + 1 - ds.length))
  (hfew : -400 ≤ e + 1 - ds.length)
include hds htold hfew

theorem writes_positional :
    Writes st digits room (signText x.isNegative ++ positional ds e) (.float x) := by
  unfold positional
  split
  · rename_i he
    have hfraction : ∀ c ∈ List.replicate ((-e).toNat - 1) '0' ++ ds, isDigitChar c = true := by
      intro c hc
      rcases List.mem_append.mp hc with hc | hc
      · exact isDigitChar_of_mem_zeros hc
      · exact hds.digits c hc
    have hvalue : digitsValue (['0'] ++ (List.replicate ((-e).toNat - 1) '0' ++ ds)) =
        digitsValue ds :=
      (digitsValue_zeros_append 1 _).trans (digitsValue_zeros_append _ ds)
    have hshift : -((List.replicate ((-e).toNat - 1) '0' ++ ds).length : Int) =
        e + 1 - ds.length := by
      simp only [List.length_append, List.length_replicate]
      omega
    have hsome : List.replicate ((-e).toNat - 1) '0' ++ ds ≠ [] :=
      List.append_ne_nil_of_right_ne_nil _ hds.ne_nil
    exact writes_point hx hpos (isWhole_toDigits 0) hfraction hsome (hvalue ▸ hshift ▸ htold)
      (hshift ▸ hfew)
  · rename_i he
    have hwhole : IsWhole (ds.take (e.toNat + 1) ++
        List.replicate (e.toNat + 1 - ds.length) '0') :=
      hds.isWhole_take e.toNat _ fun c => isDigitChar_of_mem_zeros
    rcases Nat.lt_or_ge (e.toNat + 1) ds.length with hlong | hshort
    · have hsome : ds.drop (e.toNat + 1) ≠ [] := by
        rw [Ne, List.drop_eq_nil_iff]
        omega
      have hzeros : e.toNat + 1 - ds.length = 0 := by omega
      have hshift : -((ds.drop (e.toNat + 1)).length : Int) = e + 1 - ds.length := by
        rw [List.length_drop]
        omega
      simp only [hzeros, List.replicate_zero, List.append_nil] at hwhole ⊢
      rw [if_neg (by simpa using hsome)]
      apply writes_point hx hpos hwhole (fun c hc => hds.digits c (List.mem_of_mem_drop hc)) hsome
      · rwa [List.take_append_drop, hshift]
      · rwa [hshift]
    · have hnone : ds.drop (e.toNat + 1) = [] := List.drop_eq_nil_of_le hshort
      have hall : ds.take (e.toNat + 1) = ds := List.take_of_length_le hshort
      have hvalue : digitsValue (ds ++ List.replicate (e.toNat + 1 - ds.length) '0' ++ ['0']) =
          digitsValue ds * 10 ^ (e.toNat + 1 - ds.length + 1) := by
        rw [List.append_assoc, ← List.replicate_succ', digitsValue_append_zeros]
      rw [hall] at hwhole
      have hzero : ∀ c ∈ ['0'], isDigitChar c = true := fun _ => isDigitChar_of_mem_zero
      simp only [hnone, hall]
      apply writes_point hx hpos hwhole hzero (List.cons_ne_nil _ _)
      · have hshift : -((['0'].length : Nat) : Int) +
            ((e.toNat + 1 - ds.length + 1 : Nat) : Int) = e + 1 - ds.length := by
          simp only [List.length_singleton]
          omega
        rwa [hvalue, Double.isToldBy_mul, hshift]
      · decide

theorem writes_scientific (l : Layout) :
    Writes st digits room (signText x.isNegative ++ scientific l ds e) (.float x) := by
  have hwhole : IsWhole (ds.take 1) := by
    simpa using hds.isWhole_take 0 [] (by simp)
  have hlength : 0 < ds.length := List.length_pos_iff.mpr hds.ne_nil
  have hshift : e - ((ds.drop 1).length : Int) = e + 1 - ds.length := by
    rw [List.length_drop]
    omega
  unfold scientific
  simp only [List.append_assoc]
  apply writes_number x.isNegative _ hwhole
  intro rest hrest
  simp only [List.append_assoc, List.cons_append]
  obtain ⟨hends, hfraction⟩ := readFraction_optional
    (fun c hc => hds.digits c (List.mem_of_mem_drop hc))
    (r := 'e' :: (if e < 0 then '-' else '+') ::
      (List.replicate (l.exponentDigits - (Nat.toDigits 10 e.natAbs).length) '0' ++
        (Nat.toDigits 10 e.natAbs ++ rest))) (endsDigits_cons _ (by decide)) (by simp)
  have hexponent := readExponent_written
    (l.exponentDigits - (Nat.toDigits 10 e.natAbs).length) e hrest.endsDigits
  rw [List.append_assoc] at hexponent
  rw [readNumber_parts x.isNegative hwhole hends hfraction hexponent]
  have htold' : x.IsToldBy (digitsValue (ds.take 1 ++ ds.drop 1)) (e - (ds.drop 1).length) := by
    rwa [List.take_append_drop, hshift]
  simp only [Option.isNone_some, Bool.and_false, Bool.false_eq_true, if_false, Option.getD_some]
  rw [Double.ofDecimal_of_isToldBy hx hpos htold' (by rwa [hshift])]

end Told

/-! Numerals. -/

/-- The digits of a numeral without the zeros at their end, with the exponent that makes up for
them. -/
theorem exists_of_normal {n : Numeral} (hn : n.digits ≠ 0) :
    ∃ zeros : Nat, IsNumeral n.normal.1 ∧ n.digits = digitsValue n.normal.1 * 10 ^ zeros ∧
      n.normal.2 + 1 - n.normal.1.length = n.point - n.count + zeros := by
  generalize hall : Nat.toDigits 10 n.digits = all
  generalize hkept : (all.reverse.dropWhile (· == '0')).reverse = kept
  have hnormal : n.normal = (kept, n.point + ((all.length : Int) - n.count) - 1) := by
    rw [← hkept, ← hall]
    rfl
  obtain ⟨zeros, hsplit⟩ : ∃ zeros, all = kept ++ List.replicate zeros '0' := by
    have hzeros := List.eq_replicate_of_mem (l := all.reverse.takeWhile (· == '0')) (a := '0')
      fun c hc => by simpa using List.all_eq_true.mp List.all_takeWhile c hc
    refine ⟨(all.reverse.takeWhile (· == '0')).length, ?_⟩
    rw [← hkept, ← List.reverse_replicate, ← hzeros, ← List.reverse_append,
      List.takeWhile_append_dropWhile, List.reverse_reverse]
  have hvalue : n.digits = digitsValue kept * 10 ^ zeros := by
    rw [← digitsValue_append_zeros, ← hsplit, ← hall, digitsValue_toDigits]
  have hwhole : IsWhole all := hall ▸ isWhole_toDigits n.digits
  refine ⟨zeros, ⟨?_, ?_⟩, ?_, ?_⟩
  · intro c hc
    rw [hnormal] at hc
    exact hwhole.digits c (hsplit ▸ List.mem_append_left _ hc)
  · rw [hnormal]
    cases kept with
    | nil => exact absurd (hvalue.trans (Nat.zero_mul _)) hn
    | cons c cs =>
      refine ⟨c, cs, rfl, ?_⟩
      rintro rfl
      obtain ⟨rfl, -⟩ := List.append_eq_nil_iff.mp (hwhole.zero _ hsplit)
      exact hn (hvalue.trans (Nat.zero_mul _))
  · rwa [hnormal]
  · rw [hnormal, hsplit]
    simp only [List.length_append, List.length_replicate]
    omega

/-! Floating point numbers. -/

/-- The number as a text tells it: of the numbers that are none there is but one. -/
def quietFloat (x : Double) : Double :=
  if x.isNaN then Double.notANumber else x

theorem eq_zero_of_isZero (h : x.isZero = true) : x = Double.zero x.isNegative := by
  simp only [Double.isZero, Bool.and_eq_true, beq_iff_eq] at h
  have hscale : x.scale = 0 := by
    unfold Double.scale
    omega
  have hsignificand : x.significand = 0 := by
    unfold Double.significand
    rw [if_pos h.1, h.2]
  have hbits := Double.ofNat_bits x
  rw [hscale, hsignificand] at hbits
  exact congrArg Double.mk hbits.symm

theorem eq_infinity_of_isFinite (hx : x.isFinite = false) (hnumber : x.isNaN = false) :
    x = Double.infinity x.isNegative := by
  have hfield : x.exponentField = 0x7FF := by simpa [Double.isFinite] using hx
  have hfraction : x.fractionField = 0 := by simpa [Double.isNaN, hx] using hnumber
  have hscale : x.scale = 0x7FE := by
    unfold Double.scale
    omega
  have hsignificand : x.significand = 2 ^ 52 := by
    unfold Double.significand
    rw [if_neg (by omega), hfraction, Nat.zero_add]
    rfl
  have hbits := Double.ofNat_bits x
  rw [hscale, hsignificand] at hbits
  exact congrArg Double.mk hbits.symm

theorem significand_pos (h : x.isZero = false) : 0 < x.significand := by
  unfold Double.significand
  split
  · rename_i hfield
    have hfraction : x.fractionField ≠ 0 := by simpa [Double.isZero, hfield] using h
    omega
  · exact Nat.add_pos_right _ (Nat.pow_pos (by decide))

theorem writes_zero (negative : Bool) :
    Writes st digits room (signText negative ++ "0.0".toList) (.float (Double.zero negative)) := by
  have hwhole : IsWhole ['0'] := isWhole_toDigits 0
  have hzero : ∀ c ∈ ['0'], isDigitChar c = true := fun _ => isDigitChar_of_mem_zero
  apply writes_number negative ['.', '0'] hwhole
  intro rest hrest
  have hends : EndsDigits (['.', '0'] ++ rest) := endsDigits_cons _ (by decide)
  have hfraction : readFraction (['.', '0'] ++ rest) = (['0'], rest) :=
    readFraction_point hzero (List.cons_ne_nil _ _) hrest.endsDigits
  rw [readNumber_parts negative hwhole hends hfraction (readExponent_of_endsNumber hrest)]
  rfl

/-- A floating point number is read back from its text. -/
theorem writes_float (x : Double) :
    Writes st digits room (printFloat x) (.float (quietFloat x)) := by
  cases hx : x.isFinite with
  | true =>
    have hnumber : x.isNaN = false := by simp [Double.isNaN, hx]
    rw [printFloat_eq hx, quietFloat, hnumber]
    cases hzero : x.isZero with
    | true =>
      have hvalue := eq_zero_of_isZero hzero
      simp only [if_true, Bool.false_eq_true, if_false]
      generalize x.isNegative = negative at hvalue ⊢
      rw [hvalue]
      exact writes_zero negative
    | false =>
      have hpos := significand_pos hzero
      obtain ⟨htold, hfew⟩ := Double.isToldBy_shortest hx hpos
      obtain ⟨zeros, hdigits, hvalue, hexponent⟩ := exists_of_normal (htold.ne_zero hpos)
      rw [hvalue, Double.isToldBy_mul, ← hexponent] at htold
      simp only [Bool.false_eq_true, if_false]
      split
      · exact writes_positional hx hpos hdigits htold (by omega)
      · exact writes_scientific hx hpos hdigits htold (by omega) Layout.plain
  | false =>
    cases hnumber : x.isNaN with
    | true =>
      simp only [printFloat, quietFloat, hnumber, if_true]
      exact writes_scalar (by decide) (by decide) (fun _ _ => rfl)
    | false =>
      have hinfinity := eq_infinity_of_isFinite hx hnumber
      simp only [printFloat, quietFloat, hnumber, hx, Bool.not_false, Bool.false_eq_true, if_true,
        if_false]
      generalize x.isNegative = negative at hinfinity ⊢
      rw [hinfinity]
      cases negative with
      | true => exact writes_scalar (by decide) (by decide) (fun _ _ => rfl)
      | false => exact writes_infinity

end PeopleFeed.Json
