import Mathlib.Tactic.Ring
import PeopleFeed.Decimal.Shortest

/-! Rounding a ratio to a floating point number. A ratio in the interval of a number, nearer to it
than to its neighbours, is rounded to the number. -/
namespace PeopleFeed.Decimal

variable {x : Double} {num den m s : Nat}

/-- A quotient is rounded to the whole number that it is nearest to. -/
theorem roundDiv_eq (hden : 0 < den) (hlow : den * (2 * m) ≤ 2 * num + den)
    (hhigh : 2 * num ≤ den * (2 * m) + den)
    (htie : m % 2 = 1 → den * (2 * m) < 2 * num + den ∧ 2 * num < den * (2 * m) + den) :
    roundDiv num den = m := by
  have hdm := Nat.div_add_mod num den
  have hlt := Nat.mod_lt num hden
  have hscale : ∀ n, den * (2 * n) = 2 * (den * n) := fun n => Nat.mul_left_comm ..
  rw [hscale] at hlow hhigh htie
  -- The remainder tells which of the two neighbours is meant.
  have hm : m = num / den ∨ m = num / den + 1 := by
    by_contra hnot
    rcases Nat.lt_or_ge m (num / den) with hless | hmore
    · have hmul := Nat.mul_le_mul_left den (show m + 1 ≤ num / den by omega)
      rw [Nat.mul_succ] at hmul
      omega
    · have hmul := Nat.mul_le_mul_left den (show num / den + 2 ≤ m by omega)
      rw [Nat.mul_add, Nat.mul_comm den 2] at hmul
      omega
  unfold roundDiv
  rcases hm with rfl | rfl
  · have hdown : ¬ (den < 2 * (num % den) ∨ den = 2 * (num % den) ∧ num / den % 2 = 1) := by
      rintro (h | ⟨h, hodd⟩)
      · omega
      · have hstrict := htie hodd
        omega
    simp [hdown]
  · rw [Nat.mul_succ] at hlow hhigh htie
    have hup : den < 2 * (num % den) ∨ den = 2 * (num % den) ∧ num / den % 2 = 1 := by
      rcases Nat.lt_or_ge den (2 * (num % den)) with h | h
      · exact .inl h
      · refine .inr ⟨by omega, ?_⟩
        by_contra heven
        have hstrict := htie (by omega)
        omega
    simp [hup]

namespace Double

/-! Ratios at a scale. -/

/-- The numerator of a ratio, counted in the unit of a scale. -/
def numAt (num s : Nat) : Nat := num * 2 ^ (1074 - s)

/-- The denominator of a ratio, counted in the unit of a scale. -/
def denAt (den s : Nat) : Nat := den * 2 ^ (s - 1074)

theorem denAt_pos (hden : 0 < den) (s : Nat) : 0 < denAt den s :=
  Nat.mul_pos hden (Nat.two_pow_pos _)

/-- The unit of the next scale is twice as large. -/
theorem at_succ (num den s : Nat) :
    (numAt num s = 2 * numAt num (s + 1) ∧ denAt den s = denAt den (s + 1)) ∨
      (numAt num s = numAt num (s + 1) ∧ denAt den (s + 1) = 2 * denAt den s) := by
  unfold numAt denAt
  rcases Nat.lt_or_ge s 1074 with hs | hs
  · left
    have hnum : 1074 - s = 1074 - (s + 1) + 1 := by omega
    have hden : s + 1 - 1074 = s - 1074 := by omega
    rw [hnum, hden, pow_succ]
    exact ⟨by ring, rfl⟩
  · right
    have hnum : 1074 - (s + 1) = 1074 - s := by omega
    have hden : s + 1 - 1074 = s - 1074 + 1 := by omega
    rw [hnum, hden, pow_succ]
    exact ⟨rfl, by ring⟩

theorem le_at_succ {j k : Nat} :
    denAt den (s + 1) * k ≤ j * numAt num (s + 1) ↔ denAt den s * (2 * k) ≤ j * numAt num s := by
  rcases at_succ num den s with ⟨hnum, hden⟩ | ⟨hnum, hden⟩
  · rw [hnum, hden, Nat.mul_left_comm, Nat.mul_left_comm j 2]
    exact (Nat.mul_le_mul_left_iff (by decide)).symm
  · rw [hnum, hden, Nat.mul_left_comm (denAt den s), Nat.mul_assoc]

/-- A ratio has more than 53 bits before the point at a scale. -/
def IsLarge (num den s : Nat) : Prop := denAt den s * 2 ^ 53 ≤ numAt num s

theorem isLarge_of_succ (h : IsLarge num den (s + 1)) : IsLarge num den s := by
  unfold IsLarge at *
  rcases at_succ num den s with ⟨hnum, hden⟩ | ⟨hnum, hden⟩
  · rw [hnum, hden]
    exact h.trans (Nat.le_mul_of_pos_left _ (by decide))
  · rw [hden, ← hnum] at h
    exact (Nat.mul_le_mul_right _ (Nat.le_mul_of_pos_left _ (by decide))).trans h

theorem isLarge_of_le {t : Nat} (hst : s ≤ t) (h : IsLarge num den t) : IsLarge num den s := by
  induction t, hst using Nat.le_induction with
  | base => exact h
  | succ t _ ih => exact ih (isLarge_of_succ h)

/-- The scale that the numbers of bits suggest is large enough. -/
theorem not_isLarge_guess (num : Nat) (hden : den ≠ 0) :
    ¬ IsLarge num den (1074 - 52 + num.log2 - den.log2) := by
  have hnum : num < 2 ^ (num.log2 + 1) := Nat.lt_log2_self
  have hle : 2 ^ den.log2 ≤ den := Nat.log2_self_le hden
  generalize hg : 1074 - 52 + num.log2 - den.log2 = g
  unfold IsLarge numAt denAt
  rw [Nat.not_le]
  calc num * 2 ^ (1074 - g)
    _ < 2 ^ (num.log2 + 1) * 2 ^ (1074 - g) := Nat.mul_lt_mul_of_pos_right hnum (Nat.two_pow_pos _)
    _ = 2 ^ (num.log2 + 1 + (1074 - g)) := (Nat.pow_add ..).symm
    _ ≤ 2 ^ (den.log2 + (g - 1074) + 53) := Nat.pow_le_pow_right (by decide) (by omega)
    _ = 2 ^ den.log2 * 2 ^ (g - 1074) * 2 ^ 53 := by rw [← Nat.pow_add, ← Nat.pow_add]
    _ ≤ den * 2 ^ (g - 1074) * 2 ^ 53 := by gcongr

/-- Two scales below it are not. -/
theorem isLarge_below_guess (hnum : num ≠ 0)
    (hguess : s + 2 = 1074 - 52 + num.log2 - den.log2) : IsLarge num den s := by
  have hden : den < 2 ^ (den.log2 + 1) := Nat.lt_log2_self
  have hle : 2 ^ num.log2 ≤ num := Nat.log2_self_le hnum
  unfold IsLarge numAt denAt
  calc den * 2 ^ (s - 1074) * 2 ^ 53
    _ ≤ 2 ^ (den.log2 + 1) * 2 ^ (s - 1074) * 2 ^ 53 := by gcongr
    _ = 2 ^ (den.log2 + 1 + (s - 1074) + 53) := by rw [← Nat.pow_add, ← Nat.pow_add]
    _ ≤ 2 ^ (num.log2 + (1074 - s)) := Nat.pow_le_pow_right (by decide) (by omega)
    _ = 2 ^ num.log2 * 2 ^ (1074 - s) := Nat.pow_add ..
    _ ≤ num * 2 ^ (1074 - s) := by gcongr

/-- The scale of a ratio is the least at which it is not large. -/
theorem scaleOf_eq (hnum : num ≠ 0) (hden : den ≠ 0) (hlarge : ¬ IsLarge num den s)
    (hleast : ∀ t, t < s → IsLarge num den t) : scaleOf num den = s := by
  have hiff : ∀ t, IsLarge num den t ↔ t < s := by
    intro t
    refine ⟨fun ht => ?_, hleast t⟩
    by_contra hst
    exact hlarge (isLarge_of_le (Nat.le_of_not_lt hst) ht)
  have hguess := (hiff _).not.mp (not_isLarge_guess num hden)
  have hbelow : ∀ t, t + 2 = 1074 - 52 + num.log2 - den.log2 → t < s :=
    fun t ht => (hiff t).mp (isLarge_below_guess hnum ht)
  have htest : ∀ t, (if t < 1074 then decide (den * Nat.pow 2 53 ≤ num * Nat.pow 2 (1074 - t))
      else decide (den * Nat.pow 2 (t - 1074) * Nat.pow 2 53 ≤ num)) = decide (t < s) := by
    intro t
    rw [Bool.eq_iff_iff, decide_eq_true_iff, ← hiff t]
    unfold IsLarge numAt denAt
    split
    · rename_i ht
      have hzero : t - 1074 = 0 := by omega
      simp [hzero]
    · rename_i ht
      have hzero : 1074 - t = 0 := by omega
      simp [hzero]
  unfold scaleOf
  generalize 1074 - 52 + num.log2 - den.log2 = g at hguess hbelow
  simp only [htest, decide_eq_true_eq]
  split
  · split <;> omega
  · have hfirst := hbelow (g - 2)
    omega

/-! Words. -/

theorem significand_lt (x : Double) : x.significand < 2 ^ 53 := by
  have hfraction : x.fractionField < 2 ^ 52 := Nat.mod_lt _ (by decide)
  unfold significand
  split
  · omega
  · simp only [Nat.pow_eq]
    omega

theorem le_significand (hs : 0 < x.scale) : 2 ^ 52 ≤ x.significand := by
  unfold scale at hs
  have hfield : x.exponentField ≠ 0 := by omega
  rw [significand, if_neg hfield]
  exact Nat.le_add_left ..

/-- The sign, the scale and the significand make up the word of a number. -/
theorem toNat_bits (x : Double) :
    x.bits.toNat = signBit x.isNegative + (x.scale * 2 ^ 52 + x.significand) := by
  have hlt : x.bits.toNat < 2 ^ 64 := x.bits.toNat_lt
  have hword : x.scale * 2 ^ 52 + x.significand = x.exponentField * 2 ^ 52 + x.fractionField := by
    unfold scale significand
    split
    · omega
    · simp only [Nat.pow_eq]
      omega
  rw [hword]
  unfold signBit isNegative exponentField fractionField
  simp only [Nat.pow_eq, decide_eq_true_eq]
  split <;> omega

theorem ofNat_bits (x : Double) :
    UInt64.ofNat (signBit x.isNegative + (x.scale * 2 ^ 52 + x.significand)) = x.bits := by
  rw [← toNat_bits, UInt64.ofNat_toNat]

theorem word_lt (hx : x.isFinite = true) :
    x.scale * 2 ^ 52 + x.significand < 0x7FF * 2 ^ 52 := by
  have hfield : x.exponentField < 2 ^ 11 := Nat.mod_lt _ (by decide)
  have hfraction : x.fractionField < 2 ^ 52 := Nat.mod_lt _ (by decide)
  have hne : x.exponentField ≠ 0x7FF := by simpa [isFinite] using hx
  unfold scale significand
  split
  · omega
  · simp only [Nat.pow_eq]
    omega

/-! Intervals. -/

/-- How far the interval of a number reaches down, in quarters of its last place. -/
def reach (x : Double) : Nat :=
  if x.significand = 2 ^ 52 ∧ 0 < x.scale then 1 else 2

theorem reach_cases (x : Double) : x.reach = 1 ∧ x.significand = 2 ^ 52 ∨ x.reach = 2 := by
  unfold reach
  split
  · rename_i h
    exact .inl ⟨rfl, h.1⟩
  · exact .inr rfl

theorem reach_le (x : Double) : x.reach ≤ 2 := by
  rcases reach_cases x with ⟨h, -⟩ | h <;> omega

/-- A ratio lies in the interval of a number, in quarters of its last place; the ends belong to
the interval of an even one. -/
structure IsNear (x : Double) (num den : Nat) : Prop where
  low : denAt den x.scale * (4 * x.significand - x.reach) ≤ 4 * numAt num x.scale
  high : 4 * numAt num x.scale ≤ denAt den x.scale * (4 * x.significand + 2)
  inside : x.significand % 2 = 1 →
    denAt den x.scale * (4 * x.significand - x.reach) < 4 * numAt num x.scale ∧
      4 * numAt num x.scale < denAt den x.scale * (4 * x.significand + 2)

theorem interval_eq (x : Double) : Interval.ofDouble x =
    { low := (4 * x.significand - x.reach) * 2 ^ (x.scale - 1074)
      value := 4 * x.significand * 2 ^ (x.scale - 1074)
      high := (4 * x.significand + 2) * 2 ^ (x.scale - 1074)
      den := 4 * 2 ^ (1074 - x.scale)
      closed := x.significand % 2 == 0 } := by
  have hfield : 1 < x.exponentField ↔ 0 < x.scale := by
    unfold scale
    omega
  simp [Interval.ofDouble, reach, hfield]

theorem isNear_of_contains (h : (Interval.ofDouble x).contains num den = true) :
    x.IsNear num den := by
  have hbottom : ∀ k, k * 2 ^ (x.scale - 1074) * den = denAt den x.scale * k := by
    intro k
    unfold denAt
    ring
  have htop : num * (4 * 2 ^ (1074 - x.scale)) = 4 * numAt num x.scale := by
    unfold numAt
    ring
  simp only [interval_eq, Interval.contains, hbottom, htop] at h
  by_cases heven : x.significand % 2 = 0
  · simp only [heven, beq_self_eq_true, if_true, Bool.and_eq_true, decide_eq_true_eq] at h
    exact ⟨h.1, h.2, fun hodd => by omega⟩
  · have hodd : (x.significand % 2 == 0) = false := by simpa using heven
    simp only [hodd, Bool.false_eq_true, if_false, Bool.and_eq_true, decide_eq_true_eq] at h
    exact ⟨h.1.le, h.2.le, fun _ => h⟩

/-! Rounding. -/

theorem ofRatio_eq {negative : Bool} (hnum : num ≠ 0) (hscale : scaleOf num den = s)
    (hround : roundDiv (numAt num s) (denAt den s) = m) (hword : s * 2 ^ 52 + m < 0x7FF * 2 ^ 52) :
    ofRatio negative num den = ⟨UInt64.ofNat (signBit negative + (s * 2 ^ 52 + m))⟩ := by
  have hrounded : (if s < 1074 then roundDiv (num * Nat.pow 2 (1074 - s)) den
      else roundDiv num (den * Nat.pow 2 (s - 1074))) = m := by
    rw [← hround]
    unfold numAt denAt
    split
    · have hzero : s - 1074 = 0 := by omega
      simp [hzero]
    · have hzero : 1074 - s = 0 := by omega
      simp [hzero]
  have hfits : ¬ 0x7FF * Nat.pow 2 52 ≤ s * Nat.pow 2 52 + m := by
    simp only [Nat.pow_eq]
    omega
  simp only [ofRatio, hnum, if_false, hscale, hrounded, hfits]
  rfl

/-- In the interval of a number a ratio is rounded to its significand at its scale. -/
theorem roundDiv_of_isNear (hpos : 0 < x.significand) (hden : 0 < den) (h : x.IsNear num den) :
    roundDiv (numAt num x.scale) (denAt den x.scale) = x.significand := by
  have hreach := reach_le x
  have hlow := Nat.mul_le_mul_left (denAt den x.scale)
    (show 4 * x.significand ≤ 4 * x.significand - x.reach + 2 by omega)
  have hfour : denAt den x.scale * (4 * x.significand) =
      2 * (denAt den x.scale * (2 * x.significand)) := by ring
  rw [Nat.mul_add, hfour] at hlow
  have hhigh := h.high
  rw [Nat.mul_add, hfour] at hhigh
  apply roundDiv_eq (denAt_pos hden x.scale)
  · have hin := h.low
    omega
  · omega
  · intro hodd
    obtain ⟨hbelow, habove⟩ := h.inside hodd
    rw [Nat.mul_add, hfour] at habove
    omega

/-- A number at the lower end of its interval may be told at the scale below. -/
theorem lower_of_isNear (hs : x.scale = s + 1) (h : x.IsNear num den)
    (hless : numAt num (s + 1) < denAt den (s + 1) * 2 ^ 52) :
    x.significand = 2 ^ 52 ∧ denAt den s * 2 ^ 54 ≤ 2 * numAt num s + denAt den s ∧
      numAt num s < denAt den s * 2 ^ 53 := by
  have hmin : 2 ^ 52 ≤ x.significand := le_significand (by omega)
  have hreach := reach_le x
  have hlow := h.low
  rw [hs] at hlow
  have hfew : 4 * x.significand - x.reach < 4 * 2 ^ 52 := by
    apply Nat.lt_of_mul_lt_mul_left (a := denAt den (s + 1))
    calc denAt den (s + 1) * (4 * x.significand - x.reach)
      _ ≤ 4 * numAt num (s + 1) := hlow
      _ < 4 * (denAt den (s + 1) * 2 ^ 52) := Nat.mul_lt_mul_of_pos_left hless (by decide)
      _ = denAt den (s + 1) * (4 * 2 ^ 52) := Nat.mul_left_comm ..
  have hm : x.significand = 2 ^ 52 := by omega
  have hone : x.reach = 1 := by
    unfold reach
    rw [if_pos ⟨hm, by omega⟩]
  refine ⟨hm, ?_, ?_⟩
  · obtain ⟨k, hk⟩ : ∃ k, k + 1 = 2 ^ 54 := ⟨18014398509481983, rfl⟩
    have hquarters : 4 * 2 ^ 52 - 1 = k := by omega
    rw [hm, hone, hquarters] at hlow
    have hhalves : denAt den s * k ≤ 2 * numAt num s := by
      apply Nat.le_of_mul_le_mul_left _ (show 0 < 2 by decide)
      calc 2 * (denAt den s * k)
        _ = denAt den s * (2 * k) := Nat.mul_left_comm ..
        _ ≤ 4 * numAt num s := le_at_succ.mp hlow
        _ = 2 * (2 * numAt num s) := Nat.mul_assoc 2 2 _
    rw [← hk, Nat.mul_succ]
    exact Nat.add_le_add_right hhalves _
  · have hnot : ¬ denAt den (s + 1) * 2 ^ 52 ≤ 1 * numAt num (s + 1) := by omega
    rw [le_at_succ] at hnot
    simpa using hnot

/-- There it is rounded to the power of two. -/
theorem roundDiv_of_lower (hden : 0 < den) (hlow : den * 2 ^ 54 ≤ 2 * num + den)
    (hhigh : num < den * 2 ^ 53) : roundDiv num den = 2 ^ 53 := by
  apply roundDiv_eq hden
  · omega
  · omega
  · intro hodd
    exact absurd hodd (by decide)

/-- At the scales below it is large. -/
theorem isLarge_of_lower {t : Nat} (hlow : denAt den s * 2 ^ 54 ≤ 2 * numAt num s + denAt den s)
    (ht : t < s) : IsLarge num den t := by
  obtain ⟨r, rfl⟩ : ∃ r, s = r + 1 := ⟨s - 1, by omega⟩
  apply isLarge_of_le (t := r) (by omega)
  have hfour : denAt den (r + 1) * 2 ^ 54 = 4 * (denAt den (r + 1) * 2 ^ 52) := by
    ring
  have hone : denAt den (r + 1) ≤ denAt den (r + 1) * 2 ^ 52 :=
    Nat.le_mul_of_pos_right _ (by decide)
  have hhalf : denAt den (r + 1) * 2 ^ 52 ≤ 1 * numAt num (r + 1) := by
    rw [hfour] at hlow
    generalize denAt den (r + 1) * 2 ^ 52 = half at hlow hone ⊢
    omega
  have hdouble := le_at_succ.mp hhalf
  simpa [IsLarge] using hdouble

theorem IsNear.ne_zero (hpos : 0 < x.significand) (hden : 0 < den) (h : x.IsNear num den) :
    num ≠ 0 := by
  rintro rfl
  have hreach := reach_le x
  have hbottom := denAt_pos hden x.scale
  have hlow := h.low
  have hzero : numAt 0 x.scale = 0 := Nat.zero_mul _
  rw [hzero, Nat.mul_zero, Nat.le_zero, Nat.mul_eq_zero] at hlow
  omega

theorem IsNear.not_isLarge (hden : 0 < den) (h : x.IsNear num den) :
    ¬ IsLarge num den x.scale := by
  have hlt := significand_lt x
  unfold IsLarge
  rw [Nat.not_le]
  apply Nat.lt_of_mul_lt_mul_left (a := 4)
  calc 4 * numAt num x.scale
    _ ≤ denAt den x.scale * (4 * x.significand + 2) := h.high
    _ < denAt den x.scale * (4 * 2 ^ 53) :=
      Nat.mul_lt_mul_of_pos_left (by omega) (denAt_pos hden x.scale)
    _ = 4 * (denAt den x.scale * 2 ^ 53) := Nat.mul_left_comm ..

/-- A ratio in the interval of a number is rounded to the number. -/
theorem ofRatio_of_isNear (hx : x.isFinite = true) (hpos : 0 < x.significand) (hden : 0 < den)
    (h : x.IsNear num den) : ofRatio x.isNegative num den = x := by
  have hnum := h.ne_zero hpos hden
  have hword : ∀ s m, s * 2 ^ 52 + m = x.scale * 2 ^ 52 + x.significand →
      scaleOf num den = s → roundDiv (numAt num s) (denAt den s) = m →
      ofRatio x.isNegative num den = x := by
    intro s m hsame hscale hround
    have hfits := hsame.trans_lt (word_lt hx)
    rw [ofRatio_eq hnum hscale hround hfits, hsame, ofNat_bits]
  have hsame : (∀ t, t < x.scale → IsLarge num den t) → ofRatio x.isNegative num den = x :=
    fun hleast => hword x.scale x.significand rfl
      (scaleOf_eq hnum (by omega) (h.not_isLarge hden) hleast) (roundDiv_of_isNear hpos hden h)
  -- The ratio has the scale of the number, unless it is below a power of two.
  cases hs : x.scale with
  | zero =>
    apply hsame
    intro t ht
    omega
  | succ s =>
    rcases Nat.lt_or_ge (numAt num (s + 1)) (denAt den (s + 1) * 2 ^ 52) with hless | hmore
    · obtain ⟨hm, hlow, hhigh⟩ := lower_of_isNear hs h hless
      apply hword s (2 ^ 53)
      · omega
      · exact scaleOf_eq hnum (by omega) (Nat.not_le.mpr hhigh) fun t => isLarge_of_lower hlow
      · exact roundDiv_of_lower (denAt_pos hden s) hlow hhigh
    · apply hsame
      intro t ht
      apply isLarge_of_le (t := s) (by omega)
      have hdouble := (le_at_succ (j := 1)).mp (by simpa using hmore)
      simpa [IsLarge] using hdouble

end Double

end PeopleFeed.Decimal
