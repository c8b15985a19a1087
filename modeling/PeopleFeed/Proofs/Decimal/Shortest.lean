import PeopleFeed.Proofs.Decimal.Telling

/-! The shortest numeral of a floating point number tells it. Seventeen digits are always enough,
since their unit is smaller than the interval of the number. -/
namespace PeopleFeed.Decimal

variable {x : Double} {i : Interval} {num den n d q last : Nat} {point e : Int}

/-! The place of the point. -/

/-- The search for the point starts and stays where there is a digit before it. -/
theorem decimalPoint_spec (fuel : Nat) (h : (10 : ℚ) ^ (e - 1) * den ≤ num) :
    e ≤ decimalPoint num den fuel e ∧
      (10 : ℚ) ^ (decimalPoint num den fuel e - 1) * den ≤ num := by
  induction fuel generalizing e with
  | zero => exact ⟨Int.le_refl e, h⟩
  | succ fuel ih =>
    have hstep : decimalPoint num den (fuel + 1) e =
        if num * (powerOfTen e).2 < den * (powerOfTen e).1 then e
        else decimalPoint num den fuel (e + 1) := rfl
    rw [hstep]
    by_cases hstop : num * (powerOfTen e).2 < den * (powerOfTen e).1
    · rw [if_pos hstop]
      exact ⟨Int.le_refl e, h⟩
    · rw [if_neg hstop]
      have hpos : (0 : ℚ) < (powerOfTen e).2 := by exact_mod_cast (powerOfTen_pos e).2
      have hgo : (den : ℚ) * (powerOfTen e).1 ≤ num * (powerOfTen e).2 := by
        exact_mod_cast Nat.le_of_not_lt hstop
      rw [powerOfTen_eq, ← mul_assoc, mul_comm (den : ℚ)] at hgo
      have hnext : (10 : ℚ) ^ (e + 1 - 1) * den ≤ num := by
        rw [Int.add_sub_cancel]
        exact le_of_mul_le_mul_right hgo hpos
      obtain ⟨hle, hpoint⟩ := ih hnext
      exact ⟨by omega, hpoint⟩

/-- A place of the point that the numbers of bits suggest is not too far on. -/
theorem guess_spec (den : Nat) {k : Int} (hnum : num ≠ 0) (hk : k = (num.log2 : Int) - den.log2 - 1)
    (hlow : -1500 ≤ k) (hhigh : k ≤ 1500) :
    (10 : ℚ) ^ (k * 30103 / 100000 - 1 - 1) * den ≤ num := by
  have hden : (den : ℚ) ≤ 2 ^ ((den.log2 : Int) + 1) := by
    exact_mod_cast (Nat.lt_log2_self (n := den)).le
  calc (10 : ℚ) ^ (k * 30103 / 100000 - 1 - 1) * den
    _ ≤ 2 ^ k * 2 ^ ((den.log2 : Int) + 1) := by
      gcongr
      exact ten_zpow_le (by omega) (by omega)
    _ = 2 ^ (num.log2 : Int) := by
      rw [← zpow_add₀ (by norm_num)]
      congr 1
      omega
    _ ≤ num := by exact_mod_cast Nat.log2_self_le hnum

/-! The search for the digits. -/

/-- Two neighbouring multiples of a unit around a value miss an interval only if the unit is
not smaller than the interval. -/
theorem Interval.le_of_contains_eq_false (hd : 0 < d) (hlow : i.low < i.value)
    (hhigh : i.value < i.high) (hbelow : q * (i.den * n) ≤ i.value * d)
    (habove : i.value * d < (q + 1) * (i.den * n)) (hmiss : i.contains (q * n) d = false)
    (hmiss' : i.contains ((q + 1) * n) d = false) : i.high * d ≤ i.low * d + i.den * n := by
  have hbottom : i.low * d < i.value * d := Nat.mul_lt_mul_of_pos_right hlow hd
  have htop : i.value * d < i.high * d := Nat.mul_lt_mul_of_pos_right hhigh hd
  have hunit : ∀ c, c * n * i.den = c * (i.den * n) := by
    intro c
    ring
  simp only [contains, hunit] at hmiss hmiss'
  rw [Nat.succ_mul] at habove hmiss'
  cases hclosed : i.closed <;> simp [hclosed] at hmiss hmiss' <;> omega

theorem interval_sides (hpos : 0 < x.significand) :
    (Interval.ofDouble x).low < (Interval.ofDouble x).value ∧
      (Interval.ofDouble x).value < (Interval.ofDouble x).high := by
  have hreach := Double.reach_cases x
  rw [Double.interval_eq]
  constructor <;> apply Nat.mul_lt_mul_of_pos_right _ (Nat.two_pow_pos _) <;> omega

/-- The unit of the seventeenth digit goes at least `10 ^ 16` times into a value. -/
theorem le_of_seventeen (hpower : powerOfTen (point - (17 : Nat)) = (n, d))
    (hpoint : (10 : ℚ) ^ (point - 1) * i.den ≤ i.value) :
    10 ^ 16 * (i.den * n) ≤ i.value * d := by
  have hcast := powerOfTen_eq (point - (17 : Nat))
  have hexponent : point - 1 = point - (17 : Nat) + (16 : Nat) := by omega
  rw [hpower] at hcast
  rw [hexponent, zpow_add₀ (by norm_num), zpow_natCast] at hpoint
  have hrational : (10 : ℚ) ^ 16 * (i.den * n) ≤ i.value * d := by
    calc (10 : ℚ) ^ 16 * (i.den * n)
      _ = 10 ^ (point - (17 : Nat)) * 10 ^ 16 * i.den * d := by
        rw [hcast]
        ring
      _ ≤ i.value * d := by gcongr
  exact_mod_cast hrational

/-- Such a unit is smaller than the interval, which has at least three quarters of the last place
of a number. -/
theorem unit_lt_interval (hpos : 0 < x.significand) (hd : 0 < d)
    (hdigits : 10 ^ 16 * ((Interval.ofDouble x).den * n) ≤ (Interval.ofDouble x).value * d) :
    (Interval.ofDouble x).low * d + (Interval.ofDouble x).den * n <
      (Interval.ofDouble x).high * d := by
  have hreach := Double.reach_cases x
  have hlt := Double.significand_lt x
  have hplace : ∀ c, c * 2 ^ (x.scale - 1074) * d = c * (2 ^ (x.scale - 1074) * d) :=
    fun c => Nat.mul_assoc ..
  rw [Double.interval_eq] at hdigits ⊢
  simp only [hplace] at hdigits ⊢
  have hlast : 0 < 2 ^ (x.scale - 1074) * d := Nat.mul_pos (Nat.two_pow_pos _) hd
  generalize 2 ^ (x.scale - 1074) * d = u at hdigits hlast ⊢
  generalize 4 * 2 ^ (1074 - x.scale) * n = b at hdigits ⊢
  have hfew : b < (x.reach + 2) * u := by
    by_contra hmany
    have hquarters : 10 ^ 16 * (x.reach + 2) ≤ 4 * x.significand := by
      apply Nat.le_of_mul_le_mul_right _ hlast
      rw [Nat.mul_assoc]
      exact (Nat.mul_le_mul_left _ (Nat.le_of_not_lt hmany)).trans hdigits
    omega
  have hsum : 4 * x.significand + 2 = 4 * x.significand - x.reach + (x.reach + 2) := by omega
  rw [hsum, Nat.add_mul]
  exact Nat.add_lt_add_left hfew _

/-- Seventeen digits meet the interval of a number. -/
theorem contains_seventeen (hpos : 0 < x.significand)
    (hpoint : (10 : ℚ) ^ (point - 1) * (Interval.ofDouble x).den ≤ (Interval.ofDouble x).value)
    (hpower : powerOfTen (point - (17 : Nat)) = (n, d))
    (hq : q = (Interval.ofDouble x).value * d / ((Interval.ofDouble x).den * n)) :
    (Interval.ofDouble x).contains (q * n) d = true ∨
      (Interval.ofDouble x).contains ((q + 1) * n) d = true := by
  obtain ⟨hn, hd⟩ := powerOfTen_pos (point - (17 : Nat))
  rw [hpower] at hn hd
  obtain ⟨hlow, hhigh⟩ := interval_sides hpos
  have hunit := unit_lt_interval hpos hd (le_of_seventeen hpower hpoint)
  have hpositive : 0 < (Interval.ofDouble x).den * n := by
    rw [Double.interval_eq]
    exact Nat.mul_pos (Nat.mul_pos (by decide) (Nat.two_pow_pos _)) hn
  have hbelow : q * ((Interval.ofDouble x).den * n) ≤ (Interval.ofDouble x).value * d := by
    rw [hq]
    exact Nat.div_mul_le_self _ _
  have habove : (Interval.ofDouble x).value * d < (q + 1) * ((Interval.ofDouble x).den * n) := by
    rw [hq, Nat.mul_comm (_ + 1)]
    exact Nat.lt_mul_div_succ _ hpositive
  by_contra hmiss
  rw [not_or, Bool.not_eq_true, Bool.not_eq_true] at hmiss
  have hwide := Interval.le_of_contains_eq_false hd hlow hhigh hbelow habove hmiss.1 hmiss.2
  exact absurd hwide (Nat.not_le.mpr hunit)

/-- The search ends with digits that meet the interval, if some number of digits does. -/
theorem searchDigits_spec (fuel count : Nat) (hcount : count ≤ last) (hfuel : last < count + fuel)
    (hlast : ∀ n d q, powerOfTen (point - last) = (n, d) → q = i.value * d / (i.den * n) →
      i.contains (q * n) d = true ∨ i.contains ((q + 1) * n) d = true) :
    (searchDigits i point fuel count).point = point ∧
      (searchDigits i point fuel count).count ≤ last ∧
      i.contains ((searchDigits i point fuel count).digits *
          (powerOfTen (point - (searchDigits i point fuel count).count)).1)
        (powerOfTen (point - (searchDigits i point fuel count).count)).2 = true := by
  induction fuel generalizing count with
  | zero => omega
  | succ fuel ih =>
    unfold searchDigits
    rcases hpower : powerOfTen (point - count) with ⟨n, d⟩
    simp only
    generalize hq : i.value * d / (i.den * n) = q
    cases hbelow : i.contains (q * n) d with
    | true =>
      cases habove : i.contains ((q + 1) * n) d with
      | true =>
        refine ⟨rfl, hcount, ?_⟩
        simp only [hpower]
        split <;> assumption
      | false => exact ⟨rfl, hcount, by simpa only [hpower] using hbelow⟩
    | false =>
      cases habove : i.contains ((q + 1) * n) d with
      | true => exact ⟨rfl, hcount, by simpa only [hpower] using habove⟩
      | false =>
        have hne : count ≠ last := by
          rintro rfl
          have hfound := hlast n d q hpower hq.symm
          simp [hbelow, habove] at hfound
        exact ih (count + 1) (by omega) (by omega)

namespace Double

/-- The interval of a number has no more bits than the format. -/
theorem log2_interval (hx : x.isFinite = true) (hpos : 0 < x.significand) :
    (Interval.ofDouble x).value ≠ 0 ∧ (Interval.ofDouble x).value.log2 < 1100 ∧
      (Interval.ofDouble x).den.log2 < 1100 := by
  have hlt := significand_lt x
  have hscale := scale_le hx
  have hvalue : 4 * x.significand * 2 ^ (x.scale - 1074) ≠ 0 :=
    (Nat.mul_pos (Nat.mul_pos (by decide) hpos) (Nat.two_pow_pos _)).ne'
  have hden : 4 * 2 ^ (1074 - x.scale) = 2 ^ (2 + (1074 - x.scale)) := (Nat.pow_add 2 2 _).symm
  rw [interval_eq]
  refine ⟨hvalue, ?_, ?_⟩
  · rw [Nat.log2_lt hvalue]
    calc 4 * x.significand * 2 ^ (x.scale - 1074)
      _ < 2 ^ 55 * 2 ^ (x.scale - 1074) :=
        Nat.mul_lt_mul_of_pos_right (by omega) (Nat.two_pow_pos _)
      _ = 2 ^ (55 + (x.scale - 1074)) := (Nat.pow_add ..).symm
      _ ≤ 2 ^ 1100 := Nat.pow_le_pow_right (by decide) (by omega)
  · simp only [hden, Nat.log2_two_pow]
    omega

/-- The shortest numeral of a number tells it, with a power of ten that is not far beyond the
range of the format. -/
theorem isToldBy_shortest (hx : x.isFinite = true) (hpos : 0 < x.significand) :
    x.IsToldBy (shortest x).digits ((shortest x).point - (shortest x).count) ∧
      -400 ≤ (shortest x).point - (shortest x).count := by
  obtain ⟨hvalue, hbits, hbits'⟩ := log2_interval hx hpos
  have hguess := guess_spec (Interval.ofDouble x).den hvalue rfl (by omega) (by omega)
  obtain ⟨hpoint, hstart⟩ := decimalPoint_spec 5 hguess
  obtain ⟨hplace, hcount, hfound⟩ := searchDigits_spec 17 1 (show 1 ≤ 17 by decide)
    (by decide) fun n d q => contains_seventeen hpos hstart
  unfold shortest
  simp only
  rw [hplace]
  exact ⟨isNear_of_contains hfound, by omega⟩

end Double

end PeopleFeed.Decimal
