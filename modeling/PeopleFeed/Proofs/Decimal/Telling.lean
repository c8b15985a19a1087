import Mathlib.Algebra.Order.Field.Power
import Mathlib.Tactic.NormNum
import Mathlib.Tactic.Positivity
import PeopleFeed.Proofs.Decimal.Rounding

/-! Decimal numerals that tell a floating point number: digits and a power of ten whose value lies
in the interval of the number are read as the number. -/
namespace PeopleFeed.Decimal

variable {x : Double} {num den num' den' digits : Nat} {e j k : Int}

/-! Powers of two and of ten. -/

/-- Ten powers of two hold three of ten, and thirteen of ten hold 43 of two. -/
theorem ten_zpow_le (hup : 10 * j ≤ 3 * k) (hdown : 43 * j ≤ 13 * k) :
    (10 : ℚ) ^ j ≤ 2 ^ k := by
  have hten : (1 : ℚ) ≤ 10 := by norm_num
  rcases Int.le_total 0 k with hk | hk
  · obtain ⟨n, rfl⟩ := Int.eq_ofNat_of_zero_le hk
    apply le_of_pow_le_pow_left₀ (show 10 ≠ 0 by decide) (by positivity)
    calc ((10 : ℚ) ^ j) ^ 10
      _ = 10 ^ (j * 10) := by rw [zpow_mul]; rfl
      _ ≤ 10 ^ (3 * (n : Int)) := zpow_le_zpow_right₀ hten (by omega)
      _ = (10 ^ 3) ^ n := by rw [zpow_mul]; rfl
      _ ≤ (2 ^ 10) ^ n := pow_le_pow_left₀ (by norm_num) (by norm_num) n
      _ = (2 ^ (n : Int)) ^ 10 := by rw [zpow_natCast, ← pow_mul, ← pow_mul, Nat.mul_comm]
  · obtain ⟨n, rfl⟩ := Int.exists_eq_neg_ofNat hk
    apply le_of_pow_le_pow_left₀ (show 43 ≠ 0 by decide) (by positivity)
    calc ((10 : ℚ) ^ j) ^ 43
      _ = 10 ^ (j * 43) := by rw [zpow_mul]; rfl
      _ ≤ 10 ^ (13 * -(n : Int)) := zpow_le_zpow_right₀ hten (by omega)
      _ = ((10 ^ 13) ^ n)⁻¹ := by rw [zpow_mul, zpow_neg]; rfl
      _ ≤ ((2 ^ 43) ^ n)⁻¹ := by gcongr; norm_num
      _ = (2 ^ (-(n : Int))) ^ 43 := by
        rw [zpow_neg, zpow_natCast, inv_pow, ← pow_mul, ← pow_mul, Nat.mul_comm]

theorem two_zpow_le (hup : 3 * k ≤ 10 * j) (hdown : 13 * k ≤ 43 * j) :
    (2 : ℚ) ^ k ≤ 10 ^ j := by
  have hinv : (10 : ℚ) ^ (-j) ≤ 2 ^ (-k) := ten_zpow_le (by omega) (by omega)
  rw [zpow_neg, zpow_neg] at hinv
  exact (inv_le_inv₀ (by positivity) (by positivity)).mp hinv

theorem powerOfTen_pos (e : Int) : 0 < (powerOfTen e).1 ∧ 0 < (powerOfTen e).2 := by
  unfold powerOfTen
  split <;> simp

theorem powerOfTen_eq (e : Int) : ((powerOfTen e).1 : ℚ) = 10 ^ e * (powerOfTen e).2 := by
  unfold powerOfTen
  split
  · rename_i he
    obtain ⟨n, rfl⟩ := Int.eq_ofNat_of_zero_le he
    simp
  · rename_i he
    obtain ⟨n, rfl⟩ := Int.exists_eq_neg_ofNat (show e ≤ 0 by omega)
    simp

/-- A power of ten more in the digits is one less in the exponent. -/
theorem powerOfTen_add (e : Int) (n : Nat) :
    10 ^ n * (powerOfTen e).1 * (powerOfTen (e + n)).2 =
      (powerOfTen (e + n)).1 * (powerOfTen e).2 := by
  have hcast : (10 : ℚ) ^ n * (powerOfTen e).1 * (powerOfTen (e + n)).2 =
      (powerOfTen (e + n)).1 * (powerOfTen e).2 := by
    rw [powerOfTen_eq e, powerOfTen_eq (e + n), zpow_add₀ (by norm_num), zpow_natCast]
    ring
  exact_mod_cast hcast

namespace Double

/-- Which interval a ratio lies in does not depend on how it is written. -/
theorem IsNear.congr (hden : 0 < den) (hden' : 0 < den') (h : num * den' = num' * den)
    (hnear : x.IsNear num den) : x.IsNear num' den' := by
  have hbottom : ∀ a, den * (denAt den' x.scale * a) = den' * (denAt den x.scale * a) := by
    intro a
    unfold denAt
    ring
  have htop : den * (4 * numAt num' x.scale) = den' * (4 * numAt num x.scale) := by
    unfold numAt
    calc den * (4 * (num' * 2 ^ (1074 - x.scale)))
      _ = num' * den * (4 * 2 ^ (1074 - x.scale)) := by ring
      _ = num * den' * (4 * 2 ^ (1074 - x.scale)) := by rw [h]
      _ = den' * (4 * (num * 2 ^ (1074 - x.scale))) := by ring
  refine ⟨?_, ?_, fun hodd => ⟨?_, ?_⟩⟩
  · apply Nat.le_of_mul_le_mul_left _ hden
    rw [hbottom, htop]
    exact Nat.mul_le_mul_left den' hnear.low
  · apply Nat.le_of_mul_le_mul_left _ hden
    rw [hbottom, htop]
    exact Nat.mul_le_mul_left den' hnear.high
  · apply Nat.lt_of_mul_lt_mul_left (a := den)
    rw [hbottom, htop]
    exact Nat.mul_lt_mul_of_pos_left (hnear.inside hodd).1 hden'
  · apply Nat.lt_of_mul_lt_mul_left (a := den)
    rw [hbottom, htop]
    exact Nat.mul_lt_mul_of_pos_left (hnear.inside hodd).2 hden'

theorem scale_le (hx : x.isFinite = true) : x.scale ≤ 2045 := by
  have hfield : x.exponentField < 2 ^ 11 := Nat.mod_lt _ (by decide)
  have hne : x.exponentField ≠ 0x7FF := by simpa [isFinite] using hx
  unfold scale
  omega

/-- No ratio in an interval has more bits before the point than the scale allows. -/
theorem IsNear.lt (hden : 0 < den) (h : x.IsNear num den) :
    num < den * 2 ^ (x.scale - 1074 + 53) := by
  have hlt := significand_lt x
  have hnum : num < denAt den x.scale * 2 ^ 53 := by
    apply Nat.lt_of_mul_lt_mul_left (a := 4)
    calc 4 * num
      _ ≤ 4 * numAt num x.scale :=
        Nat.mul_le_mul_left 4 (Nat.le_mul_of_pos_right num (Nat.two_pow_pos _))
      _ ≤ denAt den x.scale * (4 * x.significand + 2) := h.high
      _ < denAt den x.scale * (4 * 2 ^ 53) :=
        Nat.mul_lt_mul_of_pos_left (by omega) (denAt_pos hden x.scale)
      _ = 4 * (denAt den x.scale * 2 ^ 53) := Nat.mul_left_comm ..
  rwa [denAt, Nat.mul_assoc, ← Nat.pow_add] at hnum

/-- None is nearer to zero than half of the unit of the scale. -/
theorem IsNear.le (hpos : 0 < x.significand) (h : x.IsNear num den) :
    den ≤ num * 2 ^ (1074 - x.scale + 1) := by
  have hreach := reach_le x
  have hden : den ≤ numAt num x.scale * 2 := by
    apply Nat.le_of_mul_le_mul_left _ (show 0 < 2 by decide)
    calc 2 * den
      _ = den * 2 := Nat.mul_comm ..
      _ ≤ denAt den x.scale * (4 * x.significand - x.reach) :=
        Nat.mul_le_mul (Nat.le_mul_of_pos_right den (Nat.two_pow_pos _)) (by omega)
      _ ≤ 4 * numAt num x.scale := h.low
      _ = 2 * (numAt num x.scale * 2) := by ring
  rwa [numAt, Nat.mul_assoc, ← Nat.pow_succ] at hden

/-- Digits times a power of ten lie in the interval of a number. -/
def IsToldBy (x : Double) (digits : Nat) (exponent : Int) : Prop :=
  x.IsNear (digits * (powerOfTen exponent).1) (powerOfTen exponent).2

theorem isToldBy_mul (n : Nat) : x.IsToldBy (digits * 10 ^ n) e ↔ x.IsToldBy digits (e + n) := by
  have hsame : digits * 10 ^ n * (powerOfTen e).1 * (powerOfTen (e + n)).2 =
      digits * (powerOfTen (e + n)).1 * (powerOfTen e).2 := by
    rw [Nat.mul_assoc, Nat.mul_assoc, ← Nat.mul_assoc (10 ^ n), powerOfTen_add, Nat.mul_assoc]
  exact ⟨IsNear.congr (powerOfTen_pos _).2 (powerOfTen_pos _).2 hsame,
    IsNear.congr (powerOfTen_pos _).2 (powerOfTen_pos _).2 hsame.symm⟩

theorem IsToldBy.lt (hx : x.isFinite = true) (h : x.IsToldBy digits e) :
    (digits : ℚ) * 10 ^ e < 2 ^ (1024 : Int) := by
  have hscale := scale_le hx
  have hden : (0 : ℚ) < (powerOfTen e).2 := by exact_mod_cast (powerOfTen_pos e).2
  have hlt : (digits : ℚ) * (powerOfTen e).1 < (powerOfTen e).2 * 2 ^ (x.scale - 1074 + 53) := by
    exact_mod_cast IsNear.lt (powerOfTen_pos e).2 h
  rw [powerOfTen_eq, ← mul_assoc, mul_comm ((powerOfTen e).2 : ℚ), ← zpow_natCast] at hlt
  exact (lt_of_mul_lt_mul_right hlt hden.le).trans_le
    (zpow_le_zpow_right₀ (by norm_num) (by omega))

theorem IsToldBy.le (hpos : 0 < x.significand) (h : x.IsToldBy digits e) :
    (2 : ℚ) ^ (-1075 : Int) ≤ digits * 10 ^ e := by
  have hden : (0 : ℚ) < (powerOfTen e).2 := by exact_mod_cast (powerOfTen_pos e).2
  have hle : ((powerOfTen e).2 : ℚ) ≤
      digits * (powerOfTen e).1 * 2 ^ (1074 - x.scale + 1) := by
    exact_mod_cast IsNear.le hpos h
  rw [powerOfTen_eq] at hle
  calc (2 : ℚ) ^ (-1075 : Int)
    _ ≤ 2 ^ (-((1074 - x.scale + 1 : Nat) : Int)) :=
      zpow_le_zpow_right₀ (by norm_num) (by omega)
    _ = (2 ^ (1074 - x.scale + 1))⁻¹ := by rw [zpow_neg, zpow_natCast]
    _ ≤ digits * 10 ^ e := by
      rw [inv_le_iff_one_le_mul₀ (by positivity)]
      apply le_of_mul_le_mul_right _ hden
      calc 1 * ((powerOfTen e).2 : ℚ)
        _ ≤ digits * (10 ^ e * (powerOfTen e).2) * 2 ^ (1074 - x.scale + 1) := by rwa [one_mul]
        _ = digits * 10 ^ e * 2 ^ (1074 - x.scale + 1) * (powerOfTen e).2 := by ring

theorem IsToldBy.ne_zero (hpos : 0 < x.significand) (h : x.IsToldBy digits e) : digits ≠ 0 := by
  rintro rfl
  have hle := h.le hpos
  rw [Nat.cast_zero, zero_mul] at hle
  exact absurd hle (not_le.mpr (by positivity))

/-- The numerals that tell a number have a magnitude within the range of the format. -/
theorem IsToldBy.magnitude (hx : x.isFinite = true) (hpos : 0 < x.significand)
    (h : x.IsToldBy digits e) (he : -400 ≤ e) :
    -330 ≤ (digits.log2 : Int) * 30103 / 100000 + e ∧
      (digits.log2 : Int) * 30103 / 100000 + e ≤ 320 := by
  have hlt := h.lt hx
  have hle := h.le hpos
  have htwo : (1 : ℚ) < 2 := by norm_num
  have hten : (1 : ℚ) < 10 := by norm_num
  have hlow : (2 : ℚ) ^ (digits.log2 : Int) ≤ digits := by
    exact_mod_cast Nat.log2_self_le (h.ne_zero hpos)
  have hhigh : (digits : ℚ) < 2 ^ ((digits.log2 : Int) + 1) := by
    exact_mod_cast Nat.lt_log2_self (n := digits)
  have hsize : 0 ≤ (digits.log2 : Int) := Int.natCast_nonneg _
  generalize (digits.log2 : Int) = l at hlow hhigh hsize ⊢
  have hbelow : ∀ {i : Int}, (2 : ℚ) ^ i ≤ digits → (2 : ℚ) ^ i * 10 ^ e < 2 ^ (1024 : Int) :=
    fun hi => (mul_le_mul_of_nonneg_right hi (by positivity)).trans_lt hlt
  have hbits : l < 2358 := by
    have hpower : (2 : ℚ) ^ (-1334 : Int) ≤ 10 ^ e :=
      (two_zpow_le (j := -400) (by decide) (by decide)).trans (zpow_le_zpow_right₀ hten.le he)
    have hproduct : (2 : ℚ) ^ (l + -1334) < 2 ^ (1024 : Int) := by
      rw [zpow_add₀ (by norm_num)]
      exact (mul_le_mul_of_nonneg_left hpower (by positivity)).trans_lt (hbelow hlow)
    have hsum := (zpow_lt_zpow_iff_right₀ htwo).mp hproduct
    omega
  constructor
  · have hpower : (10 : ℚ) ^ (-325 : Int) < 10 ^ (l * 30103 / 100000 + 5 + e) := by
      rw [zpow_add₀ (by norm_num) _ e]
      calc (10 : ℚ) ^ (-325 : Int)
        _ ≤ 2 ^ (-1075 : Int) := ten_zpow_le (by decide) (by decide)
        _ ≤ digits * 10 ^ e := hle
        _ < 2 ^ (l + 1) * 10 ^ e := mul_lt_mul_of_pos_right hhigh (by positivity)
        _ ≤ 10 ^ (l * 30103 / 100000 + 5) * 10 ^ e :=
          mul_le_mul_of_nonneg_right (two_zpow_le (by omega) (by omega)) (by positivity)
    have hsum := (zpow_lt_zpow_iff_right₀ hten).mp hpower
    omega
  · have hpower : (10 : ℚ) ^ (l * 30103 / 100000 - 3 + e) < 10 ^ (310 : Int) := by
      rw [zpow_add₀ (by norm_num) _ e]
      calc (10 : ℚ) ^ (l * 30103 / 100000 - 3) * 10 ^ e
        _ ≤ 2 ^ l * 10 ^ e :=
          mul_le_mul_of_nonneg_right (ten_zpow_le (by omega) (by omega)) (by positivity)
        _ < 2 ^ (1024 : Int) := hbelow hlow
        _ ≤ 10 ^ (310 : Int) := two_zpow_le (by decide) (by decide)
    have hsum := (zpow_lt_zpow_iff_right₀ hten).mp hpower
    omega

/-- What tells a number is read as the number. -/
theorem ofDecimal_of_isToldBy (hx : x.isFinite = true) (hpos : 0 < x.significand)
    (h : x.IsToldBy digits e) (he : -400 ≤ e) : ofDecimal x.isNegative digits e = x := by
  obtain ⟨hlow, hhigh⟩ := h.magnitude hx hpos he
  have hratio := ofRatio_of_isNear hx hpos (powerOfTen_pos e).2 h
  unfold ofDecimal
  simp only [h.ne_zero hpos, if_false, Int.not_lt.mpr hlow, Int.not_lt.mpr hhigh]
  unfold powerOfTen at hratio
  split <;> rename_i he <;> simpa [he] using hratio

end Double

end PeopleFeed.Decimal
