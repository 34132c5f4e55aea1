import GuestAudio.Sample.Binary32
import Mathlib.Algebra.Order.Field.Rat
import Mathlib.Tactic.FieldSimp
import Mathlib.Tactic.Linarith
import Mathlib.Tactic.LinearCombination
import Mathlib.Tactic.Positivity
import Mathlib.Tactic.Ring

set_option autoImplicit false

/-! # Rounding to floating-point numbers

`Binary32.ofScaled n k` is the number nearest to `n / 2 ^ k`, and of two numbers that are equally
near the one whose last bit is zero (`isNearest_ofScaled`). Whole numbers of up to 24 bits are
scaled without rounding (`toRat_ofScaled`).

All comparisons are made between whole numbers. With the exponent `e` of the result, its unit in the
last place is `2 ^ (e - 1)` in units of 2⁻¹⁴⁹; the magnitude of every number is a multiple of it, or
is too small to be nearer (`magnitude_on_grid`), so that the nearest multiple is the nearest
number. -/

namespace GuestAudio

namespace Binary32

/-! ## The number that is written -/

/-- Neither infinite nor without a value. -/
def IsFinite (x : Binary32) : Prop := x.magnitudeBits < 0x7f800000

instance (x : Binary32) : Decidable x.IsFinite :=
  inferInstanceAs (Decidable (x.magnitudeBits < 0x7f800000))

/-- The number in units of 2⁻¹⁴⁹. -/
def units (x : Binary32) : ℤ := if x.isNegative then -x.magnitude else x.magnitude

/-- The number. -/
def toRat (x : Binary32) : ℚ := x.units / 2 ^ 149

/-- No finite number is nearer to `q`, and if another one is as near, the last bit is zero. -/
structure IsNearest (x : Binary32) (q : ℚ) : Prop where
  finite : x.IsFinite
  nearest : ∀ y : Binary32, y.IsFinite → |x.toRat - q| ≤ |y.toRat - q|
  even : ∀ y : Binary32, y.IsFinite → |x.toRat - q| = |y.toRat - q| → y.toRat ≠ x.toRat →
    x.bits.toNat % 2 = 0

theorem abs_toRat_sub (x : Binary32) (n : ℤ) (k : Nat) :
    |x.toRat - n / 2 ^ k| = (x.units * 2 ^ k - n * 2 ^ 149).natAbs / (2 ^ 149 * 2 ^ k : ℚ) := by
  have hcommon : x.toRat - n / 2 ^ k =
      (x.units * 2 ^ k - n * 2 ^ 149 : ℤ) / (2 ^ 149 * 2 ^ k : ℚ) := by
    unfold toRat
    push_cast
    field_simp
    ring
  rw [hcommon, abs_div, abs_of_pos (show (0 : ℚ) < 2 ^ 149 * 2 ^ k by positivity),
    Nat.cast_natAbs, Int.cast_abs]

/-! ## The nearest whole number -/

/-- No whole number is nearer to a quotient, and of two that are equally near it is the even one. -/
theorem nearestEven_spec {d : Nat} (hd : 0 < d) (a : Nat) (j : ℤ) :
    ((nearestEven a d : ℤ) * d - a).natAbs ≤ (j * d - a).natAbs ∧
      (((nearestEven a d : ℤ) * d - a).natAbs = (j * d - a).natAbs →
        j = nearestEven a d ∨ nearestEven a d % 2 = 0) := by
  have hrest := Nat.mod_lt a hd
  have ha : (a : ℤ) = (a / d : Nat) * d + (a % d : Nat) := by
    exact_mod_cast (Nat.div_add_mod' a d).symm
  -- relative to the quotient, every other whole number is at least one divisor away
  obtain ⟨t, rfl⟩ : ∃ t : ℤ, j = (a / d : Nat) + t := ⟨j - (a / d : Nat), by ring⟩
  have hj : ((a / d : Nat) + t) * (d : ℤ) - a = t * d - (a % d : Nat) := by
    rw [ha]
    ring
  have hfar : t = 0 ∨ t * (d : ℤ) ≤ -d ∨ t = 1 ∨ 2 * (d : ℤ) ≤ t * d := by
    rcases lt_trichotomy t 0 with ht | ht | ht
    · exact .inr (.inl (by nlinarith))
    · exact .inl ht
    · rcases eq_or_lt_of_le (Int.add_one_le_iff.2 ht) with h | h
      · exact .inr (.inr (.inl (by omega)))
      · exact .inr (.inr (.inr (by nlinarith)))
  rw [hj]
  unfold nearestEven
  dsimp only
  split
  · next hlow =>
    have hp : ((a / d : Nat) : ℤ) * d - a = -(a % d : Nat) := by
      rw [ha]
      ring
    rw [hp]
    rcases hfar with rfl | hfar | rfl | hfar <;> omega
  · next hhigh =>
    have hp : ((a / d + 1 : Nat) : ℤ) * d - a = d - (a % d : Nat) := by
      rw [ha]
      push_cast
      ring
    rw [hp]
    rcases hfar with rfl | hfar | rfl | hfar <;> omega

/-! ## Magnitudes -/

/-- The exponent field with which `m / 2 ^ k` is written. -/
def fieldFor (m k : Nat) : Nat := max (Nat.log2 m + 127 - k) 1

/-- `m / 2 ^ k` in units of the last place, rounded. -/
def significandFor (m k : Nat) : Nat :=
  nearestEven (m <<< (150 - fieldFor m k)) (1 <<< (k + (fieldFor m k - 150)))

theorem fieldFor_pos (m k : Nat) : 1 ≤ fieldFor m k := Nat.le_max_right _ _

theorem divisor_pos (m k : Nat) : 0 < 1 <<< (k + (fieldFor m k - 150)) := by
  rw [Nat.one_shiftLeft]
  exact Nat.two_pow_pos _

/-- In units of the last place, a number has 24 bits before the point, or fewer at the least
    exponent. -/
theorem bounds_of_fieldFor {m : Nat} (hm : m ≠ 0) (k : Nat) :
    m <<< (150 - fieldFor m k) < 0x1000000 * 1 <<< (k + (fieldFor m k - 150)) ∧
      (1 < fieldFor m k →
        0x800000 * 1 <<< (k + (fieldFor m k - 150)) ≤ m <<< (150 - fieldFor m k)) := by
  have hlow := Nat.log2_self_le hm
  have hhigh := Nat.lt_log2_self (n := m)
  have hpow : ∀ i j : Nat, i ≤ j → 2 ^ i ≤ 2 ^ j := fun i j => Nat.pow_le_pow_right (by decide)
  rw [show 0x1000000 = 2 ^ 24 from rfl, show 0x800000 = 2 ^ 23 from rfl]
  simp only [Nat.shiftLeft_eq, Nat.one_mul]
  rw [← Nat.pow_add, ← Nat.pow_add]
  constructor
  · calc m * 2 ^ (150 - fieldFor m k)
        < 2 ^ (Nat.log2 m + 1) * 2 ^ (150 - fieldFor m k) :=
          Nat.mul_lt_mul_of_pos_right hhigh (Nat.two_pow_pos _)
      _ = 2 ^ (Nat.log2 m + 1 + (150 - fieldFor m k)) := (Nat.pow_add ..).symm
      _ ≤ 2 ^ (24 + (k + (fieldFor m k - 150))) := hpow _ _ (by unfold fieldFor; omega)
  · intro hfield
    calc 2 ^ (23 + (k + (fieldFor m k - 150)))
        ≤ 2 ^ (Nat.log2 m + (150 - fieldFor m k)) := hpow _ _ (by unfold fieldFor at *; omega)
      _ = 2 ^ Nat.log2 m * 2 ^ (150 - fieldFor m k) := Nat.pow_add ..
      _ ≤ m * 2 ^ (150 - fieldFor m k) := Nat.mul_le_mul_right _ hlow

theorem nearestEven_le_of_lt {a b d : Nat} (hd : 0 < d) (h : a < b * d) : nearestEven a d ≤ b := by
  have hq : a / d < b := (Nat.div_lt_iff_lt_mul hd).2 h
  unfold nearestEven
  dsimp only
  split <;> omega

theorem le_nearestEven_of_le {a b d : Nat} (hd : 0 < d) (h : b * d ≤ a) : b ≤ nearestEven a d := by
  have hq : b ≤ a / d := (Nat.le_div_iff_mul_le hd).2 h
  unfold nearestEven
  dsimp only
  split <;> omega

theorem significandFor_bounds {m : Nat} (hm : m ≠ 0) (k : Nat) :
    significandFor m k ≤ 0x1000000 ∧ (1 < fieldFor m k → 0x800000 ≤ significandFor m k) := by
  obtain ⟨hhigh, hlow⟩ := bounds_of_fieldFor hm k
  exact ⟨nearestEven_le_of_lt (divisor_pos m k) hhigh,
    fun hfield => le_nearestEven_of_le (divisor_pos m k) (hlow hfield)⟩

/-- Below 2¹²⁷ rounding does not overflow. -/
theorem nearestBits_eq {m k : Nat} (hm : m ≠ 0) (hlt : m < 2 ^ (k + 127)) :
    nearestBits m k = (fieldFor m k - 1) * 0x800000 + significandFor m k ∧
      nearestBits m k < 0x7f800000 := by
  have hlog : Nat.log2 m < k + 127 := (Nat.log2_lt hm).2 hlt
  have hfield : fieldFor m k ≤ 253 := by
    unfold fieldFor
    omega
  have hsignificand := (significandFor_bounds hm k).1
  have hif : (if Nat.log2 m + 127 - k = 0 then 1 else Nat.log2 m + 127 - k) = fieldFor m k := by
    unfold fieldFor
    split <;> omega
  have hbits : nearestBits m k =
      min ((fieldFor m k - 1) * 0x800000 + significandFor m k) 0x7f800000 := by
    unfold nearestBits
    rw [if_neg hm]
    dsimp only
    rw [hif]
    rfl
  omega

/-- The two fields of a magnitude may overlap: a significand of 24 bits raises the exponent by one,
    and one of 2²⁴ by two. -/
theorem magnitude_of_fields {x : Binary32} {e s : Nat} (he : 1 ≤ e) (hs : s ≤ 0x1000000)
    (hnormal : 1 < e → 0x800000 ≤ s) (hx : x.magnitudeBits = (e - 1) * 0x800000 + s) :
    x.magnitude = s * 2 ^ (e - 1) := by
  unfold magnitude
  dsimp only
  rw [hx]
  rcases Nat.lt_or_ge s 0x800000 with hsmall | hlarge
  · have hone : e = 1 := by
      by_contra hne
      exact absurd (hnormal (by omega)) (by omega)
    subst hone
    rw [if_pos (by omega)]
    omega
  · rw [if_neg (by omega), Nat.shiftLeft_eq]
    rcases Nat.lt_or_ge s 0x1000000 with hless | htop
    · rw [show ((e - 1) * 0x800000 + s) / 0x800000 - 1 = e - 1 by omega,
        show 0x800000 + ((e - 1) * 0x800000 + s) % 0x800000 = s by omega]
    · rw [show ((e - 1) * 0x800000 + s) / 0x800000 - 1 = e - 1 + 1 by omega,
        show 0x800000 + ((e - 1) * 0x800000 + s) % 0x800000 = 0x800000 by omega,
        show s = 0x800000 * 2 by omega, Nat.pow_succ]
      ring

/-- The magnitudes with one exponent are below all with the next one. -/
theorem magnitude_lt (x : Binary32) :
    x.magnitude < 0x800000 * 2 ^ (x.magnitudeBits / 0x800000) := by
  have hfraction : x.magnitudeBits % 0x800000 < 0x800000 := Nat.mod_lt _ (by decide)
  unfold magnitude
  dsimp only
  split
  · next hzero => rwa [hzero]
  · next hexponent =>
    obtain ⟨e, he⟩ := Nat.exists_eq_succ_of_ne_zero hexponent
    rw [he, Nat.succ_sub_one, Nat.shiftLeft_eq, Nat.pow_succ', ← Nat.mul_assoc]
    exact Nat.mul_lt_mul_of_pos_right (by omega) (Nat.two_pow_pos e)

theorem magnitude_of_exponent {x : Binary32} (h : x.magnitudeBits / 0x800000 ≠ 0) :
    x.magnitude = (0x800000 + x.magnitudeBits % 0x800000) *
      2 ^ (x.magnitudeBits / 0x800000 - 1) := by
  unfold magnitude
  dsimp only
  rw [if_neg h, Nat.shiftLeft_eq]

/-- A magnitude is a multiple of the unit that an exponent has in the last place, or is smaller
    than all magnitudes with that exponent. -/
theorem magnitude_on_grid (x : Binary32) {e : Nat} (he : 1 ≤ e) :
    2 ^ (e - 1) ∣ x.magnitude ∨ (1 < e ∧ x.magnitude < 0x800000 * 2 ^ (e - 1)) := by
  rcases Nat.lt_or_ge (x.magnitudeBits / 0x800000) e with hless | hgreater
  · rcases Nat.lt_or_ge 1 e with hlt | hle
    · refine .inr ⟨hlt, ?_⟩
      calc x.magnitude < 0x800000 * 2 ^ (x.magnitudeBits / 0x800000) := x.magnitude_lt
        _ ≤ 0x800000 * 2 ^ (e - 1) :=
            Nat.mul_le_mul_left _ (Nat.pow_le_pow_right (by decide) (by omega))
    · obtain rfl : e = 1 := by omega
      exact .inl (Nat.one_dvd _)
  · rw [magnitude_of_exponent (by omega)]
    exact .inl (Nat.dvd_mul_left_of_dvd (Nat.pow_dvd_pow 2 (by omega)) _)

/-! ## Rounding a magnitude -/

/-- In units of 2⁻¹⁴⁹, the unit in the last place and the number have a factor in common with the
    two sides of the quotient that is rounded. -/
theorem exists_common_factor (m k : Nat) : ∃ c : Nat, 0 < c ∧
    2 ^ (fieldFor m k - 1) * 2 ^ k = c * 1 <<< (k + (fieldFor m k - 150)) ∧
    m * 2 ^ 149 = c * m <<< (150 - fieldFor m k) := by
  have hfield := fieldFor_pos m k
  refine ⟨2 ^ min (fieldFor m k - 1) 149, Nat.two_pow_pos _, ?_, ?_⟩
  · have hexponent : fieldFor m k - 1 + k =
        min (fieldFor m k - 1) 149 + (k + (fieldFor m k - 150)) := by omega
    rw [Nat.one_shiftLeft, ← Nat.pow_add, ← Nat.pow_add, hexponent]
  · have hexponent : min (fieldFor m k - 1) 149 + (150 - fieldFor m k) = 149 := by omega
    rw [Nat.shiftLeft_eq, Nat.mul_left_comm, ← Nat.pow_add, hexponent]

/-- The rounded magnitude is nearest to `m / 2 ^ k` among all whole numbers that are multiples of
    its unit in the last place or smaller than all magnitudes with its exponent. -/
theorem significandFor_spec {m : Nat} (hm : m ≠ 0) (k : Nat) {x : ℤ}
    (hx : 2 ^ (fieldFor m k - 1) ∣ x ∨
      (1 < fieldFor m k ∧ x < 0x800000 * 2 ^ (fieldFor m k - 1))) :
    ((significandFor m k * 2 ^ (fieldFor m k - 1) : ℤ) * 2 ^ k - m * 2 ^ 149).natAbs ≤
        (x * 2 ^ k - m * 2 ^ 149).natAbs ∧
      (((significandFor m k * 2 ^ (fieldFor m k - 1) : ℤ) * 2 ^ k - m * 2 ^ 149).natAbs =
          (x * 2 ^ k - m * 2 ^ 149).natAbs →
        x = significandFor m k * 2 ^ (fieldFor m k - 1) ∨ significandFor m k % 2 = 0) := by
  have hspec : ∀ j : ℤ, _ ∧ (_ → j = significandFor m k ∨ significandFor m k % 2 = 0) :=
    nearestEven_spec (divisor_pos m k) (m <<< (150 - fieldFor m k))
  have hlow := (bounds_of_fieldFor hm k).2
  obtain ⟨c, hc, hunit, hvalue⟩ := exists_common_factor m k
  have hs : nearestEven (m <<< (150 - fieldFor m k)) (1 <<< (k + (fieldFor m k - 150))) =
      significandFor m k := rfl
  rw [hs] at hspec
  generalize significandFor m k = s at hspec ⊢
  generalize 1 <<< (k + (fieldFor m k - 150)) = d at hspec hlow hunit
  generalize m <<< (150 - fieldFor m k) = a at hspec hlow hvalue
  have hunit' : (2 : ℤ) ^ (fieldFor m k - 1) * 2 ^ k = c * d := by exact_mod_cast hunit
  have hvalue' : (m : ℤ) * 2 ^ 149 = c * a := by exact_mod_cast hvalue
  have hmultiple : ∀ j : ℤ, j * 2 ^ (fieldFor m k - 1) * 2 ^ k - m * 2 ^ 149 = c * (j * d - a) := by
    intro j
    linear_combination j * hunit' - hvalue'
  have hscaled : ∀ j : ℤ, (c * (j * d - a) : ℤ).natAbs = c * (j * d - a).natAbs := by
    intro j
    rw [Int.natAbs_mul, Int.natAbs_natCast]
  rw [hmultiple, hscaled]
  rcases hx with ⟨j, rfl⟩ | ⟨hfield, hsmall⟩
  · rw [mul_comm _ j, hmultiple, hscaled]
    refine ⟨Nat.mul_le_mul_left _ (hspec j).1, fun heq => ?_⟩
    rcases (hspec j).2 (Nat.eq_of_mul_eq_mul_left hc heq) with rfl | heven
    · exact .inl rfl
    · exact .inr heven
  · -- the number is at least as large as the magnitudes with the exponent, so the least of them
    -- is nearer than everything below
    obtain ⟨g, rfl⟩ := Nat.exists_eq_add_of_le (hlow hfield)
    have hleast : ((s : ℤ) * d - (0x800000 * d + g : Nat)).natAbs ≤ g := by
      have hnear := (hspec 0x800000).1
      push_cast at hnear ⊢
      omega
    have hbelow : x * 2 ^ k - m * 2 ^ 149 < -(c * g : Nat) := by
      have hx : x * 2 ^ k < 0x800000 * 2 ^ (fieldFor m k - 1) * 2 ^ k :=
        mul_lt_mul_of_pos_right hsmall (by positivity)
      push_cast at hvalue' ⊢
      linear_combination hx + 0x800000 * hunit' - hvalue'
    have hnearer : c * ((s : ℤ) * d - (0x800000 * d + g : Nat)).natAbs <
        (x * 2 ^ k - m * 2 ^ 149).natAbs := by
      have hle := Nat.mul_le_mul_left c hleast
      omega
    exact ⟨hnearer.le, fun heq => absurd heq hnearer.ne⟩

/-! ## Rounding a number -/

theorem units_on_grid (x : Binary32) {e : Nat} (he : 1 ≤ e) {v : ℤ} (hv : v.natAbs = x.magnitude) :
    2 ^ (e - 1) ∣ v ∨ (1 < e ∧ v < 0x800000 * 2 ^ (e - 1)) := by
  rcases x.magnitude_on_grid he with hdvd | ⟨hlt, hsmall⟩
  · rw [← hv] at hdvd
    exact .inl (by exact_mod_cast Int.natCast_dvd.2 hdvd)
  · refine .inr ⟨hlt, ?_⟩
    have hle : v ≤ x.magnitude := by omega
    exact lt_of_le_of_lt hle (by exact_mod_cast hsmall)

theorem natAbs_units (x : Binary32) : x.units.natAbs = x.magnitude := by
  unfold units
  split <;> simp

/-- The fields of a rounded number. -/
theorem bits_ofScaled {n : ℤ} {k : Nat} (hlt : n.natAbs < 2 ^ (k + 127)) :
    (ofScaled n k).bits.toNat =
        (if n < 0 then 0x80000000 else 0) + nearestBits n.natAbs k ∧
      nearestBits n.natAbs k < 0x7f800000 := by
  have hbits : nearestBits n.natAbs k < 0x7f800000 := by
    by_cases hm : n.natAbs = 0
    · rw [nearestBits, if_pos hm]
      decide
    · exact (nearestBits_eq hm hlt).2
  refine ⟨?_, hbits⟩
  unfold ofScaled
  dsimp only
  rw [UInt32.toNat_ofNat']
  split <;> omega

theorem magnitudeBits_ofScaled {n : ℤ} {k : Nat} (hlt : n.natAbs < 2 ^ (k + 127)) :
    (ofScaled n k).magnitudeBits = nearestBits n.natAbs k := by
  obtain ⟨hbits, hfinite⟩ := bits_ofScaled hlt
  unfold magnitudeBits
  rw [hbits]
  split <;> omega

theorem isNegative_ofScaled {n : ℤ} {k : Nat} (hlt : n.natAbs < 2 ^ (k + 127)) :
    (ofScaled n k).isNegative = decide (n < 0) := by
  obtain ⟨hbits, hfinite⟩ := bits_ofScaled hlt
  unfold isNegative
  rw [hbits]
  by_cases hn : n < 0
  · simp [hn]
  · simp [hn]
    omega

theorem units_ofScaled {n : ℤ} {k : Nat} (hlt : n.natAbs < 2 ^ (k + 127)) (hn : n ≠ 0) :
    (ofScaled n k).units =
      n.sign * (significandFor n.natAbs k * 2 ^ (fieldFor n.natAbs k - 1)) := by
  have hm : n.natAbs ≠ 0 := Int.natAbs_ne_zero.2 hn
  obtain ⟨hhigh, hlow⟩ := significandFor_bounds hm k
  have hmagnitude := magnitude_of_fields (fieldFor_pos n.natAbs k) hhigh hlow
    ((magnitudeBits_ofScaled hlt).trans (nearestBits_eq hm hlt).1)
  unfold units
  rw [isNegative_ofScaled hlt, hmagnitude]
  push_cast
  rcases lt_or_gt_of_ne hn with hneg | hpos
  · rw [decide_eq_true hneg, if_pos rfl, Int.sign_eq_neg_one_of_neg hneg]
    ring
  · rw [decide_eq_false (by omega), if_neg (by decide), Int.sign_eq_one_of_pos hpos]
    ring

/-- The last bit of a rounded number is that of its significand. -/
theorem bits_ofScaled_even {n : ℤ} {k : Nat} (hlt : n.natAbs < 2 ^ (k + 127)) (hn : n ≠ 0)
    (heven : significandFor n.natAbs k % 2 = 0) : (ofScaled n k).bits.toNat % 2 = 0 := by
  obtain ⟨hbits, -⟩ := bits_ofScaled hlt
  rw [hbits, (nearestBits_eq (Int.natAbs_ne_zero.2 hn) hlt).1]
  split <;> omega

theorem sign_mul_sign {n : ℤ} (hn : n ≠ 0) : n.sign * n.sign = 1 := by
  rcases lt_or_gt_of_ne hn with hneg | hpos
  · rw [Int.sign_eq_neg_one_of_neg hneg]
    rfl
  · rw [Int.sign_eq_one_of_pos hpos]
    rfl

/-- Distances from a number are distances from its magnitude, signs turned. -/
theorem distance_of_sign {n : ℤ} (hn : n ≠ 0) (v : ℤ) (k : Nat) :
    (n.sign * v * 2 ^ k - n.natAbs * 2 ^ 149).natAbs = (v * 2 ^ k - n * 2 ^ 149).natAbs := by
  have hn' : n = n.sign * n.natAbs := (Int.sign_mul_natAbs n).symm
  have hfactor : v * 2 ^ k - n * 2 ^ 149 =
      n.sign * (n.sign * v * 2 ^ k - n.natAbs * 2 ^ 149) := by
    linear_combination (-v * 2 ^ k) * sign_mul_sign hn - 2 ^ 149 * hn'
  rw [hfactor, Int.natAbs_mul, Int.natAbs_sign_of_ne_zero hn, Nat.one_mul]

/-- Rounding comes nearer than every finite number, in units of 2⁻¹⁴⁹ and of `2 ^ k`. -/
theorem units_ofScaled_spec {n : ℤ} {k : Nat} (hlt : n.natAbs < 2 ^ (k + 127)) (y : Binary32) :
    ((ofScaled n k).units * 2 ^ k - n * 2 ^ 149).natAbs ≤
        (y.units * 2 ^ k - n * 2 ^ 149).natAbs ∧
      (((ofScaled n k).units * 2 ^ k - n * 2 ^ 149).natAbs =
          (y.units * 2 ^ k - n * 2 ^ 149).natAbs →
        y.units = (ofScaled n k).units ∨ (ofScaled n k).bits.toNat % 2 = 0) := by
  by_cases hn : n = 0
  · subst hn
    have hzero : (ofScaled 0 k).bits.toNat % 2 = 0 := by simp [ofScaled, nearestBits]
    have hunits : (ofScaled 0 k).units = 0 := by
      simp [units, magnitude, magnitudeBits, ofScaled, nearestBits]
    rw [hunits]
    simp [hzero]
  have hm : n.natAbs ≠ 0 := Int.natAbs_ne_zero.2 hn
  -- the other number may have the other sign
  have hgrid := units_on_grid y (fieldFor_pos n.natAbs k) (v := n.sign * y.units) (by
    rw [Int.natAbs_mul, Int.natAbs_sign_of_ne_zero hn, Nat.one_mul, natAbs_units])
  obtain ⟨hnearest, heven⟩ := significandFor_spec hm k hgrid
  have hsign := sign_mul_sign hn
  have hback : n.sign * (ofScaled n k).units =
      significandFor n.natAbs k * 2 ^ (fieldFor n.natAbs k - 1) := by
    rw [units_ofScaled hlt hn, ← mul_assoc, hsign, one_mul]
  rw [← hback, distance_of_sign hn, distance_of_sign hn] at hnearest heven
  refine ⟨hnearest, fun heq => ?_⟩
  rcases heven heq with hsame | hparity
  · exact .inl (mul_left_cancel₀ (mt Int.sign_eq_zero_iff_zero.1 hn) hsame)
  · exact .inr (bits_ofScaled_even hlt hn hparity)

/-- **Rounding is to the nearest number**, below 2¹²⁷. -/
theorem isNearest_ofScaled {n : ℤ} {k : Nat} (hlt : n.natAbs < 2 ^ (k + 127)) :
    (ofScaled n k).IsNearest (n / 2 ^ k) := by
  constructor
  case finite =>
    unfold IsFinite
    rw [magnitudeBits_ofScaled hlt]
    exact (bits_ofScaled hlt).2
  case nearest =>
    intro y _
    rw [abs_toRat_sub, abs_toRat_sub]
    gcongr
    exact (units_ofScaled_spec hlt y).1
  case even =>
    intro y _ heq hne
    rw [abs_toRat_sub, abs_toRat_sub] at heq
    have heq' := (div_left_inj' (by positivity)).1 heq
    rcases (units_ofScaled_spec hlt y).2 (by exact_mod_cast heq') with hsame | heven
    · exact absurd (by rw [toRat, toRat, hsame]) hne
    · exact heven

/-- A magnitude of up to 24 bits is a whole number of units in the last place. -/
theorem significandFor_exact {m k : Nat} (hm : m ≠ 0) (hsize : m < 2 ^ 24) (hk : k ≤ 149) :
    significandFor m k * 2 ^ (fieldFor m k - 1) * 2 ^ k = m * 2 ^ 149 := by
  have hlog : Nat.log2 m < 24 := (Nat.log2_lt hm).2 hsize
  have hfield : fieldFor m k ≤ 150 := by
    unfold fieldFor
    omega
  have hdvd : 1 <<< (k + (fieldFor m k - 150)) ∣ m <<< (150 - fieldFor m k) := by
    rw [Nat.one_shiftLeft, Nat.shiftLeft_eq]
    refine Nat.dvd_mul_left_of_dvd (Nat.pow_dvd_pow 2 ?_) m
    unfold fieldFor
    omega
  have hwhole : significandFor m k * 1 <<< (k + (fieldFor m k - 150)) =
      m <<< (150 - fieldFor m k) := by
    rw [significandFor, nearestEven_of_dvd (divisor_pos m k) (Nat.mod_eq_zero_of_dvd hdvd),
      Nat.div_mul_cancel hdvd]
  obtain ⟨c, -, hunit, hvalue⟩ := exists_common_factor m k
  rw [hvalue, ← hwhole, Nat.mul_assoc, hunit]
  ring

/-- A number of up to 24 bits is not rounded. -/
theorem toRat_ofScaled {n : ℤ} {k : Nat} (hn : n.natAbs < 2 ^ 24) (hk : k ≤ 149) :
    (ofScaled n k).toRat = n / 2 ^ k := by
  have hlt : n.natAbs < 2 ^ (k + 127) :=
    lt_of_lt_of_le hn (Nat.pow_le_pow_right (by decide) (by omega))
  have hdistance : (ofScaled n k).units * 2 ^ k - n * 2 ^ 149 = 0 := by
    by_cases hzero : n = 0
    · subst hzero
      simp [units, magnitude, magnitudeBits, ofScaled, nearestBits]
    · have hexact : ((significandFor n.natAbs k * 2 ^ (fieldFor n.natAbs k - 1) : ℤ) * 2 ^ k) =
          n.natAbs * 2 ^ 149 := by
        exact_mod_cast significandFor_exact (Int.natAbs_ne_zero.2 hzero) hn hk
      have hn' : n.sign * n.natAbs = n := Int.sign_mul_natAbs n
      rw [units_ofScaled hlt hzero]
      linear_combination n.sign * hexact + 2 ^ 149 * hn'
  have habs := abs_toRat_sub (ofScaled n k) n k
  rw [hdistance, Int.natAbs_zero, Nat.cast_zero, zero_div, abs_eq_zero] at habs
  exact sub_eq_zero.1 habs

end Binary32

end GuestAudio
