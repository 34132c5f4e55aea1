import GuestAudio.Proofs.Sample.Rounding

set_option autoImplicit false

/-! # Numbers within full scale

A floating-point sample is within full scale if it is a number from -1 to 1. As magnitudes are in
the order of their bit patterns (`magnitude_le_iff`), that can be read off its bits
(`withinScale_iff`).

Rounding passes over no number that can be written (`IsNearest.toRat_le`, `IsNearest.le_toRat`), so
what is within full scale before is within full scale after, and a fraction next to 1 may become 1
itself. -/

namespace GuestAudio

namespace Binary32

/-- A number from -1 to 1. -/
structure WithinScale (x : Binary32) : Prop where
  isNumber : x.isNaN = false
  abs_le_one : |x.toRat| ≤ 1

/-- The number 1. -/
def one : Binary32 := ⟨0x3f800000⟩

/-- The number -1. -/
def minusOne : Binary32 := ⟨0xbf800000⟩

/-! ## Bit patterns in order -/

/-- Magnitudes grow with their bit patterns. -/
theorem magnitude_lt_of_bits_lt {x y : Binary32} (h : x.magnitudeBits < y.magnitudeBits) :
    x.magnitude < y.magnitude := by
  have hx := Nat.div_add_mod' x.magnitudeBits 0x800000
  have hy := Nat.div_add_mod' y.magnitudeBits 0x800000
  have hfraction : x.magnitudeBits % 0x800000 < 0x800000 := Nat.mod_lt _ (by decide)
  rcases Nat.lt_or_ge (x.magnitudeBits / 0x800000) (y.magnitudeBits / 0x800000) with hless | hsame
  · rw [magnitude_of_exponent (x := y) (by omega)]
    calc x.magnitude < 0x800000 * 2 ^ (x.magnitudeBits / 0x800000) := x.magnitude_lt
      _ ≤ (0x800000 + y.magnitudeBits % 0x800000) * 2 ^ (y.magnitudeBits / 0x800000 - 1) :=
          Nat.mul_le_mul (Nat.le_add_right _ _) (Nat.pow_le_pow_right (by decide) (by omega))
  · -- with the same exponent it is the fraction that is less
    have hexponent : x.magnitudeBits / 0x800000 = y.magnitudeBits / 0x800000 := by omega
    unfold magnitude
    dsimp only
    rw [hexponent]
    split
    · omega
    · rw [Nat.shiftLeft_eq, Nat.shiftLeft_eq]
      exact Nat.mul_lt_mul_of_pos_right (by omega) (Nat.two_pow_pos _)

theorem magnitude_le_iff {x y : Binary32} :
    x.magnitude ≤ y.magnitude ↔ x.magnitudeBits ≤ y.magnitudeBits := by
  constructor
  · intro h
    by_contra hlt
    exact absurd h (Nat.not_le.2 (magnitude_lt_of_bits_lt (Nat.not_le.1 hlt)))
  · intro h
    rcases Nat.lt_or_eq_of_le h with hlt | heq
    · exact Nat.le_of_lt (magnitude_lt_of_bits_lt hlt)
    · unfold magnitude
      rw [heq]

theorem abs_toRat (x : Binary32) : |x.toRat| = x.magnitude / 2 ^ 149 := by
  rw [toRat, abs_div, abs_of_pos (show (0 : ℚ) < 2 ^ 149 by positivity), ← natAbs_units,
    Nat.cast_natAbs, Int.cast_abs]

theorem toRat_one : one.toRat = 1 := by
  have hunits : one.units = 2 ^ 149 := by decide +kernel
  rw [toRat, hunits]
  norm_num

theorem toRat_minusOne : minusOne.toRat = -1 := by
  have hunits : minusOne.units = -2 ^ 149 := by decide +kernel
  rw [toRat, hunits]
  norm_num

/-- What is within full scale has a bit pattern, its sign left out, up to that of 1. -/
theorem withinScale_iff {x : Binary32} : x.WithinScale ↔ x.magnitudeBits ≤ 0x3f800000 := by
  have hscale : |x.toRat| ≤ 1 ↔ x.magnitudeBits ≤ 0x3f800000 := by
    have hbits : one.magnitudeBits = 0x3f800000 := by decide
    have hmagnitude : one.magnitude = 2 ^ 149 := by decide +kernel
    rw [abs_toRat, div_le_one (by positivity), ← hbits, ← magnitude_le_iff, hmagnitude]
    exact_mod_cast Iff.rfl
  constructor
  · intro h
    exact hscale.1 h.abs_le_one
  · intro h
    refine ⟨decide_eq_false ?_, hscale.2 h⟩
    omega

/-! ## Rounding -/

/-- Rounding does not go up past a number that can be written. -/
theorem IsNearest.toRat_le {x y : Binary32} {q : ℚ} (h : x.IsNearest q) (hy : y.IsFinite)
    (hq : q ≤ y.toRat) : x.toRat ≤ y.toRat := by
  by_contra hlt
  have hbeyond : y.toRat < x.toRat := not_le.1 hlt
  have hnearest := h.nearest y hy
  rw [abs_of_nonneg (by linarith), abs_of_nonneg (by linarith)] at hnearest
  linarith

/-- Rounding does not go down past a number that can be written. -/
theorem IsNearest.le_toRat {x y : Binary32} {q : ℚ} (h : x.IsNearest q) (hy : y.IsFinite)
    (hq : y.toRat ≤ q) : y.toRat ≤ x.toRat := by
  by_contra hlt
  have hbeyond : x.toRat < y.toRat := not_le.1 hlt
  have hnearest := h.nearest y hy
  rw [abs_of_nonpos (by linarith), abs_of_nonpos (by linarith)] at hnearest
  linarith

theorem IsNearest.withinScale {x : Binary32} {q : ℚ} (h : x.IsNearest q) (hq : |q| ≤ 1) :
    x.WithinScale := by
  obtain ⟨hlow, hhigh⟩ := abs_le.1 hq
  have hle := h.toRat_le (y := one) (by decide) (by rwa [toRat_one])
  have hge := h.le_toRat (y := minusOne) (by decide) (by rwa [toRat_minusOne])
  rw [toRat_one] at hle
  rw [toRat_minusOne] at hge
  have hfinite : x.magnitudeBits < 0x7f800000 := h.finite
  exact ⟨decide_eq_false (by omega), abs_le.2 ⟨hge, hle⟩⟩

/-- A fraction of full scale is rounded to a number within full scale. -/
theorem withinScale_ofScaled {n : ℤ} {k : Nat} (h : n.natAbs ≤ 2 ^ k) :
    (ofScaled n k).WithinScale := by
  have hsmall : n.natAbs < 2 ^ (k + 127) :=
    lt_of_le_of_lt h (Nat.pow_lt_pow_right (by decide) (by omega))
  refine (isNearest_ofScaled hsmall).withinScale ?_
  rw [abs_div, abs_of_pos (show (0 : ℚ) < 2 ^ k by positivity), div_le_one (by positivity),
    ← Int.cast_abs, ← Nat.cast_natAbs]
  exact_mod_cast h

end Binary32

end GuestAudio
