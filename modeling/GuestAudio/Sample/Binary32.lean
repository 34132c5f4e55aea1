set_option autoImplicit false

/-! # Floating-point samples

A 32-bit floating-point number is its bit pattern: a sign bit, eight bits of exponent, 23 bits of
fraction. Its magnitude is a whole multiple of 2⁻¹⁴⁹, so every question about it is one about
integers.

`ofScaled n k` is the number nearest to `n / 2 ^ k`, of two the one whose last bit is zero.
`truncScaled x k` is `x * 2 ^ k` without its fraction. -/

namespace GuestAudio

/-- A floating-point number of 32 bits. -/
structure Binary32 where
  bits : UInt32
deriving Repr, DecidableEq

namespace Binary32

def zero : Binary32 := ⟨0⟩

def isNegative (x : Binary32) : Bool := 0x80000000 ≤ x.bits.toNat

/-- The bits of the magnitude. -/
def magnitudeBits (x : Binary32) : Nat := x.bits.toNat % 0x80000000

/-- Exponent bits all set, and a fraction. -/
def isNaN (x : Binary32) : Bool := 0x7f800000 < x.magnitudeBits

/-- The magnitude in units of 2⁻¹⁴⁹. With all exponent bits set it is read like any other, and so
    exceeds every number. -/
def magnitude (x : Binary32) : Nat :=
  let exponent := x.magnitudeBits / 0x800000
  let fraction := x.magnitudeBits % 0x800000
  if exponent = 0 then fraction else (0x800000 + fraction) <<< (exponent - 1)

/-- The whole number nearest to `n / d`, the even one of two. -/
def nearestEven (n d : Nat) : Nat :=
  let q := n / d
  let twice := 2 * (n % d)
  if twice < d ∨ (twice = d ∧ q % 2 = 0) then q else q + 1

/-- The bits of the nonnegative number nearest to `m / 2 ^ k`. The significand `s` has 24 bits, or
    fewer at the least exponent; the two fields are added, so that a significand rounded up to
    2²⁴ carries into the exponent. -/
def nearestBits (m k : Nat) : Nat :=
  if m = 0 then 0
  else
    -- the exponent field of the number, if it has 24 significant bits and at least 1
    let field := Nat.log2 m + 127 - k
    let field := if field = 0 then 1 else field
    -- the number in units of 2 ^ (field - 150)
    let up := 150 - field
    let down := field - 150
    let s := nearestEven (m <<< up) (1 <<< (k + down))
    min ((field - 1) * 0x800000 + s) 0x7f800000

/-- The number nearest to `n / 2 ^ k`. -/
def ofScaled (n : Int) (k : Nat) : Binary32 :=
  let sign := if n < 0 then 0x80000000 else 0
  ⟨UInt32.ofNat (sign + nearestBits n.natAbs k)⟩

/-- The whole part of `x * 2 ^ k`, zero if `x` is not a number. -/
def truncScaled (x : Binary32) (k : Nat) : Int :=
  if x.isNaN then 0
  else
    let n : Int := (x.magnitude <<< k >>> 149 : Nat)
    if x.isNegative then -n else n

theorem nearestEven_of_dvd {n d : Nat} (hd : 0 < d) (h : n % d = 0) : nearestEven n d = n / d := by
  simp only [nearestEven, h]
  rw [if_pos (Or.inl (by omega))]

end Binary32

end GuestAudio
