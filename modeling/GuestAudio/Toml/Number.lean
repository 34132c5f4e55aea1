import GuestAudio.Toml.Value

set_option autoImplicit false

/-! # Numbers of a TOML document

Integers in four radices and decimal floats, written with single underscores between digits where
the writer likes. No decimal number starts with a zero unless that is all there is before its point
or exponent. Integers have at most 128 bits and floats are within the range of binary64; what is
beyond is refused (`TomlScalar.ofNumber`). -/

namespace GuestAudio

/-- The value of a digit. -/
def digitValue? (radix : Nat) (c : Char) : Option Nat :=
  let value :=
    if '0' ≤ c && c ≤ '9' then c.toNat - '0'.toNat
    else if 'a' ≤ c && c ≤ 'f' then c.toNat - 'a'.toNat + 10
    else if 'A' ≤ c && c ≤ 'F' then c.toNat - 'A'.toNat + 10
    else radix
  if value < radix then some value else none

/-- Digits that follow a digit, each with or without an underscore before it. -/
def moreDigits? (radix value : Nat) : List Char → Option Nat
  | [] => some value
  | '_' :: c :: rest => do moreDigits? radix (value * radix + (← digitValue? radix c)) rest
  | c :: rest => do moreDigits? radix (value * radix + (← digitValue? radix c)) rest

/-- A number of at least one digit. -/
def digits? (radix : Nat) : List Char → Option Nat
  | [] => none
  | c :: rest => do moreDigits? radix (← digitValue? radix c) rest

/-- A decimal number without a leading zero. -/
def decimal? : List Char → Option Nat
  | '0' :: _ :: _ => none
  | cs => digits? 10 cs

/-- Whether there is a minus sign, and what follows the sign. -/
def splitSign : List Char → Bool × List Char
  | '-' :: cs => (true, cs)
  | '+' :: cs => (false, cs)
  | cs => (false, cs)

def signed (negative : Bool) (n : Nat) : Int := if negative then -n else n

/-- An integer; only decimal ones have a sign. -/
def integer? : List Char → Option Int
  | '0' :: 'x' :: cs => (digits? 16 cs).map Int.ofNat
  | '0' :: 'o' :: cs => (digits? 8 cs).map Int.ofNat
  | '0' :: 'b' :: cs => (digits? 2 cs).map Int.ofNat
  | cs =>
      let (negative, cs) := splitSign cs
      (decimal? cs).map (signed negative)

/-- The characters before the first that satisfies a condition, and those after it, if there is
one. -/
def splitAtFirst (p : Char → Bool) (cs : List Char) : List Char × Option (List Char) :=
  match cs.dropWhile (!p ·) with
  | [] => (cs, none)
  | _ :: rest => (cs.takeWhile (!p ·), some rest)

/-- A decimal number with a fraction, an exponent, or both. -/
def decimalFloat? (negative : Bool) (cs : List Char) : Option TomlFloat := do
  let (cs, exponent?) := splitAtFirst (fun c => c = 'e' || c = 'E') cs
  let (whole, fraction?) := splitAtFirst (· = '.') cs
  if exponent?.isNone && fraction?.isNone then none
  let whole ← decimal? whole
  let significand ← match fraction? with
    | none => some whole
    | some [] => none
    | some (c :: cs) => do moreDigits? 10 (whole * 10 + (← digitValue? 10 c)) cs
  let places := ((fraction?.getD []).filter (· ≠ '_')).length
  let exponent ← match exponent? with
    | none => some 0
    | some cs =>
        let (negative, cs) := splitSign cs
        (digits? 10 cs).map (signed negative)
  return .finite (signed negative significand) (exponent - places)

def float? (cs : List Char) : Option TomlFloat :=
  let (negative, cs) := splitSign cs
  if cs = ['i', 'n', 'f'] then some (.infinite negative)
  else if cs = ['n', 'a', 'n'] then some .notANumber
  else decimalFloat? negative cs

/-! ## Range -/

/-- Whether an integer has at most 128 bits, with or without a sign. -/
def integerFits (n : Int) : Bool := -(1 <<< 127) ≤ n && n < 1 <<< 128

/-- The least magnitude that binary64 rounds to infinity: half a step beyond its largest number. -/
def binary64Overflow : Nat := 1 <<< 1024 - 1 <<< 970

/-- Whether binary64 has a finite number nearest to a float, if the float is finite. Magnitudes
from `10 ^ 310` on overflow, and those below `10 ^ 308` do not, so that no larger power of ten is
ever needed. -/
def TomlFloat.fits : TomlFloat → Bool
  | .finite significand exponent =>
      let n := significand.natAbs
      -- the value is less than this power of ten, and at least a tenth of it
      let magnitude : Int := (Nat.toDigits 10 n).length + exponent
      if n = 0 || magnitude ≤ 308 then true
      else if magnitude > 310 then false
      else if exponent ≥ 0 then n * Nat.pow 10 exponent.toNat < binary64Overflow
      else n < binary64Overflow * Nat.pow 10 (-exponent).toNat
  | _ => true

/-- The number that a word stands for. -/
def TomlScalar.ofNumber (word : List Char) : Except TomlError TomlScalar :=
  match integer? word, float? word with
  | some n, _ => if integerFits n then .ok (.integer n) else .error .numberTooLarge
  | none, some x => if x.fits then .ok (.float x) else .error .numberTooLarge
  | none, none => .error .malformed

end GuestAudio
