import GuestAudio.Format.Layout
import GuestAudio.Sample.Binary32

set_option autoImplicit false

/-! # Native samples

The sample types that a device's buffer may have. Between integer types a sample keeps its leading
bits: it is moved to the head of the wider or the narrower word, and an unsigned type adds half its
range. A floating-point sample is the fraction of full scale. -/

namespace GuestAudio

/-- Sample type of a device buffer. -/
inductive NativeType
  | u8
  | i16
  | u16
  | i32
  | f32
deriving Repr, DecidableEq

namespace NativeType

/-- The samples of a type. -/
abbrev Sample : NativeType → Type
  | u8 => UInt8
  | i16 => Int16
  | u16 => UInt16
  | i32 => Int32
  | f32 => Binary32

/-- The sample at rest. -/
def atRest : (t : NativeType) → t.Sample
  | u8 => 128
  | i16 => 0
  | u16 => 32768
  | i32 => 0
  | f32 => Binary32.zero

/-- The leading bits: a number of `bits` bits at the head of a word of `width` bits. -/
def justify (bits width : Nat) (s : Int) : Int :=
  if bits ≤ width then s <<< (width - bits) else s >>> (bits - width)

/-- The sample for a signed number of `bits` bits. -/
def ofSigned (t : NativeType) (bits : Nat) (s : Int) : t.Sample :=
  match t with
  | u8 => UInt8.ofNat (justify bits 8 s + 128).toNat
  | i16 => Int16.ofInt (justify bits 16 s)
  | u16 => UInt16.ofNat (justify bits 16 s + 32768).toNat
  | i32 => Int32.ofInt (justify bits 32 s)
  | f32 => Binary32.ofScaled s (bits - 1)

/-- The sample for a wire sample relative to rest. -/
def ofWire (t : NativeType) (w : WireLayout) (s : Int) : t.Sample :=
  t.ofSigned w.bits.toNat s

/-- The whole part of a fraction of full scale in a signed word of `bits` bits, at its limits if it
    lies beyond them. -/
def saturate (bits : Nat) (x : Binary32) : Int :=
  let half : Int := 1 <<< (bits - 1)
  max (-half) (min (half - 1) (x.truncScaled (bits - 1)))

/-- The sample for a fraction of full scale. -/
def ofFloat (t : NativeType) (x : Binary32) : t.Sample :=
  match t with
  | u8 => UInt8.ofNat (saturate 8 x + 128).toNat
  | i16 => Int16.ofInt (saturate 16 x)
  | u16 => UInt16.ofNat (saturate 16 x + 32768).toNat
  | i32 => Int32.ofInt (saturate 32 x)
  | f32 => x

theorem ofWire_zero (t : NativeType) (w : WireLayout) : t.ofWire w 0 = t.atRest := by
  cases t <;> cases w <;> rfl

end NativeType

end GuestAudio
