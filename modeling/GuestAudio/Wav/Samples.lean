import GuestAudio.Sample.Binary32
import GuestAudio.Wav.Header

set_option autoImplicit false

/-! # The samples of a WAV file

A target type with room for 8, 16 or 32 bits accepts some of the layouts that a header may name.
Whole numbers are two's complement, but for 8 bits, which are unsigned. A file whose samples are
wider than the target is told apart from one with a layout that is not read at all. -/

namespace GuestAudio

/-- The signed number with the same lowest `bits` bits. -/
def signedOf (bits n : Nat) : Int := Int.bmod n (1 <<< bits)

namespace WavSpec

open ListReader ByteReader

/-- An unsigned byte, as a number around its middle. -/
def readByte : ByteReader Int := do
  return (← number 1 : Nat) - 128

/-- A signed number of `bits` bits at the low end of `bytes` bytes. -/
def readSigned (bytes bits : Nat) : ByteReader Int := do
  return signedOf bits (← number bytes)

/-- A whole number, for a target with room for `room` bytes. -/
def readIntegerSample (spec : WavSpec) (room : Nat) : ByteReader Int :=
  match spec.sampleBytes, spec.bits with
  | 1, 8 => readByte
  | bytes, bits =>
      if room < bytes then throw .tooWide
      else if (bytes, bits) ∈ [(2, 16), (3, 24), (4, 24), (4, 32)] then readSigned bytes bits
      else throw .unsupported

/-- A floating-point number. -/
def readFloatSample (spec : WavSpec) : ByteReader Binary32 :=
  match spec.sampleBytes, spec.bits with
  | 4, 32 => do return ⟨UInt32.ofNat (← number 4)⟩
  | bytes, _ => if 4 < bytes then throw .tooWide else throw .unsupported

end WavSpec

/-- Read `n` values, one after the other. -/
def ByteReader.replicate {α : Type} (r : ByteReader α) : Nat → ByteReader (List α)
  | 0 => pure []
  | n + 1 => do
      let x ← r
      let xs ← replicate r n
      return x :: xs

end GuestAudio
