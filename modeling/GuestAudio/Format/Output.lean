import GuestAudio.Format.Layout

set_option autoImplicit false

/-! # Requests and granted formats

An `OutputRequest` is what is asked of a host, an `OutputFormat` what the host granted. The sizes of
a block follow from the granted format: frames × channels samples, each of one or two bytes. -/

namespace GuestAudio

/-- What is asked of the host. -/
structure OutputRequest where
  sampleRate : UInt32
  layout : WireLayout
  channels : UInt16
  /-- Frames per block. -/
  frames : UInt32
deriving Repr, DecidableEq

/-- What the host granted. -/
structure OutputFormat where
  sampleRate : UInt32
  layout : WireLayout
  channels : UInt16
  /-- Frames per block. -/
  framesPerBlock : UInt32
deriving Repr, DecidableEq

namespace OutputFormat

/-- All that was asked for, granted as it is. -/
def ofRequest (r : OutputRequest) : OutputFormat where
  sampleRate := r.sampleRate
  layout := r.layout
  channels := r.channels
  framesPerBlock := r.frames

def silence (f : OutputFormat) : UInt8 := f.layout.silence

/-- Sample size in bits. -/
def sampleBits (f : OutputFormat) : UInt16 := f.layout.bits

/-- Bytes of one frame, one sample for each channel. -/
def frameBytes (f : OutputFormat) : Nat := f.layout.sampleBytes * f.channels.toNat

/-- Samples of all channels in one block. -/
def blockSamples (f : OutputFormat) : Nat := f.framesPerBlock.toNat * f.channels.toNat

/-- Bytes in one block. -/
def blockBytes (f : OutputFormat) : Nat := f.framesPerBlock.toNat * f.frameBytes

theorem blockBytes_eq (f : OutputFormat) :
    f.blockBytes = f.blockSamples * f.layout.sampleBytes := by
  simp only [blockBytes, blockSamples, frameBytes]
  rw [Nat.mul_comm f.layout.sampleBytes, Nat.mul_assoc]

/-- A block has samples exactly when there is a frame and a channel. -/
theorem blockSamples_pos_iff (f : OutputFormat) :
    0 < f.blockSamples ↔ 0 < f.framesPerBlock.toNat ∧ 0 < f.channels.toNat := by
  simp only [blockSamples]
  exact ⟨fun h => ⟨Nat.pos_of_mul_pos_right h, Nat.pos_of_mul_pos_left h⟩,
    fun h => Nat.mul_pos h.1 h.2⟩

/-- The format in one line, field by field. -/
def describe (f : OutputFormat) : String :=
  "NegotiatedFormat \x7b sample_rate: " ++ toString f.sampleRate ++ ", format: " ++ f.layout.name ++
    ", channels: " ++ toString f.channels ++ ", frames_per_block: " ++ toString f.framesPerBlock ++
    " \x7d"

end OutputFormat

end GuestAudio
