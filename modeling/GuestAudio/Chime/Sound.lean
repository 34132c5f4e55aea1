import GuestAudio.OutputError
import GuestAudio.Wav.Samples

set_option autoImplicit false

/-! # Decoded sounds

A sound is read from a WAV file as a whole: its rate, its channels, and its samples as fractions of
full scale. A file with samples of 8, 16, 24 or 32 bits can be decoded, and one with floating-point
samples, which are taken as they are. -/

namespace GuestAudio

/-- A decoded sound, channels interleaved. -/
structure Sound where
  sampleRate : UInt32
  channels : UInt16
  samples : Array Binary32
deriving Repr, DecidableEq

namespace Sound

/-- Channels of a frame, at least one. -/
def frameChannels (s : Sound) : Nat := max s.channels.toNat 1

/-- Whole frames. -/
def frames (s : Sound) : Nat := s.samples.size / s.frameChannels

end Sound

/-- Decode the data behind a header. What follows the samples is not looked at. -/
def WavHeader.decodeSamples (h : WavHeader) (data : Bytes) : Except OutputError (List Binary32) :=
  let integers (room : Nat) : Except OutputError (List Binary32) :=
    match (h.spec.readIntegerSample room).replicate h.sampleCount data with
    | .error e => .error (.unreadableSound e)
    | .ok (xs, _) => .ok (xs.map fun x => Binary32.ofScaled x (h.spec.bits - 1))
  match h.spec.encoding with
  | .integer =>
      match h.spec.bits with
      | 8 => integers 1
      | 16 => integers 2
      -- read into the same room, each scaled by its own width
      | 24 | 32 => integers 4
      | bits => .error (.unfitSamples (toString bits ++ "-bit WAV"))
  | .float =>
      match h.spec.readFloatSample.replicate h.sampleCount data with
      | .error e => .error (.unreadableSound e)
      | .ok (xs, _) => .ok xs

/-- Decode a WAV file. -/
def Sound.ofWav (file : Bytes) : Except OutputError Sound :=
  match WavHeader.read file with
  | .error e => .error (.unreadableSound e)
  | .ok (h, data) =>
      if h.spec.channels = 0 ∨ h.spec.sampleRate = 0 then
        .error (.unfitSamples ("WAV with " ++ toString h.spec.channels ++ " channel(s) at " ++
          toString h.spec.sampleRate ++ " Hz"))
      else do
        let samples ← h.decodeSamples data
        return {
          sampleRate := h.spec.sampleRate
          channels := h.spec.channels
          samples := samples.toArray }

/-- Decode a WAV file, if there is one. -/
def Sound.load (file? : Option Bytes) : Except OutputError Sound :=
  match file? with
  | none => .error (.unreadableSound .fileNotFound)
  | some file => Sound.ofWav file

end GuestAudio
