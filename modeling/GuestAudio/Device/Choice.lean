import GuestAudio.Device.Setup
import GuestAudio.Format.Output
import GuestAudio.OutputError

set_option autoImplicit false

/-! # Choosing a setup

A range suits a request if it has the requested channel count, contains the requested rate, and has
a sort of sample that can be fed. Of the ranges that suit, the one whose samples have the lowest
rank is taken, the first of several. If none suits, the device's default setup is taken as it is. -/

namespace GuestAudio

/-- A setup to build streams for. -/
structure StreamChoice where
  sampleRate : UInt32
  channels : UInt16
  sample : DeviceSample
  /-- Frames per block. -/
  frames : UInt32
deriving Repr, DecidableEq

/-- The rank of a sort of sample, lower being better: the wire layout's own one, then floating
    point, then whatever else can be fed. The others have no rank. -/
def sampleRank (candidate own : DeviceSample) : Option Nat :=
  if candidate = own then some 0
  else
    match candidate with
    | .f32 => some 1
    | .u8 | .i16 | .u16 | .i32 => some 2
    | _ => none

/-- The frame count moved into the range, if it is known and not inverted. -/
def BufferRange.clamp (supported : BufferRange) (frames : UInt32) : UInt32 :=
  match supported with
  | .range least greatest =>
      if least ≤ greatest then
        if frames < least then least else if greatest < frames then greatest else frames
      else frames
  | .unknown => frames

/-- The frame count moved into the range, and at least one. -/
def BufferRange.blockFrames (supported : BufferRange) (frames : UInt32) : UInt32 :=
  let frames := supported.clamp frames
  if frames = 0 then 1 else frames

/-- The channel count and the rate are those requested. -/
def SetupRange.admits (range : SetupRange) (r : OutputRequest) : Bool :=
  range.channels == r.channels && range.minRate ≤ r.sampleRate && r.sampleRate ≤ range.maxRate

/-- The rank of a range for a request, if it suits. -/
def SetupRange.rank? (range : SetupRange) (r : OutputRequest) : Option Nat :=
  if range.admits r then sampleRank range.sample (.ofLayout r.layout) else none

/-- The first of the elements whose rank is least; elements without a rank do not count. -/
def firstLeast {α : Type} (rank : α → Option Nat) : List α → Option α
  | [] => none
  | x :: rest =>
      match rank x, firstLeast rank rest with
      | none, best => best
      | some _, none => some x
      -- an element of the rest wins only if it is better, so that the first of equals stays
      | some n, some y => if rank y |>.any (· < n) then some y else some x

/-- The choice for the best supported range, if one suits. -/
def bestChoice? (ranges : List SetupRange) (r : OutputRequest) : Option StreamChoice :=
  (firstLeast (·.rank? r) ranges).map fun range =>
    { sampleRate := r.sampleRate
      channels := range.channels
      sample := range.sample
      frames := range.buffer.blockFrames r.frames }

/-- The choice for the default setup, if it can be fed and has a channel. -/
def fallbackChoice (setup : DeviceSetup) (r : OutputRequest) : Except OutputError StreamChoice :=
  if (sampleRank setup.sample (.ofLayout r.layout)).isNone || setup.channels == 0 then
    .error (.unfitSamples (setup.sample.name ++ " with " ++ toString setup.channels ++
      " channel(s)"))
  else
    .ok {
      sampleRate := setup.sampleRate
      channels := setup.channels
      sample := setup.sample
      frames := setup.buffer.blockFrames r.frames }

theorem blockFrames_ne_zero (supported : BufferRange) (frames : UInt32) :
    supported.blockFrames frames ≠ 0 := by
  unfold BufferRange.blockFrames
  dsimp only
  split
  · decide
  · assumption

end GuestAudio
