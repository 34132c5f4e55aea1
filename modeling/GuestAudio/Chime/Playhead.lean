import GuestAudio.Buffer
import GuestAudio.Chime.Sound
import GuestAudio.Fault
import GuestAudio.Sample.Native

set_option autoImplicit false

/-! # Playing a sound at the device's rate

A playhead feeds a sound to a device with a rate and a channel count of its own. Output frame `k` is
the source frame at `k * sampleRate / deviceRate`, rounded down. Surplus device channels repeat the
last source channel, surplus source channels are dropped. Past the end there is silence, and the
count of frames stands still. -/

namespace GuestAudio

/-- A place in a sound, and the device that the sound is for. -/
structure Playhead where
  sound : Sound
  deviceRate : UInt32
  deviceChannels : UInt16
  /-- Output frames produced so far. -/
  position : Nat := 0
deriving Repr, DecidableEq

namespace Playhead

/-- At the start of a sound. A device rate or channel count of zero counts as one. -/
def atStart (sound : Sound) (deviceRate : UInt32) (deviceChannels : UInt16) : Playhead where
  sound := sound
  deviceRate := if deviceRate = 0 then 1 else deviceRate
  deviceChannels := if deviceChannels = 0 then 1 else deviceChannels

/-- The source frame for the next output frame. The product is taken in a 64-bit word. -/
def sourceFrame (p : Playhead) : Checked Nat := do
  return (← fitting 64 (p.position * p.sound.sampleRate.toNat)) / p.deviceRate.toNat

/-- The samples of a source frame, one for each of `n` output channels. -/
def frameSamples (p : Playhead) (t : NativeType) (source n : Nat) : Checked (List t.Sample) :=
  (List.range n).mapM fun channel =>
    let index := source * p.sound.frameChannels + min channel (p.sound.frameChannels - 1)
    match p.sound.samples[index]? with
    | some x => .ok (t.ofFloat x)
    | none => .error .outOfBounds

/-- Fill one output frame, which at the end of a buffer may be short: whether there was still sound
    for it, its samples, and the playhead. -/
def renderFrame (p : Playhead) (t : NativeType) (frame : List t.Sample) :
    Checked (Bool × List t.Sample × Playhead) := do
  let source ← p.sourceFrame
  if source < p.sound.frames then
    return (true, ← p.frameSamples t source frame.length, { p with position := p.position + 1 })
  else return (false, List.replicate frame.length t.atRest, p)

/-- Fill frames, one after the other. -/
def renderFrames (t : NativeType) :
    Playhead → List (List t.Sample) → Checked (Bool × List t.Sample × Playhead)
  | p, [] => return (true, [], p)
  | p, frame :: rest => do
      let (playing, first, p) ← p.renderFrame t frame
      let (stillPlaying, others, p) ← renderFrames t p rest
      return (playing && stillPlaying, first ++ others, p)

/-- Fill a buffer: whether the sound lasted to its end, the samples, and the playhead. -/
def render (p : Playhead) (t : NativeType) (buffer : List t.Sample) :
    Checked (Bool × List t.Sample × Playhead) :=
  renderFrames t p (chunks p.deviceChannels.toNat buffer)

end Playhead

end GuestAudio
