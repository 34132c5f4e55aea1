import GuestAudio.Buffer
import GuestAudio.Format.Pcm
import GuestAudio.Volume

set_option autoImplicit false

/-! # Filling and mixing blocks

The four operations on the bytes of a block: fill it with silence, copy a source into it, copy a
mono 8-bit source into both channels of it, and mix a source onto what it holds.

Mixing works on samples relative to rest. A source sample is scaled by the volume, as a share of
`unityVolume`, with the quotient taken toward zero; the sum with the sample underneath saturates at
the layout's limits. So silence is neutral on both sides. -/

namespace GuestAudio

/-- Silence over the whole block. -/
def silenced (silence : UInt8) (block : Bytes) : Bytes :=
  List.replicate block.length silence

/-- Copy as many bytes as both have room for; their number, and the block. -/
def copyInto (src dst : Bytes) : Nat × Bytes :=
  (min src.length dst.length, overlay src dst)

/-- Each byte twice. -/
def doubled (src : Bytes) : Bytes := src.flatMap fun b => [b, b]

/-- Copy each source byte into two neighbouring places, until one of the two runs out; the number
    of bytes written, and the block. -/
def widenInto (src dst : Bytes) : Nat × Bytes :=
  let pairs := min (dst.length / 2) src.length
  (pairs * 2, overlay (doubled (src.take pairs)) dst)

/-- A source sample at a volume. -/
def scaleSample (volume : Nat) (s : Int) : Int := (s * volume).tdiv unityVolume

/-- A source sample at a volume, on top of the sample `d`. -/
def mixSample (w : WireLayout) (volume : Nat) (d s : Int) : Int :=
  w.clamp (d + scaleSample volume s)

/-- Mix a source onto a block at a volume, of which no more than `unityVolume` counts. Samples past
    the end of the shorter one, and a byte that is not a whole sample, are left as they are. -/
def mixInto (w : WireLayout) (volume : Nat) (src dst : Bytes) : Bytes :=
  if volume = 0 then dst
  else
    let volume := min volume unityVolume
    let mixed := List.zipWith (mixSample w volume) (w.samples dst) (w.samples src)
    overlay (mixed.flatMap w.encode) dst

/-! ## Lengths -/

@[simp] theorem length_silenced (silence : UInt8) (block : Bytes) :
    (silenced silence block).length = block.length := by
  simp [silenced]

@[simp] theorem length_doubled (src : Bytes) : (doubled src).length = 2 * src.length := by
  induction src with
  | nil => rfl
  | cons b rest ih =>
    simp only [doubled, List.flatMap_cons, List.length_append, List.length_cons,
      List.length_nil] at ih ⊢
    omega

@[simp] theorem length_widenInto (src dst : Bytes) :
    (widenInto src dst).2.length = dst.length := length_overlay _ _

@[simp] theorem length_mixInto (w : WireLayout) (volume : Nat) (src dst : Bytes) :
    (mixInto w volume src dst).length = dst.length := by
  unfold mixInto
  split
  · rfl
  · exact length_overlay _ _

end GuestAudio
