import GuestAudio.Block.Filler
import GuestAudio.Sample.Native

set_option autoImplicit false

/-! # Device buffers

A device asks for any number of native samples. `Playback.render` cuts its buffer into blocks of the
size agreed on, the last one shorter if need be, has each filled, and converts the wire bytes to
native samples. Each buffer is cut anew: for a short last block the guest is asked like for any
other, and only the start of what it gives is taken. -/

namespace GuestAudio

/-- Convert wire bytes to native samples, over the start of a buffer. -/
def convertInto (t : NativeType) (w : WireLayout) (bytes : Bytes) (out : List t.Sample) :
    List t.Sample :=
  overlay ((w.samples bytes).map (t.ofWire w)) out

/-- The samples of one block, at least one. -/
def OutputFormat.chunkSamples (f : OutputFormat) : Nat := max f.blockSamples 1

/-- The number of blocks in a buffer of `n` samples. -/
def OutputFormat.blocksFor (f : OutputFormat) (n : Nat) : Nat :=
  (n + f.chunkSamples - 1) / f.chunkSamples

/-- A filler, and a buffer for the wire bytes of one block. -/
structure Playback where
  filler : BlockFiller
  wire : Bytes
deriving Repr, DecidableEq

/-- The result of rendering native samples. -/
structure Rendered (t : NativeType) (γ : Type) where
  samples : List t.Sample
  playback : Playback
  machine : Machine γ

namespace Playback

/-- Playback in a format, with silence in all buffers. -/
def ofFormat (format : OutputFormat) : Playback where
  filler := BlockFiller.ofFormat format
  wire := List.replicate format.blockBytes format.silence

variable {γ : Type}

/-- Render one block. -/
def renderBlock (t : NativeType) (handler : InterruptHandler γ) (p : Playback) (m : Machine γ)
    (block : List t.Sample) : Run (Logged (Rendered t γ)) := do
  let layout := p.filler.format.layout
  -- the last block of a buffer may be short, and takes only the start of the wire bytes
  let (bytes, unused) ← slice (block.length * layout.sampleBytes) p.wire
  let ⟨filled, log⟩ ← p.filler.fill handler m bytes
  return ⟨{
    samples := convertInto t layout filled.region block
    playback := { filler := filled.filler, wire := filled.region ++ unused }
    machine := filled.machine }, log⟩

/-- Render blocks, one after the other. -/
def renderAll (t : NativeType) (handler : InterruptHandler γ) :
    Playback → Machine γ → List (List t.Sample) → Run (Logged (Rendered t γ))
  | p, m, [] => return ⟨{ samples := [], playback := p, machine := m }, []⟩
  | p, m, block :: rest => do
      let ⟨first, log₁⟩ ← p.renderBlock t handler m block
      let ⟨others, log₂⟩ ← renderAll t handler first.playback first.machine rest
      return ⟨{ others with samples := first.samples ++ others.samples }, log₁ ++ log₂⟩

/-- Render a device buffer. -/
def render (t : NativeType) (handler : InterruptHandler γ) (p : Playback) (m : Machine γ)
    (buffer : List t.Sample) : Run (Logged (Rendered t γ)) :=
  renderAll t handler p m (chunks p.filler.format.chunkSamples buffer)

end Playback

end GuestAudio
