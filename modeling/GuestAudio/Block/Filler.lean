import GuestAudio.Block.Mixing
import GuestAudio.Format.Output
import GuestAudio.Guest.Shared

set_option autoImplicit false

/-! # Filling device bytes

A `BlockFiller` fills a region of device bytes, at most one block of it with sound. With an active
source it asks the guest for a block, exactly once; what the guest offers is brought into the
scratch buffer and mixed from there onto silence. No source, no block, a mute, or nothing to play
leave silence.

`BlockFiller.compose` is what happens once the guest has answered. It depends on the guest in no
other way, and the guest does not depend on it. -/

namespace GuestAudio

/-- What became of a region. -/
inductive FillOutcome
  /-- No source is active, and the guest was not asked. -/
  | idle
  /-- The guest was asked, and there is nothing to play. -/
  | silent
  /-- This many bytes were brought into the scratch buffer, and their whole samples were mixed. -/
  | mixed (bytes : Nat)
deriving Repr, DecidableEq

/-- The format of the device, and a scratch buffer one block long. -/
structure BlockFiller where
  format : OutputFormat
  scratch : Bytes
deriving Repr, DecidableEq

/-- What a fill works on besides the filler: the shared state, the volume, and the guest. -/
structure Machine (γ : Type) where
  shared : SharedState
  volume : Volume
  guest : γ

/-- The result of a fill. -/
structure FilledRegion (γ : Type) where
  outcome : FillOutcome
  region : Bytes
  filler : BlockFiller
  machine : Machine γ

namespace BlockFiller

/-- A filler for a format, with silence in its scratch buffer. -/
def ofFormat (format : OutputFormat) : BlockFiller where
  format := format
  scratch := List.replicate format.blockBytes format.silence

/-- The bytes of a region that a block may take: the frames it describes, in device bytes, but no
    more than the region or the scratch buffer holds. -/
def roomFor (f : BlockFiller) (block : GuestBlock) (region : Bytes) : Nat :=
  min (min (block.frameCount.toNat * f.format.frameBytes) region.length) f.scratch.length

/-- Bring the bytes of a block into a buffer: mono 8-bit samples are widened for a stereo device,
    all others are copied as they are. The number of bytes written, and the buffer. -/
def bringIn (f : BlockFiller) (block : GuestBlock) (work : Bytes) : Nat × Bytes :=
  if f.format.channels = 2 ∧ block.isMonoBytes then widenInto block.bytes work
  else copyInto block.bytes work

/-- Turn the guest's answer into the contents of a region. -/
def compose (f : BlockFiller) (volume : Volume) (answer : Option GuestBlock) (region : Bytes) :
    Checked (FillOutcome × Bytes × BlockFiller) := do
  let silent := silenced f.format.silence region
  let some block := answer | return (.silent, silent, f)
  if volume.isMuted then return (.silent, silent, f)
  if f.roomFor block region = 0 then return (.silent, silent, f)
  -- only the start of the scratch buffer is written, so that its length never changes
  let (work, unused) ← slice (f.roomFor block region) f.scratch
  let (written, work) := f.bringIn block work
  let scratch := work ++ unused
  -- from here on no more counts than was written, which may be less than there is room for
  let (target, rest) ← slice written silent
  let (source, _) ← slice written scratch
  let mixing ← volume.mixing
  return (.mixed written, mixInto f.format.layout mixing source target ++ rest, { f with scratch })

variable {γ : Type}

/-- Fill a region with silence or with what the guest has to play. -/
def fill (handler : InterruptHandler γ) (f : BlockFiller) (m : Machine γ) (region : Bytes) :
    Run (Logged (FilledRegion γ)) := do
  if m.shared.status.hasSource then
    let ⟨(answer, guest, shared), log⟩ ← m.shared.obtain handler m.guest
    let (outcome, region, filler) ← f.compose m.volume answer region
    return ⟨{ outcome, region, filler, machine := { m with shared, guest } }, log⟩
  else
    let region := silenced f.format.silence region
    return ⟨{ outcome := .idle, region, filler := f, machine := m }, []⟩

end BlockFiller

end GuestAudio
