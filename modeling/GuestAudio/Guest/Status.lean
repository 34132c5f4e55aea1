import GuestAudio.Fault
import GuestAudio.Format.Output

set_option autoImplicit false

/-! # Status seen by the guest

The format that is actually active, which is what the host granted and not what was asked for, the
number of active sources and the address of the attached mixer. Source counting saturates at zero:
removals without a source are absorbed. -/

namespace GuestAudio

/-- The active format, the active sources and the mixer. -/
structure Status where
  sampleRate : UInt32 := 44100
  /-- Sample size in bits. -/
  sampleBits : UInt16 := 16
  channels : UInt16 := 2
  /-- Frames per block of the open device, 0 if none was ever open. -/
  framesPerBlock : UInt32 := 0
  /-- Active sources. -/
  sources : Nat := 0
  /-- Address of the attached mixer, 0 if there is none. -/
  mixer : UInt32 := 0
deriving Repr, DecidableEq

namespace Status

/-- What the guest sees before any device is open. -/
def initial : Status := {}

/-- The sample rate as 16.16 fixed point, saturating for rates above 65535 Hz. -/
def fixedPointRate (s : Status) : UInt32 :=
  UInt32.ofNat (min (s.sampleRate.toNat * 65536) 0xffffffff)

/-- Publish a granted format. -/
def publish (s : Status) (f : OutputFormat) : Status :=
  { s with
    sampleRate := f.sampleRate
    sampleBits := f.sampleBits
    channels := f.channels
    framesPerBlock := f.framesPerBlock }

def hasSource (s : Status) : Bool := s.sources != 0

/-- One more source. The count is a 32-bit word. -/
def addSource (s : Status) : Checked Status := do
  return { s with sources := ← fitting 32 (s.sources + 1) }

/-- One source less, if there is one. -/
def removeSource (s : Status) : Status := { s with sources := s.sources - 1 }

/-- Attach the mixer at a nonzero address, or detach it. -/
def attachMixer (s : Status) (address : UInt32) : Status := { s with mixer := address }

theorem addSource_of_lt {s : Status} (h : s.sources + 1 < 1 <<< 32) :
    s.addSource = .ok { s with sources := s.sources + 1 } := by
  rw [addSource, fitting_of_lt h]
  rfl

end Status

end GuestAudio
