import GuestAudio.Log
import GuestAudio.Volume

set_option autoImplicit false

/-! # Settings of the sound system

What a user may set, with a default for everything. `Settings.check` looks at the three settings
that have a range and names the first one that is outside. -/

namespace GuestAudio

/-- The settings. -/
structure Settings where
  /-- No sound at all. -/
  soundOff : Bool := false
  /-- How often the block of `unshiftedFrames` frames is halved. -/
  bufferShift : UInt32 := 0
  /-- Preferred sample rate, as an index into the menu. -/
  preferredRate : Option UInt64 := none
  /-- Preferred sample size, as an index into the menu. -/
  preferredSize : Option UInt64 := none
  /-- Preferred channel count, as an index into the menu. -/
  preferredChannels : Option UInt64 := none
  /-- The levels and mutes to start with. -/
  volume : Volume := {}
deriving Repr, DecidableEq

/-- Frames per block before any halving. -/
def unshiftedFrames : Nat := 4096

/-- The largest shift that leaves a frame in a block. -/
def greatestShift : UInt32 := 12

/-- A setting outside its range. -/
inductive SettingsFlaw
  | bufferShift (value : UInt32)
  | mainLevel (value : UInt16)
  | speakerLevel (value : UInt16)
deriving Repr, DecidableEq

/-- A word of 16 bits as four hexadecimal digits after `0x`. -/
def hexWord (n : UInt16) : String :=
  let digit (place : Nat) : Char := Nat.digitChar (n.toNat / place % 16)
  "0x" ++ String.ofList [digit 4096, digit 256, digit 16, digit 1]

def SettingsFlaw.message : SettingsFlaw → String
  | bufferShift value =>
      "sound_buffer " ++ toString value ++ " exceeds " ++ toString greatestShift
  | mainLevel value => "main_volume " ++ hexWord value ++ " exceeds " ++ hexWord fullLevel
  | speakerLevel value => "speaker_volume " ++ hexWord value ++ " exceeds " ++ hexWord fullLevel

namespace Settings

/-- The first setting that is outside its range. -/
def flaw? (s : Settings) : Option SettingsFlaw :=
  if s.bufferShift > greatestShift then some (.bufferShift s.bufferShift)
  else if s.volume.main.level > fullLevel then some (.mainLevel s.volume.main.level)
  else if s.volume.speaker.level > fullLevel then some (.speakerLevel s.volume.speaker.level)
  else none

/-- Accept settings that are all within range. -/
def check (s : Settings) : Except OutputError Unit :=
  match s.flaw? with
  | none => .ok ()
  | some flaw => .error (.badSettings flaw.message)

/-- Frames per block to ask for, at least one. -/
def blockFrames (s : Settings) : UInt32 :=
  -- a shift as wide as the word leaves nothing of it
  if s.bufferShift.toNat < 32 then
    UInt32.ofNat (max (unshiftedFrames >>> s.bufferShift.toNat) 1)
  else 1

theorem flaw?_eq_none_iff (s : Settings) :
    s.flaw? = none ↔ s.bufferShift ≤ greatestShift ∧ s.volume.InRange := by
  unfold flaw? Volume.InRange
  by_cases h₁ : s.bufferShift ≤ greatestShift <;>
    by_cases h₂ : s.volume.main.level ≤ fullLevel <;>
    by_cases h₃ : s.volume.speaker.level ≤ fullLevel <;>
    simp [GT.gt, UInt32.not_le.1, UInt16.not_le.1, UInt32.not_lt.2, UInt16.not_lt.2, h₁, h₂, h₃]

theorem check_eq_ok_iff (s : Settings) : s.check = .ok () ↔ s.flaw? = none := by
  unfold check
  cases s.flaw? <;> simp

end Settings

end GuestAudio
