import GuestAudio.Fault

set_option autoImplicit false

/-! # Volume and mutes

There are two volume controls, each with a level and a mute. The guest addresses a level as a packed
pair, the left channel's in the upper half of a word and the right channel's in the lower half, both
8.8 fixed point with 0x0100 for full volume. A control keeps one level only: it takes the mean of a
pair, and shows its level in both halves.

The two levels multiply. `mixingVolume` scales their product to `0 .. unityVolume` in a 32-bit word.
It cannot overflow while both levels are at most `fullLevel`, and no change takes them beyond
(`Volume.InRange.apply`). -/

namespace GuestAudio

/-- Full volume, 8.8 fixed point. -/
def fullLevel : UInt16 := 0x0100

/-- The volume at which mixing leaves a sample as it is. -/
def unityVolume : Nat := 128

/-- One level for a packed pair: the mean of its halves, at most `fullLevel`. -/
def levelOfPair (pair : UInt32) : UInt16 :=
  let upper := pair.toNat / 65536
  let lower := pair.toNat % 65536
  UInt16.ofNat (min ((upper + lower) / 2) fullLevel.toNat)

/-- The packed pair with this level in both halves. -/
def pairOfLevel (level : UInt16) : UInt32 :=
  UInt32.ofNat (level.toNat * 65536 + level.toNat)

/-- The volume for mixing at two levels: their product, scaled so that two full levels give
    `unityVolume`. The product of all three factors is taken in a 32-bit word. -/
def mixingVolume (main speaker : UInt16) : Checked Nat := do
  let product ← fitting 32 (main.toNat * speaker.toNat * unityVolume)
  return product / (fullLevel.toNat * fullLevel.toNat)

/-! ## One control -/

/-- A level and a mute. -/
structure VolumeControl where
  level : UInt16 := fullLevel
  muted : Bool := false
deriving Repr, DecidableEq

/-- A change of a control. -/
inductive ControlChange
  /-- Take the level of a packed pair. -/
  | level (pair : UInt32)
  | mute (muted : Bool)
deriving Repr, DecidableEq

namespace VolumeControl

/-- The level, in both halves of a pair. -/
def pair (c : VolumeControl) : UInt32 := pairOfLevel c.level

def apply (c : VolumeControl) : ControlChange → VolumeControl
  | .level pair => { c with level := levelOfPair pair }
  | .mute muted => { c with muted }

end VolumeControl

/-! ## Both controls -/

/-- The two controls that every sample passes. -/
structure Volume where
  main : VolumeControl := {}
  speaker : VolumeControl := {}
deriving Repr, DecidableEq

/-- A change of one of the two controls. -/
inductive VolumeChange
  | main (change : ControlChange)
  | speaker (change : ControlChange)
deriving Repr, DecidableEq

namespace Volume

/-- Full volume, nothing muted. -/
def full : Volume := {}

def apply (v : Volume) : VolumeChange → Volume
  | .main change => { v with main := v.main.apply change }
  | .speaker change => { v with speaker := v.speaker.apply change }

/-- One of the two controls is muted. -/
def isMuted (v : Volume) : Bool := v.main.muted || v.speaker.muted

/-- The volume for mixing. -/
def mixing (v : Volume) : Checked Nat := mixingVolume v.main.level v.speaker.level

/-- Both levels are at most full volume. -/
def InRange (v : Volume) : Prop := v.main.level ≤ fullLevel ∧ v.speaker.level ≤ fullLevel

instance (v : Volume) : Decidable v.InRange := inferInstanceAs (Decidable (_ ∧ _))

end Volume

/-! ## Ranges -/

theorem toNat_levelOfPair (pair : UInt32) :
    (levelOfPair pair).toNat = min ((pair.toNat / 65536 + pair.toNat % 65536) / 2) 256 := by
  simp only [levelOfPair, UInt16.toNat_ofNat', show fullLevel.toNat = 256 from rfl]
  omega

theorem levelOfPair_le (pair : UInt32) : levelOfPair pair ≤ fullLevel := by
  rw [UInt16.le_iff_toNat_le, toNat_levelOfPair]
  exact Nat.min_le_right _ _

/-- A level within range survives packing and unpacking. -/
theorem levelOfPair_pairOfLevel {level : UInt16} (h : level ≤ fullLevel) :
    levelOfPair (pairOfLevel level) = level := by
  rw [UInt16.le_iff_toNat_le, show fullLevel.toNat = 256 from rfl] at h
  apply UInt16.toNat_inj.1
  rw [toNat_levelOfPair]
  -- both halves fit, so that packing loses nothing
  have hp : (pairOfLevel level).toNat = level.toNat * 65536 + level.toNat := by
    simp only [pairOfLevel, UInt32.toNat_ofNat']
    exact Nat.mod_eq_of_lt (by omega)
  have hu : (level.toNat * 65536 + level.toNat) / 65536 = level.toNat := by omega
  have hl : (level.toNat * 65536 + level.toNat) % 65536 = level.toNat := by omega
  rw [hp, hu, hl]
  omega

theorem VolumeControl.level_apply_le {c : VolumeControl} (h : c.level ≤ fullLevel)
    (change : ControlChange) : (c.apply change).level ≤ fullLevel := by
  cases change with
  | level pair => exact levelOfPair_le pair
  | mute => exact h

theorem Volume.inRange_full : Volume.full.InRange := by
  simp [Volume.InRange, Volume.full]

theorem Volume.InRange.apply {v : Volume} (h : v.InRange) (change : VolumeChange) :
    (v.apply change).InRange := by
  cases change with
  | main change => exact ⟨VolumeControl.level_apply_le h.1 change, h.2⟩
  | speaker change => exact ⟨h.1, VolumeControl.level_apply_le h.2 change⟩

/-- Within range the volume for mixing is defined. -/
theorem mixingVolume_of_le {main speaker : UInt16} (hm : main ≤ fullLevel)
    (hs : speaker ≤ fullLevel) :
    mixingVolume main speaker = .ok (main.toNat * speaker.toNat * 128 / 65536) := by
  rw [UInt16.le_iff_toNat_le, show fullLevel.toNat = 256 from rfl] at hm hs
  have h : main.toNat * speaker.toNat ≤ 256 * 256 := Nat.mul_le_mul hm hs
  unfold mixingVolume
  rw [fitting_of_lt (by simp only [unityVolume]; omega)]
  rfl

/-- Within range no volume for mixing goes beyond unity. -/
theorem Volume.InRange.mixing_le {v : Volume} (hv : v.InRange) :
    v.main.level.toNat * v.speaker.level.toNat * 128 / 65536 ≤ unityVolume := by
  have hm : v.main.level.toNat ≤ 256 := UInt16.le_iff_toNat_le.1 hv.1
  have hs : v.speaker.level.toNat ≤ 256 := UInt16.le_iff_toNat_le.1 hv.2
  have h : v.main.level.toNat * v.speaker.level.toNat ≤ 256 * 256 := Nat.mul_le_mul hm hs
  simp only [unityVolume]
  omega

end GuestAudio
