import Mathlib.Data.List.Induction
import GuestAudio.Volume

set_option autoImplicit false

/-! # Changes of the volume

There are four things to set: the level and the mute of each of the two controls. Whatever is set
and in whatever order, each of the four holds what was set on it last, and what is set on one leaves
the other three alone. A level that was set is the mean of its pair, at most full volume, so that no
run of changes leads out of the range in which the volume for mixing is defined
(`Volume.SetBy`, `Volume.InRange.setBy`). -/

namespace GuestAudio

/-! ## Controls by name -/

/-- One of the two controls. -/
inductive ControlName
  | main
  | speaker
deriving Repr, DecidableEq

/-- The control of this name. -/
def Volume.control (v : Volume) : ControlName → VolumeControl
  | .main => v.main
  | .speaker => v.speaker

/-- To change the control of this name. -/
def ControlName.change : ControlName → ControlChange → VolumeChange
  | main, change => .main change
  | speaker, change => .speaker change

/-- The change as one of this control, if it is one. -/
def VolumeChange.on? (name : ControlName) : VolumeChange → Option ControlChange
  | main change => if name = .main then some change else none
  | speaker change => if name = .speaker then some change else none

namespace ControlChange

/-- The pair that is set. -/
def pair? : ControlChange → Option UInt32
  | level pair => some pair
  | mute _ => none

/-- The mute that is set. -/
def muted? : ControlChange → Option Bool
  | level _ => none
  | mute muted => some muted

end ControlChange

/-! ## What was set last -/

/-- The pair that was last set on a control. -/
def latestPair? (changes : List VolumeChange) (name : ControlName) : Option UInt32 :=
  (changes.filterMap fun change => (change.on? name).bind ControlChange.pair?).getLast?

/-- The mute that was last set on a control. -/
def latestMute? (changes : List VolumeChange) (name : ControlName) : Option Bool :=
  (changes.filterMap fun change => (change.on? name).bind ControlChange.muted?).getLast?

/-- The level of a control after changes: the mean of the two halves of the pair that was set last,
    at most full volume; or the level at the start, if none was set. -/
def latestLevel (start : Volume) (changes : List VolumeChange) (name : ControlName) : Nat :=
  match latestPair? changes name with
  | some pair => min 256 ((pair.toNat / 65536 + pair.toNat % 65536) / 2)
  | none => (start.control name).level.toNat

/-- A volume is what the changes make of the one at the start. It is one that sound can be mixed at;
    and further changes, which may well be those of a guest that writes what it has read, do no
    more than they say. -/
structure Volume.SetBy (start : Volume) (changes : List VolumeChange) (v : Volume) : Prop where
  inRange : ∀ name, (v.control name).level.toNat ≤ 256
  /-- The volume for mixing fits its word, and is full, or zero, just as the levels say. -/
  mixing : ∃ n, v.mixing = .ok n ∧ n ≤ 128 ∧
    (n = 128 ↔ ∀ name, (v.control name).level.toNat = 256) ∧
    ((∃ name, (v.control name).level.toNat = 0) → n = 0)
  /-- Where no level is lower, the volume for mixing is not lower. -/
  raised : ∀ louder : Volume, (∀ name, (louder.control name).level.toNat ≤ 256) →
    (∀ name, (v.control name).level ≤ (louder.control name).level) →
      ∃ n m, v.mixing = .ok n ∧ louder.mixing = .ok m ∧ n ≤ m
  /-- A control shows its level in both halves of a pair. -/
  pair : ∀ name, (v.control name).pair.toNat / 65536 = latestLevel start changes name ∧
    (v.control name).pair.toNat % 65536 = latestLevel start changes name
  muted : ∀ name,
    (v.control name).muted = (latestMute? changes name).getD (start.control name).muted
  /-- To set a pair that was read changes nothing. -/
  writtenBack : ∀ name : ControlName, v.apply (name.change (.level (v.control name).pair)) = v
  /-- A change of one control leaves the other one alone. -/
  other : ∀ (name other : ControlName) (change : ControlChange), other ≠ name →
    (v.apply (name.change change)).control other = v.control other
  /-- A level leaves the mute of its control alone. -/
  levelOnly : ∀ (name : ControlName) (pair : UInt32),
    ((v.apply (name.change (.level pair))).control name).muted = (v.control name).muted
  /-- A mute leaves the level of its control alone. -/
  muteOnly : ∀ (name : ControlName) (muted : Bool),
    ((v.apply (name.change (.mute muted))).control name).level = (v.control name).level

/-! ## One change -/

theorem Volume.inRange_iff {v : Volume} :
    v.InRange ↔ ∀ name, (v.control name).level.toNat ≤ 256 := by
  constructor
  · rintro ⟨hmain, hspeaker⟩ name
    cases name with
    | main => exact UInt16.le_iff_toNat_le.1 hmain
    | speaker => exact UInt16.le_iff_toNat_le.1 hspeaker
  · intro h
    exact ⟨UInt16.le_iff_toNat_le.2 (h .main), UInt16.le_iff_toNat_le.2 (h .speaker)⟩

namespace Volume

variable (v : Volume) (name : ControlName)

@[simp] theorem control_apply_change (change : ControlChange) :
    (v.apply (name.change change)).control name = (v.control name).apply change := by
  cases name <;> rfl

theorem control_apply (change : VolumeChange) :
    (v.apply change).control name =
      (change.on? name).elim (v.control name) (v.control name).apply := by
  cases change <;> cases name <;> rfl

theorem control_apply_of_ne {other : ControlName} (h : other ≠ name) (change : ControlChange) :
    (v.apply (name.change change)).control other = v.control other := by
  cases name <;> cases other <;> first | rfl | exact absurd rfl h

theorem level_apply (change : VolumeChange) :
    ((v.apply change).control name).level =
      (((change.on? name).bind ControlChange.pair?).map levelOfPair).getD
        (v.control name).level := by
  rw [control_apply]
  cases change.on? name with
  | none => rfl
  | some change => cases change <;> rfl

theorem muted_apply (change : VolumeChange) :
    ((v.apply change).control name).muted =
      ((change.on? name).bind ControlChange.muted?).getD (v.control name).muted := by
  rw [control_apply]
  cases change.on? name with
  | none => rfl
  | some change => cases change <;> rfl

/-- A pair that shows a level sets that level. -/
theorem apply_pair {v : Volume} (hv : v.InRange) (name : ControlName) :
    v.apply (name.change (.level (v.control name).pair)) = v := by
  cases name with
  | main =>
    show { v with main := { v.main with level := levelOfPair (pairOfLevel v.main.level) } } = v
    rw [levelOfPair_pairOfLevel hv.1]
  | speaker =>
    show { v with speaker := { v.speaker with
      level := levelOfPair (pairOfLevel v.speaker.level) } } = v
    rw [levelOfPair_pairOfLevel hv.2]

end Volume

/-- A level within range fits both halves of a pair. -/
theorem toNat_pairOfLevel {level : UInt16} (h : level.toNat ≤ 256) :
    (pairOfLevel level).toNat / 65536 = level.toNat ∧
      (pairOfLevel level).toNat % 65536 = level.toNat := by
  have hpair : (pairOfLevel level).toNat = level.toNat * 65536 + level.toNat := by
    simp only [pairOfLevel, UInt32.toNat_ofNat']
    exact Nat.mod_eq_of_lt (by omega)
  constructor
  · omega
  · omega

/-! ## Changes in a row -/

theorem latestPair?_concat (changes : List VolumeChange) (change : VolumeChange)
    (name : ControlName) :
    latestPair? (changes ++ [change]) name =
      ((change.on? name).bind ControlChange.pair?).or (latestPair? changes name) := by
  unfold latestPair?
  cases h : (change.on? name).bind ControlChange.pair? <;> simp [h]

theorem latestMute?_concat (changes : List VolumeChange) (change : VolumeChange)
    (name : ControlName) :
    latestMute? (changes ++ [change]) name =
      ((change.on? name).bind ControlChange.muted?).or (latestMute? changes name) := by
  unfold latestMute?
  cases h : (change.on? name).bind ControlChange.muted? <;> simp [h]

namespace Volume

variable (start : Volume) (changes : List VolumeChange) (name : ControlName)

theorem level_foldl :
    ((changes.foldl apply start).control name).level.toNat = latestLevel start changes name := by
  -- from the end, where the latest change is
  induction changes using List.reverseRecOn with
  | nil => rfl
  | append_singleton changes change ih =>
    rw [List.foldl_append, List.foldl_cons, List.foldl_nil, level_apply]
    unfold latestLevel at ih ⊢
    rw [latestPair?_concat]
    cases h : (change.on? name).bind ControlChange.pair? with
    | none => simpa using ih
    | some pair => simpa [Nat.min_comm] using toNat_levelOfPair pair

theorem muted_foldl :
    ((changes.foldl apply start).control name).muted =
      (latestMute? changes name).getD (start.control name).muted := by
  induction changes using List.reverseRecOn with
  | nil => rfl
  | append_singleton changes change ih =>
    rw [List.foldl_append, List.foldl_cons, List.foldl_nil, muted_apply, latestMute?_concat, ih]
    cases (change.on? name).bind ControlChange.muted? with
    | none => rfl
    | some muted => rfl

theorem InRange.foldl {v : Volume} (h : v.InRange) (changes : List VolumeChange) :
    (changes.foldl Volume.apply v).InRange := by
  induction changes generalizing v with
  | nil => exact h
  | cons change rest ih => exact ih (h.apply change)

end Volume

/-! ## The volume for mixing -/

namespace Volume

variable {v w : Volume}

theorem InRange.mixing_eq (h : v.InRange) :
    v.mixing = .ok (v.main.level.toNat * v.speaker.level.toNat * 128 / 65536) :=
  mixingVolume_of_le h.1 h.2

/-- The volume for mixing is full just if both levels are. -/
theorem InRange.mixing_eq_unity_iff (h : v.InRange) :
    v.main.level.toNat * v.speaker.level.toNat * 128 / 65536 = 128 ↔
      ∀ name, (v.control name).level.toNat = 256 := by
  have hmain : v.main.level.toNat ≤ 256 := inRange_iff.1 h .main
  have hspeaker : v.speaker.level.toNat ≤ 256 := inRange_iff.1 h .speaker
  constructor
  · intro hfull
    -- if one of the levels fell short, the product would
    have hproduct : 256 * 256 ≤ v.main.level.toNat * v.speaker.level.toNat := by omega
    have hfst : 256 * 256 ≤ v.main.level.toNat * 256 :=
      Nat.le_trans hproduct (Nat.mul_le_mul_left _ hspeaker)
    have hsnd : 256 * 256 ≤ 256 * v.speaker.level.toNat :=
      Nat.le_trans hproduct (Nat.mul_le_mul_right _ hmain)
    intro name
    cases name with
    | main =>
      show v.main.level.toNat = 256
      omega
    | speaker =>
      show v.speaker.level.toNat = 256
      omega
  · intro hfull
    have hm : v.main.level.toNat = 256 := hfull .main
    have hs : v.speaker.level.toNat = 256 := hfull .speaker
    rw [hm, hs]

theorem mixing_eq_zero {name : ControlName} (h : (v.control name).level.toNat = 0) :
    v.main.level.toNat * v.speaker.level.toNat * 128 / 65536 = 0 := by
  cases name with
  | main =>
    have hzero : v.main.level.toNat = 0 := h
    simp [hzero]
  | speaker =>
    have hzero : v.speaker.level.toNat = 0 := h
    simp [hzero]

/-- Where no level is lower, the volume for mixing is not lower. -/
theorem mixing_mono (h : ∀ name, (v.control name).level ≤ (w.control name).level) :
    v.main.level.toNat * v.speaker.level.toNat * 128 / 65536 ≤
      w.main.level.toNat * w.speaker.level.toNat * 128 / 65536 := by
  have hmain : v.main.level.toNat ≤ w.main.level.toNat := UInt16.le_iff_toNat_le.1 (h .main)
  have hspeaker : v.speaker.level.toNat ≤ w.speaker.level.toNat :=
    UInt16.le_iff_toNat_le.1 (h .speaker)
  have hproduct := Nat.mul_le_mul hmain hspeaker
  exact Nat.div_le_div_right (Nat.mul_le_mul_right 128 hproduct)

/-- From a volume within range every run of changes leads to what it says. -/
theorem InRange.setBy (h : v.InRange) (changes : List VolumeChange) :
    SetBy v changes (changes.foldl Volume.apply v) := by
  have hrange := h.foldl changes
  constructor
  case inRange => exact inRange_iff.1 hrange
  case mixing =>
    refine ⟨_, hrange.mixing_eq, hrange.mixing_le, hrange.mixing_eq_unity_iff, ?_⟩
    rintro ⟨name, hzero⟩
    exact mixing_eq_zero hzero
  case raised =>
    intro louder hlouder hle
    exact ⟨_, _, hrange.mixing_eq, (inRange_iff.2 hlouder).mixing_eq, mixing_mono hle⟩
  case pair =>
    intro name
    have hpair := toNat_pairOfLevel (inRange_iff.1 hrange name)
    rw [level_foldl] at hpair
    exact hpair
  case muted => exact muted_foldl v changes
  case writtenBack => exact apply_pair hrange
  case other =>
    intro name other change hne
    exact control_apply_of_ne _ name hne change
  case levelOnly =>
    intro name pair
    rw [control_apply_change]
    rfl
  case muteOnly =>
    intro name muted
    rw [control_apply_change]
    rfl

end Volume

end GuestAudio
