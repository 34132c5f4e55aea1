import GuestAudio.Device.Planned
import GuestAudio.Proofs.System.Course
import GuestAudio.Proofs.Volume.Changes

set_option autoImplicit false

/-! # The volume in use

In a system nothing but the changes of the volume reaches it: the volume is the one that the system
was started with, after the changes among the events of its course (`volume_course`). So every
control holds what was set on it last, whatever else happens in between (`volume_setBy`). -/

namespace GuestAudio

/-! ## The volume of a system -/

section Frame

variable {η σ γ : Type} (H : OutputHost η σ) (s : SoundSystem η σ)

@[simp] theorem SoundSystem.volume_disconnect : (s.disconnect H).volume = s.volume := by
  unfold disconnect
  split <;> rfl

@[simp] theorem SoundSystem.volume_openedFor (p : Pick) :
    (s.openedFor H p).2.volume = s.volume := by
  unfold openedFor
  dsimp only
  cases (H.acquire s.host (p.request s.blockFrames)).1.value <;> rfl

@[simp] theorem SoundSystem.volume_stop : (s.stop H).volume = s.volume :=
  SoundSystem.volume_disconnect H s

theorem Deployment.volume_withShared (d : Deployment η σ γ) (guest : γ) (shared : SharedState) :
    (d.withShared guest shared).system.volume = d.system.volume := by
  unfold withShared
  split <;> rfl

end Frame

/-- The change of the volume that an event is, if it is one. -/
def SystemEvent.volumeChange? {γ : Type} : SystemEvent γ → Option VolumeChange
  | volume set => some set
  | _ => none

variable {η σ γ : Type} {H : OutputHost η σ}

/-- Only a change of the volume changes the volume. -/
theorem Deployment.volume_step {d e : Deployment η σ γ} {event : SystemEvent γ}
    (hproper : d.system.Proper) (hstep : step H d event = .ok e) :
    e.system.volume = event.volumeChange?.elim d.system.volume d.system.volume.apply := by
  cases event with
  | change change =>
    obtain ⟨⟨⟨result, system⟩, log⟩, hchange, hstep⟩ := bind_eq_ok_iff.1 hstep
    cases hstep
    rcases hproper.changeFormat_cases (H := H) change with
      ⟨cause, log', hrefused⟩ | ⟨p, log', -, -, -, hopened⟩
    · rw [hrefused] at hchange
      cases hchange
      rfl
    · rw [hopened] at hchange
      cases hchange
      show ((d.system.disconnect H).openedFor H (p.apply change)).2.volume = d.system.volume
      simp
  | volume change =>
    cases hstep
    rfl
  | stop =>
    cases hstep
    exact SoundSystem.volume_stop H d.system
  | shared step =>
    unfold Deployment.step at hstep
    cases hshared : d.shared? with
    | none =>
      simp only [hshared] at hstep
      cases hstep
      rfl
    | some shared =>
      simp only [hshared] at hstep
      obtain ⟨⟨guest, shared'⟩, -, hstep⟩ := bind_eq_ok_iff.1 hstep
      cases hstep
      exact volume_withShared d guest shared'

theorem Deployment.inRange_step {d e : Deployment η σ γ} {event : SystemEvent γ}
    (hproper : d.system.Proper) (h : d.system.volume.InRange) (hstep : step H d event = .ok e) :
    e.system.volume.InRange := by
  rw [volume_step hproper hstep]
  cases event.volumeChange? with
  | none => exact h
  | some change => exact h.apply change

theorem Deployment.volume_run {d e : Deployment η σ γ} {events : List (SystemEvent γ)}
    (hproper : d.system.Proper) (hrun : run H events d = .ok e) :
    e.system.volume =
      (events.filterMap SystemEvent.volumeChange?).foldl Volume.apply d.system.volume := by
  induction events generalizing d with
  | nil =>
    cases hrun
    rfl
  | cons event rest ih =>
    unfold run at hrun ih
    rw [List.foldlM_cons] at hrun
    obtain ⟨next, hnext, hrun⟩ := bind_eq_ok_iff.1 hrun
    rw [ih (proper_step hproper hnext) hrun, volume_step hproper hnext]
    cases h : event.volumeChange? with
    | none => simp [h]
    | some change => simp [h]

/-- The volume of a system is the one it was started with, after the changes since. -/
theorem volume_course {host : η} {settings : Settings} {guest : γ}
    {events : List (SystemEvent γ)} {d : Deployment η σ γ}
    (hd : course H host settings guest events = .ok (.ok d)) :
    settings.volume.InRange ∧ d.system.volume =
      (events.filterMap SystemEvent.volumeChange?).foldl Volume.apply settings.volume := by
  obtain ⟨s, log, hstart, hrun⟩ := course_eq_ok_iff.1 hd
  obtain ⟨hcheck, hcases⟩ := SoundSystem.start_cases hstart
  have hrange := (settings.flaw?_eq_none_iff.1 (settings.check_eq_ok_iff.1 hcheck)).2
  have hstarted : s.Proper ∧ s.volume = settings.volume := by
    rcases hcases with ⟨-, rfl⟩ | ⟨-, rfl⟩
    · exact ⟨SoundSystem.proper_initial host settings, rfl⟩
    · refine ⟨SoundSystem.proper_openedFor rfl _, ?_⟩
      rw [SoundSystem.volume_openedFor]
      rfl
  rw [Deployment.volume_run hstarted.1 hrun, hstarted.2]
  exact ⟨hrange, rfl⟩

/-! ## Every run of changes -/

/-- **Every control holds what was set on it last.** From full volume, or from the start of a system
    with settings that are accepted, and through every run of changes, with other events of the
    system in between: both levels stay within range, so that the volume for mixing fits its word,
    is full just if both levels are, is zero if one of them is, and never falls where a level is
    raised; each control shows the mean of the pair that was set last, in both halves, and to set
    what it shows changes nothing; and what is set on one control, or as one of level and mute,
    leaves all else alone. -/
theorem volume_setBy :
    (∀ changes : List VolumeChange,
      Volume.SetBy .full changes (changes.foldl Volume.apply .full)) ∧
    ∀ {η σ γ : Type} (H : OutputHost η σ) (host : η) (settings : Settings) (guest : γ)
      (events : List (SystemEvent γ)), settings.check = .ok () →
      ((∀ event ∈ events, event.isShared = false) →
        ∃ d, course H host settings guest events = .ok (.ok d)) ∧
      ∀ d, course H host settings guest events = .ok (.ok d) →
        Volume.SetBy settings.volume (events.filterMap SystemEvent.volumeChange?)
          d.system.volume := by
  constructor
  · intro changes
    exact Volume.inRange_full.setBy changes
  · intro η σ γ H host settings guest events hcheck
    refine ⟨exists_course hcheck, fun d hd => ?_⟩
    obtain ⟨hrange, hvolume⟩ := volume_course hd
    rw [hvolume]
    exact hrange.setBy _

/-- The halves of the pair for the main control differ, and their mean is 192. The device is opened
    anew before the speaker is turned up beyond full volume. -/
theorem volume_setBy_uneven_pair :
    let settings : Settings :=
      { volume := { main := { level := 200 }, speaker := { level := 3, muted := true } } }
    let events : List (SystemEvent Unit) :=
      [.volume (.main (.level 0x00800100)), .volume (.main (.mute true)), .change (.rate 0),
        .volume (.speaker (.level 0xFFFFFFFF))]
    settings.check = .ok () ∧
    ∃ d, course PlannedHost.host {} settings () events = .ok (.ok d) ∧
      (∃ n, d.system.volume.mixing = .ok n ∧ n ≤ 128) ∧
      (d.system.volume.control .main).pair.toNat / 65536 = 192 ∧
      (d.system.volume.control .main).pair.toNat % 65536 = 192 ∧
      (d.system.volume.control .speaker).pair.toNat / 65536 = 256 ∧
      (d.system.volume.control .main).muted = true ∧
      (d.system.volume.control .speaker).muted = true := by
  intro settings events
  have hcheck : settings.check = .ok () := rfl
  have hsystem := volume_setBy.2 PlannedHost.host {} settings () events hcheck
  obtain ⟨d, hd⟩ := hsystem.1 (by decide)
  have hset := hsystem.2 d hd
  obtain ⟨n, hn, hle, -⟩ := hset.mixing
  exact ⟨hcheck, d, hd, ⟨n, hn, hle⟩, (hset.pair .main).1, (hset.pair .main).2,
    (hset.pair .speaker).1, hset.muted .main, hset.muted .speaker⟩

end GuestAudio
