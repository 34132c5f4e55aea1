import GuestAudio.Proofs.Block.Louder

set_option autoImplicit false

/-! # Frames that a block describes

A block says how many frames it describes, and may hold more bytes than that. Of a mono 8-bit block
on a stereo device each byte is a frame, and goes into two bytes of the region. On an 8-bit device
these make one frame of the device, and the bytes beyond the frames described are never read. On a
16-bit device a frame takes four bytes, so that there is room for twice as many bytes of the block
as it describes; unless the region or the scratch buffer is too short for them, they are played.

`soundAlike_described_iff` says exactly when blocks that agree on the frames described cannot be
told apart. -/

namespace GuestAudio

/-! ## Blocks that sound alike -/

/-- A mono 8-bit block that describes so many frames. -/
def GuestBlock.mono (frames : UInt32) (bytes : Bytes) : GuestBlock := ⟨frames, 8, 1, bytes⟩

/-- The fill is in this format, into a region of this length and at this volume, and the guest
    answers with this block. What the buffers hold does not matter, nor what else the guest does. -/
structure FillSetup.Plays {γ : Type} (x : FillSetup γ) (format : OutputFormat) (length : Nat)
    (v : Volume) (block : GuestBlock) : Prop where
  inFormat : x.filler.format = format
  scratch : x.filler.scratch.length = format.blockBytes
  ofLength : x.region.length = length
  volume : x.machine.volume = v
  attend : ∃ guest shared log, x.machine.shared.attend x.handler x.machine.guest =
    .ok ⟨(some (some block), guest, shared), log⟩

/-- Two blocks cannot be told apart by any fills that play them. -/
def SoundAlike (format : OutputFormat) (length : Nat) (v : Volume) (a b : GuestBlock) : Prop :=
  ∀ {α β : Type} (x : FillSetup α) (y : FillSetup β),
    x.Plays format length v a → y.Plays format length v b →
      ∃ p q, x.run = .ok p ∧ y.run = .ok q ∧ p.value.outcome = q.value.outcome ∧
        p.value.region = q.value.region

variable {format : OutputFormat} {length : Nat} {v : Volume} {a b : GuestBlock}

theorem FillSetup.Plays.run {γ : Type} {x : FillSetup γ} (h : x.Plays format length v a)
    (hv : v.InRange) :
    ∃ filled, x.run = .ok filled ∧ (filled.value.outcome, filled.value.region) =
      soundFor format.layout format.channels format.blockBytes (some a) v length := by
  obtain ⟨filled, hrun, hsound⟩ :=
    run_of_attend h.inFormat h.scratch h.ofLength (h.volume.symm ▸ hv) h.attend
  rw [h.volume] at hsound
  exact ⟨filled, hrun, hsound⟩

/-- A fill with a guest that keeps to the rules and has this block queued. -/
def FillSetup.offering (format : OutputFormat) (length : Nat) (v : Volume) (block : GuestBlock) :
    FillSetup QueuedGuest where
  handler := QueuedGuest.handler
  filler := .ofFormat format
  machine := {
    shared := { status := { sources := 1, mixer := 1 } }
    volume := v
    guest := { queue := [some block] } }
  region := List.replicate length format.silence

theorem FillSetup.plays_offering (format : OutputFormat) (length : Nat) (v : Volume)
    (block : GuestBlock) : (offering format length v block).Plays format length v block where
  inFormat := rfl
  scratch := List.length_replicate
  ofLength := List.length_replicate
  volume := rfl
  attend := ⟨_, _, _, rfl⟩

/-- Blocks sound alike just if the same sound is made of them. -/
theorem soundAlike_iff (hv : v.InRange) : SoundAlike format length v a b ↔
    soundFor format.layout format.channels format.blockBytes (some a) v length =
      soundFor format.layout format.channels format.blockBytes (some b) v length := by
  constructor
  · intro h
    have hx := FillSetup.plays_offering format length v a
    have hy := FillSetup.plays_offering format length v b
    obtain ⟨p, q, hp, hq, houtcome, hregion⟩ := h _ _ hx hy
    obtain ⟨p', hp', hsoundp⟩ := hx.run hv
    obtain ⟨q', hq', hsoundq⟩ := hy.run hv
    cases hp.symm.trans hp'
    cases hq.symm.trans hq'
    rw [← hsoundp, ← hsoundq, houtcome, hregion]
  · intro h α β x y hx hy
    obtain ⟨p, hp, hsoundp⟩ := hx.run hv
    obtain ⟨q, hq, hsoundq⟩ := hy.run hv
    have hsame := hsoundp.trans (h.trans hsoundq.symm)
    exact ⟨p, q, hp, hq, congrArg Prod.fst hsame, congrArg Prod.snd hsame⟩

/-! ## Mono blocks on a stereo device -/

/-- The room for a block on a stereo device, in bytes of the device. -/
def stereoRoom (w : WireLayout) (frames : UInt32) (length blockBytes : Nat) : Nat :=
  min (min (frames.toNat * (w.sampleBytes * 2)) length) blockBytes

theorem soundFor_mono (w : WireLayout) (blockBytes length : Nat) (v : Volume) (frames : UInt32)
    (bytes : Bytes) :
    soundFor w 2 blockBytes (some (.mono frames bytes)) v length =
      if v.isMuted = true ∨ stereoRoom w frames length blockBytes = 0 then
        (.silent, List.replicate length w.silence)
      else
        let source := doubled (bytes.take (stereoRoom w frames length blockBytes / 2))
        (.mixed source.length,
          attenuate w (v.main.level.toNat * v.speaker.level.toNat * 128 / 65536) source ++
            List.replicate (length - source.length) w.silence) := by
  simp only [Volume.isMuted, Bool.or_eq_true, or_assoc]
  rfl

/-- There is room for more bytes of a block than it describes, just if the device has 16-bit samples
    and neither the region nor the block size of the device is in the way. -/
theorem lt_stereoRoom_iff {w : WireLayout} {frames : UInt32} {length blockBytes : Nat} :
    frames.toNat < stereoRoom w frames length blockBytes / 2 ↔
      w = .word ∧ frames ≠ 0 ∧ frames.toNat < min length blockBytes / 2 := by
  have hzero : frames ≠ 0 ↔ frames.toNat ≠ 0 :=
    not_congr (UInt32.toNat_inj (b := 0)).symm
  rw [hzero]
  unfold stereoRoom
  cases w with
  | byte => simp only [WireLayout.sampleBytes, reduceCtorEq, false_and, iff_false]; omega
  | word => simp only [WireLayout.sampleBytes, true_and]; omega

/-- **When only the frames described are played.** At any volume within range, mono 8-bit blocks
    that describe as many frames, and agree on these, sound alike on a stereo device: always with
    8-bit samples, or if no frame is described, or if it is muted. In all other cases they do
    exactly if the region, or the block size of the device, has no room for more pairs of bytes than
    there are frames. -/
theorem soundAlike_described_iff (format : OutputFormat) (length : Nat) {v : Volume}
    (frames : UInt32) (hstereo : format.channels = 2) (hv : v.InRange) :
    (∀ a b : Bytes, frames.toNat ≤ a.length → frames.toNat ≤ b.length →
      a.take frames.toNat = b.take frames.toNat →
        SoundAlike format length v (.mono frames a) (.mono frames b)) ↔
      format.layout = .byte ∨ frames = 0 ∨ v.isMuted = true ∨
        min length format.blockBytes / 2 ≤ frames.toNat := by
  simp only [soundAlike_iff hv, hstereo, soundFor_mono]
  constructor
  · intro h
    by_contra hnone
    simp only [not_or, Nat.not_le] at hnone
    obtain ⟨hlayout, hframes, hmuted, hlong⟩ := hnone
    have hword : format.layout = .word := by
      cases hw : format.layout with
      | byte => exact absurd hw hlayout
      | word => rfl
    have hover := lt_stereoRoom_iff.2 ⟨hword, hframes, hlong⟩
    have hsounds : ¬(v.isMuted = true ∨
        stereoRoom format.layout frames length format.blockBytes = 0) := by
      rintro (hm | hroom)
      · exact hmuted hm
      · omega
    -- a block with one byte more than it describes makes two bytes more
    have hsame := h (List.replicate frames.toNat 0) (List.replicate (frames.toNat + 1) 0)
      (by simp) (by simp) (by simp [List.take_replicate])
    rw [if_neg hsounds, if_neg hsounds] at hsame
    have hlength := (Prod.mk.inj hsame).1
    simp only [FillOutcome.mixed.injEq, length_doubled, List.length_take,
      List.length_replicate] at hlength
    omega
  · intro h a b _ _ hab
    by_cases hsilent : v.isMuted = true ∨
        stereoRoom format.layout frames length format.blockBytes = 0
    · rw [if_pos hsilent, if_pos hsilent]
    · -- the bytes that there is room for are among those described
      have hwithin : stereoRoom format.layout frames length format.blockBytes / 2 ≤
          frames.toNat := by
        rw [← Nat.not_lt, lt_stereoRoom_iff]
        rintro ⟨hword, hframes, hlong⟩
        rcases h with hbyte | hnone | hmuted | hshort
        · rw [hword] at hbyte
          cases hbyte
        · exact hframes hnone
        · exact hsilent (.inl hmuted)
        · omega
      have htake : a.take (stereoRoom format.layout frames length format.blockBytes / 2) =
          b.take (stereoRoom format.layout frames length format.blockBytes / 2) := by
        have hcut := congrArg
          (List.take (stereoRoom format.layout frames length format.blockBytes / 2)) hab
        rwa [List.take_take, List.take_take, Nat.min_eq_left hwithin] at hcut
      rw [if_neg hsilent, if_neg hsilent, htake]

/-- With 16-bit samples and blocks of one frame, two bytes fill a block: of three bytes of which two
    are described the last one is not played, and it is played if only one is described and the
    blocks are longer. -/
theorem soundAlike_described_iff_one_frame :
    SoundAlike ⟨44100, .word, 2, 1⟩ 4 .full (.mono 2 [1, 2, 3]) (.mono 2 [1, 2, 9]) ∧
    ¬∀ a b : Bytes, 1 ≤ a.length → 1 ≤ b.length → a.take 1 = b.take 1 →
      SoundAlike ⟨44100, .word, 2, 2⟩ 8 .full (.mono 1 a) (.mono 1 b) := by
  constructor
  · exact (soundAlike_described_iff ⟨44100, .word, 2, 1⟩ 4 2 rfl Volume.inRange_full).2
      (by decide) [1, 2, 3] [1, 2, 9] (by decide) (by decide) rfl
  · exact mt (soundAlike_described_iff ⟨44100, .word, 2, 2⟩ 8 1 rfl Volume.inRange_full).1
      (by decide)

/-- On a 16-bit stereo device, of a block that describes one frame the byte after it is played
    too. -/
theorem fill_plays_undescribed :
    ∃ p q : Logged (FilledRegion QueuedGuest),
      (FillSetup.offering ⟨44100, .word, 2, 2⟩ 8 .full (.mono 1 [1])).run = .ok p ∧
      (FillSetup.offering ⟨44100, .word, 2, 2⟩ 8 .full (.mono 1 [1, 2])).run = .ok q ∧
      (p.value.outcome, p.value.region) = (.mixed 2, [1, 1, 0, 0, 0, 0, 0, 0]) ∧
      (q.value.outcome, q.value.region) = (.mixed 4, [1, 1, 2, 2, 0, 0, 0, 0]) :=
  ⟨_, _, rfl, rfl, rfl, rfl⟩

end GuestAudio
