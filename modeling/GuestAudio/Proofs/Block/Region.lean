import GuestAudio.Block.Filler
import GuestAudio.Guest.Queued
import GuestAudio.Proofs.Block.Attenuation

set_option autoImplicit false

/-! # What a fill leaves in a region

`regionFor` gives the outcome of a fill and the bytes that it leaves, as a function of the layout,
the channels and the size of a block, of whether a source is active, of the guest's answer, the
volume, and the length of the region. Nothing that was in the region or in the scratch buffer
before enters into it, and `fill_region` shows that a fill leaves just that. -/

namespace GuestAudio

/-! ## The reference -/

/-- The bytes that a block brings into `room` bytes: mono 8-bit samples are written twice for a
    stereo device, all others once. -/
def GuestBlock.sourceFor (block : GuestBlock) (channels : UInt16) (room : Nat) : Bytes :=
  if channels = 2 ∧ block.channels = 1 ∧ block.sampleBits = 8 then
    (block.bytes.take (room / 2)).flatMap fun b => [b, b]
  else block.bytes.take room

/-- What becomes of a region of `length` bytes once the guest has answered, and what it holds. -/
def soundFor (w : WireLayout) (channels : UInt16) (blockBytes : Nat) (answer : Option GuestBlock)
    (v : Volume) (length : Nat) : FillOutcome × Bytes :=
  match answer with
  | none => (.silent, List.replicate length w.silence)
  | some block =>
      let room :=
        min (min (block.frameCount.toNat * (w.sampleBytes * channels.toNat)) length) blockBytes
      if v.main.muted ∨ v.speaker.muted ∨ room = 0 then
        (.silent, List.replicate length w.silence)
      else
        let source := block.sourceFor channels room
        let volume := v.main.level.toNat * v.speaker.level.toNat * 128 / 65536
        (.mixed source.length,
          attenuate w volume source ++ List.replicate (length - source.length) w.silence)

/-- What becomes of a region of `length` bytes in a fill, and what it holds. -/
def regionFor (w : WireLayout) (channels : UInt16) (blockBytes : Nat) (hasSource : Bool)
    (answer : Option GuestBlock) (v : Volume) (length : Nat) : FillOutcome × Bytes :=
  if hasSource then soundFor w channels blockBytes answer v length
  else (.idle, List.replicate length w.silence)

/-! ## The source -/

theorem GuestBlock.isMonoBytes_iff {block : GuestBlock} :
    block.isMonoBytes = true ↔ block.channels = 1 ∧ block.sampleBits = 8 := by
  simp [GuestBlock.isMonoBytes]

theorem GuestBlock.length_sourceFor (block : GuestBlock) (channels : UInt16) (room : Nat) :
    (block.sourceFor channels room).length =
      if channels = 2 ∧ block.channels = 1 ∧ block.sampleBits = 8 then
        2 * min (room / 2) block.bytes.length
      else min room block.bytes.length := by
  unfold GuestBlock.sourceFor
  split
  · exact (length_doubled _).trans (by rw [List.length_take])
  · rw [List.length_take]

theorem GuestBlock.length_sourceFor_le (block : GuestBlock) (channels : UInt16) (room : Nat) :
    (block.sourceFor channels room).length ≤ room := by
  rw [GuestBlock.length_sourceFor]
  split <;> omega

namespace BlockFiller

theorem bringIn_eq (f : BlockFiller) (block : GuestBlock) (work : Bytes) :
    f.bringIn block work =
      ((block.sourceFor f.format.channels work.length).length,
        overlay (block.sourceFor f.format.channels work.length) work) := by
  unfold bringIn
  rw [GuestBlock.length_sourceFor]
  simp only [GuestBlock.isMonoBytes_iff]
  split
  · next h =>
    have htake : block.bytes.take (min (work.length / 2) block.bytes.length) =
        block.bytes.take (work.length / 2) := by
      rw [← List.take_take, List.take_length]
    rw [widenInto, GuestBlock.sourceFor, if_pos h, htake, Nat.mul_comm]
    rfl
  · next h =>
    rw [copyInto, GuestBlock.sourceFor, if_neg h, overlay_take, Nat.min_comm]

/-! ## Composing -/

theorem roomFor_eq (f : BlockFiller) (block : GuestBlock) (region : Bytes) :
    f.roomFor block region =
      min (min (block.frameCount.toNat * (f.format.layout.sampleBytes * f.format.channels.toNat))
        region.length) f.scratch.length := rfl

theorem roomFor_le_scratch (f : BlockFiller) (block : GuestBlock) (region : Bytes) :
    f.roomFor block region ≤ f.scratch.length := Nat.min_le_right _ _

theorem roomFor_le_region (f : BlockFiller) (block : GuestBlock) (region : Bytes) :
    f.roomFor block region ≤ region.length :=
  Nat.le_trans (Nat.min_le_left _ _) (Nat.min_le_right _ _)

theorem compose_of_silent {f : BlockFiller} {v : Volume} {block : GuestBlock} {region : Bytes}
    (h : v.main.muted = true ∨ v.speaker.muted = true ∨ f.roomFor block region = 0) :
    f.compose v (some block) region = .ok (.silent, silenced f.format.silence region, f) := by
  unfold compose
  dsimp only
  by_cases hmuted : v.isMuted = true
  · rw [if_pos hmuted]
    rfl
  · have hroom : f.roomFor block region = 0 := by
      simp only [Volume.isMuted, Bool.or_eq_true, not_or] at hmuted
      simpa [hmuted] using h
    rw [if_neg hmuted, if_pos hroom]
    rfl

theorem compose_of_sound {f : BlockFiller} {v : Volume} {block : GuestBlock} {region : Bytes}
    (hv : v.InRange) (h : ¬(v.main.muted = true ∨ v.speaker.muted = true ∨
      f.roomFor block region = 0)) :
    f.compose v (some block) region = .ok
      (.mixed (block.sourceFor f.format.channels (f.roomFor block region)).length,
        attenuate f.format.layout (v.main.level.toNat * v.speaker.level.toNat * 128 / 65536)
            (block.sourceFor f.format.channels (f.roomFor block region)) ++
          List.replicate (region.length -
            (block.sourceFor f.format.channels (f.roomFor block region)).length)
            f.format.silence,
        { f with scratch :=
            overlay (block.sourceFor f.format.channels (f.roomFor block region)) f.scratch }) := by
  simp only [not_or] at h
  obtain ⟨hmain, hspeaker, hroom⟩ := h
  have hmuted : ¬v.isMuted = true := by simp [Volume.isMuted, hmain, hspeaker]
  have hscratch := f.roomFor_le_scratch block region
  have hregion := f.roomFor_le_region block region
  have hsource := block.length_sourceFor_le f.format.channels (f.roomFor block region)
  unfold compose
  dsimp only
  rw [if_neg hmuted, if_neg hroom, slice_of_le hscratch]
  dsimp only [bind, Except.bind]
  rw [bringIn_eq, List.length_take_of_le hscratch]
  generalize block.sourceFor f.format.channels (f.roomFor block region) = source at hsource ⊢
  dsimp only
  rw [overlay_take_append_drop hsource hscratch]
  rw [slice_of_le (by rw [length_silenced]; omega)]
  dsimp only
  rw [slice_of_le (by rw [length_overlay]; omega)]
  dsimp only
  rw [Volume.mixing, mixingVolume_of_le hv.1 hv.2]
  have htarget : (silenced f.format.silence region).take source.length =
      List.replicate source.length f.format.layout.silence := by
    rw [silenced, List.take_replicate, Nat.min_eq_left (by omega)]
    rfl
  have hrest : (silenced f.format.silence region).drop source.length =
      List.replicate (region.length - source.length) f.format.silence := by
    rw [silenced, List.drop_replicate]
  have hstart : (overlay source f.scratch).take source.length = source := by
    rw [overlay_of_length_le (by omega), List.take_left]
  rw [htarget, hrest, hstart]
  dsimp only
  rw [mixInto_silence f.format.layout hv.mixing_le source]
  rfl

/-- Composing does not fault while the volume is in range, and gives what `soundFor` says. Of the
    filler only the contents of the scratch buffer change. -/
theorem compose_eq (f : BlockFiller) {v : Volume} (hv : v.InRange) (answer : Option GuestBlock)
    (region : Bytes) :
    ∃ scratch : Bytes, scratch.length = f.scratch.length ∧
      f.compose v answer region =
        .ok ((soundFor f.format.layout f.format.channels f.scratch.length answer v
            region.length).1,
          (soundFor f.format.layout f.format.channels f.scratch.length answer v region.length).2,
          { f with scratch }) := by
  cases answer with
  | none => exact ⟨f.scratch, rfl, rfl⟩
  | some block =>
    unfold soundFor
    dsimp only
    rw [← roomFor_eq]
    by_cases h : v.main.muted = true ∨ v.speaker.muted = true ∨ f.roomFor block region = 0
    · refine ⟨f.scratch, rfl, ?_⟩
      rw [if_pos h, compose_of_silent h]
      rfl
    · refine ⟨overlay (block.sourceFor f.format.channels (f.roomFor block region)) f.scratch,
        length_overlay _ _, ?_⟩
      rw [if_neg h, compose_of_sound hv h]
      rfl

/-! ## Filling -/

variable {γ : Type}

theorem fill_of_idle {handler : InterruptHandler γ} {f : BlockFiller} {m : Machine γ}
    (h : m.shared.status.hasSource = false) (region : Bytes) :
    f.fill handler m region =
      .ok ⟨⟨.idle, silenced f.format.silence region, f, m⟩, []⟩ := by
  rw [fill, h]
  rfl

theorem fill_of_obtain {handler : InterruptHandler γ} {f : BlockFiller} {m : Machine γ}
    {answer : Option GuestBlock} {guest : γ} {shared : SharedState} {log : Log}
    (h : m.shared.status.hasSource = true) (hv : m.volume.InRange)
    (hobtain : m.shared.obtain handler m.guest = .ok ⟨(answer, guest, shared), log⟩)
    (region : Bytes) :
    ∃ scratch : Bytes, scratch.length = f.scratch.length ∧
      f.fill handler m region =
        .ok ⟨{
          outcome := (soundFor f.format.layout f.format.channels f.scratch.length answer m.volume
            region.length).1
          region := (soundFor f.format.layout f.format.channels f.scratch.length answer m.volume
            region.length).2
          filler := { f with scratch }
          machine := { m with shared, guest } }, log⟩ := by
  obtain ⟨scratch, hlen, hcompose⟩ := f.compose_eq hv answer region
  refine ⟨scratch, hlen, ?_⟩
  rw [fill, if_pos h, hobtain]
  dsimp only [bind, Except.bind]
  rw [hcompose]
  rfl

/-- **What a fill leaves in a region does not depend on what was there.** Whatever the region and
    the scratch buffer hold, a fill that does not have to wait comes to its end without a fault,
    with the outcome and the bytes of `regionFor`. -/
theorem fill_region (handler : InterruptHandler γ) (format : OutputFormat) (scratch : Bytes)
    (m : Machine γ) (region : Bytes) {answer : Option GuestBlock} {guest : γ} {shared : SharedState}
    {log : Log} (hscratch : scratch.length = format.blockBytes) (hv : m.volume.InRange)
    (hobtain : m.shared.status.hasSource = true →
      m.shared.obtain handler m.guest = .ok ⟨(answer, guest, shared), log⟩) :
    ∃ filled : Logged (FilledRegion γ),
      BlockFiller.fill handler ⟨format, scratch⟩ m region = .ok filled ∧
      (filled.value.outcome, filled.value.region) =
        regionFor format.layout format.channels format.blockBytes m.shared.status.hasSource answer
          m.volume region.length := by
  cases h : m.shared.status.hasSource with
  | false => exact ⟨_, fill_of_idle h region, rfl⟩
  | true =>
    obtain ⟨_, -, hfill⟩ := fill_of_obtain (f := ⟨format, scratch⟩) h hv (hobtain h) region
    refine ⟨_, hfill, ?_⟩
    rw [← hscratch]
    rfl

/-- At half volume, with a last byte that is no whole sample, in a region longer than a block. -/
theorem fill_region_half_volume :
    ∃ filled : Logged (FilledRegion QueuedGuest),
      BlockFiller.fill QueuedGuest.handler
          ⟨⟨44100, .word, 2, 2⟩, [1, 2, 3, 4, 5, 6, 7, 8]⟩
          { shared := { status := { sources := 1, mixer := 1 } }
            volume := { main := { level := 128 } }
            guest := { queue := [some ⟨2, 16, 2, [0x80, 0x00, 0x7f, 0xff, 0x00, 0x03, 0x55]⟩] } }
          (List.replicate 10 0x5a) = .ok filled ∧
      (filled.value.outcome, filled.value.region) =
        (.mixed 7, [0xc0, 0x00, 0x3f, 0xff, 0x00, 0x01, 0x00, 0x00, 0x00, 0x00]) := by
  have hcontents : regionFor .word 2 8 true
      (some ⟨2, 16, 2, [0x80, 0x00, 0x7f, 0xff, 0x00, 0x03, 0x55]⟩)
      { main := { level := 128 } } 10 =
      (.mixed 7, [0xc0, 0x00, 0x3f, 0xff, 0x00, 0x01, 0x00, 0x00, 0x00, 0x00]) := by decide
  obtain ⟨filled, hfill, hregion⟩ :=
    fill_region QueuedGuest.handler ⟨44100, .word, 2, 2⟩ [1, 2, 3, 4, 5, 6, 7, 8]
      { shared := { status := { sources := 1, mixer := 1 } }
        volume := { main := { level := 128 } }
        guest := { queue := [some ⟨2, 16, 2, [0x80, 0x00, 0x7f, 0xff, 0x00, 0x03, 0x55]⟩] } }
      (List.replicate 10 0x5a) rfl (by decide) (fun _ => rfl)
  exact ⟨filled, hfill, hregion.trans hcontents⟩

end BlockFiller

end GuestAudio
