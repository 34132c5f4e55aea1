import GuestAudio.Guest.Queued
import GuestAudio.Proofs.Block.Region

set_option autoImplicit false

/-! # The bytes that a fill reports

A fill with sound reports a number of bytes: those that a block brings into the scratch buffer, to
be mixed from there into the region. At full volume the region begins with them, and all after them
is silence; but mixing knows whole samples only. Of an odd number of bytes for 16-bit samples the
last one is reported, and is left out of the region. So the report is exact just if the bytes are a
whole number of samples, or if the byte that is left out would have been silence
(`fill_reports_iff`). Widened bytes come in pairs, so that none of these is lost. -/

namespace GuestAudio

/-- A block brings in as many bytes as it has room for, so with room for just these it brings in the
    same ones. -/
theorem GuestBlock.sourceFor_length (block : GuestBlock) (channels : UInt16) (room : Nat) :
    block.sourceFor channels (block.sourceFor channels room).length =
      block.sourceFor channels room := by
  rw [GuestBlock.length_sourceFor]
  unfold GuestBlock.sourceFor
  split
  · rw [Nat.mul_div_cancel_left _ (by decide : 0 < 2), ← List.take_take, List.take_length]
  · rw [← List.take_take, List.take_length]

/-- Widened bytes are whole samples. -/
theorem GuestBlock.dvd_length_sourceFor {block : GuestBlock} {channels : UInt16}
    (h : channels = 2 ∧ block.channels = 1 ∧ block.sampleBits = 8) (w : WireLayout) (room : Nat) :
    w.sampleBytes ∣ (block.sourceFor channels room).length := by
  rw [GuestBlock.length_sourceFor, if_pos h]
  cases w with
  | byte => exact Nat.one_dvd _
  | word => exact Nat.dvd_mul_right 2 _

/-- At unity a source stays as it is unless its last byte is no whole sample and not silence. -/
theorem attenuate_unity_eq_iff {w : WireLayout} {src : Bytes} :
    attenuate w unityVolume src = src ↔
      w.sampleBytes ∣ src.length ∨ src.getLast? = some w.silence := by
  by_cases hwhole : w.sampleBytes ∣ src.length
  · simp only [attenuate_unity hwhole, hwhole, true_or]
  · cases w with
    | byte => exact absurd (Nat.one_dvd _) hwhole
    | word =>
      rcases List.eq_nil_or_concat src with rfl | ⟨samples, last, rfl⟩
      · exact absurd (Nat.dvd_zero _) hwhole
      · -- all but the last byte are whole samples
        simp only [List.concat_eq_append, List.length_append, List.length_singleton,
          WireLayout.sampleBytes] at hwhole ⊢
        have hsamples : (samples.length + 1) / 2 * 2 = samples.length := by omega
        have hodd : (samples.length + 1) % 2 = 1 := by omega
        rw [attenuate_unity_eq, List.length_append, List.length_singleton, WireLayout.sampleBytes,
          hsamples, hodd, List.take_left, List.replicate_one, List.append_right_inj,
          List.getLast?_concat]
        simp [hwhole, eq_comm]

namespace BlockFiller

variable {γ : Type} {handler : InterruptHandler γ} {f : BlockFiller} {m : Machine γ}
  {region : Bytes} {filled : Logged (FilledRegion γ)} {n : Nat}

/-- A fill that reports bytes has got a block from the guest, has brought it into the scratch buffer
    and has mixed it from there. -/
theorem exists_of_mixed (hv : m.volume.InRange) (hfill : f.fill handler m region = .ok filled)
    (hmixed : filled.value.outcome = .mixed n) :
    ∃ block guest shared,
      m.shared.obtain handler m.guest = .ok ⟨(some block, guest, shared), filled.log⟩ ∧
      (block.sourceFor f.format.channels n).length = n ∧ n ≤ f.scratch.length ∧
      n ≤ region.length ∧
      filled.value.region =
        attenuate f.format.layout (m.volume.main.level.toNat * m.volume.speaker.level.toNat * 128 /
            65536) (block.sourceFor f.format.channels n) ++
          List.replicate (region.length - n) f.format.silence ∧
      filled.value.filler =
        { f with scratch := overlay (block.sourceFor f.format.channels n) f.scratch } := by
  cases hsource : m.shared.status.hasSource with
  | false =>
    rw [fill_of_idle hsource] at hfill
    cases hfill
    cases hmixed
  | true =>
    rw [fill, if_pos hsource] at hfill
    obtain ⟨⟨⟨answer, guest, shared⟩, log⟩, hobtain, hfill⟩ := bind_eq_ok_iff.1 hfill
    obtain ⟨⟨outcome, sound, filler⟩, hcompose, hfill⟩ := bind_eq_ok_iff.1 hfill
    have hcompose := liftM_eq_ok_iff.1 hcompose
    cases hfill
    cases answer with
    | none =>
      cases hcompose
      cases hmixed
    | some block =>
      by_cases hsilent : m.volume.main.muted = true ∨ m.volume.speaker.muted = true ∨
          f.roomFor block region = 0
      · rw [compose_of_silent hsilent] at hcompose
        cases hcompose
        cases hmixed
      · rw [compose_of_sound hv hsilent] at hcompose
        cases hcompose
        cases hmixed
        have hroom := block.length_sourceFor_le f.format.channels (f.roomFor block region)
        refine ⟨block, guest, shared, hobtain, ?_⟩
        rw [block.sourceFor_length]
        exact ⟨rfl, Nat.le_trans hroom (f.roomFor_le_scratch block region),
          Nat.le_trans hroom (f.roomFor_le_region block region), rfl, rfl⟩

/-- **When the bytes that a fill reports are in the region.** Whatever the buffers held, a fill at
    full levels that reports bytes has got a block from the guest. The reported bytes are those put
    into the scratch buffer, which are the first ones of the block, widened if need be. The region
    holds all of them that make whole samples, and silence after these. So it holds all that are
    reported exactly if they make whole samples, as widened ones do, or if the last one is
    silence. -/
theorem fill_reports_iff (hmain : m.volume.main.level = fullLevel)
    (hspeaker : m.volume.speaker.level = fullLevel) (hfill : f.fill handler m region = .ok filled)
    (hmixed : filled.value.outcome = .mixed n) :
    ∃ block guest shared,
      m.shared.obtain handler m.guest = .ok ⟨(some block, guest, shared), filled.log⟩ ∧
      (block.sourceFor f.format.channels n).length = n ∧
      filled.value.filler.scratch.take n = block.sourceFor f.format.channels n ∧
      filled.value.region =
        filled.value.filler.scratch.take (n - n % f.format.layout.sampleBytes) ++
          List.replicate (region.length - (n - n % f.format.layout.sampleBytes))
            f.format.silence ∧
      (filled.value.region.take n = filled.value.filler.scratch.take n ∧
          filled.value.region.drop n = List.replicate (region.length - n) f.format.silence ↔
        f.format.layout.sampleBytes ∣ n ∨
          (filled.value.filler.scratch.take n).getLast? = some f.format.silence) ∧
      (f.format.channels = 2 ∧ block.channels = 1 ∧ block.sampleBits = 8 →
        f.format.layout.sampleBytes ∣ n) := by
  have hv : m.volume.InRange := by
    rw [Volume.InRange, hmain, hspeaker]
    exact ⟨UInt16.le_refl _, UInt16.le_refl _⟩
  have hunity : m.volume.main.level.toNat * m.volume.speaker.level.toNat * 128 / 65536 =
      unityVolume := by
    rw [hmain, hspeaker]
    rfl
  obtain ⟨block, guest, shared, hobtain, hlength, hscratch, hroom, hregion, hfiller⟩ :=
    exists_of_mixed hv hfill hmixed
  have hwidened : f.format.channels = 2 ∧ block.channels = 1 ∧ block.sampleBits = 8 →
      f.format.layout.sampleBytes ∣ n := by
    intro h
    rw [← hlength]
    exact GuestBlock.dvd_length_sourceFor h _ _
  refine ⟨block, guest, shared, hobtain, hlength, ?_⟩
  rw [hregion, hfiller, hunity]
  generalize block.sourceFor f.format.channels n = source at hlength ⊢
  have hsound : (attenuate f.format.layout unityVolume source).length = n :=
    (length_attenuate _ _ _).trans hlength
  have hput : overlay source f.scratch = source ++ f.scratch.drop n := by
    rw [overlay_of_length_le (by omega), hlength]
  refine ⟨by rw [hput, List.take_left' hlength], ?_, ?_, hwidened⟩
  · -- the silence in place of a byte that is no whole sample goes with the silence after it
    have hwhole := Nat.div_add_mod' n f.format.layout.sampleBytes
    have hcut : n / f.format.layout.sampleBytes * f.format.layout.sampleBytes =
        n - n % f.format.layout.sampleBytes := by omega
    have hrest : n % f.format.layout.sampleBytes + (region.length - n) =
        region.length - (n - n % f.format.layout.sampleBytes) := by omega
    rw [hput, List.take_append_of_le_length (by omega), attenuate_unity_eq, hlength,
      List.append_assoc, OutputFormat.silence, List.replicate_append_replicate, hcut, hrest]
  · rw [hput, List.take_left' hlength, List.take_left' hsound, List.drop_left' hsound,
      attenuate_unity_eq_iff, hlength]
    exact and_iff_left rfl

/-- Of three bytes for 16-bit samples the last one makes no sample, but it is silence anyway. -/
theorem fill_reports_iff_silent_end :
    ∃ filled : Logged (FilledRegion QueuedGuest),
      BlockFiller.fill QueuedGuest.handler ⟨⟨44100, .word, 1, 2⟩, [9, 9, 9, 9]⟩
          { shared := { status := { sources := 1, mixer := 1 } }
            volume := .full
            guest := { queue := [some ⟨3, 8, 1, [0x80, 0x01, 0x00]⟩] } }
          (List.replicate 6 0x5a) = .ok filled ∧
      filled.value.outcome = .mixed 3 ∧
      filled.value.filler.scratch.take 3 = [0x80, 0x01, 0x00] ∧
      filled.value.region.take 3 = filled.value.filler.scratch.take 3 := by
  obtain ⟨filled, hfill, hmixed, hscratch⟩ :
      ∃ filled : Logged (FilledRegion QueuedGuest),
        BlockFiller.fill QueuedGuest.handler ⟨⟨44100, .word, 1, 2⟩, [9, 9, 9, 9]⟩
            { shared := { status := { sources := 1, mixer := 1 } }
              volume := .full
              guest := { queue := [some ⟨3, 8, 1, [0x80, 0x01, 0x00]⟩] } }
            (List.replicate 6 0x5a) = .ok filled ∧
        filled.value.outcome = .mixed 3 ∧
        filled.value.filler.scratch.take 3 = [0x80, 0x01, 0x00] := ⟨_, rfl, rfl, rfl⟩
  obtain ⟨-, -, -, -, -, -, -, hheld, -⟩ := fill_reports_iff rfl rfl hfill hmixed
  refine ⟨filled, hfill, hmixed, hscratch, (hheld.2 (.inr ?_)).1⟩
  rw [hscratch]
  rfl

/-- Of three bytes for 16-bit samples all are reported, and the last one is left out. -/
theorem fill_omits_odd_byte :
    ∃ filled : Logged (FilledRegion QueuedGuest),
      BlockFiller.fill QueuedGuest.handler (.ofFormat ⟨44100, .word, 1, 2⟩)
          { shared := { status := { sources := 1, mixer := 1 } }
            volume := .full
            guest := { queue := [some ⟨3, 8, 1, [1, 2, 3]⟩] } }
          (List.replicate 4 0x5a) = .ok filled ∧
      filled.value.outcome = .mixed 3 ∧
      filled.value.filler.scratch.take 3 = [1, 2, 3] ∧
      filled.value.region = [1, 2, 0, 0] :=
  ⟨_, rfl, rfl, rfl, rfl⟩

end BlockFiller

end GuestAudio
