import Mathlib.Data.List.Forall2
import GuestAudio.Proofs.Block.GuestSide
import GuestAudio.Proofs.Volume.Changes

set_option autoImplicit false

/-! # Turning the volume up

Take fills that have all in common but what is in their buffers and at what levels the volume is.
Where no level is lower no sample of the region is closer to rest, at full volume every sample is as
far from rest as it ever gets, and no level changes the sign of a sample but to bring it to rest
(`fill_louder`). Both divisions on the way, of the product of the levels and of the sample, round
toward zero, and nothing saturates. -/

namespace GuestAudio

/-! ## Softer samples -/

/-- A sample is no further from rest than another one, and at rest or on the same side. -/
structure Softer (a b : Int) : Prop where
  natAbs : a.natAbs ≤ b.natAbs
  sign : a = 0 ∨ a.sign = b.sign

theorem Softer.refl (a : Int) : Softer a a := ⟨Nat.le_refl _, .inr rfl⟩

/-- At a lower volume a sample is softer. -/
theorem softer_scaleSample {n k : Nat} (h : n ≤ k) (s : Int) :
    Softer (scaleSample n s) (scaleSample k s) := by
  have hnatAbs : (scaleSample n s).natAbs ≤ (scaleSample k s).natAbs := by
    rw [natAbs_scaleSample, natAbs_scaleSample]
    exact Nat.div_le_div_right (Nat.mul_le_mul_left _ h)
  refine ⟨hnatAbs, ?_⟩
  by_cases hzero : scaleSample n s = 0
  · exact .inl hzero
  · right
    rcases Int.le_total 0 s with hs | hs
    · have hsoft := scaleSample_nonneg hs n
      have hloud := scaleSample_nonneg hs k
      rw [Int.sign_eq_one_of_pos (by omega), Int.sign_eq_one_of_pos (by omega)]
    · have hsoft := scaleSample_nonpos hs n
      have hloud := scaleSample_nonpos hs k
      rw [Int.sign_eq_neg_one_of_neg (by omega), Int.sign_eq_neg_one_of_neg (by omega)]

/-! ## Softer regions -/

/-- The samples of bytes are one by one softer than those of others. -/
def SofterBytes (w : WireLayout) (bytes louder : Bytes) : Prop :=
  List.Forall₂ Softer (w.samples bytes) (w.samples louder)

theorem SofterBytes.refl (w : WireLayout) (bytes : Bytes) : SofterBytes w bytes bytes :=
  List.forall₂_same.2 fun s _ => Softer.refl s

/-- The samples of a source at a volume, with silence after it. -/
theorem samples_attenuate_append (w : WireLayout) {volume : Nat} (h : volume ≤ unityVolume)
    (source : Bytes) (rest : Nat) :
    w.samples (attenuate w volume source ++ List.replicate rest w.silence) =
      (w.samples source).map (scaleSample volume) ++
        List.replicate ((source.length % w.sampleBytes + rest) / w.sampleBytes) 0 := by
  have hdvd : w.sampleBytes ∣
      ((w.samples source).flatMap fun s => w.encode (scaleSample volume s)).length := by
    rw [length_flatMap_encode]
    exact Nat.dvd_mul_left _ _
  rw [attenuate_eq, List.append_assoc, List.replicate_append_replicate,
    WireLayout.samples_append _ hdvd, WireLayout.samples_replicate_silence, ← List.flatMap_map,
    WireLayout.samples_flatMap_encode]
  intro s hs
  obtain ⟨s, hmem, rfl⟩ := List.mem_map.1 hs
  exact scaleSample_bounds h (WireLayout.samples_bounds hmem)

/-- A source is softer at a lower volume, and so is all of its region. -/
theorem softer_attenuate (w : WireLayout) {n k : Nat} (hk : k ≤ unityVolume) (h : n ≤ k)
    (source : Bytes) (rest : Nat) :
    SofterBytes w (attenuate w n source ++ List.replicate rest w.silence)
      (attenuate w k source ++ List.replicate rest w.silence) := by
  unfold SofterBytes
  rw [samples_attenuate_append w (Nat.le_trans h hk), samples_attenuate_append w hk]
  refine List.rel_append ?_ ?_
  · rw [List.forall₂_map_left_iff, List.forall₂_map_right_iff]
    exact List.forall₂_same.2 fun s _ => softer_scaleSample h s
  · exact List.forall₂_same.2 fun s _ => Softer.refl s

/-- No level of the volume is above the one of another volume. -/
def Volume.AtMost (v louder : Volume) : Prop :=
  ∀ name, (v.control name).level ≤ (louder.control name).level

/-- With all else the same, a region has the same outcome and is softer at lower levels. -/
theorem softer_regionFor (w : WireLayout) (channels : UInt16) (blockBytes : Nat) (hasSource : Bool)
    (answer : Option GuestBlock) {v louder : Volume} (length : Nat) (hv : v.isMuted = false)
    (hlouder : louder.isMuted = false) (hrange : louder.InRange) (h : v.AtMost louder) :
    (regionFor w channels blockBytes hasSource answer v length).1 =
        (regionFor w channels blockBytes hasSource answer louder length).1 ∧
      SofterBytes w (regionFor w channels blockBytes hasSource answer v length).2
        (regionFor w channels blockBytes hasSource answer louder length).2 := by
  unfold regionFor
  cases hasSource with
  | false => exact ⟨rfl, .refl w _⟩
  | true =>
    cases answer with
    | none => exact ⟨rfl, .refl w _⟩
    | some block =>
      -- unmuted, only the scaling depends on the volume: the room and the source are the same
      obtain ⟨hmain, hspeaker⟩ := Bool.or_eq_false_iff.1 hv
      obtain ⟨hmain', hspeaker'⟩ := Bool.or_eq_false_iff.1 hlouder
      simp only [soundFor, hmain, hspeaker, hmain', hspeaker', Bool.false_eq_true, false_or,
        if_true]
      split
      · exact ⟨rfl, .refl w _⟩
      · exact ⟨rfl, softer_attenuate w hrange.mixing_le (Volume.mixing_mono h) _ _⟩

/-! ## Fills -/

/-- All that a fill works on. -/
structure FillSetup (γ : Type) where
  handler : InterruptHandler γ
  filler : BlockFiller
  machine : Machine γ
  region : Bytes

/-- Fill the region. -/
def FillSetup.run {γ : Type} (x : FillSetup γ) : Run (Logged (FilledRegion γ)) :=
  x.filler.fill x.handler x.machine x.region

/-- A fill whose guest comes to an answer, within range, has the outcome and the bytes that
    `regionFor` says. -/
theorem FillSetup.run_of_attend {γ : Type} {x : FillSetup γ} {format : OutputFormat}
    {length : Nat} {answer? : Option (Option GuestBlock)} (hformat : x.filler.format = format)
    (hscratch : x.filler.scratch.length = format.blockBytes) (hlength : x.region.length = length)
    (hv : x.machine.volume.InRange)
    (hattend : ∃ guest shared log,
      x.machine.shared.attend x.handler x.machine.guest = .ok ⟨(answer?, guest, shared), log⟩) :
    ∃ filled, x.run = .ok filled ∧ (filled.value.outcome, filled.value.region) =
      regionFor format.layout format.channels format.blockBytes answer?.isSome answer?.join
        x.machine.volume length := by
  obtain ⟨guest, shared, log, hattend⟩ := hattend
  obtain ⟨scratch, -, hfill⟩ := BlockFiller.fill_of_attend (f := x.filler) hv hattend x.region
  rw [hformat, hscratch, hlength] at hfill
  exact ⟨_, hfill, rfl⟩

/-- The fill is in this format, into a region of this length; the guest comes to this answer, if it
    is asked; and nothing is muted. What the buffers hold does not matter, nor what else the guest
    does. -/
structure FillSetup.Heard {γ : Type} (x : FillSetup γ) (format : OutputFormat) (length : Nat)
    (answer? : Option (Option GuestBlock)) : Prop where
  inFormat : x.filler.format = format
  scratch : x.filler.scratch.length = format.blockBytes
  ofLength : x.region.length = length
  volume : x.machine.volume.InRange
  unmuted : x.machine.volume.isMuted = false
  attend : ∃ guest shared log,
    x.machine.shared.attend x.handler x.machine.guest = .ok ⟨(answer?, guest, shared), log⟩

section Heard

variable {format : OutputFormat} {length : Nat} {answer? : Option (Option GuestBlock)}

theorem FillSetup.Heard.run {γ : Type} {x : FillSetup γ} (h : x.Heard format length answer?) :
    ∃ filled, x.run = .ok filled ∧ (filled.value.outcome, filled.value.region) =
      regionFor format.layout format.channels format.blockBytes answer?.isSome answer?.join
        x.machine.volume length :=
  run_of_attend h.inFormat h.scratch h.ofLength h.volume h.attend

/-- Of two fills that are heard, the one at no higher levels has the same outcome and is softer. -/
theorem FillSetup.Heard.softer {α β : Type} {x : FillSetup α} {y : FillSetup β}
    (hx : x.Heard format length answer?) (hy : y.Heard format length answer?)
    (hlevels : x.machine.volume.AtMost y.machine.volume) {a : Logged (FilledRegion α)}
    {b : Logged (FilledRegion β)} (ha : x.run = .ok a) (hb : y.run = .ok b) :
    a.value.outcome = b.value.outcome ∧
      SofterBytes format.layout a.value.region b.value.region := by
  obtain ⟨a', ha', haregion⟩ := hx.run
  obtain ⟨b', hb', hbregion⟩ := hy.run
  cases ha.symm.trans ha'
  cases hb.symm.trans hb'
  have hsofter := softer_regionFor format.layout format.channels format.blockBytes answer?.isSome
    answer?.join length hx.unmuted hy.unmuted hy.volume hlevels
  rwa [← haregion, ← hbregion] at hsofter

/-- Within range no level is above full volume. -/
theorem Volume.InRange.atMost_full {v : Volume} (h : v.InRange) : v.AtMost .full := by
  rintro (_ | _)
  · exact h.1
  · exact h.2

/-- **Turning the volume up makes no sample softer.** Take three fills in the same format, into
    regions of the same length and with the same answer of the guest, none of them muted; at levels
    within range, the first at no higher ones than the second, and the third at full volume. They
    have the same outcome. Sample by sample, the first region is no further from rest than the
    second, and the second no further than the third, which is the guest's sound as it is; and in
    both a sample is at rest or on the same side as the one of the third. -/
theorem fill_louder {α β γ : Type} {soft : FillSetup α} {loud : FillSetup β} {full : FillSetup γ}
    (hsoft : soft.Heard format length answer?) (hloud : loud.Heard format length answer?)
    (hfull : full.Heard format length answer?)
    (hlevels : soft.machine.volume.AtMost loud.machine.volume)
    (hvolume : full.machine.volume = .full) :
    ∃ a b c, soft.run = .ok a ∧ loud.run = .ok b ∧ full.run = .ok c ∧
      a.value.outcome = b.value.outcome ∧ b.value.outcome = c.value.outcome ∧
      SofterBytes format.layout a.value.region b.value.region ∧
      SofterBytes format.layout b.value.region c.value.region ∧
      SofterBytes format.layout a.value.region c.value.region ∧
      (c.value.outcome, c.value.region) = regionFor format.layout format.channels format.blockBytes
        answer?.isSome answer?.join .full length := by
  obtain ⟨a, ha, -⟩ := hsoft.run
  obtain ⟨b, hb, -⟩ := hloud.run
  obtain ⟨c, hc, hcregion⟩ := hfull.run
  obtain ⟨hab, hsofter⟩ := hsoft.softer hloud hlevels ha hb
  obtain ⟨hbc, hloudest⟩ := hloud.softer hfull (hvolume ▸ hloud.volume.atMost_full) hb hc
  obtain ⟨-, hsoftest⟩ := hsoft.softer hfull (hvolume ▸ hsoft.volume.atMost_full) ha hc
  rw [hvolume] at hcregion
  exact ⟨a, b, c, ha, hb, hc, hab, hbc, hsofter, hloudest, hsoftest, hcregion⟩

end Heard

/-- The last byte is no whole sample, and the region is longer than a block. The three guests are in
    different states, and their buffers hold different bytes. -/
theorem fill_louder_odd_bytes :
    let block : GuestBlock := ⟨2, 16, 2, [0x80, 0x00, 0x7f, 0xff, 0x00, 0x03, 0x55]⟩
    let setup (volume : Volume) (byte : UInt8) (interrupts : Nat) : FillSetup QueuedGuest := {
      handler := QueuedGuest.handler
      filler := ⟨⟨44100, .word, 2, 2⟩, List.replicate 8 byte⟩
      machine := {
        shared := { status := { sources := 1, mixer := 1 } }
        volume
        guest := { interrupts, queue := [some block] } }
      region := List.replicate 11 byte }
    let soft := setup { main := { level := 100 }, speaker := { level := 200 } } 0x5a 0
    let loud := setup { main := { level := 100 }, speaker := { level := 255 } } 0xff 3
    let full := setup .full 0x00 7
    ∃ a b c, soft.run = .ok a ∧ loud.run = .ok b ∧ full.run = .ok c ∧
      a.value.outcome = c.value.outcome ∧
      SofterBytes .word a.value.region b.value.region ∧
      SofterBytes .word b.value.region c.value.region ∧
      c.value.region =
        [0x80, 0x00, 0x7f, 0xff, 0x00, 0x03, 0x00, 0x00, 0x00, 0x00, 0x00] := by
  intro block setup soft loud full
  have hsoft : soft.Heard ⟨44100, .word, 2, 2⟩ 11 (some (some block)) :=
    ⟨rfl, rfl, rfl, by decide, rfl, _, _, _, rfl⟩
  have hloud : loud.Heard ⟨44100, .word, 2, 2⟩ 11 (some (some block)) :=
    ⟨rfl, rfl, rfl, by decide, rfl, _, _, _, rfl⟩
  have hfull : full.Heard ⟨44100, .word, 2, 2⟩ 11 (some (some block)) :=
    ⟨rfl, rfl, rfl, by decide, rfl, _, _, _, rfl⟩
  have hlevels : soft.machine.volume.AtMost loud.machine.volume := by
    rintro (_ | _)
    · decide
    · decide
  obtain ⟨a, b, c, ha, hb, hc, hab, hbc, hsofter, hloudest, -, hcregion⟩ :=
    fill_louder hsoft hloud hfull hlevels rfl
  have hsound : regionFor .word 2 8 true (some block) .full 11 = (.mixed 7,
      [0x80, 0x00, 0x7f, 0xff, 0x00, 0x03, 0x00, 0x00, 0x00, 0x00, 0x00]) := by decide
  refine ⟨a, b, c, ha, hb, hc, hab.trans hbc, hsofter, hloudest, ?_⟩
  exact (Prod.mk.inj (hcregion.trans hsound)).2

end GuestAudio
