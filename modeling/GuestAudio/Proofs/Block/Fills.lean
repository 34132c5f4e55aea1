import GuestAudio.Proofs.Block.GuestSide

set_option autoImplicit false

/-! # A device buffer as fills in a row

What a device buffer comes to is told without its buffers: regions of the lengths of its blocks are
filled one after the other, each fill going on with the filler and the machine that the one before
left (`BlockFiller.fillEach`), and a sample of the buffer is the conversion of the sample at its
place in its region (`Playback.render_fills`). A fill depends on its region by the length only, so
that neither what the device buffer held nor what the buffer for the wire bytes held can matter. -/

namespace GuestAudio

variable {γ : Type} {handler : InterruptHandler γ}

namespace BlockFiller

/-! ## One fill -/

variable {f : BlockFiller} {m : Machine γ} {region region' : Bytes}

theorem compose_congr (h : region.length = region'.length) (v : Volume)
    (answer : Option GuestBlock) : f.compose v answer region = f.compose v answer region' := by
  unfold compose roomFor silenced
  rw [h]

/-- What a region holds does not matter to a fill. -/
theorem fill_congr (h : region.length = region'.length) :
    f.fill handler m region = f.fill handler m region' := by
  unfold fill
  simp only [compose_congr h, silenced, h]

theorem length_compose {v : Volume} {answer : Option GuestBlock} {outcome : FillOutcome}
    {filled : Bytes} {g : BlockFiller}
    (h : f.compose v answer region = .ok (outcome, filled, g)) :
    filled.length = region.length := by
  unfold compose at h
  dsimp only at h
  cases answer with
  | none =>
    cases h
    exact length_silenced _ _
  | some block =>
    dsimp only at h
    split at h
    · cases h
      exact length_silenced _ _
    · split at h
      · cases h
        exact length_silenced _ _
      · obtain ⟨⟨work, unused⟩, -, h⟩ := bind_eq_ok_iff.1 h
        obtain ⟨⟨target, rest⟩, htarget, h⟩ := bind_eq_ok_iff.1 h
        obtain ⟨⟨source, rest'⟩, -, h⟩ := bind_eq_ok_iff.1 h
        obtain ⟨mixing, -, h⟩ := bind_eq_ok_iff.1 h
        cases h
        have hparts := append_of_slice htarget
        rw [List.length_append, length_mixInto, ← List.length_append, hparts, length_silenced]

theorem length_fill {filled : FilledRegion γ} {log : Log}
    (h : f.fill handler m region = .ok ⟨filled, log⟩) : filled.region.length = region.length := by
  unfold fill at h
  split at h
  · obtain ⟨⟨⟨answer, guest, shared⟩, log⟩, -, h⟩ := bind_eq_ok_iff.1 h
    obtain ⟨⟨outcome, region, filler⟩, hcompose, h⟩ := bind_eq_ok_iff.1 h
    cases h
    exact length_compose (liftM_eq_ok_iff.1 hcompose)
  · cases h
    exact length_silenced _ _

/-! ## Fills in a row -/

/-- Fill one region after the other. -/
def fillEach (handler : InterruptHandler γ) :
    BlockFiller → Machine γ → List Bytes →
      Run (Logged (List (FilledRegion γ) × BlockFiller × Machine γ))
  | f, m, [] => return ⟨([], f, m), []⟩
  | f, m, region :: rest => do
      let ⟨first, log₁⟩ ← f.fill handler m region
      let ⟨(others, f, m), log₂⟩ ← fillEach handler first.filler first.machine rest
      return ⟨(first :: others, f, m), log₁ ++ log₂⟩

/-- Fills in a row come to an end where the guest's side of them does. -/
theorem exists_fillEach {regions : List Bytes}
    {attended : Logged (List (Option (Option GuestBlock)) × γ × SharedState)}
    (hv : m.volume.InRange)
    (h : m.shared.attendEach handler regions.length m.guest = .ok attended) :
    ∃ fills f' m', f.fillEach handler m regions = .ok ⟨(fills, f', m'), attended.log⟩ := by
  induction regions generalizing f m attended with
  | nil =>
    cases h
    exact ⟨_, _, _, rfl⟩
  | cons region rest ih =>
    obtain ⟨⟨⟨answer?, guest₁, shared₁⟩, log₁⟩, hattend, h⟩ := bind_eq_ok_iff.1 h
    obtain ⟨⟨⟨answers, guest₂, shared₂⟩, log₂⟩, heach, h⟩ := bind_eq_ok_iff.1 h
    cases h
    obtain ⟨scratch, -, hfill⟩ := fill_of_attend (f := f) hv hattend region
    obtain ⟨fills, f', m', hfills⟩ := ih (f := { f with scratch })
      (m := { m with shared := shared₁, guest := guest₁ }) hv heach
    rw [fillEach, hfill, ok_bind]
    dsimp only
    rw [hfills]
    exact ⟨_, _, _, rfl⟩

theorem lengths_of_fillEach {regions : List Bytes} {fills : List (FilledRegion γ)}
    {f' : BlockFiller} {m' : Machine γ} {log : Log}
    (h : f.fillEach handler m regions = .ok ⟨(fills, f', m'), log⟩) :
    fills.map (·.region.length) = regions.map List.length := by
  induction regions generalizing f m fills log with
  | nil =>
    cases h
    rfl
  | cons region rest ih =>
    obtain ⟨⟨first, log₁⟩, hfill, h⟩ := bind_eq_ok_iff.1 h
    obtain ⟨⟨⟨others, f₂, m₂⟩, log₂⟩, hothers, h⟩ := bind_eq_ok_iff.1 h
    cases h
    rw [List.map_cons, List.map_cons, ih hothers, length_fill hfill]

end BlockFiller

/-! ## Pieces in a row -/

namespace Playback

variable {t : NativeType} {f : BlockFiller} {m : Machine γ} {wire : Bytes}

/-- A region is filled as the start of the wire bytes is. -/
theorem fill_take {region : Bytes} (h : region.length ≤ wire.length) :
    f.fill handler m region = f.fill handler m (wire.take region.length) :=
  BlockFiller.fill_congr (List.length_take_of_le h).symm

/-- A piece is what a fill of any region of its length is converted to. -/
theorem renderBlock_of_region {piece : List t.Sample} {region : Bytes} {filled : FilledRegion γ}
    {log : Log} (hregion : region.length = piece.length * f.format.layout.sampleBytes)
    (hwire : region.length ≤ wire.length)
    (h : f.fill handler m region = .ok ⟨filled, log⟩) :
    ∃ wire' : Bytes, wire'.length = wire.length ∧
      renderBlock t handler ⟨f, wire⟩ m piece = .ok ⟨{
        samples := f.format.nativeSamples t filled.region
        playback := { filler := filled.filler, wire := wire' }
        machine := filled.machine }, log⟩ := by
  have hlength := BlockFiller.length_fill h
  rw [fill_take hwire, hregion] at h
  have hrender := renderBlock_of_fill (p := ⟨f, wire⟩) (hregion ▸ hwire) h
  rw [convertInto_of_length_eq] at hrender
  · refine ⟨_, ?_, hrender⟩
    rw [← hregion, List.length_append, hlength, List.length_drop]
    exact Nat.add_sub_cancel' hwire
  · rw [hlength, hregion, Nat.mul_div_cancel _ f.format.layout.sampleBytes_pos]

theorem renderBlock_of_region_error {piece : List t.Sample} {region : Bytes} {halt : Halt}
    (hregion : region.length = piece.length * f.format.layout.sampleBytes)
    (hwire : region.length ≤ wire.length) (h : f.fill handler m region = .error halt) :
    renderBlock t handler ⟨f, wire⟩ m piece = .error halt := by
  rw [fill_take hwire, hregion] at h
  unfold renderBlock
  dsimp only
  rw [slice_of_le (hregion ▸ hwire), liftM_ok, ok_bind]
  dsimp only
  rw [h]
  rfl

theorem renderAll_of_fillEach {format : OutputFormat} {pieces : List (List t.Sample)}
    {regions : List Bytes} {fills : List (FilledRegion γ)} {f' : BlockFiller} {m' : Machine γ}
    {log : Log} (hformat : f.format = format)
    (hregions : regions.map List.length =
      pieces.map fun piece => piece.length * format.layout.sampleBytes)
    (hwire : ∀ region ∈ regions, region.length ≤ wire.length)
    (h : f.fillEach handler m regions = .ok ⟨(fills, f', m'), log⟩) :
    ∃ wire' : Bytes, wire'.length = wire.length ∧
      renderAll t handler ⟨f, wire⟩ m pieces = .ok ⟨{
        samples := (fills.map fun filled => format.nativeSamples t filled.region).flatten
        playback := { filler := f', wire := wire' }
        machine := m' }, log⟩ := by
  induction regions generalizing f m wire pieces fills log with
  | nil =>
    cases h
    obtain rfl := List.map_eq_nil_iff.1 hregions.symm
    exact ⟨wire, rfl, rfl⟩
  | cons region rest ih =>
    obtain ⟨piece, pieces, rfl⟩ : ∃ piece rest, pieces = piece :: rest :=
      List.exists_cons_of_ne_nil fun hnil => by simp [hnil] at hregions
    obtain ⟨hregion, hrest⟩ := List.cons.inj hregions
    obtain ⟨⟨first, log₁⟩, hfill, h⟩ := bind_eq_ok_iff.1 h
    obtain ⟨⟨⟨others, f₂, m₂⟩, log₂⟩, hothers, h⟩ := bind_eq_ok_iff.1 h
    cases h
    have hnext : first.filler.format = format := (BlockFiller.format_fill hfill).trans hformat
    subst hformat
    obtain ⟨wire₁, hwire₁, hfirst⟩ :=
      renderBlock_of_region hregion (hwire region List.mem_cons_self) hfill
    have hroom : ∀ other ∈ rest, other.length ≤ wire₁.length :=
      fun other hmem => hwire₁ ▸ hwire other (List.mem_cons_of_mem _ hmem)
    obtain ⟨wire₂, hwire₂, hpieces⟩ := ih hnext hrest hroom hothers
    refine ⟨wire₂, hwire₂.trans hwire₁, ?_⟩
    rw [renderAll, hfirst, ok_bind]
    dsimp only
    rw [hpieces]
    rfl

theorem renderAll_of_fillEach_error {format : OutputFormat} {pieces : List (List t.Sample)}
    {regions : List Bytes} {halt : Halt} (hformat : f.format = format)
    (hregions : regions.map List.length =
      pieces.map fun piece => piece.length * format.layout.sampleBytes)
    (hwire : ∀ region ∈ regions, region.length ≤ wire.length)
    (h : f.fillEach handler m regions = .error halt) :
    renderAll t handler ⟨f, wire⟩ m pieces = .error halt := by
  induction regions generalizing f m wire pieces with
  | nil => cases h
  | cons region rest ih =>
    obtain ⟨piece, pieces, rfl⟩ : ∃ piece rest, pieces = piece :: rest :=
      List.exists_cons_of_ne_nil fun hnil => by simp [hnil] at hregions
    obtain ⟨hregion, hrest⟩ := List.cons.inj hregions
    have hstart := hwire region List.mem_cons_self
    rcases bind_eq_error_iff.1 h with hfill | ⟨⟨first, log₁⟩, hfill, h⟩
    · subst hformat
      rw [renderAll, renderBlock_of_region_error hregion hstart hfill]
      rfl
    · have hnext : first.filler.format = format := (BlockFiller.format_fill hfill).trans hformat
      subst hformat
      obtain ⟨wire₁, hwire₁, hfirst⟩ := renderBlock_of_region hregion hstart hfill
      have hroom : ∀ other ∈ rest, other.length ≤ wire₁.length :=
        fun other hmem => hwire₁ ▸ hwire other (List.mem_cons_of_mem _ hmem)
      rw [renderAll, hfirst, ok_bind]
      dsimp only
      rcases bind_eq_error_iff.1 h with hothers | ⟨_, -, h⟩
      · rw [ih hnext hrest hroom hothers]
        rfl
      · cases h

end Playback

/-! ## Every device buffer -/

/-- What fills in a row are to a device buffer of `n` samples. There is one for each block, on a
    region of its length in bytes; and every sample of the buffer is converted from the one at its
    place in its region. -/
structure OutputFormat.Shows (format : OutputFormat) (t : NativeType) (n : Nat)
    (fills : List (FilledRegion γ)) (samples : List t.Sample) : Prop where
  count : fills.length = (n + format.blockSamples - 1) / format.blockSamples
  lengths : fills.map (·.region.length) =
    (pieceLengths format.blockSamples n).map (· * format.layout.sampleBytes)
  length : samples.length = n
  sample : ∀ i < n, ∃ filled wire, fills[i / format.blockSamples]? = some filled ∧
    (format.layout.samples filled.region)[i % format.blockSamples]? = some wire ∧
    samples[i]? = some (t.ofWire format.layout wire)

theorem OutputFormat.shows_of_lengths {format : OutputFormat} (hf : 0 < format.blockSamples)
    (t : NativeType) {n : Nat} {fills : List (FilledRegion γ)}
    (h : fills.map (·.region.length) =
      (pieceLengths format.blockSamples n).map (· * format.layout.sampleBytes)) :
    format.Shows t n fills
      (fills.map fun filled => format.nativeSamples t filled.region).flatten := by
  have hpieces : (fills.map fun filled => format.nativeSamples t filled.region).map List.length =
      pieceLengths format.blockSamples n := by
    have hsamples := congrArg (List.map (· / format.layout.sampleBytes)) h
    simpa [Function.comp_def, OutputFormat.length_nativeSamples,
      Nat.mul_div_cancel _ format.layout.sampleBytes_pos] using hsamples
  have hlength := length_flatten_of_pieces hf hpieces
  refine ⟨?_, h, hlength, fun i hi => ?_⟩
  · have hcount := congrArg List.length h
    rwa [List.length_map, List.length_map, length_pieceLengths hf] at hcount
  · have hplace := getElem?_flatten_of_pieces hf hpieces hi
    rw [List.getElem?_eq_getElem (hlength.symm ▸ hi), List.getElem?_map] at hplace
    obtain ⟨piece, hpiece, hsample⟩ := Option.bind_eq_some_iff.1 hplace.symm
    obtain ⟨filled, hfilled, rfl⟩ := Option.map_eq_some_iff.1 hpiece
    rw [OutputFormat.nativeSamples, List.getElem?_map] at hsample
    obtain ⟨wire, hwire, hconverted⟩ := Option.map_eq_some_iff.1 hsample
    refine ⟨filled, wire, hfilled, hwire, ?_⟩
    rw [List.getElem?_eq_getElem (hlength.symm ▸ hi), hconverted]

/-- **A device buffer is fills in a row.** In a format with a channel and a frame, let there be a
    region for each block of a buffer of `n` samples. To render such a buffer is to fill the
    regions, each going on with what the one before left: it ends early just as they do, and else
    leaves the same filler and machine and the samples that the fills show. What the buffer held and
    what the buffer for the wire bytes held, which only has to have room for a block, does not
    matter. Where the guest's side of the fills comes to its end so do the fills. -/
theorem Playback.render_fills {f : BlockFiller} (hchannels : 0 < f.format.channels.toNat)
    (hframes : 0 < f.format.framesPerBlock.toNat) (t : NativeType) (handler : InterruptHandler γ)
    (m : Machine γ) {n : Nat} (regions : List Bytes)
    (hregions : regions.map List.length =
      (pieceLengths f.format.blockSamples n).map (· * f.format.layout.sampleBytes)) :
    (m.volume.InRange → ∀ attended,
      m.shared.attendEach handler regions.length m.guest = .ok attended →
        ∃ fills f' m', f.fillEach handler m regions = .ok ⟨(fills, f', m'), attended.log⟩) ∧
    (∀ halt, f.fillEach handler m regions = .error halt → ∀ (wire : Bytes) (buffer : List t.Sample),
      f.format.blockBytes ≤ wire.length → buffer.length = n →
        render t handler ⟨f, wire⟩ m buffer = .error halt) ∧
    ∀ fills f' m' log, f.fillEach handler m regions = .ok ⟨(fills, f', m'), log⟩ →
      ∃ samples, f.format.Shows t n fills samples ∧
        ∀ (wire : Bytes) (buffer : List t.Sample), f.format.blockBytes ≤ wire.length →
          buffer.length = n → ∃ wire' : Bytes, wire'.length = wire.length ∧
            render t handler ⟨f, wire⟩ m buffer =
              .ok ⟨{ samples, playback := ⟨f', wire'⟩, machine := m' }, log⟩ := by
  have hf : 0 < f.format.blockSamples := f.format.blockSamples_pos_iff.2 ⟨hframes, hchannels⟩
  -- no region is longer than a block
  have hroom : ∀ wire : Bytes, f.format.blockBytes ≤ wire.length →
      ∀ region ∈ regions, region.length ≤ wire.length := by
    intro wire hwire region hmem
    have hlength : region.length ∈ regions.map List.length := List.mem_map_of_mem hmem
    rw [hregions] at hlength
    obtain ⟨k, hk, hkregion⟩ := List.mem_map.1 hlength
    rw [← hkregion]
    refine Nat.le_trans (Nat.mul_le_mul_right _ (pieceLengths_bounds hf hk).2) ?_
    rwa [← OutputFormat.blockBytes_eq]
  have hpieces : ∀ buffer : List t.Sample, buffer.length = n →
      regions.map List.length = (chunks f.format.blockSamples buffer).map
        fun piece => piece.length * f.format.layout.sampleBytes := by
    intro buffer hbuffer
    rw [hregions, ← hbuffer, ← map_length_chunks hf, List.map_map]
    rfl
  refine ⟨fun hv attended hattend => BlockFiller.exists_fillEach hv hattend, ?_, ?_⟩
  · intro halt hfills wire buffer hwire hbuffer
    rw [render, f.format.chunkSamples_eq hf]
    exact renderAll_of_fillEach_error rfl (hpieces buffer hbuffer) (hroom wire hwire) hfills
  · intro fills f' m' log hfills
    have hlengths := (BlockFiller.lengths_of_fillEach hfills).trans hregions
    refine ⟨_, f.format.shows_of_lengths hf t hlengths, ?_⟩
    intro wire buffer hwire hbuffer
    rw [render, f.format.chunkSamples_eq hf]
    exact renderAll_of_fillEach rfl (hpieces buffer hbuffer) (hroom wire hwire) hfills

/-- A buffer of three samples takes a block of two and a rest of one. The device takes the head of
    each word, with its rest in the middle of the range. The wire bytes are more than a block and
    hold other sound. -/
theorem Playback.render_fills_rest :
    let f : BlockFiller := .ofFormat ⟨44100, .word, 1, 2⟩
    let m : Machine QueuedGuest := {
      shared := { status := { mixer := 1, sources := 1 } }
      volume := .full
      guest := { queue := [some ⟨2, 16, 1, [1, 2, 255, 254]⟩, some ⟨2, 16, 1, [3, 4, 5, 6]⟩] } }
    ∀ buffer : List NativeType.u8.Sample, buffer.length = 3 →
      ∃ samples p m', render .u8 QueuedGuest.handler ⟨f, List.replicate 6 0x5a⟩ m buffer =
          .ok ⟨⟨samples, p, m'⟩, []⟩ ∧
        samples.length = 3 ∧ samples[2]? = some (131 : UInt8) ∧ m'.guest.interrupts = 2 := by
  intro f m buffer hbuffer
  obtain ⟨hexists, -, hshown⟩ := render_fills (f := f) (by decide) (by decide) .u8
    QueuedGuest.handler m (n := 3) [[0, 0, 0, 0], [0, 0]] (by decide)
  obtain ⟨answers, guest, shared, hattend⟩ : ∃ answers guest shared,
      m.shared.attendEach QueuedGuest.handler 2 m.guest = .ok ⟨(answers, guest, shared), []⟩ :=
    ⟨_, _, _, rfl⟩
  obtain ⟨fills, f', m', hfills⟩ := hexists Volume.inRange_full _ hattend
  obtain ⟨samples, hshows, hrender⟩ := hshown fills f' m' _ hfills
  obtain ⟨wire', -, hrendered⟩ := hrender (List.replicate 6 0x5a) buffer (by decide) hbuffer
  have hvalue : (f.fillEach QueuedGuest.handler m [[0, 0, 0, 0], [0, 0]]).toOption.map
      (fun r => (r.value.1.map (·.region), r.value.2.2.guest.interrupts)) =
        some ([[1, 2, 255, 254], [3, 4]], 2) := by decide +kernel
  rw [hfills] at hvalue
  obtain ⟨hregions, hinterrupts⟩ := Prod.mk.inj (Option.some.inj hvalue)
  refine ⟨samples, _, m', hrendered, hshows.length, ?_, hinterrupts⟩
  -- the third sample is the first one of the second region
  obtain ⟨filled, wire, hfilled, hwire, hsample⟩ := hshows.sample 2 (by decide)
  rw [show f.format.blockSamples = 2 from rfl] at hfilled hwire
  have hregion : (fills.map (·.region))[1]? = some filled.region := by
    rw [List.getElem?_map, show fills[1]? = some filled from hfilled]
    rfl
  have hword : (WireLayout.word.samples [3, 4])[0]? = some 772 := by decide +kernel
  rw [hregions] at hregion
  rw [← Option.some.inj hregion] at hwire
  have hconverted : NativeType.u8.ofWire f.format.layout 772 = (131 : UInt8) := rfl
  rwa [show wire = 772 from Option.some.inj (hwire.symm.trans hword), hconverted] at hsample

end GuestAudio
