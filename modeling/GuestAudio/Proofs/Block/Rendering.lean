import GuestAudio.Block.Playback
import GuestAudio.Proofs.Buffer.Pieces

set_option autoImplicit false

/-! # Rendering one buffer after the other

A device calls for buffer after buffer. `Playback.renderEach` is such a sequence of calls, and
`renderEach_eq` says what it comes to: the buffers are cut into pieces, each buffer on its own, and
the pieces are rendered in a row. The lengths of the pieces follow from those of the buffers
(`OutputFormat.cuts`). -/

namespace GuestAudio

/-! ## The cuts of buffers in a row -/

/-- The lengths of all pieces of buffers in a row. -/
def OutputFormat.cuts (f : OutputFormat) (lengths : List Nat) : List Nat :=
  lengths.flatMap (pieceLengths f.blockSamples)

theorem OutputFormat.cuts_bounds {f : OutputFormat} {lengths : List Nat} {n : Nat}
    (hf : 0 < f.blockSamples) (h : n ∈ f.cuts lengths) : 0 < n ∧ n ≤ f.blockSamples := by
  obtain ⟨length, -, hn⟩ := List.mem_flatMap.1 h
  exact pieceLengths_bounds hf hn

theorem OutputFormat.cuts_replicate {f : OutputFormat} (hf : 0 < f.blockSamples) (k : Nat) :
    f.cuts (List.replicate k f.blockSamples) = List.replicate k f.blockSamples := by
  induction k with
  | zero => rfl
  | succ k ih =>
    unfold cuts at ih ⊢
    rw [List.replicate_succ, List.flatMap_cons, ih, pieceLengths_of_dvd (Nat.dvd_refl _),
      Nat.div_self hf]
    rfl

/-- All pieces are full blocks just if every buffer is a whole number of them. -/
theorem OutputFormat.cuts_eq_replicate_iff {α : Type} {f : OutputFormat}
    (hf : 0 < f.blockSamples) (buffers : List (List α)) (k : Nat) :
    f.cuts (buffers.map List.length) = List.replicate k f.blockSamples ↔
      (∀ buffer ∈ buffers, f.blockSamples ∣ buffer.length) ∧
        buffers.flatten.length = k * f.blockSamples := by
  constructor
  · intro h
    refine ⟨fun buffer hbuffer => ?_, ?_⟩
    · refine Nat.dvd_of_mod_eq_zero (Decidable.byContradiction fun hmod => ?_)
      have hrest : buffer.length % f.blockSamples ∈ pieceLengths f.blockSamples buffer.length := by
        rw [pieceLengths, if_neg hmod]
        exact List.mem_append_right _ List.mem_cons_self
      have hfull : buffer.length % f.blockSamples ∈ List.replicate k f.blockSamples :=
        h ▸ List.mem_flatMap.2 ⟨_, List.mem_map_of_mem hbuffer, hrest⟩
      exact absurd (List.eq_of_mem_replicate hfull) (Nat.ne_of_lt (Nat.mod_lt _ hf))
    · rw [← flatten_flatMap_chunks f.blockSamples, List.length_flatten,
        map_length_flatMap_chunks hf]
      unfold cuts at h
      rw [h, List.sum_replicate_nat]
  · rintro ⟨hdvd, htotal⟩
    induction buffers generalizing k with
    | nil =>
      have hk : k = 0 := by
        rcases Nat.mul_eq_zero.1 htotal.symm with hk | hk
        · exact hk
        · exact absurd hk (Nat.ne_of_gt hf)
      rw [hk]
      rfl
    | cons buffer rest ih =>
      obtain ⟨j, hj⟩ := hdvd buffer List.mem_cons_self
      rw [List.flatten_cons, List.length_append, hj, Nat.mul_comm f.blockSamples] at htotal
      -- the first buffer takes `j` of the blocks, so that the others share `k - j`
      have hjk : j ≤ k := Nat.le_of_mul_le_mul_right (by omega) hf
      have hrest : rest.flatten.length = (k - j) * f.blockSamples := by
        rw [Nat.sub_mul]
        omega
      have hcuts := ih (k - j) (fun b hb => hdvd b (List.mem_cons_of_mem _ hb)) hrest
      unfold cuts at hcuts ⊢
      rw [List.map_cons, List.flatMap_cons, hcuts, pieceLengths_of_dvd ⟨j, hj⟩, hj,
        Nat.mul_div_cancel_left j hf, List.replicate_append_replicate, Nat.add_sub_cancel' hjk]

/-! ## The format stays -/

variable {γ : Type}

theorem BlockFiller.format_compose {f g : BlockFiller} {v : Volume} {answer : Option GuestBlock}
    {region region' : Bytes} {outcome : FillOutcome}
    (h : f.compose v answer region = .ok (outcome, region', g)) : g.format = f.format := by
  unfold compose at h
  cases answer with
  | none => cases h; rfl
  | some block =>
    dsimp only at h
    split at h
    · cases h; rfl
    · split at h
      · cases h; rfl
      · obtain ⟨⟨work, unused⟩, -, h⟩ := bind_eq_ok_iff.1 h
        obtain ⟨⟨target, rest⟩, -, h⟩ := bind_eq_ok_iff.1 h
        obtain ⟨⟨source, rest'⟩, -, h⟩ := bind_eq_ok_iff.1 h
        obtain ⟨mixing, -, h⟩ := bind_eq_ok_iff.1 h
        cases h
        rfl

theorem BlockFiller.format_fill {handler : InterruptHandler γ} {f : BlockFiller} {m : Machine γ}
    {region : Bytes} {filled : Logged (FilledRegion γ)}
    (h : f.fill handler m region = .ok filled) : filled.value.filler.format = f.format := by
  unfold fill at h
  split at h
  · obtain ⟨⟨⟨answer, guest, shared⟩, log⟩, -, h⟩ := bind_eq_ok_iff.1 h
    obtain ⟨⟨outcome, region, filler⟩, hcompose, h⟩ := bind_eq_ok_iff.1 h
    cases h
    exact format_compose (liftM_eq_ok_iff.1 hcompose)
  · cases h
    rfl

namespace Playback

variable {t : NativeType} {handler : InterruptHandler γ}

theorem format_renderBlock {p : Playback} {m : Machine γ} {block : List t.Sample}
    {r : Logged (Rendered t γ)} (h : p.renderBlock t handler m block = .ok r) :
    r.value.playback.filler.format = p.filler.format := by
  obtain ⟨⟨bytes, unused⟩, -, h⟩ := bind_eq_ok_iff.1 h
  obtain ⟨⟨filled, log⟩, hfill, h⟩ := bind_eq_ok_iff.1 h
  cases h
  exact BlockFiller.format_fill hfill

theorem format_renderAll {p : Playback} {m : Machine γ} {blocks : List (List t.Sample)}
    {r : Logged (Rendered t γ)} (h : renderAll t handler p m blocks = .ok r) :
    r.value.playback.filler.format = p.filler.format := by
  induction blocks generalizing p m r with
  | nil => cases h; rfl
  | cons block rest ih =>
    obtain ⟨⟨first, log₁⟩, hfirst, h⟩ := bind_eq_ok_iff.1 h
    obtain ⟨⟨others, log₂⟩, hothers, h⟩ := bind_eq_ok_iff.1 h
    cases h
    exact (ih hothers).trans (format_renderBlock hfirst)

/-! ## One piece -/

/-- A piece is filled in the start of the wire bytes, of which the others stay. -/
theorem renderBlock_of_fill {p : Playback} {m : Machine γ} {block : List t.Sample}
    {filled : FilledRegion γ} {log : Log}
    (hn : block.length * p.filler.format.layout.sampleBytes ≤ p.wire.length)
    (hfill : p.filler.fill handler m
      (p.wire.take (block.length * p.filler.format.layout.sampleBytes)) = .ok ⟨filled, log⟩) :
    p.renderBlock t handler m block = .ok ⟨{
      samples := convertInto t p.filler.format.layout filled.region block
      playback := {
        filler := filled.filler
        wire := filled.region ++ p.wire.drop (block.length * p.filler.format.layout.sampleBytes) }
      machine := filled.machine }, log⟩ := by
  unfold renderBlock
  dsimp only
  rw [slice_of_le hn, liftM_ok, ok_bind]
  dsimp only
  rw [hfill]
  rfl

/-! ## Buffers in a row -/

/-- Render one device buffer after the other. -/
def renderEach (t : NativeType) (handler : InterruptHandler γ) :
    Playback → Machine γ → List (List t.Sample) → Run (Logged (Rendered t γ))
  | p, m, [] => return ⟨{ samples := [], playback := p, machine := m }, []⟩
  | p, m, buffer :: rest => do
      let ⟨first, log₁⟩ ← p.render t handler m buffer
      let ⟨others, log₂⟩ ← renderEach t handler first.playback first.machine rest
      return ⟨{ others with samples := first.samples ++ others.samples }, log₁ ++ log₂⟩

theorem renderAll_append (t : NativeType) (handler : InterruptHandler γ) (p : Playback)
    (m : Machine γ) (xs ys : List (List t.Sample)) :
    renderAll t handler p m (xs ++ ys) = do
      let ⟨first, log₁⟩ ← renderAll t handler p m xs
      let ⟨others, log₂⟩ ← renderAll t handler first.playback first.machine ys
      return ⟨{ others with samples := first.samples ++ others.samples }, log₁ ++ log₂⟩ := by
  induction xs generalizing p m with
  | nil =>
    rw [List.nil_append, renderAll, pure_bind]
    dsimp only
    cases renderAll t handler p m ys <;> rfl
  | cons block rest ih =>
    rw [List.cons_append, renderAll, renderAll]
    cases p.renderBlock t handler m block with
    | error e => rfl
    | ok first =>
      simp only [ih, bind, Except.bind]
      cases renderAll t handler first.value.playback first.value.machine rest with
      | error e => rfl
      | ok middle =>
        dsimp only [pure, Except.pure]
        cases renderAll t handler middle.value.playback middle.value.machine ys with
        | error e => rfl
        | ok last => simp only [List.append_assoc]

/-- Buffers in a row are their pieces in a row. -/
theorem renderEach_eq (t : NativeType) (handler : InterruptHandler γ) (p : Playback)
    (m : Machine γ) (buffers : List (List t.Sample)) :
    renderEach t handler p m buffers =
      renderAll t handler p m (buffers.flatMap (chunks p.filler.format.chunkSamples)) := by
  induction buffers generalizing p m with
  | nil => rfl
  | cons buffer rest ih =>
    rw [List.flatMap_cons, renderAll_append, renderEach, render]
    cases hfirst : renderAll t handler p m (chunks p.filler.format.chunkSamples buffer) with
    | error e => rfl
    | ok first =>
      -- the buffers that follow are cut as they are in the format at the start
      have hformat := format_renderAll hfirst
      dsimp only [bind, Except.bind]
      rw [ih, hformat]

end Playback

end GuestAudio
