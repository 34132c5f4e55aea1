import GuestAudio.Proofs.Block.GuestSide

set_option autoImplicit false

/-! # Silence

A piece of a device buffer is silent for any of several reasons: no source is active, the guest has
no block or an empty one, a mute is set, or the volume is zero (`Stilled`). Whatever the reason, the
region holds silence bytes only (`Stilled.regionFor`) and its samples are all at rest
(`Stilled.pieceSamples`), so a buffer of such pieces is at rest from end to end (`render_silent`).

While a buffer is rendered, others may turn a volume, set a mute or remove a source, and the guest
may be changed from elsewhere. `Playback.renderAmid` is rendering with such changes between the
pieces; without any of them it is `Playback.render` (`renderAmid_undisturbed`). A volume that is set
while a piece waits for the guest is the one that the piece reads afterwards, so it may as well have
been set before the piece. -/

namespace GuestAudio

variable {γ : Type}

/-! ## Why a piece is silent -/

/-- A piece has nothing to play at this volume, for what the guest answered if it was asked. -/
inductive Stilled (v : Volume) : Option (Option GuestBlock) → Prop
  /-- No source is active, and the guest was not asked. -/
  | noSource : Stilled v none
  /-- The guest has no block. -/
  | noBlock : Stilled v (some none)
  /-- The block describes no frames. -/
  | noFrames {block : GuestBlock} (h : block.frameCount = 0) : Stilled v (some (some block))
  /-- The block holds no bytes. -/
  | noBytes {block : GuestBlock} (h : block.bytes = []) : Stilled v (some (some block))
  /-- One of the two controls is muted. -/
  | muted {answer? : Option (Option GuestBlock)} (h : v.isMuted = true) : Stilled v answer?
  /-- The volume for mixing is zero. -/
  | volumeZero {answer? : Option (Option GuestBlock)} (h : v.mixing = .ok 0) : Stilled v answer?

theorem Volume.scale_of_mixing {v : Volume} {n : Nat} (h : v.mixing = .ok n) :
    v.main.level.toNat * v.speaker.level.toNat * 128 / 65536 = n := by
  obtain ⟨product, hproduct, hn⟩ := bind_eq_ok_iff.1 h
  obtain ⟨-, rfl⟩ := fitting_eq_ok_iff.1 hproduct
  cases hn
  rfl

theorem GuestBlock.sourceFor_of_empty {block : GuestBlock} (h : block.bytes = [])
    (channels : UInt16) (room : Nat) : block.sourceFor channels room = [] := by
  simp [sourceFor, h]

/-- Silence, whether or not there was a source to mix. -/
theorem soundFor_of_source_silent {w : WireLayout} {channels : UInt16} {blockBytes : Nat}
    {block : GuestBlock} {v : Volume} {length : Nat}
    (h : ∀ room ≤ length,
      attenuate w (v.main.level.toNat * v.speaker.level.toNat * 128 / 65536)
          (block.sourceFor channels room) =
        List.replicate (block.sourceFor channels room).length w.silence) :
    (soundFor w channels blockBytes (some block) v length).2 =
      List.replicate length w.silence := by
  unfold soundFor
  dsimp only
  split
  · rfl
  · have hroom : min (min (block.frameCount.toNat * (w.sampleBytes * channels.toNat)) length)
        blockBytes ≤ length := by omega
    have hsource := Nat.le_trans (block.length_sourceFor_le channels _) hroom
    rw [h _ hroom, List.replicate_append_replicate, Nat.add_sub_cancel' hsource]

/-- A stilled piece leaves nothing but silence bytes. -/
theorem Stilled.regionFor {v : Volume} {answer? : Option (Option GuestBlock)}
    (h : Stilled v answer?) (w : WireLayout) (channels : UInt16) (blockBytes length : Nat) :
    (regionFor w channels blockBytes answer?.isSome answer?.join v length).2 =
      List.replicate length w.silence := by
  -- only a piece for which the guest has a block is made in one of two ways
  rcases answer? with _ | _ | block
  · rfl
  · rfl
  show (soundFor w channels blockBytes (some block) v length).2 = _
  cases h with
  | noFrames h => simp [soundFor, h]
  | noBytes h =>
    apply soundFor_of_source_silent
    intro room _
    rw [GuestBlock.sourceFor_of_empty h]
    cases w <;> rfl
  | muted h =>
    have hmuted : v.main.muted = true ∨ v.speaker.muted = true := by
      simpa [Volume.isMuted] using h
    rcases hmuted with hmuted | hmuted <;> simp [soundFor, hmuted]
  | volumeZero h =>
    apply soundFor_of_source_silent
    intro room _
    rw [Volume.scale_of_mixing h, attenuate_zero]

/-- The samples of a stilled piece are all at rest. -/
theorem Stilled.pieceSamples {v : Volume} {answer? : Option (Option GuestBlock)}
    (h : Stilled v answer?) (f : OutputFormat) (t : NativeType) (n : Nat) :
    f.pieceSamples t v answer? n = List.replicate n t.atRest := by
  rw [OutputFormat.pieceSamples, h.regionFor, OutputFormat.nativeSamples,
    WireLayout.samples_replicate_silence, Nat.mul_div_cancel n f.layout.sampleBytes_pos,
    List.map_replicate, NativeType.ofWire_zero]

/-! ## Rendering while others act -/

namespace Playback

/-- Render pieces, where others change the machine before each of them. -/
def renderAllAmid (t : NativeType) (handler : InterruptHandler γ) :
    (Nat → Machine γ → Machine γ) → Playback → Machine γ → List (List t.Sample) →
      Run (Logged (Rendered t γ))
  | _, p, m, [] => return ⟨{ samples := [], playback := p, machine := m }, []⟩
  | others, p, m, piece :: rest => do
      let ⟨first, log₁⟩ ← p.renderBlock t handler (others 0 m) piece
      let ⟨later, log₂⟩ ←
        renderAllAmid t handler (fun i => others (i + 1)) first.playback first.machine rest
      return ⟨{ later with samples := first.samples ++ later.samples }, log₁ ++ log₂⟩

/-- Render a device buffer, where others change the machine before each of its pieces. -/
def renderAmid (t : NativeType) (handler : InterruptHandler γ)
    (others : Nat → Machine γ → Machine γ) (p : Playback) (m : Machine γ)
    (buffer : List t.Sample) : Run (Logged (Rendered t γ)) :=
  renderAllAmid t handler others p m (chunks p.filler.format.chunkSamples buffer)

theorem renderAllAmid_undisturbed (t : NativeType) (handler : InterruptHandler γ) (p : Playback)
    (m : Machine γ) (pieces : List (List t.Sample)) :
    renderAllAmid t handler (fun _ => id) p m pieces = renderAll t handler p m pieces := by
  induction pieces generalizing p m with
  | nil => rfl
  | cons piece rest ih =>
    rw [renderAllAmid, renderAll]
    simp only [ih, id_eq]

/-- If nobody else acts, it is rendering as ever. -/
theorem renderAmid_undisturbed (t : NativeType) (handler : InterruptHandler γ) (p : Playback)
    (m : Machine γ) (buffer : List t.Sample) :
    renderAmid t handler (fun _ => id) p m buffer = p.render t handler m buffer :=
  renderAllAmid_undisturbed t handler p m _

end Playback

/-- Each of `n` pieces in a row is stilled, for whatever reason there is by then. -/
inductive StaysStill (handler : InterruptHandler γ) :
    (Nat → Machine γ → Machine γ) → Machine γ → Nat → Prop
  | done {others : Nat → Machine γ → Machine γ} {m : Machine γ} : StaysStill handler others m 0
  | piece {others : Nat → Machine γ → Machine γ} {m : Machine γ} {n : Nat}
      {answer? : Option (Option GuestBlock)} {guest : γ} {shared : SharedState} {log : Log}
      (attend : (others 0 m).shared.attend handler (others 0 m).guest =
        .ok ⟨(answer?, guest, shared), log⟩)
      (inRange : (others 0 m).volume.InRange)
      (stilled : Stilled (others 0 m).volume answer?)
      (rest : StaysStill handler (fun i => others (i + 1)) { others 0 m with shared, guest } n) :
      StaysStill handler others m (n + 1)

namespace Playback

variable {t : NativeType} {handler : InterruptHandler γ} {f : OutputFormat} {p : Playback}
  {m : Machine γ} {others : Nat → Machine γ → Machine γ}

theorem renderAllAmid_silent {pieces : List (List t.Sample)} (hp : p.Fits f)
    (hpieces : ∀ piece ∈ pieces, piece.length ≤ f.blockSamples)
    (h : StaysStill handler others m pieces.length) :
    ∃ r, renderAllAmid t handler others p m pieces = .ok r ∧
      r.value.samples = List.replicate pieces.flatten.length t.atRest := by
  induction pieces generalizing p m others with
  | nil => exact ⟨_, rfl, rfl⟩
  | cons piece rest ih =>
    cases h with
    | @piece _ _ _ answer? guest shared log hattend hv hstilled hrest =>
      obtain ⟨playback, hfits, hfirst⟩ :=
        renderBlock_of_attend (t := t) hp hv (hpieces piece List.mem_cons_self) hattend
      obtain ⟨later, hlater, hsamples⟩ :=
        ih hfits (fun piece' hmem => hpieces piece' (List.mem_cons_of_mem _ hmem)) hrest
      rw [hstilled.pieceSamples] at hfirst
      refine ⟨⟨{ later.value with
        samples := List.replicate piece.length t.atRest ++ later.value.samples },
        log ++ later.log⟩, ?_, ?_⟩
      · rw [renderAllAmid, hfirst, ok_bind]
        dsimp only
        rw [hlater]
        rfl
      · rw [hsamples, List.replicate_append_replicate, List.flatten_cons, List.length_append]

/-- **Silence reaches the device as silence.** If each piece of a device buffer is stilled, for
    whatever reason, while others act as they like between the pieces, then rendering comes to its
    end and every sample written is at rest, whatever was in the device's buffer and in the buffers
    on the way. -/
theorem render_silent (t : NativeType) (handler : InterruptHandler γ) (f : OutputFormat)
    (p : Playback) (m : Machine γ) (others : Nat → Machine γ → Machine γ)
    (buffer : List t.Sample) (hchannels : 0 < f.channels.toNat)
    (hframes : 0 < f.framesPerBlock.toNat) (hp : p.Fits f)
    (h : StaysStill handler others m (f.blocksFor buffer.length)) :
    (∃ r, p.renderAmid t handler others m buffer = .ok r ∧
      r.value.samples = List.replicate buffer.length t.atRest) ∧
    p.renderAmid t handler (fun _ => id) m buffer = p.render t handler m buffer := by
  have hf : 0 < f.blockSamples := f.blockSamples_pos_iff.2 ⟨hframes, hchannels⟩
  refine ⟨?_, renderAmid_undisturbed t handler p m buffer⟩
  rw [f.blocksFor_eq_length_chunks hf] at h
  obtain ⟨r, hrender, hsamples⟩ :=
    renderAllAmid_silent (t := t) hp (fun piece => length_le_of_mem_chunks hf) h
  refine ⟨r, ?_, ?_⟩
  · rw [renderAmid, hp.format, f.chunkSamples_eq hf, hrender]
  · rw [hsamples, flatten_chunks]

/-- Five samples in pieces of two: the guest has no block for the first, the speaker is muted before
    the second, and the source is removed before the third. -/
theorem render_silent_three_reasons :
    let f : OutputFormat := ⟨44100, .byte, 2, 1⟩
    let p : Playback := { filler := ⟨f, [1, 2]⟩, wire := [3, 4, 5] }
    let m : Machine QueuedGuest := {
      shared := { status := { sources := 1, mixer := 1 } }
      volume := .full
      guest := { queue := [none, some ⟨1, 8, 2, [0xff, 0xff]⟩] } }
    let others : Nat → Machine QueuedGuest → Machine QueuedGuest := fun i m =>
      if i = 1 then { m with volume := m.volume.apply (.speaker (.mute true)) }
      else if i = 2 then { m with
        volume := m.volume.apply (.speaker (.mute false))
        shared := m.shared.removeSource.2 }
      else m
    (0 < f.channels.toNat ∧ 0 < f.framesPerBlock.toNat ∧ p.Fits f ∧
      StaysStill QueuedGuest.handler others m (f.blocksFor 5)) ∧
    ∃ r, p.renderAmid .u16 QueuedGuest.handler others m [1, 2, 3, 4, 5] = .ok r ∧
      r.value.samples = [32768, 32768, 32768, 32768, 32768] := by
  intro f p m others
  have hp : p.Fits f := ⟨rfl, rfl, by decide⟩
  have hstill : StaysStill QueuedGuest.handler others m (f.blocksFor 5) := by
    have hblocks : f.blocksFor 5 = 3 := by decide
    rw [hblocks]
    refine .piece rfl (by decide) .noBlock ?_
    refine .piece rfl (by decide) (.muted rfl) ?_
    exact .piece rfl (by decide) .noSource .done
  exact ⟨⟨by decide, by decide, hp, hstill⟩,
    (render_silent .u16 QueuedGuest.handler f p m others [1, 2, 3, 4, 5] (by decide) (by decide) hp
      hstill).1⟩

end Playback

end GuestAudio
