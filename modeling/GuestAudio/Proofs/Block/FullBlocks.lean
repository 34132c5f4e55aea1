import GuestAudio.Proofs.Block.Region
import GuestAudio.Proofs.Block.Rendering
import GuestAudio.Proofs.Guest.Exchange

set_option autoImplicit false

/-! # Full blocks at full volume

Take a guest that keeps to the rules, at full volume, with blocks queued that have the format of the
device. Then a piece of a device buffer plays the start of the block that is next in the queue, and
takes that block off the queue (`renderBlock_of_plays`), so that pieces in a row play the starts of
as many blocks (`renderEach_of_plays`). Where all buffers hold whole blocks, every block is played
to its end (`renderEach_whole`). -/

namespace GuestAudio

/-! ## A well-behaved guest -/

/-- A block has the format of the device: its layout, its channels and the frames of a block. -/
structure GuestBlock.Fits (b : GuestBlock) (f : OutputFormat) : Prop where
  bits : b.sampleBits = f.sampleBits
  channels : b.channels = f.channels
  frames : f.framesPerBlock ≤ b.frameCount
  bytes : b.bytes.length = f.blockBytes

/-- A source is active, the guest keeps to the rules, nothing is left to collect, and the volume is
    full. -/
structure Machine.Plays (m : Machine QueuedGuest) : Prop where
  source : m.shared.status.hasSource = true
  mixer : m.shared.status.mixer ≠ 0
  reaction : m.guest.reaction = .ifRaised
  posts : m.shared.rendezvous.posts = 0
  volume : m.volume = .full

/-! ## The sound of a piece -/

/-- The native samples of wire bytes. -/
def OutputFormat.nativeSamples (f : OutputFormat) (t : NativeType) (bytes : Bytes) :
    List t.Sample :=
  (f.layout.samples bytes).map (t.ofWire f.layout)

theorem OutputFormat.length_nativeSamples (f : OutputFormat) (t : NativeType) (bytes : Bytes) :
    (f.nativeSamples t bytes).length = bytes.length / f.layout.sampleBytes := by
  rw [nativeSamples, List.length_map, WireLayout.length_samples]

theorem OutputFormat.nativeSamples_take (f : OutputFormat) (t : NativeType) (bytes : Bytes)
    (n : Nat) :
    f.nativeSamples t (bytes.take (n * f.layout.sampleBytes)) =
      (f.nativeSamples t bytes).take n := by
  rw [nativeSamples, WireLayout.samples_take, List.map_take]
  rfl

/-- Converting into a buffer of the right length leaves nothing of what was in it. -/
theorem convertInto_of_length_eq {f : OutputFormat} {t : NativeType} {bytes : Bytes}
    {out : List t.Sample} (h : out.length = bytes.length / f.layout.sampleBytes) :
    convertInto t f.layout bytes out = f.nativeSamples t bytes := by
  rw [convertInto, overlay_of_length_eq]
  · rfl
  · rw [List.length_map, WireLayout.length_samples, h]

theorem GuestBlock.Fits.length_nativeSamples {b : GuestBlock} {f : OutputFormat} (h : b.Fits f)
    (t : NativeType) : (f.nativeSamples t b.bytes).length = f.blockSamples := by
  rw [OutputFormat.length_nativeSamples, h.bytes, OutputFormat.blockBytes_eq,
    Nat.mul_div_cancel _ f.layout.sampleBytes_pos]

/-- A piece takes the bytes at the start of the block, as they are. -/
theorem GuestBlock.Fits.soundFor_eq {b : GuestBlock} {f : OutputFormat} (h : b.Fits f) {n : Nat}
    (hpos : 0 < n) (hn : n ≤ f.blockSamples) :
    soundFor f.layout f.channels f.blockBytes (some b) .full (n * f.layout.sampleBytes) =
      (.mixed (n * f.layout.sampleBytes), b.bytes.take (n * f.layout.sampleBytes)) := by
  have hbytes : n * f.layout.sampleBytes ≤ f.blockBytes := by
    rw [OutputFormat.blockBytes_eq]
    exact Nat.mul_le_mul_right _ hn
  have hframes : f.blockBytes ≤
      b.frameCount.toNat * (f.layout.sampleBytes * f.channels.toNat) :=
    Nat.mul_le_mul_right _ (UInt32.le_iff_toNat_le.1 h.frames)
  have hroom : min (min (b.frameCount.toNat * (f.layout.sampleBytes * f.channels.toNat))
      (n * f.layout.sampleBytes)) f.blockBytes = n * f.layout.sampleBytes := by
    omega
  have hne : n * f.layout.sampleBytes ≠ 0 :=
    Nat.ne_of_gt (Nat.mul_pos hpos f.layout.sampleBytes_pos)
  -- a block of the device's channels is never widened
  have hsource : b.sourceFor f.channels (n * f.layout.sampleBytes) =
      b.bytes.take (n * f.layout.sampleBytes) := by
    rw [sourceFor, if_neg]
    rintro ⟨htwo, hone, -⟩
    rw [h.channels, htwo] at hone
    exact absurd hone (by decide)
  have hlength : (b.bytes.take (n * f.layout.sampleBytes)).length = n * f.layout.sampleBytes :=
    List.length_take_of_le (by rw [h.bytes]; exact hbytes)
  have hunity : Volume.full.main.level.toNat * Volume.full.speaker.level.toNat * 128 / 65536 =
      unityVolume := by decide
  unfold soundFor
  dsimp only
  rw [hroom, if_neg (by simp [Volume.full, hne]), hsource, hlength, hunity, attenuate_unity
    (by rw [hlength]; exact Nat.dvd_mul_left _ _), Nat.sub_self, List.replicate_zero,
    List.append_nil]

/-! ## Pieces in a row -/

/-- The buffers of a playback have room for the blocks of a format. -/
structure Playback.Fits (p : Playback) (f : OutputFormat) : Prop where
  format : p.filler.format = f
  scratch : p.filler.scratch.length = f.blockBytes
  wire : f.blockBytes ≤ p.wire.length

theorem Playback.fits_ofFormat (f : OutputFormat) : (ofFormat f).Fits f where
  format := rfl
  scratch := List.length_replicate
  wire := Nat.le_of_eq List.length_replicate.symm

/-- The samples of pieces in a row, each of which plays the start of its block. -/
def OutputFormat.startsOf (f : OutputFormat) (t : NativeType)
    (lengths : List Nat) (blocks : List GuestBlock) : List t.Sample :=
  (List.zipWith (fun n (b : GuestBlock) => (f.nativeSamples t b.bytes).take n) lengths
    blocks).flatten

/-- What has been rendered so far, and where the guest stands. -/
structure Rendered.Leaves {t : NativeType} (r : Rendered t QueuedGuest) (f : OutputFormat)
    (samples : List t.Sample) (queue : List (Option GuestBlock)) (interrupts : Nat) : Prop where
  samples : r.samples = samples
  fits : r.playback.Fits f
  plays : r.machine.Plays
  queue : r.machine.guest.queue = queue
  interrupts : r.machine.guest.interrupts = interrupts

namespace Playback

variable {t : NativeType} {f : OutputFormat} {p : Playback} {m : Machine QueuedGuest}

/-- A piece plays the start of the next block, and takes the block off the queue. -/
theorem renderBlock_of_plays {b : GuestBlock} {rest : List (Option GuestBlock)}
    {piece : List t.Sample} (hp : p.Fits f) (hm : m.Plays) (hb : b.Fits f)
    (hqueue : m.guest.queue = some b :: rest) (hpos : 0 < piece.length)
    (hn : piece.length ≤ f.blockSamples) :
    ∃ r, p.renderBlock t QueuedGuest.handler m piece = .ok r ∧
      r.value.Leaves f ((f.nativeSamples t b.bytes).take piece.length) rest
        (m.guest.interrupts + 1) := by
  have hobtain := QueuedGuest.obtain_of_queue hm.mixer hm.reaction hm.posts hqueue
  have hbytes : piece.length * f.layout.sampleBytes ≤ f.blockBytes := by
    rw [OutputFormat.blockBytes_eq]
    exact Nat.mul_le_mul_right _ hn
  have hslice := Nat.le_trans hbytes hp.wire
  have hlength : (p.wire.take (piece.length * f.layout.sampleBytes)).length =
      piece.length * f.layout.sampleBytes := List.length_take_of_le hslice
  obtain ⟨scratch, hscratch, hfill⟩ := BlockFiller.fill_of_obtain (f := p.filler) hm.source
    (hm.volume ▸ Volume.inRange_full) hobtain (p.wire.take (piece.length * f.layout.sampleBytes))
  rw [hlength, hp.scratch, hp.format, hm.volume, hb.soundFor_eq hpos hn] at hfill
  have hrender : p.renderBlock t QueuedGuest.handler m piece = .ok _ :=
    renderBlock_of_fill (by rw [hp.format]; exact hslice) (by rw [hp.format]; exact hfill)
  refine ⟨_, hrender, ?_, ?_, ?_, rfl, rfl⟩
  · show convertInto t p.filler.format.layout (b.bytes.take (piece.length * f.layout.sampleBytes))
      piece = _
    have hstart : (b.bytes.take (piece.length * f.layout.sampleBytes)).length =
        piece.length * f.layout.sampleBytes := List.length_take_of_le (hb.bytes ▸ hbytes)
    rw [hp.format, convertInto_of_length_eq, f.nativeSamples_take]
    -- the piece has as many samples as its bytes
    rw [hstart, Nat.mul_div_cancel _ f.layout.sampleBytes_pos]
  · refine ⟨rfl, hscratch.trans hp.scratch, ?_⟩
    show f.blockBytes ≤ (b.bytes.take (piece.length * f.layout.sampleBytes) ++
      p.wire.drop (piece.length * p.filler.format.layout.sampleBytes)).length
    rw [hp.format, List.length_append, List.length_take, List.length_drop, hb.bytes]
    have := hp.wire
    omega
  · exact ⟨hm.source, hm.mixer, hm.reaction, rfl, rfl⟩

theorem renderAll_of_plays {blocks : List GuestBlock} {rest : List (Option GuestBlock)}
    {pieces : List (List t.Sample)} (hp : p.Fits f) (hm : m.Plays)
    (hb : ∀ b ∈ blocks, b.Fits f) (hqueue : m.guest.queue = blocks.map some ++ rest)
    (hpieces : ∀ piece ∈ pieces, 0 < piece.length ∧ piece.length ≤ f.blockSamples)
    (henough : pieces.length ≤ blocks.length) :
    ∃ r, renderAll t QueuedGuest.handler p m pieces = .ok r ∧
      r.value.Leaves f (f.startsOf t (pieces.map List.length) blocks)
        ((blocks.drop pieces.length).map some ++ rest) (m.guest.interrupts + pieces.length) := by
  induction pieces generalizing p m blocks with
  | nil => exact ⟨_, rfl, rfl, hp, hm, hqueue, rfl⟩
  | cons piece others ih =>
    cases blocks with
    | nil => exact absurd henough (Nat.not_succ_le_zero _)
    | cons b later =>
      obtain ⟨hpos, hn⟩ := hpieces piece List.mem_cons_self
      obtain ⟨first, hfirst, hleaves⟩ :=
        renderBlock_of_plays hp hm (hb b List.mem_cons_self) hqueue hpos hn
      obtain ⟨last, hlast, hrest⟩ := ih hleaves.fits hleaves.plays
        (fun b' hb' => hb b' (List.mem_cons_of_mem _ hb')) hleaves.queue
        (fun piece' h => hpieces piece' (List.mem_cons_of_mem _ h))
        (Nat.le_of_succ_le_succ henough)
      refine ⟨⟨{ last.value with samples := first.value.samples ++ last.value.samples },
        first.log ++ last.log⟩, ?_, ?_, hrest.fits, hrest.plays, hrest.queue, ?_⟩
      · rw [renderAll, hfirst]
        dsimp only [bind, Except.bind]
        rw [hlast]
        rfl
      · show first.value.samples ++ last.value.samples = _
        rw [hleaves.samples, hrest.samples]
        rfl
      · show last.value.machine.guest.interrupts = _
        rw [hrest.interrupts, hleaves.interrupts, List.length_cons]
        omega

/-- Buffers play the starts of as many blocks as they have pieces. -/
theorem renderEach_of_plays {blocks : List GuestBlock} {rest : List (Option GuestBlock)}
    {lengths : List Nat} (buffers : List (List t.Sample)) (hf : 0 < f.blockSamples) (hp : p.Fits f)
    (hm : m.Plays) (hb : ∀ b ∈ blocks, b.Fits f) (hqueue : m.guest.queue = blocks.map some ++ rest)
    (hlengths : buffers.map List.length = lengths)
    (henough : (f.cuts lengths).length ≤ blocks.length) :
    ∃ r, renderEach t QueuedGuest.handler p m buffers = .ok r ∧
      r.value.Leaves f (f.startsOf t (f.cuts lengths) blocks)
        ((blocks.drop (f.cuts lengths).length).map some ++ rest)
        (m.guest.interrupts + (f.cuts lengths).length) := by
  have hchunk : f.chunkSamples = f.blockSamples := Nat.max_eq_left hf
  have hmap : (buffers.flatMap (chunks f.blockSamples)).map List.length = f.cuts lengths := by
    rw [map_length_flatMap_chunks hf, hlengths]
    rfl
  have hlength : (buffers.flatMap (chunks f.blockSamples)).length = (f.cuts lengths).length := by
    rw [← hmap, List.length_map]
  have hpieces : ∀ piece ∈ buffers.flatMap (chunks f.blockSamples),
      0 < piece.length ∧ piece.length ≤ f.blockSamples := by
    intro piece h
    have hmem : piece.length ∈ f.cuts lengths := hmap ▸ List.mem_map_of_mem h
    exact OutputFormat.cuts_bounds hf hmem
  rw [renderEach_eq, hp.format, hchunk, ← hlength, ← hmap]
  exact renderAll_of_plays hp hm hb hqueue hpieces (hlength ▸ henough)

/-! ## Whole blocks -/

theorem startsOf_replicate {blocks : List GuestBlock} (t : NativeType)
    (hb : ∀ b ∈ blocks, b.Fits f) :
    f.startsOf t (List.replicate blocks.length f.blockSamples) blocks =
      f.nativeSamples t (blocks.flatMap GuestBlock.bytes) := by
  induction blocks with
  | nil =>
    have h : f.layout.samples [] = [] := by cases f.layout <;> rfl
    rw [List.flatMap_nil, OutputFormat.nativeSamples, h]
    rfl
  | cons b rest ih =>
    have hfits := hb b List.mem_cons_self
    have hdvd : f.layout.sampleBytes ∣ b.bytes.length := by
      rw [hfits.bytes, OutputFormat.blockBytes_eq]
      exact Nat.dvd_mul_left _ _
    have hrest := ih fun b' h => hb b' (List.mem_cons_of_mem _ h)
    unfold OutputFormat.startsOf at hrest ⊢
    rw [List.length_cons, List.replicate_succ, List.zipWith_cons_cons, List.flatten_cons, hrest,
      List.take_of_length_le (Nat.le_of_eq (hfits.length_nativeSamples t)), List.flatMap_cons]
    unfold OutputFormat.nativeSamples
    rw [WireLayout.samples_append _ hdvd, List.map_append]

/-- **Nothing is lost, repeated, reordered or altered** on the way from a guest that keeps to the
    rules to a device that asks for whole blocks: what the device gets in all its buffers is the
    conversion of all the bytes that the guest queued. -/
theorem renderEach_whole (t : NativeType) (f : OutputFormat) (p : Playback)
    (m : Machine QueuedGuest) (blocks : List GuestBlock) (rest : List (Option GuestBlock))
    (buffers : List (List t.Sample)) (hchannels : 0 < f.channels.toNat)
    (hframes : 0 < f.framesPerBlock.toNat) (hp : p.Fits f) (hm : m.Plays)
    (hb : ∀ b ∈ blocks, b.Fits f) (hqueue : m.guest.queue = blocks.map some ++ rest)
    (hwhole : ∀ buffer ∈ buffers, f.blockSamples ∣ buffer.length)
    (htotal : buffers.flatten.length = blocks.length * f.blockSamples) :
    ∃ r, renderEach t QueuedGuest.handler p m buffers = .ok r ∧
      r.value.samples =
        convertInto t f.layout (blocks.flatMap GuestBlock.bytes) buffers.flatten ∧
      r.value.machine.guest.queue = rest ∧
      r.value.machine.guest.interrupts = m.guest.interrupts + blocks.length := by
  have hf : 0 < f.blockSamples := f.blockSamples_pos_iff.2 ⟨hframes, hchannels⟩
  have hcuts : f.cuts (buffers.map List.length) =
      List.replicate blocks.length f.blockSamples :=
    (OutputFormat.cuts_eq_replicate_iff hf buffers _).2 ⟨hwhole, htotal⟩
  have hcount : (f.cuts (buffers.map List.length)).length = blocks.length := by
    rw [hcuts, List.length_replicate]
  obtain ⟨r, hrender, hleaves⟩ := renderEach_of_plays buffers hf hp hm hb hqueue rfl
    (Nat.le_of_eq hcount)
  rw [hcuts] at hleaves
  refine ⟨r, hrender, ?_, ?_, ?_⟩
  · rw [hleaves.samples, startsOf_replicate t hb, convertInto_of_length_eq]
    have hbytes : (blocks.flatMap GuestBlock.bytes).length =
        blocks.length * f.blockSamples * f.layout.sampleBytes := by
      rw [List.length_flatMap, List.map_congr_left fun b h => (hb b h).bytes, List.map_const',
        List.sum_replicate_nat, OutputFormat.blockBytes_eq, Nat.mul_assoc]
    rw [htotal, hbytes, Nat.mul_div_cancel _ f.layout.sampleBytes_pos]
  · rw [hleaves.queue, List.length_replicate, List.drop_length]
    rfl
  · rw [hleaves.interrupts, List.length_replicate]

/-- Three blocks of one stereo frame, in a buffer of one block and a buffer of two. -/
theorem renderEach_whole_stereo :
    ∃ r : Logged (Rendered .i16 QueuedGuest),
      renderEach .i16 QueuedGuest.handler (ofFormat ⟨44100, .word, 2, 1⟩)
          { shared := { status := { sources := 1, mixer := 1 } }
            volume := .full
            guest := { queue := [some ⟨1, 16, 2, [1, 2, 3, 4]⟩, some ⟨1, 16, 2, [5, 6, 7, 8]⟩,
              some ⟨9, 16, 2, [0xff, 0xfe, 0x80, 0x00]⟩, none] } }
          [[0x5a, 0x5a], [0x5a, 0x5a, 0x5a, 0x5a]] = .ok r ∧
      r.value.samples = [0x0102, 0x0304, 0x0506, 0x0708, -2, -32768] ∧
      r.value.machine.guest.queue = [none] ∧ r.value.machine.guest.interrupts = 3 := by
  obtain ⟨r, hrender, hsamples, hqueue, hinterrupts⟩ :=
    renderEach_whole .i16 ⟨44100, .word, 2, 1⟩ (ofFormat ⟨44100, .word, 2, 1⟩)
      { shared := { status := { sources := 1, mixer := 1 } }
        volume := .full
        guest := { queue := [some ⟨1, 16, 2, [1, 2, 3, 4]⟩, some ⟨1, 16, 2, [5, 6, 7, 8]⟩,
          some ⟨9, 16, 2, [0xff, 0xfe, 0x80, 0x00]⟩, none] } }
      [⟨1, 16, 2, [1, 2, 3, 4]⟩, ⟨1, 16, 2, [5, 6, 7, 8]⟩, ⟨9, 16, 2, [0xff, 0xfe, 0x80, 0x00]⟩]
      [none] [[0x5a, 0x5a], [0x5a, 0x5a, 0x5a, 0x5a]] (by decide) (by decide) (fits_ofFormat _)
      ⟨rfl, by decide, rfl, rfl, rfl⟩
      (by
        intro b hb
        simp only [List.mem_cons, List.not_mem_nil, or_false] at hb
        rcases hb with rfl | rfl | rfl <;> exact ⟨rfl, rfl, by decide, rfl⟩)
      rfl
      (by
        intro buffer hbuffer
        simp only [List.mem_cons, List.not_mem_nil, or_false] at hbuffer
        rcases hbuffer with rfl | rfl <;> decide)
      rfl
  exact ⟨r, hrender, hsamples.trans (by decide), hqueue, hinterrupts⟩

end Playback

end GuestAudio
