import GuestAudio.Proofs.Block.FullBlocks

set_option autoImplicit false

/-! # The guest's side of a fill

A fill has two parts. In the first the guest is asked, if a source is active
(`SharedState.attend`); in the second the region is made from its answer. The first part knows
nothing of volumes, regions and buffers, and only the first part can wait or fail: once it has come
to its end so does the fill (`fill_of_attend`), and where it does not, the fill ends in the same way
(`fill_of_attend_error`). So what a device buffer comes to is said by the guest's side of its
pieces (`render_of_attendEach`). -/

namespace GuestAudio

variable {γ : Type}

/-! ## One fill -/

namespace SharedState

/-- The guest's side of a fill: its answer, if it is asked at all, and what becomes of it and of the
    shared state. -/
def attend (handler : InterruptHandler γ) (guest : γ) (s : SharedState) :
    Run (Logged (Option (Option GuestBlock) × γ × SharedState)) := do
  if s.status.hasSource then
    let ⟨(answer, guest, s), log⟩ ← s.obtain handler guest
    return ⟨(some answer, guest, s), log⟩
  else return ⟨(none, guest, s), []⟩

variable {handler : InterruptHandler γ} {guest : γ} {s : SharedState}

theorem attend_of_idle (h : s.status.hasSource = false) :
    s.attend handler guest = .ok ⟨(none, guest, s), []⟩ := by
  rw [attend, h]
  rfl

/-- The guest is asked just if a source is active. -/
theorem isSome_of_attend {answer? : Option (Option GuestBlock)} {guest' : γ} {s' : SharedState}
    {log : Log} (h : s.attend handler guest = .ok ⟨(answer?, guest', s'), log⟩) :
    answer?.isSome = s.status.hasSource := by
  unfold attend at h
  cases hsource : s.status.hasSource with
  | false =>
    rw [hsource] at h
    cases h
    rfl
  | true =>
    rw [hsource] at h
    obtain ⟨⟨⟨answer, guest', s'⟩, log⟩, -, h⟩ := bind_eq_ok_iff.1 h
    cases h
    rfl

/-- Where the guest's side of a fill does not come to its end, the guest's own code ends early, or
    it has posted nothing. -/
theorem halt_of_attend {halt : Halt} (h : s.attend handler guest = .error halt) :
    halt = .parked ∨
      ∃ guest s fault, handler.run guest s = .error fault ∧ halt = .fault fault := by
  cases hsource : s.status.hasSource with
  | false =>
    rw [attend_of_idle hsource] at h
    cases h
  | true =>
    rw [attend, if_pos hsource] at h
    rcases bind_eq_error_iff.1 h with hobtain | ⟨_, -, h⟩
    · rcases bind_eq_error_iff.1 hobtain with hrun | ⟨⟨guest', s'⟩, -, hrest⟩
      · obtain ⟨fault, hfault, rfl⟩ := liftM_eq_error_iff.1 hrun
        exact .inr ⟨guest, _, fault, hfault, rfl⟩
      · rcases bind_eq_error_iff.1 hrest with hcollect | ⟨_, -, h⟩
        · exact .inl (halt_of_collect hcollect)
        · cases h
    · cases h

end SharedState

namespace BlockFiller

variable {handler : InterruptHandler γ} {f : BlockFiller} {m : Machine γ}

/-- The region is made from the answer, and the filler keeps its format and its buffer. -/
theorem fill_of_attend {answer? : Option (Option GuestBlock)} {guest : γ} {shared : SharedState}
    {log : Log} (hv : m.volume.InRange)
    (h : m.shared.attend handler m.guest = .ok ⟨(answer?, guest, shared), log⟩) (region : Bytes) :
    ∃ scratch : Bytes, scratch.length = f.scratch.length ∧
      f.fill handler m region = .ok ⟨{
        outcome := (regionFor f.format.layout f.format.channels f.scratch.length answer?.isSome
          answer?.join m.volume region.length).1
        region := (regionFor f.format.layout f.format.channels f.scratch.length answer?.isSome
          answer?.join m.volume region.length).2
        filler := { f with scratch }
        machine := { m with shared, guest } }, log⟩ := by
  cases hsource : m.shared.status.hasSource with
  | false =>
    rw [SharedState.attend_of_idle hsource] at h
    cases h
    exact ⟨f.scratch, rfl, fill_of_idle hsource region⟩
  | true =>
    rw [SharedState.attend, if_pos hsource] at h
    obtain ⟨⟨⟨answer, guest', shared'⟩, log'⟩, hobtain, h⟩ := bind_eq_ok_iff.1 h
    cases h
    exact fill_of_obtain hsource hv hobtain region

theorem fill_of_attend_error {halt : Halt}
    (h : m.shared.attend handler m.guest = .error halt) (region : Bytes) :
    f.fill handler m region = .error halt := by
  cases hsource : m.shared.status.hasSource with
  | false =>
    rw [SharedState.attend_of_idle hsource] at h
    cases h
  | true =>
    rw [SharedState.attend, if_pos hsource] at h
    rcases bind_eq_error_iff.1 h with hobtain | ⟨_, -, h⟩
    · rw [fill, if_pos hsource, hobtain]
      rfl
    · cases h

end BlockFiller

/-! ## Fills in a row -/

/-- The guest's side of so many fills, one after the other. -/
def SharedState.attendEach (handler : InterruptHandler γ) :
    Nat → γ → SharedState → Run (Logged (List (Option (Option GuestBlock)) × γ × SharedState))
  | 0, guest, s => return ⟨([], guest, s), []⟩
  | n + 1, guest, s => do
      let ⟨(answer?, guest, s), log₁⟩ ← s.attend handler guest
      let ⟨(answers, guest, s), log₂⟩ ← attendEach handler n guest s
      return ⟨(answer? :: answers, guest, s), log₁ ++ log₂⟩

theorem SharedState.length_of_attendEach {handler : InterruptHandler γ} {n : Nat} {guest guest' : γ}
    {s s' : SharedState} {answers : List (Option (Option GuestBlock))} {log : Log}
    (h : attendEach handler n guest s = .ok ⟨(answers, guest', s'), log⟩) : answers.length = n := by
  induction n generalizing guest s answers log with
  | zero =>
    cases h
    rfl
  | succ n ih =>
    obtain ⟨⟨⟨answer?, guest₁, s₁⟩, log₁⟩, -, h⟩ := bind_eq_ok_iff.1 h
    obtain ⟨⟨⟨answers, guest₂, s₂⟩, log₂⟩, hrest, h⟩ := bind_eq_ok_iff.1 h
    cases h
    rw [List.length_cons, ih hrest]

theorem SharedState.halt_of_attendEach {handler : InterruptHandler γ} {n : Nat} {guest : γ}
    {s : SharedState} {halt : Halt} (h : attendEach handler n guest s = .error halt) :
    halt = .parked ∨
      ∃ guest s fault, handler.run guest s = .error fault ∧ halt = .fault fault := by
  induction n generalizing guest s with
  | zero => cases h
  | succ n ih =>
    rcases bind_eq_error_iff.1 h with hattend | ⟨⟨⟨answer?, guest', s'⟩, log⟩, -, hrest⟩
    · exact halt_of_attend hattend
    · rcases bind_eq_error_iff.1 hrest with heach | ⟨_, -, h⟩
      · exact ih heach
      · cases h

/-- The native samples of a piece of `n` samples, for what the guest answered. -/
def OutputFormat.pieceSamples (f : OutputFormat) (t : NativeType) (v : Volume)
    (answer? : Option (Option GuestBlock)) (n : Nat) : List t.Sample :=
  f.nativeSamples t (regionFor f.layout f.channels f.blockBytes answer?.isSome answer?.join v
    (n * f.layout.sampleBytes)).2

theorem length_regionFor (w : WireLayout) (channels : UInt16) (blockBytes : Nat) (hasSource : Bool)
    (answer : Option GuestBlock) (v : Volume) (length : Nat) :
    (regionFor w channels blockBytes hasSource answer v length).2.length = length := by
  unfold regionFor
  split
  · cases answer with
    | none => exact List.length_replicate
    | some block =>
      unfold soundFor
      dsimp only
      split
      · exact List.length_replicate
      · have hle := block.length_sourceFor_le channels
          (min (min (block.frameCount.toNat * (w.sampleBytes * channels.toNat)) length) blockBytes)
        rw [List.length_append, length_attenuate, List.length_replicate]
        omega
  · exact List.length_replicate

theorem OutputFormat.length_pieceSamples (f : OutputFormat) (t : NativeType) (v : Volume)
    (answer? : Option (Option GuestBlock)) (n : Nat) :
    (f.pieceSamples t v answer? n).length = n := by
  rw [pieceSamples, length_nativeSamples, length_regionFor,
    Nat.mul_div_cancel n f.layout.sampleBytes_pos]

/-- The samples of pieces of these lengths, one after the other. -/
def OutputFormat.samplesFor (f : OutputFormat) (t : NativeType) (v : Volume)
    (answers : List (Option (Option GuestBlock))) (lengths : List Nat) : List t.Sample :=
  (List.zipWith (f.pieceSamples t v) answers lengths).flatten

/-- Pieces keep their lengths. -/
theorem OutputFormat.length_samplesFor (f : OutputFormat) (t : NativeType) (v : Volume)
    {answers : List (Option (Option GuestBlock))} {pieces : List (List t.Sample)}
    (h : answers.length = pieces.length) :
    (f.samplesFor t v answers (pieces.map List.length)).length = pieces.flatten.length := by
  induction answers generalizing pieces with
  | nil =>
    rw [List.length_eq_zero_iff.1 h.symm]
    rfl
  | cons answer? answers ih =>
    cases pieces with
    | nil => cases h
    | cons piece pieces =>
      have hrest := ih (Nat.succ.inj h)
      unfold samplesFor at hrest ⊢
      rw [List.map_cons, List.zipWith_cons_cons, List.flatten_cons, List.flatten_cons,
        List.length_append, List.length_append, hrest, length_pieceSamples]

theorem OutputFormat.chunkSamples_eq {f : OutputFormat} (hf : 0 < f.blockSamples) :
    f.chunkSamples = f.blockSamples := Nat.max_eq_left hf

/-- A buffer takes as many blocks as pieces that it is cut into. -/
theorem OutputFormat.blocksFor_eq_length_chunks {α : Type} {f : OutputFormat}
    (hf : 0 < f.blockSamples) (buffer : List α) :
    f.blocksFor buffer.length = (chunks f.blockSamples buffer).length := by
  rw [length_chunks hf, blocksFor, f.chunkSamples_eq hf]

namespace Playback

variable {t : NativeType} {handler : InterruptHandler γ} {f : OutputFormat} {p : Playback}
  {m : Machine γ}

/-- The buffer for wire bytes has room for a piece. -/
theorem Fits.pieceBytes_le (hp : p.Fits f) {n : Nat} (hn : n ≤ f.blockSamples) :
    n * f.layout.sampleBytes ≤ p.wire.length := by
  refine Nat.le_trans ?_ hp.wire
  rw [OutputFormat.blockBytes_eq]
  exact Nat.mul_le_mul_right _ hn

theorem renderBlock_of_attend {piece : List t.Sample} {answer? : Option (Option GuestBlock)}
    {guest : γ} {shared : SharedState} {log : Log} (hp : p.Fits f) (hv : m.volume.InRange)
    (hn : piece.length ≤ f.blockSamples)
    (h : m.shared.attend handler m.guest = .ok ⟨(answer?, guest, shared), log⟩) :
    ∃ playback : Playback, playback.Fits f ∧ p.renderBlock t handler m piece =
      .ok ⟨⟨f.pieceSamples t m.volume answer? piece.length, playback,
        { m with shared, guest }⟩, log⟩ := by
  have hbytes := hp.pieceBytes_le hn
  obtain ⟨scratch, hscratch, hfill⟩ := BlockFiller.fill_of_attend (f := p.filler) hv h
    (p.wire.take (piece.length * f.layout.sampleBytes))
  rw [List.length_take_of_le hbytes, hp.scratch, hp.format] at hfill
  have hrender := renderBlock_of_fill (t := t) (by rwa [hp.format]) (by rwa [hp.format])
  rw [hp.format, convertInto_of_length_eq] at hrender
  · refine ⟨{
      filler := { format := f, scratch }
      wire := (regionFor f.layout f.channels f.blockBytes answer?.isSome answer?.join m.volume
          (piece.length * f.layout.sampleBytes)).2 ++
        p.wire.drop (piece.length * f.layout.sampleBytes) }, ?_, hrender⟩
    refine ⟨rfl, hscratch.trans hp.scratch, ?_⟩
    have hwire := hp.wire
    rw [List.length_append, length_regionFor, List.length_drop]
    omega
  · rw [length_regionFor, Nat.mul_div_cancel _ f.layout.sampleBytes_pos]

theorem renderBlock_of_attend_error {piece : List t.Sample} {halt : Halt} (hp : p.Fits f)
    (hn : piece.length ≤ f.blockSamples) (h : m.shared.attend handler m.guest = .error halt) :
    p.renderBlock t handler m piece = .error halt := by
  have hbytes := hp.pieceBytes_le hn
  rw [← hp.format] at hbytes
  unfold renderBlock
  dsimp only
  rw [slice_of_le hbytes, liftM_ok, ok_bind]
  dsimp only
  rw [BlockFiller.fill_of_attend_error h]
  rfl

theorem renderAll_of_attendEach {pieces : List (List t.Sample)}
    {answers : List (Option (Option GuestBlock))} {guest : γ} {shared : SharedState} {log : Log}
    (hp : p.Fits f) (hv : m.volume.InRange)
    (hpieces : ∀ piece ∈ pieces, piece.length ≤ f.blockSamples)
    (h : m.shared.attendEach handler pieces.length m.guest =
      .ok ⟨(answers, guest, shared), log⟩) :
    ∃ playback : Playback, playback.Fits f ∧ renderAll t handler p m pieces =
      .ok ⟨⟨f.samplesFor t m.volume answers (pieces.map List.length), playback,
        { m with shared, guest }⟩, log⟩ := by
  induction pieces generalizing p m answers log with
  | nil =>
    cases h
    exact ⟨p, hp, rfl⟩
  | cons piece rest ih =>
    obtain ⟨⟨⟨answer?, guest₁, shared₁⟩, log₁⟩, hattend, h⟩ := bind_eq_ok_iff.1 h
    obtain ⟨⟨⟨answers, guest₂, shared₂⟩, log₂⟩, heach, h⟩ := bind_eq_ok_iff.1 h
    cases h
    obtain ⟨middle, hmiddle, hfirst⟩ :=
      renderBlock_of_attend hp hv (hpieces piece List.mem_cons_self) hattend
    obtain ⟨last, hlast, hothers⟩ := ih (m := { m with shared := shared₁, guest := guest₁ })
      hmiddle hv (fun piece' hmem => hpieces piece' (List.mem_cons_of_mem _ hmem)) heach
    refine ⟨last, hlast, ?_⟩
    rw [renderAll, hfirst, ok_bind]
    dsimp only
    rw [hothers]
    rfl

theorem renderAll_of_attendEach_error {pieces : List (List t.Sample)} {halt : Halt}
    (hp : p.Fits f) (hv : m.volume.InRange)
    (hpieces : ∀ piece ∈ pieces, piece.length ≤ f.blockSamples)
    (h : m.shared.attendEach handler pieces.length m.guest = .error halt) :
    renderAll t handler p m pieces = .error halt := by
  induction pieces generalizing p m with
  | nil => cases h
  | cons piece rest ih =>
    have hpiece := hpieces piece List.mem_cons_self
    rcases bind_eq_error_iff.1 h with
      hattend | ⟨⟨⟨answer?, guest₁, shared₁⟩, log₁⟩, hattend, hrest⟩
    · rw [renderAll, renderBlock_of_attend_error hp hpiece hattend]
      rfl
    · obtain ⟨middle, hmiddle, hfirst⟩ := renderBlock_of_attend hp hv hpiece hattend
      rw [renderAll, hfirst, ok_bind]
      dsimp only
      rcases bind_eq_error_iff.1 hrest with heach | ⟨_, -, h⟩
      · rw [ih (m := { m with shared := shared₁, guest := guest₁ }) hmiddle hv
          (fun piece' hmem => hpieces piece' (List.mem_cons_of_mem _ hmem)) heach]
        rfl
      · cases h

/-! ## Device buffers -/

/-- A device buffer is filled with the samples for what the guest answered to its pieces. What was
    in it, or in any buffer on the way, does not matter. -/
theorem render_of_attendEach {answers : List (Option (Option GuestBlock))} {guest : γ}
    {shared : SharedState} {log : Log} (hf : 0 < f.blockSamples) (hp : p.Fits f)
    (hv : m.volume.InRange) (buffer : List t.Sample)
    (h : m.shared.attendEach handler (f.blocksFor buffer.length) m.guest =
      .ok ⟨(answers, guest, shared), log⟩) :
    ∃ playback : Playback, playback.Fits f ∧ p.render t handler m buffer =
      .ok ⟨⟨f.samplesFor t m.volume answers (pieceLengths f.blockSamples buffer.length), playback,
        { m with shared, guest }⟩, log⟩ := by
  rw [f.blocksFor_eq_length_chunks hf] at h
  rw [render, hp.format, f.chunkSamples_eq hf, ← map_length_chunks hf buffer]
  exact renderAll_of_attendEach hp hv (fun piece => length_le_of_mem_chunks hf) h

theorem render_of_attendEach_error {halt : Halt} (hf : 0 < f.blockSamples) (hp : p.Fits f)
    (hv : m.volume.InRange) (buffer : List t.Sample)
    (h : m.shared.attendEach handler (f.blocksFor buffer.length) m.guest = .error halt) :
    p.render t handler m buffer = .error halt := by
  rw [f.blocksFor_eq_length_chunks hf] at h
  rw [render, hp.format, f.chunkSamples_eq hf]
  exact renderAll_of_attendEach_error hp hv (fun piece => length_le_of_mem_chunks hf) h

end Playback

end GuestAudio
