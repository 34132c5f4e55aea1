import GuestAudio.Chime.Playhead
import GuestAudio.Proofs.Buffer.Pieces
import GuestAudio.Proofs.Wav.Acceptance
import GuestAudio.Proofs.Wav.Decoding

set_option autoImplicit false

/-! # The end of a sound

At the rate of a device a sound lasts for so many output frames and no longer
(`Playhead.duration`). A playhead counts the frames that it produces up to there and then stands
still: however the output is cut into buffers, after `k` frames it is `Playhead.after k`
(`renderFrame_after`, `render_after`, `renderEach_after`). Every frame from the end on is at rest,
and a buffer that reaches beyond the end says so. For sounds that decoding accepts all products fit
their words and all indices are inside, so that playing never faults and always ends
(`ofWav_ends`). -/

namespace GuestAudio

/-- The output frames that a sound takes at a device's rate, of which zero counts as one. -/
def Sound.framesAt (s : Sound) (deviceRate : UInt32) : Nat :=
  (s.frames * max deviceRate.toNat 1 + s.sampleRate.toNat - 1) / s.sampleRate.toNat

/-- A source frame that there is has a sample for every channel. -/
theorem Sound.index_lt {s : Sound} {source : Nat} (h : source < s.frames) (channel : Nat) :
    source * s.frameChannels + min channel (s.frameChannels - 1) < s.samples.size := by
  have hchannels : 0 < s.frameChannels := Nat.lt_of_lt_of_le Nat.one_pos (Nat.le_max_right _ _)
  have hframes : s.frames * s.frameChannels ≤ s.samples.size := Nat.div_mul_le_self _ _
  have hnext := Nat.mul_le_mul_right s.frameChannels h
  rw [Nat.succ_mul] at hnext
  omega

/-- The pieces of a buffer are the whole of it. -/
theorem sum_pieceLengths (size n : Nat) : (pieceLengths size n).sum = n := by
  have hwhole := Nat.div_add_mod' n size
  rw [pieceLengths, List.sum_append, List.sum_replicate_nat]
  split
  · next hrest =>
    rw [List.sum_nil]
    omega
  · rw [List.sum_singleton]
    exact hwhole

namespace Playhead

/-! ## The duration -/

/-- The output frames for which there is sound. -/
def duration (p : Playhead) : Nat :=
  (p.sound.frames * p.deviceRate.toNat + p.sound.sampleRate.toNat - 1) / p.sound.sampleRate.toNat

/-- The playhead that has produced `k` output frames from the start of the sound. -/
def after (p : Playhead) (k : Nat) : Playhead := { p with position := min k p.duration }

@[simp] theorem sound_after (p : Playhead) (k : Nat) : (p.after k).sound = p.sound := rfl

@[simp] theorem position_after (p : Playhead) (k : Nat) :
    (p.after k).position = min k p.duration := rfl

/-- The rates are not zero, nor are there no channels, and the product for a source frame fits its
    word up to the end of the sound. -/
structure Safe (p : Playhead) : Prop where
  sampleRate_pos : 0 < p.sound.sampleRate.toNat
  deviceRate_pos : 0 < p.deviceRate.toNat
  deviceChannels_pos : 0 < p.deviceChannels.toNat
  fits : p.sound.frames * p.deviceRate.toNat + p.sound.sampleRate.toNat ≤ 1 <<< 64

variable {p : Playhead}

/-- The sound lasts for an output frame just if there is a source frame for it. -/
theorem Safe.source_lt_iff (hp : p.Safe) (k : Nat) :
    k * p.sound.sampleRate.toNat / p.deviceRate.toNat < p.sound.frames ↔ k < p.duration := by
  have hrate := hp.sampleRate_pos
  rw [Nat.div_lt_iff_lt_mul hp.deviceRate_pos, duration, Nat.lt_div_iff_mul_lt hrate]
  omega

/-- Up to the end of the sound the product for the source frame fits its word. -/
theorem Safe.product_lt (hp : p.Safe) {k : Nat} (hk : k ≤ p.duration) :
    k * p.sound.sampleRate.toNat < 1 <<< 64 := by
  have hrate := hp.sampleRate_pos
  have hfits := hp.fits
  have hend : p.duration * p.sound.sampleRate.toNat ≤
      p.sound.frames * p.deviceRate.toNat + p.sound.sampleRate.toNat - 1 := Nat.div_mul_le_self _ _
  have hle := Nat.mul_le_mul_right p.sound.sampleRate.toNat hk
  omega

/-! ## One output frame -/

/-- The samples of output frame `k`, of which there are `n`. -/
def outputFrame (p : Playhead) (t : NativeType) (k n : Nat) : List t.Sample :=
  if k < p.duration then
    (List.range n).map fun channel =>
      t.ofFloat (p.sound.samples.getD
        (k * p.sound.sampleRate.toNat / p.deviceRate.toNat * p.sound.frameChannels +
          min channel (p.sound.frameChannels - 1)) Binary32.zero)
  else List.replicate n t.atRest

theorem outputFrame_of_end {k : Nat} (h : p.duration ≤ k) (t : NativeType) (n : Nat) :
    p.outputFrame t k n = List.replicate n t.atRest := if_neg (Nat.not_lt.2 h)

/-- Every channel of a source frame that there is has a sample. -/
theorem frameSamples_of_lt {source : Nat} (h : source < p.sound.frames) (t : NativeType) (n : Nat) :
    p.frameSamples t source n =
      .ok ((List.range n).map fun channel =>
        t.ofFloat (p.sound.samples.getD
          (source * p.sound.frameChannels + min channel (p.sound.frameChannels - 1))
          Binary32.zero)) := by
  have hinside := Sound.index_lt h
  refine mapM_eq_ok fun channel _ => ?_
  dsimp only
  rw [Array.getElem?_eq_getElem (hinside channel), Array.getD, dif_pos (hinside channel)]
  rfl

/-- After `k` output frames comes frame `k`. -/
theorem renderFrame_after (hp : p.Safe) (k : Nat) (t : NativeType) (frame : List t.Sample) :
    (p.after k).renderFrame t frame =
      .ok (decide (k < p.duration), p.outputFrame t k frame.length, p.after (k + 1)) := by
  have hsource : (p.after k).sourceFrame =
      .ok (min k p.duration * p.sound.sampleRate.toNat / p.deviceRate.toNat) := by
    rw [sourceFrame, after, fitting_of_lt (hp.product_lt (Nat.min_le_right _ _))]
    rfl
  unfold renderFrame
  rw [hsource, ok_bind, sound_after]
  by_cases hk : k < p.duration
  · have hlt := (hp.source_lt_iff k).2 hk
    have hframe := frameSamples_of_lt (p := p.after k) hlt t frame.length
    have hnext : { p.after k with position := (p.after k).position + 1 } = p.after (k + 1) := by
      have hposition : min k p.duration + 1 = min (k + 1) p.duration := by omega
      simp [after, hposition]
    rw [Nat.min_eq_left (Nat.le_of_lt hk), if_pos hlt, hframe, ok_bind, outputFrame, if_pos hk,
      decide_eq_true hk, ← hnext]
    rfl
  · have hge := Nat.not_lt.1 hk
    have hstill : p.after k = p.after (k + 1) := by
      have hposition : min k p.duration = min (k + 1) p.duration := by omega
      simp [after, hposition]
    rw [Nat.min_eq_right hge, if_neg (mt (hp.source_lt_iff _).1 (Nat.lt_irrefl _)),
      outputFrame_of_end hge, decide_eq_false hk, ← hstill]
    rfl

/-! ## Output frames in a row -/

/-- The samples of output frames from frame `k` on, that have these lengths. -/
def outputFrames (p : Playhead) (t : NativeType) : Nat → List Nat → List t.Sample
  | _, [] => []
  | k, n :: rest => p.outputFrame t k n ++ p.outputFrames t (k + 1) rest

theorem outputFrames_of_end {k : Nat} (h : p.duration ≤ k) (t : NativeType) (lengths : List Nat) :
    p.outputFrames t k lengths = List.replicate lengths.sum t.atRest := by
  induction lengths generalizing k with
  | nil => rfl
  | cons n rest ih =>
    rw [outputFrames, outputFrame_of_end h, ih (Nat.le_succ_of_le h), List.sum_cons,
      List.replicate_append_replicate]

/-- There is sound for all of `n` output frames from frame `k` on. -/
def lastsFor (p : Playhead) (k n : Nat) : Bool := n = 0 ∨ k + n ≤ p.duration

theorem lastsFor_succ (p : Playhead) (k n : Nat) :
    p.lastsFor k (n + 1) = (decide (k < p.duration) && p.lastsFor (k + 1) n) := by
  rw [Bool.eq_iff_iff]
  simp only [lastsFor, Bool.and_eq_true, decide_eq_true_eq]
  omega

theorem renderFrames_after (hp : p.Safe) (k : Nat) (t : NativeType)
    (frames : List (List t.Sample)) :
    renderFrames t (p.after k) frames =
      .ok (p.lastsFor k frames.length, p.outputFrames t k (frames.map List.length),
        p.after (k + frames.length)) := by
  induction frames generalizing k with
  | nil => rfl
  | cons frame rest ih =>
    have hcount : k + 1 + rest.length = k + (frame :: rest).length := by
      rw [List.length_cons]
      omega
    rw [renderFrames, renderFrame_after hp, ok_bind]
    dsimp only
    rw [ih, ok_bind, List.length_cons, lastsFor_succ, ← List.length_cons, ← hcount]
    rfl

/-! ## Buffers in a row -/

/-- The output frames of a buffer of `n` samples, of which the last may be short. -/
def framesIn (p : Playhead) (n : Nat) : Nat :=
  (n + p.deviceChannels.toNat - 1) / p.deviceChannels.toNat

theorem Safe.framesIn_pos (hp : p.Safe) {n : Nat} (hn : 0 < n) : 0 < p.framesIn n := by
  have hchannels := hp.deviceChannels_pos
  exact Nat.div_pos (by omega) hchannels

theorem render_after (hp : p.Safe) (k : Nat) (t : NativeType) (buffer : List t.Sample) :
    (p.after k).render t buffer =
      .ok (p.lastsFor k (p.framesIn buffer.length),
        p.outputFrames t k (pieceLengths p.deviceChannels.toNat buffer.length),
        p.after (k + p.framesIn buffer.length)) := by
  have hchannels := hp.deviceChannels_pos
  have hframes : (chunks p.deviceChannels.toNat buffer).length = p.framesIn buffer.length :=
    length_chunks hchannels buffer
  have hrender : (p.after k).render t buffer =
      renderFrames t (p.after k) (chunks p.deviceChannels.toNat buffer) := rfl
  rw [hrender, renderFrames_after hp, hframes, map_length_chunks hchannels]

/-- Past the end a buffer is at rest, and says so unless it is empty. -/
theorem render_after_end (hp : p.Safe) {k : Nat} (hk : p.duration ≤ k) (t : NativeType)
    {buffer : List t.Sample} (hne : buffer ≠ []) :
    (p.after k).render t buffer =
      .ok (false, List.replicate buffer.length t.atRest, p.after k) := by
  have hframes := hp.framesIn_pos (List.length_pos_iff.2 hne)
  have hover : p.lastsFor k (p.framesIn buffer.length) = false := by
    rw [lastsFor, decide_eq_false_iff_not]
    omega
  have hstill : p.after (k + p.framesIn buffer.length) = p.after k := by
    have hposition : min (k + p.framesIn buffer.length) p.duration = min k p.duration := by omega
    simp [after, hposition]
  rw [render_after hp, hover, hstill, outputFrames_of_end hk, sum_pieceLengths]

/-- Render buffers, one after the other: for each whether the sound lasted to its end, and its
    samples; and the playhead. -/
def renderEach (t : NativeType) :
    Playhead → List (List t.Sample) → Checked (List (Bool × List t.Sample) × Playhead)
  | p, [] => return ([], p)
  | p, buffer :: rest => do
      let (playing, samples, p) ← p.render t buffer
      let (others, p) ← renderEach t p rest
      return ((playing, samples) :: others, p)

/-- The output frames of buffers in a row. -/
def framesInEach (p : Playhead) {α : Type} (buffers : List (List α)) : Nat :=
  (buffers.map fun buffer => p.framesIn buffer.length).sum

/-- What buffers in a row come to, from output frame `k` on. -/
def callsFrom (p : Playhead) (t : NativeType) :
    Nat → List (List t.Sample) → List (Bool × List t.Sample)
  | _, [] => []
  | k, buffer :: rest =>
      (p.lastsFor k (p.framesIn buffer.length),
        p.outputFrames t k (pieceLengths p.deviceChannels.toNat buffer.length)) ::
      p.callsFrom t (k + p.framesIn buffer.length) rest

theorem renderEach_after (hp : p.Safe) (k : Nat) (t : NativeType)
    (buffers : List (List t.Sample)) :
    renderEach t (p.after k) buffers =
      .ok (p.callsFrom t k buffers, p.after (k + p.framesInEach buffers)) := by
  induction buffers generalizing k with
  | nil => rfl
  | cons buffer rest ih =>
    rw [renderEach, render_after hp, ok_bind]
    dsimp only
    rw [ih, ok_bind, Nat.add_assoc]
    rfl

/-- If more buffers have room than the sound has output frames left, one of them says that the sound
    is over. -/
theorem exists_over_of_callsFrom (hp : p.Safe) {k : Nat} {t : NativeType}
    {buffers : List (List t.Sample)} (hk : k ≤ p.duration)
    (hmany : p.duration < k + buffers.countP (!·.isEmpty)) :
    ∃ call ∈ p.callsFrom t k buffers, call.1 = false := by
  induction buffers generalizing k with
  | nil =>
    rw [List.countP_nil] at hmany
    omega
  | cons buffer rest ih =>
    by_cases hlasts : p.lastsFor k (p.framesIn buffer.length) = true
    · have hnext : k + p.framesIn buffer.length ≤ p.duration := by
        rw [lastsFor, decide_eq_true_eq] at hlasts
        omega
      have hroom : (if !buffer.isEmpty then 1 else 0) ≤ p.framesIn buffer.length := by
        cases buffer with
        | nil => exact Nat.zero_le _
        | cons x xs => exact hp.framesIn_pos (Nat.succ_pos _)
      rw [List.countP_cons] at hmany
      obtain ⟨call, hcall, hover⟩ := ih hnext (by omega)
      exact ⟨call, List.mem_cons_of_mem _ hcall, hover⟩
    · exact ⟨_, List.mem_cons_self, Bool.eq_false_of_not_eq_true hlasts⟩

/-! ## From the start -/

variable (s : Sound) (deviceRate : UInt32) (deviceChannels : UInt16)

theorem deviceRate_atStart :
    (atStart s deviceRate deviceChannels).deviceRate.toNat = max deviceRate.toNat 1 := by
  by_cases h : deviceRate = 0
  · simp [atStart, h]
  · have hpos : 0 < deviceRate.toNat := Nat.pos_of_ne_zero fun h' => h (UInt32.toNat_inj.1 h')
    rw [atStart, if_neg h, Nat.max_eq_left hpos]

theorem deviceChannels_atStart :
    (atStart s deviceRate deviceChannels).deviceChannels.toNat = max deviceChannels.toNat 1 := by
  by_cases h : deviceChannels = 0
  · simp [atStart, h]
  · have hpos : 0 < deviceChannels.toNat :=
      Nat.pos_of_ne_zero fun h' => h (UInt16.toNat_inj.1 h')
    rw [atStart, if_neg h, Nat.max_eq_left hpos]

theorem duration_atStart :
    (atStart s deviceRate deviceChannels).duration = s.framesAt deviceRate := by
  rw [duration, deviceRate_atStart]
  rfl

theorem after_zero_atStart :
    (atStart s deviceRate deviceChannels).after 0 = atStart s deviceRate deviceChannels := by
  simp [after, atStart]

variable {s}

/-- What decoding accepts can be played on every device. -/
theorem safe_atStart (hs : s.Whole) : (atStart s deviceRate deviceChannels).Safe where
  sampleRate_pos := hs.rate_pos
  deviceRate_pos := by
    rw [deviceRate_atStart]
    exact Nat.le_max_right _ _
  deviceChannels_pos := by
    rw [deviceChannels_atStart]
    exact Nat.le_max_right _ _
  fits := by
    -- the frames and both rates are words of 32 bits
    have hframes : s.frames ≤ 2 ^ 32 - 1 := by
      have hsize := hs.size_lt
      have hle : s.frames ≤ s.samples.size := Nat.div_le_self _ _
      omega
    have hrate : max deviceRate.toNat 1 ≤ 2 ^ 32 - 1 := by
      have := deviceRate.toNat_lt
      omega
    have hsampleRate := s.sampleRate.toNat_lt
    have hproduct := Nat.mul_le_mul hframes hrate
    rw [deviceRate_atStart]
    show s.frames * max deviceRate.toNat 1 + s.sampleRate.toNat ≤ 1 <<< 64
    omega

end Playhead

/-- **Every decoded sound plays safely and ends.** It has a rate, channels and whole frames. On any
    device, in buffers of any lengths, it plays without a fault, and the playhead counts the output
    frames up to the length of the sound and no further. From there on every buffer that is not
    empty says that the sound is over and is at rest; so one says that it is over as soon as more
    buffers have had room than the sound has output frames. -/
theorem Sound.ofWav_ends {file : Bytes} {s : Sound} (h : Sound.ofWav file = .ok s) :
    (1 ≤ s.sampleRate.toNat ∧ 1 ≤ s.channels.toNat ∧ s.channels.toNat ∣ s.samples.size) ∧
    ∀ (deviceRate : UInt32) (deviceChannels : UInt16) (t : NativeType)
      (buffers : List (List t.Sample)),
      let start := Playhead.atStart s deviceRate deviceChannels
      ∃ calls p, start.renderEach t buffers = .ok (calls, p) ∧
        p.position = min (start.framesInEach buffers) (s.framesAt deviceRate) ∧
        (s.framesAt deviceRate ≤ start.framesInEach buffers → ∀ next : List t.Sample, next ≠ [] →
          p.render t next = .ok (false, List.replicate next.length t.atRest, p)) ∧
        (s.framesAt deviceRate < buffers.countP (!·.isEmpty) → ∃ call ∈ calls, call.1 = false) := by
  have hs := whole_of_ofWav h
  refine ⟨⟨hs.rate_pos, hs.channels_pos, hs.whole_frames⟩, ?_⟩
  intro deviceRate deviceChannels t buffers start
  have hsafe : start.Safe := Playhead.safe_atStart deviceRate deviceChannels hs
  have hduration : start.duration = s.framesAt deviceRate := Playhead.duration_atStart s _ _
  have hplayed := Playhead.renderEach_after hsafe 0 t buffers
  rw [Playhead.after_zero_atStart, Nat.zero_add] at hplayed
  refine ⟨_, _, hplayed, ?_, ?_, ?_⟩
  · rw [Playhead.position_after, hduration]
  · intro hover next hne
    exact Playhead.render_after_end hsafe (hduration ▸ hover) t hne
  · intro hmany
    exact Playhead.exists_over_of_callsFrom hsafe (Nat.zero_le _) (by omega)

/-- Three samples at 2 Hz last for five frames of a stereo device at 3 Hz, the fourth of which is
    the short end of a buffer. -/
theorem Sound.ofWav_ends_upsampled :
    let file : Bytes :=
      [0x52, 0x49, 0x46, 0x46, 0, 0, 0, 0, 0x57, 0x41, 0x56, 0x45,
        0x66, 0x6d, 0x74, 0x20, 16, 0, 0, 0, 1, 0, 1, 0, 2, 0, 0, 0, 2, 0, 0, 0, 1, 0, 8, 0,
        0x64, 0x61, 0x74, 0x61, 3, 0, 0, 0, 0xc0, 0x00, 0x81]
    ∃ s, Sound.ofWav file = .ok s ∧ s.framesAt 3 = 5 ∧
      ∃ calls p, (Playhead.atStart s 3 2).renderEach .i16 [[7, 7, 7, 7], [7, 7, 7], [7]] =
          .ok (calls, p) ∧
        p.position = 5 ∧ p.render .i16 [7, 7] = .ok (false, [0, 0], p) := by
  intro file
  let f : PcmFile := {
    sampleRate := 2
    channels := 1
    bits := 8
    samples := [0x40, -0x80, 1]
    riffLength := 0
    rate_ne_zero := by decide
    channels_ne_zero := by decide
    bits_listed := by decide
    samples_fit := by decide
    whole_frames := by decide
    align_fits := by decide
    byteRate_fits := by decide
    data_fits := by decide }
  have hfile : file = f.bytes := by decide
  let sound : Sound :=
    ⟨2, 1, (f.samples.map fun x => Binary32.ofScaled x (f.bits - 1)).toArray⟩
  have hsound : Sound.ofWav file = .ok sound := by
    have hkept : ¬(f.spec.channels = 0 ∨ f.spec.sampleRate = 0) := by decide
    rw [hfile, Sound.ofWav, f.read_bytes]
    dsimp only
    rw [if_neg hkept, f.decodeSamples_data]
    rfl
  have hlength : sound.framesAt 3 = 5 := by decide +kernel
  have hframes : (Playhead.atStart sound 3 2).framesInEach
      ([[7, 7, 7, 7], [7, 7, 7], [7]] : List (List Int16)) = 5 := by decide +kernel
  obtain ⟨-, hplays⟩ := Sound.ofWav_ends hsound
  obtain ⟨calls, p, hrender, hposition, hover, -⟩ :=
    hplays 3 2 .i16 [[7, 7, 7, 7], [7, 7, 7], [7]]
  rw [hlength, hframes] at hposition hover
  exact ⟨sound, hsound, hlength, calls, p, hrender, hposition,
    hover (Nat.le_refl 5) [7, 7] (by decide)⟩

end GuestAudio
