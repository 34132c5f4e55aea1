import GuestAudio.Proofs.Chime.Ending

set_option autoImplicit false

/-! # The sound at the device's rate

What a device hears of a sound is a function of the sound, its rate and its channel count
(`Sound.outputSample`): the samples of one output frame after the other, for as long as there is
sound, and rest after that. When the device asks for whole frames, it makes no difference in how
many buffers it asks for them (`Playhead.renderEach_frames`): the buffers in a row are the output
frames in a row (`flatMap_callsFrom`). -/

namespace GuestAudio

/-! ## The reference -/

/-- The sample of the source for a channel of output frame `k`. -/
def Sound.sourceIndex (s : Sound) (deviceRate : UInt32) (k channel : Nat) : Nat :=
  k * s.sampleRate.toNat / deviceRate.toNat * s.channels.toNat + min channel (s.channels.toNat - 1)

/-- A channel of output frame `k`. -/
def Sound.outputSample (s : Sound) (deviceRate : UInt32) (t : NativeType) (k channel : Nat) :
    t.Sample :=
  if k < s.framesAt deviceRate then
    t.ofFloat (s.samples.getD (s.sourceIndex deviceRate k channel) Binary32.zero)
  else t.atRest

/-- The samples of the first `n` output frames. -/
def Sound.outputOf (s : Sound) (deviceRate : UInt32) (deviceChannels : UInt16) (t : NativeType)
    (n : Nat) : List t.Sample :=
  (List.range n).flatMap fun k =>
    (List.range deviceChannels.toNat).map (s.outputSample deviceRate t k)

/-- The frames in buffers that hold whole ones. -/
def wholeFrames {α : Type} (channels : UInt16) (buffers : List (List α)) : Nat :=
  buffers.flatten.length / channels.toNat

namespace Playhead

/-! ## Buffers of whole frames -/

variable {p : Playhead}

theorem framesIn_of_dvd (hp : p.Safe) {n : Nat} (hn : p.deviceChannels.toNat ∣ n) :
    p.framesIn n = n / p.deviceChannels.toNat := by
  have hchannels := hp.deviceChannels_pos
  rw [framesIn, ← length_pieceLengths hchannels, pieceLengths_of_dvd hn, List.length_replicate]

/-- Frames of one length in a row. -/
theorem outputFrames_replicate (p : Playhead) (t : NativeType) (k m n : Nat) :
    p.outputFrames t k (List.replicate m n) =
      (List.range' k m).flatMap fun j => p.outputFrame t j n := by
  induction m generalizing k with
  | zero => rfl
  | succ m ih =>
    rw [List.replicate_succ, outputFrames, ih, List.range'_succ, List.flatMap_cons]

section WholeFrames

variable {t : NativeType} {buffers : List (List t.Sample)}

theorem framesInEach_of_dvd (hp : p.Safe)
    (hwhole : ∀ buffer ∈ buffers, p.deviceChannels.toNat ∣ buffer.length) :
    p.framesInEach buffers * p.deviceChannels.toNat = buffers.flatten.length := by
  induction buffers with
  | nil => exact Nat.zero_mul _
  | cons buffer rest ih =>
    have hrest := ih fun b hb => hwhole b (List.mem_cons_of_mem _ hb)
    have hbuffer := hwhole buffer List.mem_cons_self
    unfold framesInEach at hrest ⊢
    rw [List.map_cons, List.sum_cons, Nat.add_mul, hrest, framesIn_of_dvd hp hbuffer,
      Nat.div_mul_cancel hbuffer, List.flatten_cons, List.length_append]

/-- The samples of buffers in a row are the output frames in a row. -/
theorem flatMap_callsFrom (hp : p.Safe) (k : Nat)
    (hwhole : ∀ buffer ∈ buffers, p.deviceChannels.toNat ∣ buffer.length) :
    (p.callsFrom t k buffers).flatMap Prod.snd =
      (List.range' k (p.framesInEach buffers)).flatMap fun j =>
        p.outputFrame t j p.deviceChannels.toNat := by
  induction buffers generalizing k with
  | nil => rfl
  | cons buffer rest ih =>
    have hbuffer := hwhole buffer List.mem_cons_self
    have hcount : p.framesInEach (buffer :: rest) =
        p.framesIn buffer.length + p.framesInEach rest := List.sum_cons
    rw [callsFrom, List.flatMap_cons, ih _ fun b hb => hwhole b (List.mem_cons_of_mem _ hb),
      pieceLengths_of_dvd hbuffer, outputFrames_replicate, ← framesIn_of_dvd hp hbuffer, hcount,
      ← List.flatMap_append, List.range'_append_1]

end WholeFrames

/-! ## One call of several -/

theorem length_outputFrame (p : Playhead) (t : NativeType) (k n : Nat) :
    (p.outputFrame t k n).length = n := by
  unfold outputFrame
  split
  · rw [List.length_map, List.length_range]
  · exact List.length_replicate

theorem length_outputFrames (p : Playhead) (t : NativeType) (k : Nat) (lengths : List Nat) :
    (p.outputFrames t k lengths).length = lengths.sum := by
  induction lengths generalizing k with
  | nil => rfl
  | cons n rest ih => rw [outputFrames, List.length_append, length_outputFrame, ih, List.sum_cons]

/-- A call of several says whether the sound lasts for its own frames. -/
theorem getElem?_callsFrom (p : Playhead) (t : NativeType) (k : Nat)
    (buffers : List (List t.Sample)) (i : Nat) :
    (p.callsFrom t k buffers)[i]? = buffers[i]?.map fun buffer =>
      (p.lastsFor (k + p.framesInEach (buffers.take i)) (p.framesIn buffer.length),
        p.outputFrames t (k + p.framesInEach (buffers.take i))
          (pieceLengths p.deviceChannels.toNat buffer.length)) := by
  induction buffers generalizing k i with
  | nil => rfl
  | cons buffer rest ih =>
    cases i with
    | zero => rfl
    | succ i =>
      have hcount : p.framesInEach ((buffer :: rest).take (i + 1)) =
          p.framesIn buffer.length + p.framesInEach (rest.take i) := List.sum_cons
      rw [callsFrom, List.getElem?_cons_succ, List.getElem?_cons_succ, ih, hcount, Nat.add_assoc]

/-- The sound does not last for some frames just if one of them is past its end. -/
theorem lastsFor_eq_false_iff (p : Playhead) (k n : Nat) :
    p.lastsFor k n = false ↔ ∃ j, k ≤ j ∧ j < k + n ∧ p.duration ≤ j := by
  rw [lastsFor, decide_eq_false_iff_not]
  constructor
  · intro hover
    exact ⟨k + n - 1, by omega, by omega, by omega⟩
  · rintro ⟨j, hfrom, hto, hend⟩
    omega

/-! ## From the start -/

section Start

variable {s : Sound} {deviceRate : UInt32} {deviceChannels : UInt16}

theorem outputFrame_atStart (hchannels : 1 ≤ s.channels.toNat) (hrate : 1 ≤ deviceRate.toNat)
    (t : NativeType) (k n : Nat) :
    (atStart s deviceRate deviceChannels).outputFrame t k n =
      (List.range n).map (s.outputSample deviceRate t k) := by
  have hframe : s.frameChannels = s.channels.toNat := Nat.max_eq_left hchannels
  have hsound : (atStart s deviceRate deviceChannels).sound = s := rfl
  unfold outputFrame
  rw [duration_atStart, deviceRate_atStart, hsound, Nat.max_eq_left hrate, hframe]
  by_cases hk : k < s.framesAt deviceRate
  · rw [if_pos hk]
    refine List.map_congr_left fun channel _ => ?_
    rw [Sound.outputSample, if_pos hk, Sound.sourceIndex]
  · have hrest : s.outputSample deviceRate t k = fun _ => t.atRest := by
      funext channel
      rw [Sound.outputSample, if_neg hk]
    rw [if_neg hk, hrest, List.map_const', List.length_range]

theorem safe_atStart_of_fits (hsampleRate : 1 ≤ s.sampleRate.toNat) (hrate : 1 ≤ deviceRate.toNat)
    (hfits : s.frames * deviceRate.toNat + s.sampleRate.toNat < 1 <<< 64) :
    (atStart s deviceRate deviceChannels).Safe where
  sampleRate_pos := hsampleRate
  deviceRate_pos := by
    rw [deviceRate_atStart]
    exact Nat.le_max_right _ _
  deviceChannels_pos := by
    rw [deviceChannels_atStart]
    exact Nat.le_max_right _ _
  fits := by
    rw [deviceRate_atStart, Nat.max_eq_left hrate]
    exact Nat.le_of_lt hfits

/-- For every output frame before the end there is a source sample in each channel. -/
theorem sourceIndex_lt (hsafe : (atStart s deviceRate deviceChannels).Safe)
    (hchannels : 1 ≤ s.channels.toNat) (hrate : 1 ≤ deviceRate.toNat) {k : Nat}
    (hk : k < s.framesAt deviceRate) (channel : Nat) :
    s.sourceIndex deviceRate k channel < s.samples.size := by
  have hlasts := (hsafe.source_lt_iff k).2 (by rwa [duration_atStart])
  rw [deviceRate_atStart, Nat.max_eq_left hrate] at hlasts
  have hsource : k * s.sampleRate.toNat / deviceRate.toNat < s.frames := hlasts
  have hframe : s.frameChannels = s.channels.toNat := Nat.max_eq_left hchannels
  have hindex := Sound.index_lt hsource channel
  rwa [hframe] at hindex

/-- The counter of frames fits its word up to the end of the sound. -/
theorem Safe.duration_lt {p : Playhead} (hp : p.Safe) : p.duration < 1 <<< 64 :=
  Nat.lt_of_le_of_lt (Nat.le_mul_of_pos_right _ hp.sampleRate_pos)
    (hp.product_lt (Nat.le_refl _))

end Start

/-- The frames of a buffer more. -/
theorem framesInEach_take_succ (p : Playhead) {α : Type} {buffers : List (List α)} {i : Nat}
    {buffer : List α} (h : buffers[i]? = some buffer) :
    p.framesInEach (buffers.take (i + 1)) =
      p.framesInEach (buffers.take i) + p.framesIn buffer.length := by
  unfold framesInEach
  rw [List.take_add_one, h, Option.toList_some, List.map_append, List.sum_append,
    List.map_singleton, List.sum_singleton]

/-- **A device hears the same sound however it cuts it.** Whole output frames in buffers of any
    lengths: the calls come to their end and fill their buffers; all samples in a row are a function
    of the number of frames; for the frames before the end of the sound there is a source sample;
    the playhead counts the frames up to there; and a call says that the sound is over just if one
    of its own frames is past the end. -/
theorem renderEach_frames (s : Sound) (deviceRate : UInt32) (deviceChannels : UInt16)
    (hsampleRate : 1 ≤ s.sampleRate.toNat) (hchannels : 1 ≤ s.channels.toNat)
    (hfits : s.frames * deviceRate.toNat + s.sampleRate.toNat < 1 <<< 64)
    (hdeviceRate : 1 ≤ deviceRate.toNat) (hdeviceChannels : 1 ≤ deviceChannels.toNat)
    (t : NativeType) (buffers : List (List t.Sample))
    (hwhole : ∀ buffer ∈ buffers, deviceChannels.toNat ∣ buffer.length) :
    ∃ calls p, (atStart s deviceRate deviceChannels).renderEach t buffers = .ok (calls, p) ∧
      calls.flatMap Prod.snd =
        s.outputOf deviceRate deviceChannels t (wholeFrames deviceChannels buffers) ∧
      (∀ k channel, k < s.framesAt deviceRate →
        s.sourceIndex deviceRate k channel < s.samples.size) ∧
      p.position = min (wholeFrames deviceChannels buffers) (s.framesAt deviceRate) ∧
      p.position < 1 <<< 64 ∧
      ∀ i buffer, buffers[i]? = some buffer →
        ∃ playing samples, calls[i]? = some (playing, samples) ∧
          samples.length = buffer.length ∧
          (playing = false ↔ ∃ k, wholeFrames deviceChannels (buffers.take i) ≤ k ∧
            k < wholeFrames deviceChannels (buffers.take (i + 1)) ∧ s.framesAt deviceRate ≤ k) := by
  let start := atStart s deviceRate deviceChannels
  have hstart : start.deviceChannels.toNat = deviceChannels.toNat :=
    (deviceChannels_atStart s _ _).trans (Nat.max_eq_left hdeviceChannels)
  have hsafe : start.Safe := safe_atStart_of_fits hsampleRate hdeviceRate hfits
  have hduration : start.duration = s.framesAt deviceRate := duration_atStart s _ _
  -- the frames of some of the buffers are counted by their samples
  have hframes : ∀ cut : List (List t.Sample), cut ⊆ buffers →
      start.framesInEach cut = wholeFrames deviceChannels cut := by
    intro cut hcut
    have hcount := framesInEach_of_dvd hsafe fun buffer hb => hstart ▸ hwhole buffer (hcut hb)
    rw [hstart] at hcount
    exact (Nat.div_eq_of_eq_mul_left hdeviceChannels hcount.symm).symm
  have hplayed := renderEach_after hsafe 0 t buffers
  rw [after_zero_atStart, Nat.zero_add, hframes buffers (List.Subset.refl _)] at hplayed
  refine ⟨_, _, hplayed, ?_, ?_, ?_, ?_, ?_⟩
  · rw [flatMap_callsFrom hsafe 0 fun buffer hb => hstart ▸ hwhole buffer hb,
      hframes buffers (List.Subset.refl _), hstart, ← List.range_eq_range']
    exact List.flatMap_congr fun k _ => outputFrame_atStart hchannels hdeviceRate t k _
  · intro k channel hk
    exact sourceIndex_lt hsafe hchannels hdeviceRate hk channel
  · rw [position_after, hduration]
  · rw [position_after]
    exact Nat.lt_of_le_of_lt (Nat.min_le_right _ _) hsafe.duration_lt
  · intro i buffer hbuffer
    refine ⟨_, _, by rw [getElem?_callsFrom, hbuffer]; rfl, ?_, ?_⟩
    · rw [length_outputFrames, sum_pieceLengths]
    · rw [lastsFor_eq_false_iff, Nat.zero_add, ← framesInEach_take_succ start hbuffer, hduration,
        hframes _ (List.take_subset _ _), hframes _ (List.take_subset _ _)]

/-- Three mono samples at 2 Hz are five frames of a stereo device at 3 Hz, which asks for two
    frames, for none, and for four. -/
theorem renderEach_frames_upsampled :
    let s : Sound := ⟨2, 1, #[⟨0x3f000000⟩, ⟨0xbf800000⟩, ⟨0x3e800000⟩]⟩
    let buffers : List (List Int16) := [[7, 7, 7, 7], [], [7, 7, 7, 7, 7, 7, 7, 7]]
    ∃ calls p, (atStart s 3 2).renderEach .i16 buffers = .ok (calls, p) ∧
      calls.flatMap Prod.snd =
        [16384, 16384, 16384, 16384, -32768, -32768, 8192, 8192, 8192, 8192, 0, 0] ∧
      p.position = 5 ∧ ∃ first second third, calls[0]? = some (true, first) ∧
        calls[1]? = some (true, second) ∧ calls[2]? = some (false, third) := by
  intro s buffers
  have hend : s.framesAt 3 = 5 := by decide +kernel
  have hframes : wholeFrames 2 buffers = 6 := by decide
  have hsamples : s.outputOf 3 2 .i16 6 =
      [16384, 16384, 16384, 16384, -32768, -32768, 8192, 8192, 8192, 8192, 0, 0] := by
    decide +kernel
  have hwhole : ∀ buffer ∈ buffers, (2 : UInt16).toNat ∣ buffer.length := by decide
  obtain ⟨calls, p, hrender, hplayed, -, hposition, -, hcalls⟩ :=
    renderEach_frames s 3 2 (by decide) (by decide) (by decide +kernel) (by decide) (by decide)
      .i16 buffers hwhole
  rw [hframes, hsamples] at hplayed
  rw [hframes, hend] at hposition
  rw [hend] at hcalls
  obtain ⟨_, first, hfirst, -, hlasts⟩ := hcalls 0 _ rfl
  obtain ⟨_, second, hsecond, -, hempty⟩ := hcalls 1 _ rfl
  obtain ⟨_, third, hthird, -, hover⟩ := hcalls 2 _ rfl
  have hplaying : ∀ {playing : Bool} {a b : Nat},
      (playing = false ↔ ∃ k, a ≤ k ∧ k < b ∧ 5 ≤ k) → b ≤ 5 → playing = true := by
    intro playing a b hiff hb
    cases playing with
    | true => rfl
    | false =>
      obtain ⟨k, -, hk, hend⟩ := hiff.1 rfl
      omega
  rw [hplaying hlasts (by decide)] at hfirst
  rw [hplaying hempty (by decide)] at hsecond
  rw [hover.2 ⟨5, by decide⟩] at hthird
  exact ⟨calls, p, hrender, hplayed, hposition, first, second, third, hfirst, hsecond, hthird⟩

end Playhead

end GuestAudio
