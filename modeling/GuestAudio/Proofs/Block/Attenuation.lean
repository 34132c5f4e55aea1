import GuestAudio.Block.Mixing
import GuestAudio.Proofs.Block.WireSamples

set_option autoImplicit false

/-! # Sound at a volume

Mixing goes by the samples that both blocks have, and leaves all other bytes alone (`mixInto_eq`).
Onto silence a source is mixed as it is at the volume: `attenuate` says what that is, sample by
sample, and `mixInto_silence` that mixing does it. No sample gets louder or changes its sign, so
nothing saturates; at `unityVolume` all whole samples stay as they are (`attenuate_unity`). -/

namespace GuestAudio

/-! ## One sample -/

theorem natAbs_scaleSample (volume : Nat) (s : Int) :
    (scaleSample volume s).natAbs = s.natAbs * volume / unityVolume := by
  rw [scaleSample, Int.natAbs_tdiv, Int.natAbs_mul, Int.natAbs_natCast, Int.natAbs_natCast]
  rfl

theorem natAbs_scaleSample_le {volume : Nat} (hv : volume ≤ unityVolume) (s : Int) :
    (scaleSample volume s).natAbs ≤ s.natAbs := by
  rw [natAbs_scaleSample]
  refine Nat.div_le_of_le_mul ?_
  rw [Nat.mul_comm unityVolume]
  exact Nat.mul_le_mul_left _ hv

theorem scaleSample_nonneg {s : Int} (hs : 0 ≤ s) (volume : Nat) : 0 ≤ scaleSample volume s :=
  Int.tdiv_nonneg (Int.mul_nonneg hs (Int.natCast_nonneg _)) (Int.natCast_nonneg _)

theorem scaleSample_neg (volume : Nat) (s : Int) :
    scaleSample volume (-s) = -scaleSample volume s := by
  rw [scaleSample, Int.neg_mul, Int.neg_tdiv]
  rfl

theorem scaleSample_nonpos {s : Int} (hs : s ≤ 0) (volume : Nat) : scaleSample volume s ≤ 0 := by
  have h := scaleSample_nonneg (Int.neg_nonneg_of_nonpos hs) volume
  rw [scaleSample_neg] at h
  omega

@[simp] theorem scaleSample_unity (s : Int) : scaleSample unityVolume s = s :=
  Int.mul_tdiv_cancel s (by decide)

@[simp] theorem scaleSample_zero (s : Int) : scaleSample 0 s = 0 := by
  rw [scaleSample, Int.natCast_zero, Int.mul_zero, Int.zero_tdiv]

/-- A sample at a volume stays within the limits. -/
theorem scaleSample_bounds {w : WireLayout} {volume : Nat} {s : Int} (hv : volume ≤ unityVolume)
    (hs : w.minSample ≤ s ∧ s ≤ w.maxSample) :
    w.minSample ≤ scaleSample volume s ∧ scaleSample volume s ≤ w.maxSample := by
  have hle := natAbs_scaleSample_le hv s
  have hzero : w.minSample ≤ 0 ∧ 0 ≤ w.maxSample := by cases w <;> decide
  rcases Int.le_total 0 s with h | h
  · have := scaleSample_nonneg h volume
    omega
  · have := scaleSample_nonpos h volume
    omega

/-- On a sample at rest a source sample is itself, at the volume. -/
theorem mixSample_zero {w : WireLayout} {volume : Nat} {s : Int} (hv : volume ≤ unityVolume)
    (hs : w.minSample ≤ s ∧ s ≤ w.maxSample) :
    mixSample w volume 0 s = scaleSample volume s := by
  rw [mixSample, Int.zero_add, WireLayout.clamp_of_bounds (scaleSample_bounds hv hs)]

/-- At volume zero no sample adds anything. -/
theorem mixSample_volume_zero {w : WireLayout} {d : Int} (s : Int)
    (hd : w.minSample ≤ d ∧ d ≤ w.maxSample) : mixSample w 0 d s = d := by
  rw [mixSample, scaleSample_zero, Int.add_zero, WireLayout.clamp_of_bounds hd]

/-! ## Mixing -/

/-- Whatever samples there are to write, they take this many bytes. -/
theorem length_flatMap_encode (w : WireLayout) (f : Int → Int) (xs : List Int) :
    (xs.flatMap fun s => w.encode (f s)).length = xs.length * w.sampleBytes := by
  simp only [List.length_flatMap, WireLayout.length_encode, List.map_const', List.sum_replicate_nat]

variable {w : WireLayout} {src dst : Bytes}

/-- The number of bytes in the samples that both blocks have. -/
def WireLayout.sharedBytes (w : WireLayout) (src dst : Bytes) : Nat :=
  min (dst.length / w.sampleBytes) (src.length / w.sampleBytes) * w.sampleBytes

theorem WireLayout.sharedBytes_le (w : WireLayout) (src dst : Bytes) :
    w.sharedBytes src dst ≤ dst.length :=
  Nat.le_trans (Nat.mul_le_mul_right _ (Nat.min_le_left _ _)) (Nat.div_mul_le_self _ _)

theorem WireLayout.sharedBytes_of_length_eq (h : src.length = dst.length)
    (hwhole : w.sampleBytes ∣ dst.length) : w.sharedBytes src dst = dst.length := by
  rw [sharedBytes, h, Nat.min_self, Nat.div_mul_cancel hwhole]

/-- Whatever is made of each pair of samples, it takes as many bytes. -/
theorem length_flatMap_encode_zipWith (w : WireLayout) (f : Int → Int → Int) (src dst : Bytes) :
    ((List.zipWith f (w.samples dst) (w.samples src)).flatMap w.encode).length =
      w.sharedBytes src dst := by
  refine (length_flatMap_encode w id _).trans ?_
  rw [List.length_zipWith, WireLayout.length_samples, WireLayout.length_samples,
    WireLayout.sharedBytes]

/-- If the samples of `dst` stay as they are, then so do its bytes. -/
theorem flatMap_encode_zipWith_of_left {f : Int → Int → Int}
    (hf : ∀ d ∈ w.samples dst, ∀ s ∈ w.samples src, f d s = d) :
    (List.zipWith f (w.samples dst) (w.samples src)).flatMap w.encode =
      dst.take (w.sharedBytes src dst) := by
  have hkept : List.zipWith f (w.samples dst) (w.samples src) =
      (w.samples dst).take (min (dst.length / w.sampleBytes) (src.length / w.sampleBytes)) := by
    refine List.ext_getElem (by simp [WireLayout.length_samples]) fun i hi _ => ?_
    rw [List.getElem_zipWith, List.getElem_take]
    exact hf _ (List.getElem_mem _) _ (List.getElem_mem _)
  have hlen : (dst.take (w.sharedBytes src dst)).length = w.sharedBytes src dst :=
    List.length_take_of_le (w.sharedBytes_le src dst)
  rw [hkept, ← WireLayout.samples_take, ← WireLayout.sharedBytes,
    WireLayout.flatMap_encode_samples_of_dvd (hlen.symm ▸ Nat.dvd_mul_left _ _)]

/-- What mixing writes and what it leaves, at every volume. Volume zero is no exception: each sample
    is written as it was. -/
theorem mixInto_eq (w : WireLayout) (volume : Nat) (src dst : Bytes) :
    mixInto w volume src dst =
      (List.zipWith (mixSample w (min volume unityVolume)) (w.samples dst)
        (w.samples src)).flatMap w.encode ++ dst.drop (w.sharedBytes src dst) := by
  unfold mixInto
  split
  · next h0 =>
    rw [h0, Nat.zero_min, flatMap_encode_zipWith_of_left fun d hd s _ =>
      mixSample_volume_zero s (WireLayout.samples_bounds hd), List.take_append_drop]
  · have hlen := length_flatMap_encode_zipWith w (mixSample w (min volume unityVolume)) src dst
    dsimp only
    rw [overlay_of_length_le (hlen.symm ▸ w.sharedBytes_le src dst), hlen]

/-! ## A source at a volume -/

/-- The bytes of a source at a volume: each sample `s` becomes `s * volume / 128`, rounded toward
    zero. A byte at the end that is no whole sample becomes silence. -/
def attenuate (w : WireLayout) (volume : Nat) (src : Bytes) : Bytes :=
  (w.samples src).flatMap (fun s : Int => w.encode ((s * volume).tdiv 128)) ++
    List.replicate (src.length % w.sampleBytes) w.silence

theorem attenuate_eq (w : WireLayout) (volume : Nat) (src : Bytes) :
    attenuate w volume src = (w.samples src).flatMap (fun s => w.encode (scaleSample volume s)) ++
      List.replicate (src.length % w.sampleBytes) w.silence := rfl

@[simp] theorem length_attenuate (w : WireLayout) (volume : Nat) (src : Bytes) :
    (attenuate w volume src).length = src.length := by
  rw [attenuate_eq, List.length_append, length_flatMap_encode, WireLayout.length_samples,
    List.length_replicate]
  exact Nat.div_add_mod' _ _

/-- At volume zero all is silence. -/
theorem attenuate_zero (w : WireLayout) (src : Bytes) :
    attenuate w 0 src = List.replicate src.length w.silence := by
  refine List.eq_replicate_iff.2 ⟨length_attenuate w 0 src, fun b hb => ?_⟩
  simp only [attenuate_eq, scaleSample_zero, WireLayout.encode_zero, List.mem_append,
    List.mem_flatMap, List.mem_replicate] at hb
  rcases hb with ⟨_, _, _, hb⟩ | ⟨_, hb⟩
  · exact hb
  · exact hb

/-- At unity all whole samples stay as they are, and a byte at the end becomes silence. -/
theorem attenuate_unity_eq (w : WireLayout) (src : Bytes) :
    attenuate w unityVolume src = src.take (src.length / w.sampleBytes * w.sampleBytes) ++
      List.replicate (src.length % w.sampleBytes) w.silence := by
  simp only [attenuate_eq, scaleSample_unity]
  rw [WireLayout.flatMap_encode_samples]

/-- At unity a whole number of samples stays as it is. -/
theorem attenuate_unity {w : WireLayout} {src : Bytes} (h : w.sampleBytes ∣ src.length) :
    attenuate w unityVolume src = src := by
  rw [attenuate_unity_eq, Nat.mod_eq_zero_of_dvd h, List.replicate_zero, List.append_nil,
    Nat.div_mul_cancel h, List.take_length]

/-- A source mixed onto silence is the source at the volume. -/
theorem mixInto_silence (w : WireLayout) {volume : Nat} (hv : volume ≤ unityVolume) (src : Bytes) :
    mixInto w volume src (List.replicate src.length w.silence) = attenuate w volume src := by
  have hmixed : List.zipWith (mixSample w volume)
      (w.samples (List.replicate src.length w.silence)) (w.samples src) =
      (w.samples src).map (scaleSample volume) := by
    rw [WireLayout.samples_replicate_silence, ← WireLayout.length_samples]
    refine List.ext_getElem (by simp) fun i hi _ => ?_
    simp only [List.length_zipWith, List.length_replicate, Nat.min_self] at hi
    rw [List.getElem_zipWith, List.getElem_replicate, List.getElem_map,
      mixSample_zero hv (WireLayout.samples_bounds (List.getElem_mem hi))]
  have hshared : w.sharedBytes src (List.replicate src.length w.silence) =
      src.length / w.sampleBytes * w.sampleBytes := by
    rw [WireLayout.sharedBytes, List.length_replicate, Nat.min_self]
  have hrest : src.length - src.length / w.sampleBytes * w.sampleBytes =
      src.length % w.sampleBytes := by
    have := Nat.div_add_mod' src.length w.sampleBytes
    omega
  rw [mixInto_eq, Nat.min_eq_left hv, hmixed, List.flatMap_map, hshared, List.drop_replicate, hrest,
    attenuate_eq]

end GuestAudio
