import GuestAudio.Fault
import GuestAudio.Proofs.Block.Attenuation

set_option autoImplicit false

/-! # The laws of mixing

Mixing adds up the samples that both blocks have and leaves all other bytes alone, at every volume
(`mixInto_eq`). Silence is neutral on both sides: from unity up it turns into what is mixed onto it,
and mixed onto a block it changes nothing. At unity it does not matter which of two blocks is mixed
onto the other.

The sums are exact as far as the layout's limits go. `mixInWords` takes every step to them in a
signed word of 32 bits, and none of the steps overflows (`mixInWords_eq_ok`). -/

namespace GuestAudio

variable {w : WireLayout} {volume : Nat} {d s : Int} {src dst : Bytes}

/-! ## Mixing -/

/-- A sample at rest adds nothing, at whatever volume. -/
theorem mixSample_of_rest (volume : Nat) (hd : w.minSample ≤ d ∧ d ≤ w.maxSample) :
    mixSample w volume d 0 = d := by
  have hrest : scaleSample volume 0 = 0 := by rw [scaleSample, Int.zero_mul, Int.zero_tdiv]
  rw [mixSample, hrest, Int.add_zero, WireLayout.clamp_of_bounds hd]

/-- At unity the two samples are added. -/
theorem mixSample_unity (w : WireLayout) (d s : Int) :
    mixSample w unityVolume d s = w.clamp (d + s) := by
  rw [mixSample, scaleSample_unity]

theorem mixSample_unity_comm (w : WireLayout) (d s : Int) :
    mixSample w unityVolume d s = mixSample w unityVolume s d := by
  rw [mixSample_unity, mixSample_unity, Int.add_comm]

/-- Of a volume beyond unity only unity counts. -/
theorem mixInto_of_unity_le (w : WireLayout) (h : unityVolume ≤ volume) (src dst : Bytes) :
    mixInto w volume src dst = mixInto w unityVolume src dst := by
  rw [mixInto_eq, mixInto_eq, Nat.min_eq_right h, Nat.min_self]

/-- The samples after mixing. -/
theorem samples_mixInto (w : WireLayout) (volume : Nat) (src dst : Bytes) :
    w.samples (mixInto w volume src dst) =
      List.zipWith (mixSample w (min volume unityVolume)) (w.samples dst) (w.samples src) ++
        w.samples (dst.drop (w.sharedBytes src dst)) := by
  have hwhole := length_flatMap_encode_zipWith w (mixSample w (min volume unityVolume)) src dst
  rw [mixInto_eq, WireLayout.samples_append _ (hwhole.symm ▸ Nat.dvd_mul_left _ _),
    WireLayout.samples_flatMap_encode]
  intro x hx
  obtain ⟨i, hi, rfl⟩ := List.getElem_of_mem hx
  rw [List.getElem_zipWith]
  exact WireLayout.clamp_bounds w _

/-- Silence mixed onto a block leaves it as it is. -/
theorem mixInto_of_silence (w : WireLayout) (volume n : Nat) (dst : Bytes) :
    mixInto w volume (List.replicate n w.silence) dst = dst := by
  rw [mixInto_eq, flatMap_encode_zipWith_of_left, List.take_append_drop]
  intro d hd s hs
  rw [WireLayout.samples_replicate_silence] at hs
  rw [List.eq_of_mem_replicate hs, mixSample_of_rest _ (WireLayout.samples_bounds hd)]

/-- At unity, either of two blocks may be mixed onto the other. -/
theorem mixInto_comm {a b : Bytes} (hlen : a.length = b.length)
    (hwhole : w.sampleBytes ∣ a.length) :
    mixInto w unityVolume b a = mixInto w unityVolume a b := by
  rw [mixInto_eq, mixInto_eq, Nat.min_self, WireLayout.sharedBytes_of_length_eq hlen.symm hwhole,
    WireLayout.sharedBytes_of_length_eq hlen (hlen ▸ hwhole), List.drop_length, List.drop_length,
    List.zipWith_comm_of_comm (mixSample_unity_comm w)]

/-- From unity up, a sample that both blocks have becomes the sum of the two, limited. -/
theorem getElem?_samples_mixInto (h : unityVolume ≤ volume) {i : Nat}
    (hd : (w.samples dst)[i]? = some d) (hs : (w.samples src)[i]? = some s) :
    (w.samples (mixInto w volume src dst))[i]? = some (w.clamp (d + s)) := by
  have hsum := List.getElem?_zipWith_eq_some (f := mixSample w unityVolume).2
    ⟨d, s, hd, hs, mixSample_unity w d s⟩
  rw [mixInto_of_unity_le w h, samples_mixInto, Nat.min_self,
    List.getElem?_append_left (List.getElem?_eq_some_iff.1 hsum).1, hsum]

/-- The bytes behind the samples that both blocks have stay as they are. -/
theorem getElem?_mixInto (w : WireLayout) (volume : Nat) {i : Nat}
    (hi : w.sharedBytes src dst ≤ i) : (mixInto w volume src dst)[i]? = dst[i]? := by
  have hlen := length_flatMap_encode_zipWith w (mixSample w (min volume unityVolume)) src dst
  rw [mixInto_eq, List.getElem?_append_right (hlen.symm ▸ hi), hlen, List.getElem?_drop,
    Nat.add_sub_cancel' hi]

/-! ## Mixing in machine words -/

/-- The result `n`, provided it fits a signed word of 32 bits. -/
def fittingSigned (n : Int) : Checked Int :=
  if -2147483648 ≤ n ∧ n ≤ 2147483647 then .ok n else .error .overflow

theorem fittingSigned_of_bounds {n : Int} (h : -2147483648 ≤ n ∧ n ≤ 2147483647) :
    fittingSigned n = .ok n := if_pos h

namespace WireLayout

/-- The number that is stored for a sample at rest. -/
def rest : WireLayout → Int
  | byte => 128
  | word => 0

/-- The numbers that are stored in a string of bytes, one for each sample. -/
def stored (w : WireLayout) (bytes : Bytes) : List Int :=
  match w with
  | byte => bytes.map fun b => (b.toNat : Int)
  | word => samples.words bytes

/-- The bytes in which a number is stored. -/
def store (w : WireLayout) (n : Int) : Bytes :=
  match w with
  | byte => [UInt8.ofNat n.toNat]
  | word => word.encode n

theorem samples_eq_map_stored (w : WireLayout) (bytes : Bytes) :
    w.samples bytes = (w.stored bytes).map (· - w.rest) := by
  cases w with
  | byte => rw [samples, stored, rest, List.map_map, Function.comp_def]
  | word => simp only [samples, stored, rest, Int.sub_zero, List.map_id']

theorem store_add_rest (w : WireLayout) (s : Int) : w.store (s + w.rest) = w.encode s := by
  cases w with
  | byte => rfl
  | word => rw [store, rest, Int.add_zero]

theorem stored_bounds {n : Int} {bytes : Bytes} (h : n ∈ w.stored bytes) :
    w.minSample ≤ n - w.rest ∧ n - w.rest ≤ w.maxSample :=
  samples_bounds (samples_eq_map_stored w bytes ▸ List.mem_map_of_mem h)

end WireLayout

/-- The stored sample `s` at a volume, on top of the stored sample `d`. All results on the way are
    in signed words. -/
def mixStored (w : WireLayout) (volume : Nat) (d s : Int) : Checked Int := do
  let relative ← fittingSigned (s - w.rest)
  let product ← fittingSigned (relative * volume)
  let scaled ← fittingSigned (product.tdiv unityVolume)
  let underneath ← fittingSigned (d - w.rest)
  let sum ← fittingSigned (underneath + scaled)
  fittingSigned (w.clamp sum + w.rest)

/-- Mix a source onto a block at a volume, in signed words. -/
def mixInWords (w : WireLayout) (volume : Nat) (src dst : Bytes) : Checked Bytes :=
  if volume = 0 then .ok dst
  else do
    let volume := min volume unityVolume
    let mixed ← ((w.stored dst).zip (w.stored src)).mapM fun (d, s) => mixStored w volume d s
    return overlay (mixed.flatMap w.store) dst

/-- No step from two samples to the one they are mixed to overflows. -/
theorem mixStored_eq_ok (hv : volume ≤ unityVolume)
    (hd : w.minSample ≤ d - w.rest ∧ d - w.rest ≤ w.maxSample)
    (hs : w.minSample ≤ s - w.rest ∧ s - w.rest ≤ w.maxSample) :
    mixStored w volume d s = .ok (mixSample w volume (d - w.rest) (s - w.rest) + w.rest) := by
  have hlimits : -32768 ≤ w.minSample ∧ w.maxSample ≤ 32767 ∧ 0 ≤ w.rest ∧ w.rest ≤ 128 := by
    cases w <;> decide
  have hfactors : ((s - w.rest) * (volume : Int)).natAbs ≤ 32768 * 128 := by
    rw [Int.natAbs_mul, Int.natAbs_natCast]
    exact Nat.mul_le_mul (by omega) hv
  have hscaled := scaleSample_bounds hv hs
  have hmixed := w.clamp_bounds (d - w.rest + scaleSample volume (s - w.rest))
  -- one after the other, as they are taken
  have hrelative := fittingSigned_of_bounds (n := s - w.rest) (by omega)
  have hproduct := fittingSigned_of_bounds (n := (s - w.rest) * volume) (by omega)
  have hquotient := fittingSigned_of_bounds (n := scaleSample volume (s - w.rest)) (by omega)
  have hunder := fittingSigned_of_bounds (n := d - w.rest) (by omega)
  have hsum := fittingSigned_of_bounds
    (n := d - w.rest + scaleSample volume (s - w.rest)) (by omega)
  have hstored := fittingSigned_of_bounds
    (n := w.clamp (d - w.rest + scaleSample volume (s - w.rest)) + w.rest) (by omega)
  rw [mixStored, hrelative, ok_bind, hproduct, ok_bind, ← scaleSample, hquotient, ok_bind, hunder,
    ok_bind, hsum, ok_bind, hstored, mixSample]

/-- Mixing in signed words comes to its end, with the same bytes. -/
theorem mixInWords_eq_ok (w : WireLayout) (volume : Nat) (src dst : Bytes) :
    mixInWords w volume src dst = .ok (mixInto w volume src dst) := by
  unfold mixInWords mixInto
  split
  · rfl
  · have hpair : ∀ x ∈ (w.stored dst).zip (w.stored src),
        mixStored w (min volume unityVolume) x.1 x.2 =
          .ok (mixSample w (min volume unityVolume) (x.1 - w.rest) (x.2 - w.rest) + w.rest) :=
      fun x hx => mixStored_eq_ok (Nat.min_le_right _ _)
        (WireLayout.stored_bounds (List.of_mem_zip hx).1)
        (WireLayout.stored_bounds (List.of_mem_zip hx).2)
    have hmixed := mapM_eq_ok hpair
    dsimp only
    rw [hmixed, ok_bind, List.flatMap_map, WireLayout.samples_eq_map_stored,
      WireLayout.samples_eq_map_stored, List.zipWith_map, ← List.map_uncurry_zip_eq_zipWith,
      List.flatMap_map]
    simp only [WireLayout.store_add_rest]
    rfl

/-! ## The laws -/

/-- What holds of mixing in a layout. -/
structure MixingLaws (w : WireLayout) : Prop where
  /-- From unity up, silence turns into what is mixed onto it. -/
  ontoSilence : ∀ (volume : Nat) (src : Bytes), unityVolume ≤ volume →
    w.sampleBytes ∣ src.length → mixInto w volume src (List.replicate src.length w.silence) = src
  /-- At whatever volume, silence mixed onto a block changes nothing. -/
  ofSilence : ∀ (volume n : Nat) (dst : Bytes),
    mixInto w volume (List.replicate n w.silence) dst = dst
  /-- At unity, either of two blocks may be mixed onto the other. -/
  symmetric : ∀ a b : Bytes, a.length = b.length → w.sampleBytes ∣ a.length →
    mixInto w unityVolume b a = mixInto w unityVolume a b
  /-- At unity, samples add up, as far as the limits allow. -/
  sums : ∀ (a b : Bytes) (i : Nat) (x y : Int),
    (w.samples a)[i]? = some x → (w.samples b)[i]? = some y →
      (w.samples (mixInto w unityVolume b a))[i]? =
        some (max w.minSample (min w.maxSample (x + y)))
  /-- No step overflows a signed word. -/
  inWords : ∀ (volume : Nat) (src dst : Bytes),
    mixInWords w volume src dst = .ok (mixInto w volume src dst)
  /-- Behind the samples that both blocks have, all bytes stay. -/
  untouched : ∀ (volume : Nat) (src dst : Bytes) (i : Nat),
    min (dst.length / w.sampleBytes) (src.length / w.sampleBytes) * w.sampleBytes ≤ i →
      (mixInto w volume src dst)[i]? = dst[i]?

/-- **Mixing is addition with limits.** In both layouts silence is neutral on both sides, at unity
    it makes no difference which of two blocks is mixed onto the other, and samples add up without
    an overflow in the words in which they are added. What is no whole sample of both blocks is left
    as it is. -/
theorem WireLayout.mixingLaws (w : WireLayout) : MixingLaws w where
  ontoSilence volume src hv hwhole := by
    rw [mixInto_of_unity_le w hv, mixInto_silence w (Nat.le_refl _), attenuate_unity hwhole]
  ofSilence := mixInto_of_silence w
  symmetric _ _ := mixInto_comm
  sums _ _ _ _ _ hx hy := getElem?_samples_mixInto (Nat.le_refl _) hx hy
  inWords := mixInWords_eq_ok w
  untouched volume _ _ _ hi := getElem?_mixInto w volume hi

/-- At any volume from unity up the least 16-bit sample comes out as it is; two loud samples make
    the greatest one; and a byte behind them stays. -/
theorem WireLayout.mixingLaws_limits :
    mixInto .word 4294967295 [0x80, 0x00] [0, 0] = [0x80, 0x00] ∧
    (word.samples (mixInto .word 128 [0x75, 0x30, 7] [0x75, 0x30, 9]))[0]? = some 32767 ∧
    (mixInto .word 128 [0x75, 0x30, 7] [0x75, 0x30, 9])[2]? = some 9 :=
  ⟨(mixingLaws .word).ontoSilence 4294967295 [0x80, 0x00] (by decide) (by decide),
    (mixingLaws .word).sums [0x75, 0x30, 9] [0x75, 0x30, 7] 0 30000 30000 (by decide) (by decide),
    (mixingLaws .word).untouched 128 [0x75, 0x30, 7] [0x75, 0x30, 9] 2 (by decide)⟩

end GuestAudio
