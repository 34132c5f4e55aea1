import GuestAudio.Format.Pcm

set_option autoImplicit false

/-! # Reading and writing wire samples

`WireLayout.samples` and `WireLayout.encode` undo each other: a sample within the layout's limits
is read back as it was written (`samples_encode`), and bytes that are read and written again are the
same bytes, less one at the end that is no whole sample (`flatMap_encode_samples`). Reading follows
the bytes, so that cuts between samples may be made on either side (`samples_append`,
`samples_take`). -/

namespace GuestAudio

namespace WireLayout

/-! ## One sample -/

theorem encode_signedWord (high low : UInt8) :
    word.encode (signedWord high low) = [high, low] := by
  have hh : high.toNat < 256 := high.toNat_lt
  have hl : low.toNat < 256 := low.toNat_lt
  have hn : (signedWord high low % 65536).toNat = high.toNat * 256 + low.toNat := by
    unfold signedWord
    dsimp only
    split <;> omega
  have hhigh : (high.toNat * 256 + low.toNat) / 256 = high.toNat := by omega
  have hlow : (high.toNat * 256 + low.toNat) % 256 = low.toNat := by omega
  simp only [encode, hn, hhigh, hlow, UInt8.ofNat_toNat]

theorem encode_byte (b : UInt8) : byte.encode ((b.toNat : Int) - 128) = [b] := by
  have h : ((b.toNat : Int) - 128 + 128).toNat = b.toNat := by omega
  simp only [encode, h, UInt8.ofNat_toNat]

theorem signedWord_ofNat {s : Int} (h : -32768 ≤ s ∧ s ≤ 32767) :
    signedWord (UInt8.ofNat ((s % 65536).toNat / 256)) (UInt8.ofNat ((s % 65536).toNat % 256)) =
      s := by
  have hhigh : (s % 65536).toNat / 256 % 2 ^ 8 = (s % 65536).toNat / 256 := by omega
  have hlow : (s % 65536).toNat % 256 % 2 ^ 8 = (s % 65536).toNat % 256 := by omega
  unfold signedWord
  rw [UInt8.toNat_ofNat', UInt8.toNat_ofNat', hhigh, hlow]
  dsimp only
  split <;> omega

/-- A sample within the limits is read back as it was written. -/
theorem samples_encode {w : WireLayout} {s : Int} (h : w.minSample ≤ s ∧ s ≤ w.maxSample) :
    w.samples (w.encode s) = [s] := by
  cases w with
  | byte =>
    simp only [minSample, maxSample] at h
    have hs : (((s + 128).toNat % 2 ^ 8 : Nat) : Int) - 128 = s := by omega
    simp only [samples, encode, List.map_cons, List.map_nil, UInt8.toNat_ofNat', hs]
  | word =>
    simp only [minSample, maxSample] at h
    simp only [samples, encode, samples.words, signedWord_ofNat h]

@[simp] theorem encode_zero (w : WireLayout) :
    w.encode 0 = List.replicate w.sampleBytes w.silence := by
  cases w <;> rfl

/-! ## Strings of bytes -/

theorem samples_bounds {w : WireLayout} {bytes : Bytes} {s : Int} (h : s ∈ w.samples bytes) :
    w.minSample ≤ s ∧ s ≤ w.maxSample := by
  cases w with
  | byte =>
    obtain ⟨b, -, rfl⟩ := List.mem_map.1 h
    have hb : b.toNat < 256 := b.toNat_lt
    simp only [minSample, maxSample]
    omega
  | word =>
    simp only [samples] at h
    fun_induction samples.words bytes with
    | case1 high low rest ih =>
      rcases List.mem_cons.1 h with h | h
      · rw [h]
        exact signedWord_bounds high low
      · exact ih h
    | case2 => exact absurd h List.not_mem_nil

/-- A cut behind a whole number of samples. -/
theorem samples_append {w : WireLayout} {xs : Bytes} (ys : Bytes) (h : w.sampleBytes ∣ xs.length) :
    w.samples (xs ++ ys) = w.samples xs ++ w.samples ys := by
  cases w with
  | byte => exact List.map_append
  | word =>
    simp only [samples]
    fun_induction samples.words xs with
    | case1 high low rest ih =>
      have hrest : word.sampleBytes ∣ rest.length := by
        simp only [sampleBytes, List.length_cons] at h ⊢
        omega
      simp only [List.cons_append, samples.words, ih hrest]
    | case2 bytes hshort =>
      rcases bytes with _ | ⟨a, _ | ⟨b, rest⟩⟩
      · rfl
      · simp [sampleBytes] at h
      · exact absurd rfl (hshort a b rest)

/-- The first `n` samples are in the bytes of the first `n` samples. -/
theorem samples_take (w : WireLayout) (bytes : Bytes) (n : Nat) :
    w.samples (bytes.take (n * w.sampleBytes)) = (w.samples bytes).take n := by
  by_cases hn : n * w.sampleBytes ≤ bytes.length
  · have hlen : (bytes.take (n * w.sampleBytes)).length = n * w.sampleBytes := by
      rw [List.length_take, Nat.min_eq_left hn]
    have hcut : (w.samples (bytes.take (n * w.sampleBytes))).length = n := by
      rw [length_samples, hlen, Nat.mul_div_cancel n w.sampleBytes_pos]
    conv => rhs; rw [← List.take_append_drop (n * w.sampleBytes) bytes]
    rw [samples_append _ (by rw [hlen]; exact Nat.dvd_mul_left _ _), List.take_left' hcut]
  · have hall : (w.samples bytes).length ≤ n := by
      rw [length_samples]
      exact Nat.div_le_of_le_mul (by rw [Nat.mul_comm]; omega)
    rw [List.take_of_length_le (by omega), List.take_of_length_le hall]

/-- Bytes read as samples and written again are the bytes of all whole samples. -/
theorem flatMap_encode_samples (w : WireLayout) (bytes : Bytes) :
    (w.samples bytes).flatMap w.encode =
      bytes.take (bytes.length / w.sampleBytes * w.sampleBytes) := by
  cases w with
  | byte =>
    simp only [samples, sampleBytes, Nat.div_one, Nat.mul_one, List.take_length]
    induction bytes with
    | nil => rfl
    | cons b rest ih =>
      rw [List.map_cons, List.flatMap_cons, encode_byte, ih, List.singleton_append]
  | word =>
    simp only [samples, sampleBytes]
    fun_induction samples.words bytes with
    | case1 high low rest ih =>
      have hlen : (high :: low :: rest).length / 2 * 2 = rest.length / 2 * 2 + 2 := by
        simp only [List.length_cons]
        omega
      rw [hlen, List.flatMap_cons, encode_signedWord, ih]
      rfl
    | case2 bytes hshort =>
      rcases bytes with _ | ⟨a, _ | ⟨b, rest⟩⟩
      · rfl
      · simp
      · exact absurd rfl (hshort a b rest)

/-- A whole number of samples is read and written without loss. -/
theorem flatMap_encode_samples_of_dvd {w : WireLayout} {bytes : Bytes}
    (h : w.sampleBytes ∣ bytes.length) : (w.samples bytes).flatMap w.encode = bytes := by
  rw [flatMap_encode_samples, Nat.div_mul_cancel h, List.take_length]

/-- Samples within the limits are read back as they were written, however many. -/
theorem samples_flatMap_encode {w : WireLayout} {xs : List Int}
    (h : ∀ s ∈ xs, w.minSample ≤ s ∧ s ≤ w.maxSample) : w.samples (xs.flatMap w.encode) = xs := by
  induction xs with
  | nil => cases w <;> rfl
  | cons s rest ih =>
    have hdvd : w.sampleBytes ∣ (w.encode s).length := by
      simp only [length_encode, Nat.dvd_refl]
    have hrest := ih fun s' hs' => h s' (List.mem_cons_of_mem s hs')
    rw [List.flatMap_cons, samples_append _ hdvd, hrest, samples_encode (h s List.mem_cons_self),
      List.singleton_append]

/-- Silence is samples at rest. -/
theorem samples_replicate_silence (w : WireLayout) (n : Nat) :
    w.samples (List.replicate n w.silence) = List.replicate (n / w.sampleBytes) 0 := by
  have hrest : ∀ s ∈ w.samples (List.replicate n w.silence), s = 0 := by
    intro s hs
    cases w with
    | byte =>
      obtain ⟨b, hb, rfl⟩ := List.mem_map.1 hs
      rw [List.eq_of_mem_replicate hb]
      rfl
    | word =>
      simp only [samples] at hs
      generalize hbytes : List.replicate n word.silence = bytes at hs
      have hall : ∀ b ∈ bytes, b = word.silence := hbytes ▸ fun b => List.eq_of_mem_replicate
      clear hbytes
      fun_induction samples.words bytes with
      | case1 high low rest ih =>
        rcases List.mem_cons.1 hs with hs | hs
        · rw [hs, hall high (by simp), hall low (by simp)]
          decide
        · exact ih hs fun b hb => hall b (by simp [hb])
      | case2 => exact absurd hs List.not_mem_nil
  have hlen := length_samples w (List.replicate n w.silence)
  rw [List.length_replicate] at hlen
  exact List.eq_replicate_iff.2 ⟨hlen, hrest⟩

end WireLayout

end GuestAudio
