import GuestAudio.Chime.Sound
import GuestAudio.Proofs.Sample.Rounding
import GuestAudio.Proofs.Wav.PcmFile

set_option autoImplicit false

/-! # Decoding PCM files

A PCM file is decoded to what it was made of: its rate, its channels, and for every sample the
fraction of full scale that it stands for (`ofWav_bytes`). Each part of the file is read back by the
reader for it, with the rest of the file left to the next reader. -/

namespace GuestAudio

open ListReader

/-! ## Reading what was written -/

namespace ByteReader

theorem take_append {n : Nat} {front : Bytes} (rest : Bytes) (h : front.length = n) :
    take n (front ++ rest) = .ok (front, rest) := by
  have hle : n ≤ (front ++ rest).length := by
    rw [List.length_append]
    omega
  simp only [take, splitExactly_eq, if_pos hle, List.take_left' h, List.drop_left' h]

theorem skip_append {n : Nat} {front : Bytes} (rest : Bytes) (h : front.length = n) :
    skip n (front ++ rest) = .ok ((), rest) := by
  rw [skip, bind_apply, take_append rest h]
  rfl

theorem number_append {n v : Nat} (rest : Bytes) (h : v < 1 <<< (8 * n)) :
    number n (bytesOf n v ++ rest) = .ok (v, rest) := by
  rw [number, bind_apply, take_append rest (length_bytesOf n v)]
  dsimp only
  rw [littleEndian_bytesOf h]
  rfl

theorem require_true (e : WavError) (bytes : Bytes) :
    (require true e : ByteReader Unit) bytes = .ok ((), bytes) := rfl

/-- Values that are each read back from what was written are read back from it all. -/
theorem replicate_flatMap {α : Type} {r : ByteReader α} {write : α → Bytes} {xs : List α}
    (h : ∀ x ∈ xs, ∀ rest, r (write x ++ rest) = .ok (x, rest)) (rest : Bytes) :
    r.replicate xs.length (xs.flatMap write ++ rest) = .ok (xs, rest) := by
  induction xs with
  | nil => rfl
  | cons x xs ih =>
    have hx := h x List.mem_cons_self (xs.flatMap write ++ rest)
    have hxs := ih fun y hy => h y (List.mem_cons_of_mem x hy)
    rw [List.length_cons, List.flatMap_cons, List.append_assoc, ByteReader.replicate, bind_apply,
      hx]
    dsimp only
    rw [bind_apply, hxs]
    rfl

end ByteReader

open ByteReader

/-! ## The header -/

theorem readUntilData_of_more {spec? spec?' : Option WavSpec} {bytes rest : Bytes}
    (h : readChunk spec? bytes = .ok (.more spec?', rest)) :
    readUntilData spec? bytes = readUntilData spec?' rest := by
  rw [readUntilData]
  split <;> simp_all

theorem readUntilData_of_data {spec? : Option WavSpec} {spec : WavSpec} {length : Nat}
    {bytes rest : Bytes} (h : readChunk spec? bytes = .ok (.data spec length, rest)) :
    readUntilData spec? bytes = .ok ((spec, length), rest) := by
  rw [readUntilData]
  split <;> simp_all

/-- Down to its body a chunk is read alike, whatever its name. -/
theorem readChunk_chunkBytes (spec? : Option WavSpec) {name body : Bytes} (rest : Bytes)
    (hname : name.length = 4) :
    readChunk spec? (chunkBytes name body ++ rest) =
      readNamedChunk spec? name (bytesOf 4 body.length ++ (body ++ rest)) := by
  rw [chunkBytes, List.append_assoc, List.append_assoc, readChunk, bind_apply,
    take_append _ hname]

/-- Extra chunks are passed over. -/
theorem readUntilData_extra (spec? : Option WavSpec) (extras : List ExtraChunk) (rest : Bytes) :
    readUntilData spec? (extras.flatMap (fun c => chunkBytes c.name c.body) ++ rest) =
      readUntilData spec? rest := by
  induction extras with
  | nil => rfl
  | cons c extras ih =>
    obtain ⟨hfmt, hfact, hdata⟩ := c.name_unknown
    rw [List.flatMap_cons, List.append_assoc, readUntilData_of_more, ih]
    rw [readChunk_chunkBytes spec? _ c.length_name, readNamedChunk, bind_apply,
      number_append _ c.length_body]
    dsimp only
    rw [if_neg hfmt, if_neg hfact, if_neg hdata, bind_apply, skip_append _ rfl]
    rfl

namespace PcmFile

variable (f : PcmFile)

theorem bits_cases : f.bits = 8 ∨ f.bits = 16 ∨ f.bits = 24 ∨ f.bits = 32 := by
  simpa using f.bits_listed

theorem channels_pos : 0 < f.channels.toNat :=
  Nat.pos_of_ne_zero fun h => f.channels_ne_zero (UInt16.toNat_inj.1 h)

theorem read_formatBody (rest : Bytes) :
    WavSpec.read 16 (f.formatBody ++ rest) = .ok (f.spec, rest) := by
  have hchannels : f.channels.toNat < 1 <<< (8 * 2) := f.channels.toNat_lt
  have hrate : f.sampleRate.toNat < 1 <<< (8 * 4) := f.sampleRate.toNat_lt
  have hbyteRate : f.align * f.sampleRate.toNat < 1 <<< (8 * 4) := f.byteRate_fits
  have halign : f.align < 1 <<< (8 * 2) := f.align_fits
  have htag : WavSpec.integerTag < 1 <<< (8 * 2) := by decide
  have hshare : f.align / f.channels.toNat = f.bits / 8 := by
    rw [align, Nat.mul_div_cancel_left _ f.channels_pos]
  obtain ⟨hbits, hwidth, hwhole, hbits_ne⟩ : f.bits < 1 <<< (8 * 2) ∧
      (8 * (f.bits / 8) < 0x10000 && f.bits ≤ 8 * (f.bits / 8)) = true ∧
      (f.bits % 8 == 0) = true ∧ (f.bits != 0) = true := by
    rcases f.bits_cases with h | h | h | h <;> rw [h] <;> decide
  have hchannels_ne : (f.channels.toNat != 0) = true := by
    simpa using Nat.ne_of_gt f.channels_pos
  have hsize : decide (16 ≤ 16) = true := rfl
  simp only [WavSpec.read, formatBody, List.append_assoc, bind_apply, number_append _ htag,
    number_append _ hchannels, number_append _ hrate, number_append _ hbyteRate,
    number_append _ halign, number_append _ hbits, hshare, hwidth, hwhole, hbits_ne, hchannels_ne,
    hsize, require_true, beq_self_eq_true, Bool.true_or, if_true, WavSpec.readInteger,
    UInt16.ofNat_toNat, UInt32.ofNat_toNat]
  rfl

theorem read_bytes :
    WavHeader.read f.bytes =
      .ok ({ spec := f.spec, sampleCount := f.samples.length }, f.data ++ f.trailer) := by
  have hformat : ∀ rest, readChunk none (chunkBytes (tagBytes "fmt ") f.formatBody ++ rest) =
      .ok (.more (some f.spec), rest) := by
    intro rest
    have hlength : f.formatBody.length < 1 <<< (8 * 4) := by
      rw [f.length_formatBody]
      decide
    rw [readChunk_chunkBytes none rest rfl, readNamedChunk, bind_apply, number_append _ hlength]
    dsimp only
    rw [if_pos rfl, bind_apply, f.length_formatBody, f.read_formatBody]
    rfl
  have hdata : readChunk (some f.spec) (chunkBytes (tagBytes "data") f.data ++ f.trailer) =
      .ok (.data f.spec f.data.length, f.data ++ f.trailer) := by
    have hlength : f.data.length < 1 <<< (8 * 4) := by
      rw [f.length_data]
      exact f.data_fits
    rw [readChunk_chunkBytes _ _ rfl, readNamedChunk, bind_apply, number_append _ hlength]
    dsimp only
    rw [if_neg (by decide), if_neg (by decide), if_pos rfl]
    rfl
  -- without the extra chunks, the format chunk comes first and the data chunk second
  have hchunks : readUntilData none
      (f.beforeFormat.flatMap (fun c => chunkBytes c.name c.body) ++
        (chunkBytes (tagBytes "fmt ") f.formatBody ++
          (f.beforeData.flatMap (fun c => chunkBytes c.name c.body) ++
            (chunkBytes (tagBytes "data") f.data ++ f.trailer)))) =
      .ok ((f.spec, f.data.length), f.data ++ f.trailer) := by
    rw [readUntilData_extra, readUntilData_of_more (hformat _), readUntilData_extra,
      readUntilData_of_data hdata]
  have hsampleBytes : 0 < f.bits / 8 := by
    rcases f.bits_cases with h | h | h | h <;> rw [h] <;> decide
  have hwhole : (f.data.length % f.spec.sampleBytes == 0) = true := by
    rw [f.length_data]
    exact beq_iff_eq.2 (Nat.mul_mod_left _ _)
  have hcount : f.data.length / f.spec.sampleBytes = f.samples.length := by
    rw [f.length_data]
    exact Nat.mul_div_cancel _ hsampleBytes
  have hframes : (f.samples.length % f.spec.channels.toNat == 0) = true :=
    beq_iff_eq.2 (Nat.mod_eq_zero_of_dvd f.whole_frames)
  have hriff : (tagBytes "RIFF").length = 4 := rfl
  have hwave : (tagBytes "WAVE").length = 4 := rfl
  simp only [WavHeader.read, bytes, bind_apply, take_append _ hriff, take_append _ hwave,
    skip_append _ (length_bytesOf 4 _), hchunks, hwhole, hcount, hframes, require_true,
    beq_self_eq_true]
  rfl

/-! ## The samples -/

theorem readSigned_pcmBytes {bits : Nat} {x : Int} (hbits : bits ∈ [16, 24, 32])
    (hx : FitsSigned bits x) (rest : Bytes) :
    WavSpec.readSigned (bits / 8) bits (pcmBytes bits x ++ rest) = .ok (x, rest) := by
  have hne : bits ≠ 8 ∧ bits ≠ 0 ∧ 8 * (bits / 8) = bits := by
    simp only [List.mem_cons, List.not_mem_nil, or_false] at hbits
    omega
  obtain ⟨hbyte, hzero, hwhole⟩ := hne
  have hpos := one_shiftLeft_pos bits
  have hlt : (x % (1 <<< bits : Nat)).toNat < 1 <<< (8 * (bits / 8)) := by
    have := Int.emod_lt_of_pos x (b := (1 <<< bits : Nat)) (by omega)
    rw [hwhole]
    omega
  rw [WavSpec.readSigned, bind_apply, pcmBytes, if_neg hbyte, number_append _ hlt]
  dsimp only
  rw [signedOf_emod hzero hx]
  rfl

theorem readByte_pcmBytes {x : Int} (hx : FitsSigned 8 x) (rest : Bytes) :
    WavSpec.readByte (pcmBytes 8 x ++ rest) = .ok (x, rest) := by
  have hrange : -128 ≤ x ∧ x < 128 := hx
  have hlt : (x + 128).toNat < 1 <<< (8 * 1) := by
    have : 1 <<< (8 * 1) = 256 := rfl
    omega
  have hback : ((x + 128).toNat : Int) - 128 = x := by omega
  rw [WavSpec.readByte, bind_apply, pcmBytes, if_pos rfl, number_append _ hlt]
  dsimp only
  rw [hback]
  rfl

theorem readIntegerSample_of_listed {spec : WavSpec} {room : Nat}
    (h : (spec.sampleBytes, spec.bits) ∈ [(2, 16), (3, 24), (4, 24), (4, 32)])
    (hroom : spec.sampleBytes ≤ room) :
    spec.readIntegerSample room = WavSpec.readSigned spec.sampleBytes spec.bits := by
  unfold WavSpec.readIntegerSample
  split
  · next hbytes hbits => simp [hbytes, hbits] at h
  · rw [if_neg (Nat.not_lt.2 hroom), if_pos h]

/-- A target with room for the samples reads them back. -/
theorem readIntegerSample_pcmBytes {room : Nat} (hroom : f.bits / 8 ≤ room) {x : Int}
    (hx : x ∈ f.samples) (rest : Bytes) :
    f.spec.readIntegerSample room (pcmBytes f.bits x ++ rest) = .ok (x, rest) := by
  have hfits := f.samples_fit x hx
  rcases f.bits_cases with h | hwide
  · -- bytes are read before the room is looked at
    rw [h] at hfits ⊢
    unfold WavSpec.readIntegerSample spec
    rw [h]
    exact readByte_pcmBytes hfits rest
  · have hlisted : (f.spec.sampleBytes, f.spec.bits) ∈ [(2, 16), (3, 24), (4, 24), (4, 32)] := by
      rcases hwide with h | h | h <;> simp [spec, h]
    rw [readIntegerSample_of_listed hlisted hroom]
    exact readSigned_pcmBytes (by simpa using hwide) hfits rest

theorem replicate_data {room : Nat} (hroom : f.bits / 8 ≤ room) :
    (f.spec.readIntegerSample room).replicate f.samples.length (f.data ++ f.trailer) =
      .ok (f.samples, f.trailer) :=
  replicate_flatMap (fun _ hx => f.readIntegerSample_pcmBytes hroom hx) f.trailer

/-- Whatever room the samples are read into, they are read back, and scaled by their own width. -/
theorem decodeSamples_data :
    WavHeader.decodeSamples { spec := f.spec, sampleCount := f.samples.length }
        (f.data ++ f.trailer) =
      .ok (f.samples.map fun x => Binary32.ofScaled x (f.bits - 1)) := by
  have hspec : f.spec.encoding = .integer ∧ f.spec.bits = f.bits := ⟨rfl, rfl⟩
  unfold WavHeader.decodeSamples
  simp only [hspec]
  split
  · next h => rw [f.replicate_data (by omega)]
  · next h => rw [f.replicate_data (by omega)]
  · next h => rw [f.replicate_data (by omega)]
  · next h => rw [f.replicate_data (by omega)]
  · next hother =>
    have hcases := f.bits_cases
    simp_all

/-! ## The sound -/

/-- **A PCM file is decoded to what it was made of.** The sound has the rate and the channels of the
    file, and for each of its samples, in order, the number nearest to the fraction of full scale
    that it stands for; with up to 24 bits that is the fraction itself. -/
theorem ofWav_bytes :
    Sound.ofWav f.bytes = .ok {
      sampleRate := f.sampleRate
      channels := f.channels
      samples := (f.samples.map fun x => Binary32.ofScaled x (f.bits - 1)).toArray } ∧
    ∀ x ∈ f.samples,
      (Binary32.ofScaled x (f.bits - 1)).IsNearest (x / 2 ^ (f.bits - 1)) ∧
      (f.bits ≠ 32 → (Binary32.ofScaled x (f.bits - 1)).toRat = x / 2 ^ (f.bits - 1)) := by
  constructor
  · have hrefused : ¬(f.spec.channels = 0 ∨ f.spec.sampleRate = 0) :=
      not_or.2 ⟨f.channels_ne_zero, f.rate_ne_zero⟩
    unfold Sound.ofWav
    rw [f.read_bytes]
    dsimp only
    rw [if_neg hrefused, f.decodeSamples_data]
    rfl
  · intro x hx
    obtain ⟨hlow, hhigh⟩ := f.samples_fit x hx
    rw [Nat.one_shiftLeft] at hlow hhigh
    have hsize : x.natAbs ≤ 2 ^ (f.bits - 1) := by omega
    constructor
    · refine Binary32.isNearest_ofScaled (lt_of_le_of_lt hsize ?_)
      exact Nat.pow_lt_pow_right (by decide) (by omega)
    · intro hbits
      have hcases := f.bits_cases
      have hfew : f.bits - 1 ≤ 23 := by omega
      refine Binary32.toRat_ofScaled (lt_of_le_of_lt hsize ?_) (by omega)
      exact Nat.pow_lt_pow_right (by decide) (by omega)

/-- Half and minus full scale in 24 bits, with a chunk before each of the two and a byte after. -/
theorem ofWav_bytes_stereo : ∃ f : PcmFile,
    f.samples = [0x400000, -0x800000] ∧ f.bits ≠ 32 ∧ -0x800000 ∈ f.samples ∧
    f.bytes =
      [0x52, 0x49, 0x46, 0x46, 0, 0, 0, 0, 0x57, 0x41, 0x56, 0x45,
        0x4c, 0x49, 0x53, 0x54, 3, 0, 0, 0, 7, 8, 9,
        0x66, 0x6d, 0x74, 0x20, 16, 0, 0, 0,
        1, 0, 2, 0, 0x80, 0xbb, 0, 0, 0, 0x65, 4, 0, 6, 0, 24, 0,
        0x4c, 0x49, 0x53, 0x54, 0, 0, 0, 0,
        0x64, 0x61, 0x74, 0x61, 6, 0, 0, 0, 0, 0, 0x40, 0, 0, 0x80, 0xff] ∧
    Sound.ofWav f.bytes = .ok {
      sampleRate := 48000, channels := 2, samples := #[⟨0x3f000000⟩, ⟨0xbf800000⟩] } ∧
    (⟨0xbf800000⟩ : Binary32).toRat = (-0x800000 : ℤ) / 2 ^ 23 := by
  let f : PcmFile := {
    sampleRate := 48000
    channels := 2
    bits := 24
    samples := [0x400000, -0x800000]
    riffLength := 0
    beforeFormat := [⟨tagBytes "LIST", [7, 8, 9], rfl, by decide, by decide⟩]
    beforeData := [⟨tagBytes "LIST", [], rfl, by decide, by decide⟩]
    trailer := [0xff]
    rate_ne_zero := by decide
    channels_ne_zero := by decide
    bits_listed := by decide
    samples_fit := by decide
    whole_frames := by decide
    align_fits := by decide
    byteRate_fits := by decide
    data_fits := by decide }
  have hbits : f.bits ≠ 32 := by decide
  have hmem : -0x800000 ∈ f.samples := by decide
  obtain ⟨hsound, hsamples⟩ := ofWav_bytes f
  have hhalf : Binary32.ofScaled 0x400000 23 = ⟨0x3f000000⟩ := by decide +kernel
  have hfull : Binary32.ofScaled (-0x800000) 23 = ⟨0xbf800000⟩ := by decide +kernel
  have hexact := (hsamples (-0x800000) hmem).2 hbits
  change Sound.ofWav f.bytes = .ok ⟨48000, 2,
    #[Binary32.ofScaled 0x400000 23, Binary32.ofScaled (-0x800000) 23]⟩ at hsound
  change (Binary32.ofScaled (-0x800000) 23).toRat = _ at hexact
  rw [hhalf, hfull] at hsound
  rw [hfull] at hexact
  exact ⟨f, rfl, hbits, hmem, by decide, hsound, hexact⟩

end PcmFile

end GuestAudio
