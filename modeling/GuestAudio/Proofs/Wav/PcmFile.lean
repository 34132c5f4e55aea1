import GuestAudio.Wav.Samples

set_option autoImplicit false

/-! # PCM files

A `PcmFile` is a WAV file of whole-number samples as it is laid down: numbers lowest byte first,
samples of 8 bits unsigned around 128 and wider ones in two's complement, a format chunk of 16 bytes
and a data chunk. Chunks of other names may stand before either of them, and anything after the
data. Whatever does not fit its field is no `PcmFile`. -/

namespace GuestAudio

/-! ## Numbers -/

/-- The `n` lowest bytes of a number, lowest first. -/
def bytesOf : Nat → Nat → Bytes
  | 0, _ => []
  | n + 1, v => UInt8.ofNat (v % 256) :: bytesOf n (v / 256)

@[simp] theorem length_bytesOf (n v : Nat) : (bytesOf n v).length = n := by
  induction n generalizing v with
  | zero => rfl
  | succ n ih => rw [bytesOf, List.length_cons, ih]

theorem littleEndian_bytesOf {n v : Nat} (h : v < 1 <<< (8 * n)) :
    littleEndian (bytesOf n v) = v := by
  induction n generalizing v with
  | zero =>
    have hv : v < 1 := h
    have hzero : v = 0 := by omega
    rw [hzero]
    rfl
  | succ n ih =>
    have hshift : 1 <<< (8 * (n + 1)) = 256 * 1 <<< (8 * n) := by
      rw [Nat.mul_add, Nat.shiftLeft_add, Nat.shiftLeft_eq, Nat.mul_comm]
    have hrest : littleEndian (bytesOf n (v / 256)) = v / 256 := ih (by omega)
    have hbyte : v % 256 % 2 ^ 8 = v % 256 := by omega
    unfold littleEndian at hrest ⊢
    rw [bytesOf, List.foldr_cons, hrest, UInt8.toNat_ofNat', hbyte]
    omega

theorem bytesOf_littleEndian (bytes : Bytes) :
    bytesOf bytes.length (littleEndian bytes) = bytes := by
  induction bytes with
  | nil => rfl
  | cons b rest ih =>
    have hb : b.toNat < 256 := b.toNat_lt
    have hsplit : littleEndian (b :: rest) = b.toNat + 256 * littleEndian rest := rfl
    have hlow : (b.toNat + 256 * littleEndian rest) % 256 = b.toNat := by omega
    have hhigh : (b.toNat + 256 * littleEndian rest) / 256 = littleEndian rest := by omega
    rw [List.length_cons, bytesOf, hsplit, hlow, hhigh, ih, UInt8.ofNat_toNat]

/-! ## Samples -/

/-- A number that fits a signed word of `bits` bits. -/
def FitsSigned (bits : Nat) (x : Int) : Prop :=
  -(1 <<< (bits - 1) : Nat) ≤ x ∧ x < (1 <<< (bits - 1) : Nat)

instance (bits : Nat) (x : Int) : Decidable (FitsSigned bits x) :=
  inferInstanceAs (Decidable (_ ∧ _))

/-- The bytes of a sample of `bits` bits. -/
def pcmBytes (bits : Nat) (x : Int) : Bytes :=
  if bits = 8 then bytesOf 1 (x + 128).toNat else bytesOf (bits / 8) (x % (1 <<< bits : Nat)).toNat

theorem length_pcmBytes (bits : Nat) (x : Int) : (pcmBytes bits x).length = bits / 8 := by
  unfold pcmBytes
  split
  · next h =>
    subst h
    rfl
  · exact length_bytesOf _ _

theorem one_shiftLeft_pos (bits : Nat) : 0 < 1 <<< bits := by
  rw [Nat.one_shiftLeft]
  exact Nat.two_pow_pos bits

/-- Half of the numbers of a word are negative. -/
theorem one_shiftLeft_eq_double {bits : Nat} (h : bits ≠ 0) :
    1 <<< bits = 2 * 1 <<< (bits - 1) := by
  obtain ⟨n, rfl⟩ := Nat.exists_eq_succ_of_ne_zero h
  rw [Nat.succ_sub_one, Nat.shiftLeft_succ]

theorem FitsSigned.natAbs_le {bits : Nat} {x : Int} (h : FitsSigned bits x) :
    x.natAbs ≤ 1 <<< (bits - 1) := by
  obtain ⟨hlow, hhigh⟩ := h
  omega

theorem fitsSigned_signedOf {bits : Nat} (hbits : bits ≠ 0) (n : Nat) :
    FitsSigned bits (signedOf bits n) := by
  have hdouble := one_shiftLeft_eq_double hbits
  have hlow := Int.le_bmod (x := n) (one_shiftLeft_pos bits)
  have hhigh := Int.bmod_lt (x := n) (one_shiftLeft_pos bits)
  unfold FitsSigned signedOf
  omega

theorem signedOf_emod {bits : Nat} (hbits : bits ≠ 0) {x : Int} (hx : FitsSigned bits x) :
    signedOf bits (x % (1 <<< bits : Nat)).toNat = x := by
  obtain ⟨hlow, hhigh⟩ := hx
  have hdouble := one_shiftLeft_eq_double hbits
  have hnonneg : 0 ≤ x % (1 <<< bits : Nat) := Int.emod_nonneg _ (by omega)
  unfold signedOf
  rw [Int.toNat_of_nonneg hnonneg, Int.emod_bmod]
  exact Int.bmod_eq_of_le_mul_two (by omega) (by omega)

/-! ## Files -/

/-- A chunk that readers pass over. -/
structure ExtraChunk where
  name : Bytes
  body : Bytes
  length_name : name.length = 4
  name_unknown : name ≠ tagBytes "fmt " ∧ name ≠ tagBytes "fact" ∧ name ≠ tagBytes "data"
  length_body : body.length < 1 <<< 32

/-- A chunk: its name, the length of its body, and the body. -/
def chunkBytes (name body : Bytes) : Bytes := name ++ (bytesOf 4 body.length ++ body)

/-- A file of whole-number samples, channels interleaved. -/
structure PcmFile where
  sampleRate : UInt32
  channels : UInt16
  bits : Nat
  samples : List Int
  /-- The length of the file as it says itself. -/
  riffLength : UInt32
  beforeFormat : List ExtraChunk := []
  beforeData : List ExtraChunk := []
  trailer : Bytes := []
  rate_ne_zero : sampleRate ≠ 0
  channels_ne_zero : channels ≠ 0
  bits_listed : bits ∈ [8, 16, 24, 32]
  samples_fit : ∀ x ∈ samples, FitsSigned bits x
  whole_frames : channels.toNat ∣ samples.length
  align_fits : channels.toNat * (bits / 8) < 1 <<< 16
  byteRate_fits : channels.toNat * (bits / 8) * sampleRate.toNat < 1 <<< 32
  data_fits : samples.length * (bits / 8) < 1 <<< 32

namespace PcmFile

/-- The bytes of a frame. -/
def align (f : PcmFile) : Nat := f.channels.toNat * (f.bits / 8)

/-- The body of the format chunk. -/
def formatBody (f : PcmFile) : Bytes :=
  bytesOf 2 WavSpec.integerTag ++ (bytesOf 2 f.channels.toNat ++ (bytesOf 4 f.sampleRate.toNat ++
    (bytesOf 4 (f.align * f.sampleRate.toNat) ++ (bytesOf 2 f.align ++ bytesOf 2 f.bits))))

/-- The body of the data chunk. -/
def data (f : PcmFile) : Bytes := f.samples.flatMap (pcmBytes f.bits)

/-- The file. -/
def bytes (f : PcmFile) : Bytes :=
  tagBytes "RIFF" ++ (bytesOf 4 f.riffLength.toNat ++ (tagBytes "WAVE" ++
    (f.beforeFormat.flatMap (fun c => chunkBytes c.name c.body) ++
      (chunkBytes (tagBytes "fmt ") f.formatBody ++
        (f.beforeData.flatMap (fun c => chunkBytes c.name c.body) ++
          (chunkBytes (tagBytes "data") f.data ++ f.trailer))))))

/-- What the format chunk says. -/
def spec (f : PcmFile) : WavSpec where
  channels := f.channels
  sampleRate := f.sampleRate
  bits := f.bits
  sampleBytes := f.bits / 8
  encoding := .integer

theorem length_formatBody (f : PcmFile) : f.formatBody.length = 16 := by
  simp [formatBody]

theorem length_data (f : PcmFile) : f.data.length = f.samples.length * (f.bits / 8) := by
  unfold data
  rw [List.length_flatMap, List.map_congr_left fun x _ => length_pcmBytes f.bits x,
    List.map_const', List.sum_replicate_nat]

end PcmFile

end GuestAudio
