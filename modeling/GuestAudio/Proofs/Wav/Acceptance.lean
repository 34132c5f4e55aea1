import GuestAudio.Chime.Sound
import GuestAudio.Fault

set_option autoImplicit false

/-! # What is known of a decoded sound

A file is accepted only if its header is in order, and this leaves its mark on the sound
(`Sound.Whole`, `whole_of_ofWav`): it has a rate and channels, its samples make up whole frames, and
as the length of the data is a number of four bytes, there are less than 2³² of them. -/

namespace GuestAudio

open ListReader

/-- A sound with a rate, with channels, and with a whole number of frames, the samples of which are
    counted in a 32-bit word. -/
structure Sound.Whole (s : Sound) : Prop where
  rate_pos : 0 < s.sampleRate.toNat
  channels_pos : 0 < s.channels.toNat
  whole_frames : s.channels.toNat ∣ s.samples.size
  size_lt : s.samples.size < 1 <<< 32

/-! ## Numbers and repetitions -/

theorem littleEndian_lt (bytes : Bytes) : littleEndian bytes < 1 <<< (8 * bytes.length) := by
  induction bytes with
  | nil => decide
  | cons b rest ih =>
    have hb : b.toNat < 256 := b.toNat_lt
    have hsplit : littleEndian (b :: rest) = b.toNat + 256 * littleEndian rest := rfl
    have hshift : 1 <<< (8 * (rest.length + 1)) = 1 <<< (8 * rest.length) * 256 := by
      rw [Nat.mul_add, Nat.shiftLeft_add, Nat.shiftLeft_eq]
    rw [hsplit, List.length_cons, hshift]
    omega

namespace ByteReader

theorem number_lt {n v : Nat} {bytes rest : Bytes} (h : number n bytes = .ok (v, rest)) :
    v < 1 <<< (8 * n) := by
  obtain ⟨front, between, htake, h⟩ := bind_apply_eq_ok_iff.1 h
  cases h
  have hlength := (length_of_take htake).1
  rw [← hlength]
  exact littleEndian_lt front

/-- Of several values the first one is read, and then the others. -/
theorem exists_of_replicate_succ {α : Type} {r : ByteReader α} {n : Nat} {bytes rest : Bytes}
    {xs : List α} (h : r.replicate (n + 1) bytes = .ok (xs, rest)) :
    ∃ x between others, r bytes = .ok (x, between) ∧
      r.replicate n between = .ok (others, rest) ∧ xs = x :: others := by
  obtain ⟨x, between, hx, h⟩ := bind_apply_eq_ok_iff.1 h
  obtain ⟨others, _, hothers, h⟩ := bind_apply_eq_ok_iff.1 h
  cases h
  exact ⟨x, between, others, hx, hothers, rfl⟩

theorem length_of_replicate {α : Type} {r : ByteReader α} {n : Nat} {bytes rest : Bytes}
    {xs : List α} (h : r.replicate n bytes = .ok (xs, rest)) : xs.length = n := by
  induction n generalizing bytes xs with
  | zero =>
    cases h
    rfl
  | succ n ih =>
    obtain ⟨x, between, others, -, hothers, rfl⟩ := exists_of_replicate_succ h
    rw [List.length_cons, ih hothers]

end ByteReader

open ByteReader

/-! ## The header -/

/-- The length of the data is a number of four bytes. -/
theorem length_lt_of_readNamedChunk {spec? : Option WavSpec} {name bytes rest : Bytes}
    {spec : WavSpec} {length : Nat}
    (h : readNamedChunk spec? name bytes = .ok (.data spec length, rest)) : length < 1 <<< 32 := by
  obtain ⟨n, bytes₁, hnumber, h⟩ := bind_apply_eq_ok_iff.1 h
  -- of the four sorts of chunks only one gives data
  split at h
  · obtain ⟨_, _, -, h⟩ := bind_apply_eq_ok_iff.1 h
    cases h
  · split at h
    · obtain ⟨_, _, -, h⟩ := bind_apply_eq_ok_iff.1 h
      cases h
    · split at h
      · split at h
        · cases h
          exact number_lt hnumber
        · cases h
      · obtain ⟨_, _, -, h⟩ := bind_apply_eq_ok_iff.1 h
        cases h

theorem length_lt_of_readUntilData {spec? : Option WavSpec} {bytes rest : Bytes} {spec : WavSpec}
    {length : Nat} (h : readUntilData spec? bytes = .ok ((spec, length), rest)) :
    length < 1 <<< 32 := by
  fun_induction readUntilData spec? bytes with
  | case1 => cases h
  | case2 _ _ _ _ _ ih => exact ih h
  | case3 spec? bytes spec' length' rest' hchunk =>
    cases h
    obtain ⟨name, bytes', -, hnamed⟩ := bind_apply_eq_ok_iff.1 hchunk
    exact length_lt_of_readNamedChunk hnamed

namespace WavHeader

theorem sampleCount_of_read {file data : Bytes} {header : WavHeader}
    (h : WavHeader.read file = .ok (header, data)) :
    header.spec.channels.toNat ∣ header.sampleCount ∧ header.sampleCount < 1 <<< 32 := by
  obtain ⟨riff, _, -, h⟩ := bind_apply_eq_ok_iff.1 h
  obtain ⟨_, _, -, h⟩ := bind_apply_eq_ok_iff.1 h
  obtain ⟨_, _, -, h⟩ := bind_apply_eq_ok_iff.1 h
  obtain ⟨wave, _, -, h⟩ := bind_apply_eq_ok_iff.1 h
  obtain ⟨_, _, -, h⟩ := bind_apply_eq_ok_iff.1 h
  obtain ⟨⟨spec, length⟩, _, hdata, h⟩ := bind_apply_eq_ok_iff.1 h
  obtain ⟨_, _, -, h⟩ := bind_apply_eq_ok_iff.1 h
  obtain ⟨_, _, hframes, h⟩ := bind_apply_eq_ok_iff.1 h
  cases h
  obtain ⟨hframes, -⟩ := require_apply_eq_ok_iff.1 hframes
  constructor
  · exact Nat.dvd_of_mod_eq_zero (beq_iff_eq.1 hframes)
  · exact Nat.lt_of_le_of_lt (Nat.div_le_self _ _) (length_lt_of_readUntilData hdata)

/-! ## The samples -/

/-- A sample is decoded for each that the header counts. -/
theorem length_decodeSamples {header : WavHeader} {data : Bytes} {xs : List Binary32}
    (h : header.decodeSamples data = .ok xs) : xs.length = header.sampleCount := by
  unfold decodeSamples at h
  dsimp only at h
  split at h
  · -- whole numbers are read alike, whatever the room for them
    have hintegers {room : Nat} {ints : List Int} {rest : Bytes} (hread :
        (header.spec.readIntegerSample room).replicate header.sampleCount data = .ok (ints, rest)) :
        (ints.map fun x => Binary32.ofScaled x (header.spec.bits - 1)).length =
          header.sampleCount := by
      rw [List.length_map, length_of_replicate hread]
    split at h
    case h_5 => cases h
    all_goals
      split at h
      · cases h
      · next hread =>
        cases h
        exact hintegers hread
  · split at h
    · cases h
    · next hfloats =>
      cases h
      exact length_of_replicate hfloats

end WavHeader

/-- What decoding accepts has a rate, channels, and a whole number of frames. -/
theorem Sound.whole_of_ofWav {file : Bytes} {s : Sound} (h : Sound.ofWav file = .ok s) :
    s.Whole := by
  unfold Sound.ofWav at h
  split at h
  · cases h
  · next header data hread =>
    obtain ⟨hframes, hcount⟩ := WavHeader.sampleCount_of_read hread
    split at h
    · cases h
    · next hrefused =>
      obtain ⟨hchannels, hrate⟩ := not_or.1 hrefused
      obtain ⟨xs, hxs, h⟩ := bind_eq_ok_iff.1 h
      cases h
      have hlength := WavHeader.length_decodeSamples hxs
      constructor
      case rate_pos => exact Nat.pos_of_ne_zero fun h => hrate (UInt32.toNat_inj.1 h)
      case channels_pos => exact Nat.pos_of_ne_zero fun h => hchannels (UInt16.toNat_inj.1 h)
      case whole_frames =>
        dsimp only
        rw [List.size_toArray, hlength]
        exact hframes
      case size_lt =>
        dsimp only
        rw [List.size_toArray, hlength]
        exact hcount

end GuestAudio
