import GuestAudio.Proofs.Sample.FullScale
import GuestAudio.Proofs.Wav.Truncation

set_option autoImplicit false

/-! # Samples within full scale

Of a file of whole numbers all samples are within full scale: each is read as a number that fits a
signed word of its width, and scaled by that width. Only with 32 bits it may be rounded, at most up
to full scale itself.

Floating-point samples are taken from the file as they are, four bytes each (`floatAt`), whatever
number they are and if they are one. So it is up to the file whether the sound is normalized
(`Sound.ofWav_normalized_iff`). -/

namespace GuestAudio

open ListReader ByteReader

/-- All samples are within full scale. -/
def Sound.Normalized (s : Sound) : Prop := ∀ x ∈ s.samples, x.WithinScale

theorem Sound.normalized_iff {s : Sound} :
    s.Normalized ↔ ∀ x ∈ s.samples, x.magnitudeBits ≤ 0x3f800000 := by
  simp only [Normalized, Binary32.withinScale_iff]

/-- The `i`-th floating-point number of a string of bytes, of those that follow one another from its
    start. -/
def floatAt (data : Bytes) (i : Nat) : Binary32 :=
  ⟨UInt32.ofNat (littleEndian ((data.drop (4 * i)).take 4))⟩

/-! ## Whole numbers -/

namespace ByteReader

variable {α β : Type} {r : ByteReader α} {p : α → Prop}

/-- Whatever is read has a property. -/
def Yields (r : ByteReader α) (p : α → Prop) : Prop :=
  ∀ bytes a rest, r bytes = .ok (a, rest) → p a

theorem yields_throw (e : WavError) (p : α → Prop) : Yields (throw e) p := by
  intro bytes a rest h
  cases h

theorem yields_number (n : Nat) : (number n).Yields (· < 1 <<< (8 * n)) :=
  fun _ _ _ => number_lt

theorem Yields.map {q : β → Prop} {f : α → β} (hr : r.Yields p) (hf : ∀ a, p a → q (f a)) :
    Yields (do return f (← r)) q := by
  intro bytes b rest h
  obtain ⟨a, between, hread, h⟩ := bind_apply_eq_ok_iff.1 h
  cases h
  exact hf a (hr bytes a rest hread)

theorem Yields.replicate (hr : r.Yields p) (n : Nat) :
    (r.replicate n).Yields fun xs => ∀ x ∈ xs, p x := by
  induction n with
  | zero =>
    intro bytes xs rest h
    cases h
    exact List.forall_mem_nil p
  | succ n ih =>
    intro bytes xs rest h
    obtain ⟨x, between, others, hx, hothers, rfl⟩ := exists_of_replicate_succ h
    exact List.forall_mem_cons.2 ⟨hr _ _ _ hx, ih _ _ _ hothers⟩

end ByteReader

/-- Into whatever room it is read, a sample fits its width. -/
theorem WavSpec.yields_readIntegerSample (spec : WavSpec) (room : Nat) :
    (spec.readIntegerSample room).Yields (FitsSigned spec.bits) := by
  unfold readIntegerSample
  split
  · next hbits =>
    rw [hbits]
    refine (yields_number 1).map fun n hn => ?_
    have hbounds : -128 ≤ (n : Int) - 128 ∧ (n : Int) - 128 < 128 := by
      have hbyte : n < 256 := hn
      omega
    exact hbounds
  · split
    · exact yields_throw _ _
    · split
      · next hlisted =>
        refine (yields_number _).map fun n _ => fitsSigned_signedOf ?_ n
        simp only [List.mem_cons, Prod.mk.injEq, List.not_mem_nil, or_false] at hlisted
        omega
      · exact yields_throw _ _

/-- Whole numbers are read as samples within full scale. -/
theorem WavHeader.yields_integers (header : WavHeader) (room : Nat) :
    (header.integers room).Yields fun xs => ∀ x ∈ xs, x.WithinScale := by
  refine ((header.spec.yields_readIntegerSample room).replicate _).map fun ns hns x hx => ?_
  obtain ⟨n, hn, rfl⟩ := List.mem_map.1 hx
  have hsize := (hns n hn).natAbs_le
  rw [Nat.one_shiftLeft] at hsize
  exact Binary32.withinScale_ofScaled hsize

/-! ## Floating-point numbers -/

theorem floatAt_append_zero {front : Bytes} (rest : Bytes) (h : front.length = 4) :
    floatAt (front ++ rest) 0 = ⟨UInt32.ofNat (littleEndian front)⟩ := by
  rw [floatAt, Nat.mul_zero, List.drop_zero, List.take_left' h]

theorem floatAt_append_succ {front : Bytes} (rest : Bytes) (h : front.length = 4) (i : Nat) :
    floatAt (front ++ rest) (i + 1) = floatAt rest i := by
  rw [floatAt, Nat.mul_succ, Nat.add_comm, ← List.drop_drop, List.drop_left' h, floatAt]

/-- A floating-point sample is read from four bytes, or not at all. -/
theorem WavSpec.readFloatSample_cases (spec : WavSpec) :
    spec.readFloatSample = (do return ⟨UInt32.ofNat (← number 4)⟩) ∨
      ∃ e, spec.readFloatSample = throw e := by
  unfold readFloatSample
  split
  · exact .inl rfl
  · split
    · exact .inr ⟨_, rfl⟩
    · exact .inr ⟨_, rfl⟩

theorem WavSpec.exists_of_readFloatSample {spec : WavSpec} {bytes rest : Bytes} {x : Binary32}
    (h : spec.readFloatSample bytes = .ok (x, rest)) :
    ∃ front, front.length = 4 ∧ bytes = front ++ rest ∧
      x = ⟨UInt32.ofNat (littleEndian front)⟩ := by
  rcases spec.readFloatSample_cases with hreader | ⟨e, hreader⟩
  · rw [hreader] at h
    obtain ⟨n, _, hnumber, h⟩ := bind_apply_eq_ok_iff.1 h
    cases h
    obtain ⟨front, hlength, hbytes, rfl⟩ := exists_of_number hnumber
    exact ⟨front, hlength, hbytes, rfl⟩
  · rw [hreader] at h
    cases h

/-- Floating-point samples are the ones in the data. -/
theorem WavSpec.replicate_readFloatSample {spec : WavSpec} {n : Nat} {data rest : Bytes}
    {xs : List Binary32} (h : spec.readFloatSample.replicate n data = .ok (xs, rest)) :
    xs = (List.range n).map (floatAt data) := by
  induction n generalizing data xs with
  | zero =>
    cases h
    rfl
  | succ n ih =>
    obtain ⟨x, between, others, hx, hothers, rfl⟩ := exists_of_replicate_succ h
    obtain ⟨front, hlength, rfl, rfl⟩ := exists_of_readFloatSample hx
    rw [ih hothers, List.range_succ_eq_map, List.map_cons, List.map_map,
      floatAt_append_zero _ hlength]
    congr 1
    exact List.map_congr_left fun i _ => (floatAt_append_succ _ hlength i).symm

/-! ## The sound -/

namespace Sound

/-- **When a decoded sound is normalized.** A file of whole numbers, of whatever width, always makes
    a normalized sound. The samples of a file of floating-point numbers are those in its data, so
    that the sound is normalized exactly if all of these are numbers from -1 to 1. -/
theorem ofWav_normalized_iff {file : Bytes} {s : Sound} (h : ofWav file = .ok s) :
    ∃ header data, WavHeader.read file = .ok (header, data) ∧
      (s.Normalized ↔ ∀ x ∈ s.samples, x.magnitudeBits ≤ 0x3f800000) ∧
      (header.spec.encoding = .float →
        s.samples.toList = (List.range header.sampleCount).map (floatAt data)) ∧
      (s.Normalized ↔ header.spec.encoding = .integer ∨
        ∀ i < header.sampleCount, (floatAt data i).WithinScale) := by
  obtain ⟨header, data, xs, hread, -, hxs, rfl⟩ := exists_of_ofWav h
  refine ⟨header, data, hread, normalized_iff, ?_⟩
  cases hencoding : header.spec.encoding with
  | integer =>
    obtain ⟨room, hdecode⟩ := WavHeader.exists_room hencoding hxs
    rw [hdecode] at hxs
    obtain ⟨rest, hintegers⟩ := exists_of_decode hxs
    have hscale := header.yields_integers room _ _ _ hintegers
    refine ⟨nofun, fun _ => .inl rfl, fun _ x hx => hscale x ?_⟩
    exact List.mem_toArray.1 hx
  | float =>
    rw [WavHeader.decodeSamples_floats hencoding] at hxs
    obtain ⟨rest, hfloats⟩ := exists_of_decode hxs
    obtain rfl := WavSpec.replicate_readFloatSample hfloats
    refine ⟨fun _ => rfl, ?_⟩
    simp only [Normalized, ofSamples, List.mem_toArray, List.forall_mem_map, List.mem_range,
      reduceCtorEq, false_or]

/-- The largest and the least number of 32 bits, of which the largest is rounded up, make the same
    sound as the floating-point numbers 1 and -1. -/
theorem ofWav_normalized_iff_full_scale :
    let file (tag : UInt8) (data : Bytes) : Bytes :=
      [0x52, 0x49, 0x46, 0x46, 44, 0, 0, 0, 0x57, 0x41, 0x56, 0x45,
        0x66, 0x6d, 0x74, 0x20, 16, 0, 0, 0,
        tag, 0, 1, 0, 0x44, 0xac, 0, 0, 0x10, 0xb1, 2, 0, 4, 0, 32, 0,
        0x64, 0x61, 0x74, 0x61, 8, 0, 0, 0] ++ data
    let s : Sound := ⟨44100, 1, #[⟨0x3f800000⟩, ⟨0xbf800000⟩]⟩
    ofWav (file 1 [0xff, 0xff, 0xff, 0x7f, 0, 0, 0, 0x80]) = .ok s ∧ s.Normalized ∧
      ofWav (file 3 [0, 0, 0x80, 0x3f, 0, 0, 0x80, 0xbf]) = .ok s ∧
      (floatAt [0, 0, 0x80, 0x3f, 0, 0, 0x80, 0xbf] 1).WithinScale := by
  intro file s
  let spec : WavSpec := ⟨1, 44100, 32, 4, .integer⟩
  have hread : WavHeader.read (file 1 [0xff, 0xff, 0xff, 0x7f, 0, 0, 0, 0x80]) =
      .ok (⟨spec, 2⟩, [0xff, 0xff, 0xff, 0x7f, 0, 0, 0, 0x80]) := by decide +kernel
  have hreadFloats : WavHeader.read (file 3 [0, 0, 0x80, 0x3f, 0, 0, 0x80, 0xbf]) =
      .ok (⟨{ spec with encoding := .float }, 2⟩, [0, 0, 0x80, 0x3f, 0, 0, 0x80, 0xbf]) := by
    decide +kernel
  have hsound : ofWav (file 1 [0xff, 0xff, 0xff, 0x7f, 0, 0, 0, 0x80]) = .ok s := by
    decide +kernel
  have hfloats : ofWav (file 3 [0, 0, 0x80, 0x3f, 0, 0, 0x80, 0xbf]) = .ok s := by decide +kernel
  obtain ⟨_, _, hheader, -, -, hintegers⟩ := ofWav_normalized_iff hsound
  cases hheader.symm.trans hread
  have hnormalized := hintegers.2 (.inl rfl)
  obtain ⟨_, _, hheader', -, -, hnumbers⟩ := ofWav_normalized_iff hfloats
  cases hheader'.symm.trans hreadFloats
  have hscale := (hnumbers.1 hnormalized).resolve_left nofun
  exact ⟨hsound, hnormalized, hfloats, hscale 1 (by decide)⟩

/-- The floating-point number 2 is taken as it is. -/
theorem ofWav_beyond_scale :
    let file : Bytes :=
      [0x52, 0x49, 0x46, 0x46, 40, 0, 0, 0, 0x57, 0x41, 0x56, 0x45,
        0x66, 0x6d, 0x74, 0x20, 16, 0, 0, 0,
        3, 0, 1, 0, 0x44, 0xac, 0, 0, 0x10, 0xb1, 2, 0, 4, 0, 32, 0,
        0x64, 0x61, 0x74, 0x61, 4, 0, 0, 0, 0, 0, 0, 0x40]
    let s : Sound := ⟨44100, 1, #[⟨0x40000000⟩]⟩
    ofWav file = .ok s ∧ ¬s.Normalized := by
  intro file s
  refine ⟨by decide +kernel, fun h => ?_⟩
  have hscale := Binary32.withinScale_iff.1 (h ⟨0x40000000⟩ (Array.mem_singleton.2 rfl))
  exact absurd hscale (by decide)

end Sound

end GuestAudio
