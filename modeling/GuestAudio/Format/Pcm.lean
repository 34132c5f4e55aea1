import GuestAudio.Format.Layout

set_option autoImplicit false

/-! # Samples in wire bytes

`WireLayout.samples` reads bytes as integers relative to the level at rest: an 8-bit sample is
`b - 128`, a 16-bit sample a two's complement number, high byte first. `WireLayout.encode` writes
one. A byte without its partner at the end of 16-bit data is not a sample. -/

namespace GuestAudio

/-- A 16-bit two's complement number from its two bytes. -/
def signedWord (high low : UInt8) : Int :=
  let n : Int := high.toNat * 256 + low.toNat
  if n < 32768 then n else n - 65536

theorem signedWord_bounds (high low : UInt8) :
    -32768 ≤ signedWord high low ∧ signedWord high low ≤ 32767 := by
  have hh : high.toNat < 256 := high.toNat_lt
  have hl : low.toNat < 256 := low.toNat_lt
  unfold signedWord
  dsimp only
  split <;> omega

namespace WireLayout

/-- The least sample. -/
def minSample : WireLayout → Int
  | byte => -128
  | word => -32768

/-- The greatest sample. -/
def maxSample : WireLayout → Int
  | byte => 127
  | word => 32767

/-- The samples that are whole in a string of bytes, relative to the level at rest. -/
def samples (w : WireLayout) (bytes : Bytes) : List Int :=
  match w with
  | byte => bytes.map fun b => (b.toNat : Int) - 128
  | word => words bytes
where
  words : Bytes → List Int
    | high :: low :: rest => signedWord high low :: words rest
    | _ => []

/-- The bytes of one sample, which is within the layout's limits. -/
def encode (w : WireLayout) (s : Int) : Bytes :=
  match w with
  | byte => [UInt8.ofNat (s + 128).toNat]
  | word =>
      let n := (s % 65536).toNat
      [UInt8.ofNat (n / 256), UInt8.ofNat (n % 256)]

/-- The nearest sample within the layout's limits. -/
def clamp (w : WireLayout) (s : Int) : Int := max w.minSample (min w.maxSample s)

theorem clamp_bounds (w : WireLayout) (s : Int) :
    w.minSample ≤ w.clamp s ∧ w.clamp s ≤ w.maxSample := by
  cases w <;> simp only [clamp, minSample, maxSample] <;> omega

theorem clamp_of_bounds {w : WireLayout} {s : Int} (h : w.minSample ≤ s ∧ s ≤ w.maxSample) :
    w.clamp s = s := by
  simp only [clamp]
  omega

@[simp] theorem length_encode (w : WireLayout) (s : Int) :
    (w.encode s).length = w.sampleBytes := by
  cases w <;> rfl

theorem length_words (bytes : Bytes) : (samples.words bytes).length = bytes.length / 2 := by
  fun_induction samples.words bytes with
  | case1 high low rest ih =>
    simp only [List.length_cons, ih]
    omega
  | case2 bytes h =>
    match bytes, h with
    | [], _ => rfl
    | [_], _ => simp
    | a :: b :: rest, h => exact absurd rfl (h a b rest)

theorem length_samples (w : WireLayout) (bytes : Bytes) :
    (w.samples bytes).length = bytes.length / w.sampleBytes := by
  cases w with
  | byte => simp [samples, sampleBytes]
  | word => simp [samples, sampleBytes, length_words]

end WireLayout

end GuestAudio
