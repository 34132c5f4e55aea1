import GuestAudio.Proofs.Block.FullBlocks

set_option autoImplicit false

/-! # How a device cuts its buffers

Two devices ask for the same number of samples, one in buffers of one kind and one in buffers of
another. Each buffer is cut into blocks on its own, and a short piece at its end takes a block off
the guest's queue like any other, of which only the start is played. So the two devices sound alike
just if both cut their buffers into the same pieces (`cutsAlike_iff`). Blocks that are at rest and
blocks that are not, one after the other, tell all other devices apart. -/

namespace GuestAudio

/-! ## Runs of two values -/

variable {α : Type}

/-- Runs of `x` and of `y` in turn. -/
def alternate (x y : α) : List Nat → List α
  | [] => []
  | n :: rest => List.replicate n x ++ alternate y x rest

/-- A run ends where something else begins. -/
theorem replicate_append_inj {x : α} {n m : Nat} {xs ys : List α} (hx : xs.head? ≠ some x)
    (hy : ys.head? ≠ some x) (h : List.replicate n x ++ xs = List.replicate m x ++ ys) :
    n = m ∧ xs = ys := by
  induction n generalizing m with
  | zero =>
    cases m with
    | zero => exact ⟨rfl, h⟩
    | succ m =>
      rw [List.replicate_zero, List.nil_append] at h
      rw [h] at hx
      exact absurd rfl hx
  | succ n ih =>
    cases m with
    | zero =>
      rw [List.replicate_zero, List.nil_append] at h
      rw [← h] at hy
      exact absurd rfl hy
    | succ m =>
      rw [List.replicate_succ, List.replicate_succ, List.cons_append, List.cons_append] at h
      obtain ⟨hn, hxs⟩ := ih (List.cons.inj h).2
      exact ⟨congrArg Nat.succ hn, hxs⟩

theorem head?_alternate_ne {x y : α} (hxy : x ≠ y) {lengths : List Nat}
    (hpos : ∀ n ∈ lengths, 0 < n) : (alternate y x lengths).head? ≠ some x := by
  cases lengths with
  | nil => exact nofun
  | cons n rest =>
    obtain ⟨k, rfl⟩ := Nat.exists_eq_add_one_of_ne_zero
      (Nat.ne_of_gt (hpos n List.mem_cons_self))
    intro h
    exact hxy (Option.some.inj h).symm

theorem alternate_ne_nil {x y : α} {n : Nat} {rest : List Nat} (hn : 0 < n) :
    alternate x y (n :: rest) ≠ [] := by
  intro h
  have hlength := List.length_replicate (a := x) (n := n)
  rw [(List.append_eq_nil_iff.1 h).1] at hlength
  exact absurd hlength (Nat.ne_of_lt hn)

/-- The lengths of runs of two different values can be read off. -/
theorem alternate_inj {x y : α} (hxy : x ≠ y) {lengths₁ lengths₂ : List Nat}
    (hpos₁ : ∀ n ∈ lengths₁, 0 < n) (hpos₂ : ∀ n ∈ lengths₂, 0 < n)
    (h : alternate x y lengths₁ = alternate x y lengths₂) : lengths₁ = lengths₂ := by
  induction lengths₁ generalizing x y lengths₂ with
  | nil =>
    cases lengths₂ with
    | nil => rfl
    | cons m others => exact absurd h.symm (alternate_ne_nil (hpos₂ m List.mem_cons_self))
  | cons n rest ih =>
    cases lengths₂ with
    | nil => exact absurd h (alternate_ne_nil (hpos₁ n List.mem_cons_self))
    | cons m others =>
      have hrest := fun k hk => hpos₁ k (List.mem_cons_of_mem n hk)
      have hothers := fun k hk => hpos₂ k (List.mem_cons_of_mem m hk)
      obtain ⟨rfl, htail⟩ :=
        replicate_append_inj (head?_alternate_ne hxy hrest) (head?_alternate_ne hxy hothers) h
      rw [ih hxy.symm hrest hothers htail]

/-! ## Steady blocks -/

/-- A full block of one sample. -/
def GuestBlock.steady (f : OutputFormat) (s : Int) : GuestBlock where
  frameCount := f.framesPerBlock
  sampleBits := f.sampleBits
  channels := f.channels
  bytes := (List.replicate f.blockSamples s).flatMap f.layout.encode

theorem GuestBlock.fits_steady (f : OutputFormat) (s : Int) : (steady f s).Fits f where
  bits := rfl
  channels := rfl
  frames := UInt32.le_refl _
  bytes := by
    have h := length_flatMap_encode f.layout id (List.replicate f.blockSamples s)
    rw [List.length_replicate, ← OutputFormat.blockBytes_eq] at h
    exact h

theorem OutputFormat.nativeSamples_steady (f : OutputFormat) (t : NativeType) {s : Int}
    (hs : f.layout.minSample ≤ s ∧ s ≤ f.layout.maxSample) :
    f.nativeSamples t (GuestBlock.steady f s).bytes =
      List.replicate f.blockSamples (t.ofWire f.layout s) := by
  have hsamples : f.layout.samples ((List.replicate f.blockSamples s).flatMap f.layout.encode) =
      List.replicate f.blockSamples s := by
    refine WireLayout.samples_flatMap_encode fun s' hs' => ?_
    rw [List.eq_of_mem_replicate hs']
    exact hs
  rw [nativeSamples, GuestBlock.steady, hsamples, List.map_replicate]

/-- So many steady blocks, of `s` and of `s'` in turn. -/
def steadyBlocks (f : OutputFormat) (s s' : Int) : Nat → List GuestBlock
  | 0 => []
  | n + 1 => GuestBlock.steady f s :: steadyBlocks f s' s n

theorem length_steadyBlocks (f : OutputFormat) (s s' : Int) (n : Nat) :
    (steadyBlocks f s s' n).length = n := by
  induction n generalizing s s' with
  | zero => rfl
  | succ n ih => rw [steadyBlocks, List.length_cons, ih]

theorem fits_of_mem_steadyBlocks {f : OutputFormat} {s s' : Int} {n : Nat} {b : GuestBlock}
    (h : b ∈ steadyBlocks f s s' n) : b.Fits f := by
  induction n generalizing s s' with
  | zero => exact absurd h List.not_mem_nil
  | succ n ih =>
    rcases List.mem_cons.1 h with rfl | h
    · exact GuestBlock.fits_steady f s
    · exact ih h

theorem startsOf_steadyBlocks {f : OutputFormat} (t : NativeType) {s s' : Int}
    (hs : f.layout.minSample ≤ s ∧ s ≤ f.layout.maxSample)
    (hs' : f.layout.minSample ≤ s' ∧ s' ≤ f.layout.maxSample) {lengths : List Nat} {n : Nat}
    (hle : ∀ k ∈ lengths, k ≤ f.blockSamples) (hn : lengths.length ≤ n) :
    f.startsOf t lengths (steadyBlocks f s s' n) =
      alternate (t.ofWire f.layout s) (t.ofWire f.layout s') lengths := by
  induction lengths generalizing s s' n with
  | nil => rfl
  | cons k rest ih =>
    obtain ⟨j, rfl⟩ := Nat.exists_eq_add_one_of_ne_zero (Nat.ne_of_gt (Nat.lt_of_lt_of_le
      (Nat.succ_pos _) hn))
    have hk : k ≤ f.blockSamples := hle k List.mem_cons_self
    have hrest := ih hs' hs (fun k' h => hle k' (List.mem_cons_of_mem k h))
      (Nat.le_of_succ_le_succ hn)
    unfold OutputFormat.startsOf at hrest ⊢
    rw [steadyBlocks, List.zipWith_cons_cons, List.flatten_cons, hrest, alternate,
      f.nativeSamples_steady t hs, List.take_replicate, Nat.min_eq_left hk]

/-- The machine of a guest that keeps to the rules, with these blocks queued. -/
def Machine.offering (blocks : List GuestBlock) : Machine QueuedGuest where
  shared := { status := { sources := 1, mixer := 1 } }
  volume := .full
  guest := { queue := blocks.map some }

theorem Machine.plays_offering (blocks : List GuestBlock) : (offering blocks).Plays where
  source := rfl
  mixer := show (1 : UInt32) ≠ 0 by decide
  reaction := rfl
  posts := rfl
  volume := rfl

/-- Of loud and silent blocks in turn a device gets runs as long as its pieces. -/
theorem renderEach_steadyBlocks {f : OutputFormat} (t : NativeType) (hf : 0 < f.blockSamples)
    {lengths : List Nat} {n : Nat} (hn : (f.cuts lengths).length ≤ n)
    {buffers : List (List t.Sample)} (hlengths : buffers.map List.length = lengths) :
    ∃ r, Playback.renderEach t QueuedGuest.handler (Playback.ofFormat f)
        (Machine.offering (steadyBlocks f f.layout.minSample 0 n)) buffers = .ok r ∧
      r.value.samples =
        alternate (t.ofWire f.layout f.layout.minSample) (t.ofWire f.layout 0)
          (f.cuts lengths) := by
  have hloud : f.layout.minSample ≤ f.layout.minSample ∧
      f.layout.minSample ≤ f.layout.maxSample := by
    cases f.layout <;> decide
  have hsilent : f.layout.minSample ≤ 0 ∧ 0 ≤ f.layout.maxSample := by
    cases f.layout <;> decide
  have henough : (f.cuts lengths).length ≤ (steadyBlocks f f.layout.minSample 0 n).length := by
    rw [length_steadyBlocks]
    exact hn
  obtain ⟨r, hrender, hleaves⟩ := Playback.renderEach_of_plays buffers hf
    (Playback.fits_ofFormat f) (Machine.plays_offering (steadyBlocks f f.layout.minSample 0 n))
    (fun b hb => fits_of_mem_steadyBlocks hb) (List.append_nil _).symm hlengths henough
  refine ⟨r, hrender, hleaves.samples.trans ?_⟩
  exact startsOf_steadyBlocks t hloud hsilent (fun k hk => (OutputFormat.cuts_bounds hf hk).2) hn

theorem NativeType.ofWire_minSample_ne (t : NativeType) (w : WireLayout) :
    t.ofWire w w.minSample ≠ t.ofWire w 0 := by
  cases t <;> cases w <;> decide

/-! ## Two ways to cut -/

/-- Buffers of these lengths cannot be told from buffers of those: as long as its queue does not run
    out, a guest that keeps to the rules gets as many interrupts from both devices, and both get the
    same samples. -/
def CutsAlike (t : NativeType) (f : OutputFormat) (lengths₁ lengths₂ : List Nat) : Prop :=
  ∀ (p : Playback) (m : Machine QueuedGuest) (blocks : List GuestBlock)
    (rest : List (Option GuestBlock)) (buffers₁ buffers₂ : List (List t.Sample)),
    p.Fits f → m.Plays → (∀ b ∈ blocks, b.Fits f) →
    m.guest.queue = blocks.map some ++ rest →
    (f.cuts lengths₁).length ≤ blocks.length → (f.cuts lengths₂).length ≤ blocks.length →
    buffers₁.map List.length = lengths₁ → buffers₂.map List.length = lengths₂ →
    ∃ r₁ r₂, Playback.renderEach t QueuedGuest.handler p m buffers₁ = .ok r₁ ∧
      Playback.renderEach t QueuedGuest.handler p m buffers₂ = .ok r₂ ∧
      r₁.value.samples = r₂.value.samples ∧
      r₁.value.machine.guest.interrupts = r₂.value.machine.guest.interrupts

variable {t : NativeType} {f : OutputFormat} {lengths₁ lengths₂ : List Nat}

theorem cutsAlike_of_cuts_eq (hf : 0 < f.blockSamples) (h : f.cuts lengths₁ = f.cuts lengths₂) :
    CutsAlike t f lengths₁ lengths₂ := by
  intro p m blocks rest buffers₁ buffers₂ hp hm hb hqueue henough₁ henough₂ hlengths₁ hlengths₂
  obtain ⟨r₁, hrender₁, hleaves₁⟩ :=
    Playback.renderEach_of_plays buffers₁ hf hp hm hb hqueue hlengths₁ henough₁
  obtain ⟨r₂, hrender₂, hleaves₂⟩ :=
    Playback.renderEach_of_plays buffers₂ hf hp hm hb hqueue hlengths₂ henough₂
  refine ⟨r₁, r₂, hrender₁, hrender₂, ?_, ?_⟩
  · rw [hleaves₁.samples, hleaves₂.samples, h]
  · rw [hleaves₁.interrupts, hleaves₂.interrupts, h]

theorem CutsAlike.cuts_eq (hf : 0 < f.blockSamples) (h : CutsAlike t f lengths₁ lengths₂) :
    f.cuts lengths₁ = f.cuts lengths₂ := by
  have hmap : ∀ lengths : List Nat,
      (lengths.map fun n => List.replicate n t.atRest).map List.length = lengths := by
    intro lengths
    simp only [List.map_map, Function.comp_def, List.length_replicate, List.map_id']
  let n := max (f.cuts lengths₁).length (f.cuts lengths₂).length
  have hle₁ : (f.cuts lengths₁).length ≤ n := Nat.le_max_left _ _
  have hle₂ : (f.cuts lengths₂).length ≤ n := Nat.le_max_right _ _
  have hn : n = (steadyBlocks f f.layout.minSample 0 n).length := (length_steadyBlocks _ _ _ _).symm
  obtain ⟨r₁, hrender₁, hruns₁⟩ := renderEach_steadyBlocks t hf hle₁ (hmap lengths₁)
  obtain ⟨r₂, hrender₂, hruns₂⟩ := renderEach_steadyBlocks t hf hle₂ (hmap lengths₂)
  obtain ⟨r₁', r₂', hrender₁', hrender₂', hsamples, -⟩ :=
    h (Playback.ofFormat f) (Machine.offering (steadyBlocks f f.layout.minSample 0 n))
      (steadyBlocks f f.layout.minSample 0 n) [] _ _ (Playback.fits_ofFormat f)
      (Machine.plays_offering _) (fun b hb => fits_of_mem_steadyBlocks hb)
      (List.append_nil _).symm (hn ▸ hle₁) (hn ▸ hle₂) (hmap lengths₁) (hmap lengths₂)
  rw [hrender₁] at hrender₁'
  rw [hrender₂] at hrender₂'
  cases hrender₁'
  cases hrender₂'
  rw [hruns₁, hruns₂] at hsamples
  have hpos : ∀ {lengths : List Nat}, ∀ k ∈ f.cuts lengths, 0 < k :=
    fun k hk => (OutputFormat.cuts_bounds hf hk).1
  exact alternate_inj (t.ofWire_minSample_ne f.layout) hpos hpos hsamples

/-- **When the cutting of buffers cannot be heard.** Two devices get the same samples, and the guest
    as many interrupts, exactly if their buffers are cut into the same pieces. -/
theorem cutsAlike_iff (t : NativeType) (f : OutputFormat) (hchannels : 0 < f.channels.toNat)
    (hframes : 0 < f.framesPerBlock.toNat) (lengths₁ lengths₂ : List Nat) :
    CutsAlike t f lengths₁ lengths₂ ↔ f.cuts lengths₁ = f.cuts lengths₂ := by
  have hf : 0 < f.blockSamples := f.blockSamples_pos_iff.2 ⟨hframes, hchannels⟩
  exact ⟨CutsAlike.cuts_eq hf, cutsAlike_of_cuts_eq hf⟩

/-- A buffer of one block is not two buffers of half a block. -/
theorem cutsAlike_iff_halves :
    (0 < (1 : UInt16).toNat ∧ 0 < (2 : UInt32).toNat) ∧
      ¬CutsAlike .u8 ⟨44100, .byte, 1, 2⟩ [2] [1, 1] := by
  refine ⟨by decide, ?_⟩
  rw [cutsAlike_iff .u8 ⟨44100, .byte, 1, 2⟩ (by decide) (by decide)]
  decide

/-- With two blocks queued, a buffer of one block plays the first to its end, and two buffers of
    half a block play the start of each. -/
theorem renderEach_halves :
    ∃ r₁ r₂ : Logged (Rendered .u8 QueuedGuest),
      Playback.renderEach .u8 QueuedGuest.handler (Playback.ofFormat ⟨44100, .byte, 1, 2⟩)
          (Machine.offering [⟨2, 8, 1, [1, 2]⟩, ⟨2, 8, 1, [3, 4]⟩]) [[0x5a, 0x5a]] = .ok r₁ ∧
      Playback.renderEach .u8 QueuedGuest.handler (Playback.ofFormat ⟨44100, .byte, 1, 2⟩)
          (Machine.offering [⟨2, 8, 1, [1, 2]⟩, ⟨2, 8, 1, [3, 4]⟩]) [[0x5a], [0x5a]] = .ok r₂ ∧
      (r₁.value.samples = [1, 2] ∧ r₁.value.machine.guest.interrupts = 1) ∧
      (r₂.value.samples = [1, 3] ∧ r₂.value.machine.guest.interrupts = 2) := by
  have hfits : ∀ b ∈ [(⟨2, 8, 1, [1, 2]⟩ : GuestBlock), ⟨2, 8, 1, [3, 4]⟩],
      b.Fits ⟨44100, .byte, 1, 2⟩ := by
    intro b hb
    simp only [List.mem_cons, List.not_mem_nil, or_false] at hb
    rcases hb with rfl | rfl <;> exact ⟨rfl, rfl, by decide, rfl⟩
  have hplays := Machine.plays_offering [⟨2, 8, 1, [1, 2]⟩, ⟨2, 8, 1, [3, 4]⟩]
  have hp := Playback.fits_ofFormat ⟨44100, .byte, 1, 2⟩
  obtain ⟨r₁, hrender₁, hleaves₁⟩ := Playback.renderEach_of_plays (t := .u8) [[0x5a, 0x5a]]
    (by decide) hp hplays hfits (List.append_nil _).symm rfl (by decide)
  obtain ⟨r₂, hrender₂, hleaves₂⟩ := Playback.renderEach_of_plays (t := .u8) [[0x5a], [0x5a]]
    (by decide) hp hplays hfits (List.append_nil _).symm rfl (by decide)
  exact ⟨r₁, r₂, hrender₁, hrender₂, ⟨hleaves₁.samples.trans (by decide), hleaves₁.interrupts⟩,
    hleaves₂.samples.trans (by decide), hleaves₂.interrupts⟩

/-- A device can be told from one that asks for single blocks, unless all of its buffers are whole
    blocks. -/
theorem cutsAlike_blocks_iff (hf : 0 < f.blockSamples) (buffers : List (List t.Sample)) (k : Nat) :
    CutsAlike t f (buffers.map List.length) (List.replicate k f.blockSamples) ↔
      (∀ buffer ∈ buffers, f.blockSamples ∣ buffer.length) ∧
        buffers.flatten.length = k * f.blockSamples := by
  rw [← OutputFormat.cuts_eq_replicate_iff hf]
  constructor
  · intro h
    exact (h.cuts_eq hf).trans (OutputFormat.cuts_replicate hf k)
  · intro h
    exact cutsAlike_of_cuts_eq hf (h.trans (OutputFormat.cuts_replicate hf k).symm)

end GuestAudio
