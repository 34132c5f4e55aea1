import GuestAudio.Device.Choice

set_option autoImplicit false

/-! # The best supported range

What a range needs to suit a request, and how well its samples suit, are stated here without the
rank by which ranges are compared (`SetupRange.Suits`, `DeviceSample.distance`). The choice for a
request is then the first of the ranges that suit best, with the nearest number of frames that the
range supports; and there is a choice just if some range suits (`bestChoice?_first`). -/

namespace GuestAudio

/-! ## First of the least -/

/-- `x` has the least rank of all elements, and is the first that has it. -/
def IsFirstLeast {α : Type} (rank : α → Option Nat) (xs : List α) (x : α) : Prop :=
  ∃ earlier later n, xs = earlier ++ x :: later ∧ rank x = some n ∧
    (∀ y ∈ earlier, ∀ m, rank y = some m → n < m) ∧ ∀ y ∈ later, ∀ m, rank y = some m → n ≤ m

section FirstLeast

variable {α : Type} {rank : α → Option Nat}

theorem firstLeast_eq_none_iff {xs : List α} :
    firstLeast rank xs = none ↔ ∀ x ∈ xs, rank x = none := by
  induction xs with
  | nil => simp [firstLeast]
  | cons x rest ih =>
    cases hx : rank x with
    | none => simp [firstLeast, hx, ih]
    | some n =>
      have hsome : firstLeast rank (x :: rest) ≠ none := by
        cases hrest : firstLeast rank rest with
        | none => simp [firstLeast, hx, hrest]
        | some y =>
          simp only [firstLeast, hx, hrest]
          split <;> exact Option.some_ne_none _
      simp [hsome, hx]

/-- In front of the least element there may be any of greater rank, or of none. -/
theorem firstLeast_append_cons {x : α} {n : Nat} (hx : rank x = some n) {earlier later : List α}
    (hearlier : ∀ y ∈ earlier, ∀ m, rank y = some m → n < m)
    (hlater : firstLeast rank (x :: later) = some x) :
    firstLeast rank (earlier ++ x :: later) = some x := by
  induction earlier with
  | nil => exact hlater
  | cons y rest ih =>
    have hrest := ih fun z hz => hearlier z (List.mem_cons_of_mem y hz)
    rw [List.cons_append, firstLeast, hrest]
    cases hy : rank y with
    | none => rfl
    | some m =>
      have hlt : n < m := hearlier y List.mem_cons_self m hy
      simp [hx, hlt]

/-- An element without a rank, or with a greater one, may be put in front. -/
theorem IsFirstLeast.cons {xs : List α} {x y : α} {n : Nat} (h : IsFirstLeast rank xs x)
    (hx : rank x = some n) (hy : ∀ m, rank y = some m → n < m) : IsFirstLeast rank (y :: xs) x := by
  obtain ⟨earlier, later, n', rfl, hx', hearlier, hlater⟩ := h
  cases hx.symm.trans hx'
  refine ⟨y :: earlier, later, n, rfl, hx, ?_, hlater⟩
  intro z hz
  rcases List.mem_cons.1 hz with rfl | hz
  · exact hy
  · exact hearlier z hz

theorem IsFirstLeast.le {xs : List α} {x y : α} {n m : Nat} (h : IsFirstLeast rank xs x)
    (hx : rank x = some n) (hmem : y ∈ xs) (hy : rank y = some m) : n ≤ m := by
  obtain ⟨earlier, later, n', rfl, hx', hearlier, hlater⟩ := h
  cases hx.symm.trans hx'
  rcases List.mem_append.1 hmem with hmem | hmem
  · exact Nat.le_of_lt (hearlier y hmem m hy)
  · rcases List.mem_cons.1 hmem with rfl | hmem
    · cases hx.symm.trans hy
      exact Nat.le_refl n
    · exact hlater y hmem m hy

theorem isFirstLeast_of_firstLeast {xs : List α} {x : α} (h : firstLeast rank xs = some x) :
    IsFirstLeast rank xs x := by
  induction xs generalizing x with
  | nil => cases h
  | cons y rest ih =>
    rw [firstLeast] at h
    cases hy : rank y with
    | none =>
      rw [hy] at h
      have hfirst := ih h
      obtain ⟨-, -, n, -, hx, -, -⟩ := hfirst
      exact (ih h).cons hx fun m hm => by rw [hy] at hm; cases hm
    | some k =>
      rw [hy] at h
      cases hrest : firstLeast rank rest with
      | none =>
        rw [hrest] at h
        cases h
        refine ⟨[], rest, k, rfl, hy, by simp, ?_⟩
        intro z hz m hm
        rw [firstLeast_eq_none_iff.1 hrest z hz] at hm
        cases hm
      | some best =>
        have hbest := ih hrest
        obtain ⟨-, -, n, -, hn, -, -⟩ := ih hrest
        rw [hrest] at h
        dsimp only at h
        rw [hn, Option.any_some] at h
        by_cases hlt : n < k
        · -- the best of the rest is better than the first
          rw [if_pos (decide_eq_true hlt)] at h
          cases h
          refine hbest.cons hn fun m hm => ?_
          cases hy.symm.trans hm
          exact hlt
        · rw [if_neg (by simpa using hlt)] at h
          cases h
          refine ⟨[], rest, k, rfl, hy, by simp, ?_⟩
          intro z hz m hm
          exact Nat.le_trans (Nat.not_lt.1 hlt) (hbest.le hn hz hm)

theorem firstLeast_eq_some_iff {xs : List α} {x : α} :
    firstLeast rank xs = some x ↔ IsFirstLeast rank xs x := by
  constructor
  · exact isFirstLeast_of_firstLeast
  · rintro ⟨earlier, later, n, rfl, hx, hearlier, hlater⟩
    apply firstLeast_append_cons hx hearlier
    rw [firstLeast, hx]
    cases hrest : firstLeast rank later with
    | none => rfl
    | some y =>
      obtain ⟨before, after, m, rfl, hy, -, -⟩ := isFirstLeast_of_firstLeast hrest
      have hle : ¬m < n := Nat.not_lt.2 (hlater y (by simp) m hy)
      simp [hy, hle]

end FirstLeast

/-! ## Ranges that suit -/

/-- The range has the requested channels, contains the requested rate, and takes samples with which
    buffers can be filled. -/
structure SetupRange.Suits (range : SetupRange) (r : OutputRequest) : Prop where
  channels : range.channels = r.channels
  minRate : range.minRate ≤ r.sampleRate
  maxRate : r.sampleRate ≤ range.maxRate
  fillable : range.sample.native?.isSome = true

/-- How far samples are from those of a wire layout: they are its own, or floating point, or
    others. -/
def DeviceSample.distance (sample : DeviceSample) (w : WireLayout) : Nat :=
  if sample = .ofLayout w then 0 else if sample = .f32 then 1 else 2

theorem sampleRank_eq (sample : DeviceSample) (w : WireLayout) :
    sampleRank sample (.ofLayout w) =
      if sample.native?.isSome then some (sample.distance w) else none := by
  cases sample <;> cases w <;> rfl

theorem SetupRange.rank?_eq_some_iff {range : SetupRange} {r : OutputRequest} {n : Nat} :
    range.rank? r = some n ↔ range.Suits r ∧ range.sample.distance r.layout = n := by
  have hadmits : range.admits r = true ↔ range.channels = r.channels ∧
      range.minRate ≤ r.sampleRate ∧ r.sampleRate ≤ range.maxRate := by
    simp [admits, and_assoc]
  unfold rank?
  rw [sampleRank_eq]
  by_cases hrange : range.admits r = true
  · obtain ⟨hchannels, hmin, hmax⟩ := hadmits.1 hrange
    rw [if_pos hrange]
    by_cases hfillable : range.sample.native?.isSome = true
    · rw [if_pos hfillable, Option.some.injEq]
      exact ⟨fun h => ⟨⟨hchannels, hmin, hmax, hfillable⟩, h⟩, fun h => h.2⟩
    · rw [if_neg hfillable]
      exact ⟨nofun, fun h => absurd h.1.fillable hfillable⟩
  · rw [if_neg hrange]
    exact ⟨nofun, fun h => absurd (hadmits.2 ⟨h.1.channels, h.1.minRate, h.1.maxRate⟩) hrange⟩

/-- The range suits the request best of all, and is the first that does. -/
def SetupRange.IsFirstBest (ranges : List SetupRange) (r : OutputRequest) (range : SetupRange) :
    Prop :=
  range.Suits r ∧ ∃ earlier later, ranges = earlier ++ range :: later ∧
    (∀ other ∈ earlier, other.Suits r →
      range.sample.distance r.layout < other.sample.distance r.layout) ∧
    ∀ other ∈ later, other.Suits r →
      range.sample.distance r.layout ≤ other.sample.distance r.layout

theorem SetupRange.isFirstLeast_iff {ranges : List SetupRange} {r : OutputRequest}
    {range : SetupRange} :
    IsFirstLeast (fun x => x.rank? r) ranges range ↔ range.IsFirstBest ranges r := by
  constructor
  · rintro ⟨earlier, later, n, hranges, hrank, hearlier, hlater⟩
    obtain ⟨hsuits, rfl⟩ := rank?_eq_some_iff.1 hrank
    refine ⟨hsuits, earlier, later, hranges, ?_, ?_⟩
    · intro other hother hfits
      exact hearlier other hother _ (rank?_eq_some_iff.2 ⟨hfits, rfl⟩)
    · intro other hother hfits
      exact hlater other hother _ (rank?_eq_some_iff.2 ⟨hfits, rfl⟩)
  · rintro ⟨hsuits, earlier, later, hranges, hearlier, hlater⟩
    refine ⟨earlier, later, _, hranges, rank?_eq_some_iff.2 ⟨hsuits, rfl⟩, ?_, ?_⟩
    · intro other hother m hm
      obtain ⟨hfits, rfl⟩ := rank?_eq_some_iff.1 hm
      exact hearlier other hother hfits
    · intro other hother m hm
      obtain ⟨hfits, rfl⟩ := rank?_eq_some_iff.1 hm
      exact hlater other hother hfits

/-! ## The nearest frame count -/

/-- The frame count that a buffer range moves a requested one to: the nearest that it contains, if
    it is known and not inverted. -/
inductive BufferRange.MovesTo (asked : UInt32) : BufferRange → UInt32 → Prop
  | nearest {least greatest n : UInt32} (low : least ≤ n) (high : n ≤ greatest)
      (nearest : ∀ m, least ≤ m → m ≤ greatest →
        ((n.toNat : Int) - asked.toNat).natAbs ≤ ((m.toNat : Int) - asked.toNat).natAbs) :
      MovesTo asked (.range least greatest) n
  | inverted {least greatest : UInt32} (inverted : greatest < least) :
      MovesTo asked (.range least greatest) asked
  | unknown : MovesTo asked .unknown asked

theorem BufferRange.toNat_clamp {least greatest : UInt32} (h : least ≤ greatest) (asked : UInt32) :
    ((BufferRange.range least greatest).clamp asked).toNat =
      max least.toNat (min asked.toNat greatest.toNat) := by
  have hordered := UInt32.le_iff_toNat_le.1 h
  simp only [clamp, if_pos h, UInt32.lt_iff_toNat_lt]
  split
  · omega
  · split <;> omega

theorem BufferRange.movesTo_iff {supported : BufferRange} {asked n : UInt32} :
    supported.MovesTo asked n ↔ n = supported.clamp asked := by
  cases supported with
  | unknown =>
    constructor
    · rintro ⟨⟩
      rfl
    · rintro rfl
      exact .unknown
  | range least greatest =>
    by_cases hordered : least ≤ greatest
    · have hclamp := toNat_clamp hordered asked
      have hlimits := UInt32.le_iff_toNat_le.1 hordered
      constructor
      · intro h
        cases h with
        | nearest low high nearest =>
          have hbest := nearest ((BufferRange.range least greatest).clamp asked)
            (UInt32.le_iff_toNat_le.2 (by omega)) (UInt32.le_iff_toNat_le.2 (by omega))
          rw [UInt32.le_iff_toNat_le] at low high
          exact UInt32.toNat_inj.1 (by omega)
        | inverted inverted => exact absurd hordered (UInt32.not_le.2 inverted)
      · rintro rfl
        refine .nearest (UInt32.le_iff_toNat_le.2 (by omega)) (UInt32.le_iff_toNat_le.2 (by omega))
          fun m hlow hhigh => ?_
        rw [UInt32.le_iff_toNat_le] at hlow hhigh
        omega
    · have hinverted := UInt32.not_le.1 hordered
      have hclamp : (BufferRange.range least greatest).clamp asked = asked := if_neg hordered
      rw [hclamp]
      constructor
      · intro h
        cases h with
        | nearest low high nearest => exact absurd (UInt32.le_trans low high) hordered
        | inverted => rfl
      · rintro rfl
        exact .inverted hinverted

/-! ## The choice -/

theorem bestChoice?_eq_none_iff {ranges : List SetupRange} {r : OutputRequest} :
    bestChoice? ranges r = none ↔ ∀ range ∈ ranges, ¬range.Suits r := by
  rw [bestChoice?, Option.map_eq_none_iff, firstLeast_eq_none_iff]
  refine forall₂_congr fun range _ => ?_
  rw [Option.eq_none_iff_forall_ne_some]
  constructor
  · intro h hsuits
    exact h _ (SetupRange.rank?_eq_some_iff.2 ⟨hsuits, rfl⟩)
  · intro h n hn
    exact h (SetupRange.rank?_eq_some_iff.1 hn).1

theorem bestChoice?_eq_some_iff {ranges : List SetupRange} {r : OutputRequest}
    {choice : StreamChoice} :
    bestChoice? ranges r = some choice ↔ ∃ range : SetupRange, range.IsFirstBest ranges r ∧
      choice = {
        sampleRate := r.sampleRate
        channels := r.channels
        sample := range.sample
        frames := range.buffer.blockFrames r.frames } := by
  rw [bestChoice?, Option.map_eq_some_iff]
  refine exists_congr fun range => ?_
  rw [firstLeast_eq_some_iff, SetupRange.isFirstLeast_iff]
  constructor
  · rintro ⟨hbest, rfl⟩
    rw [hbest.1.channels]
    exact ⟨hbest, rfl⟩
  · rintro ⟨hbest, rfl⟩
    rw [hbest.1.channels]
    exact ⟨hbest, rfl⟩

/-- **The choice is the first of the ranges that suit best.** There is none just if no range suits
    the request. A choice has the requested rate and channels, the samples of its range, and as many
    frames as the range allows that are nearest to those requested, but at least one. -/
theorem bestChoice?_first (ranges : List SetupRange) (r : OutputRequest) :
    (bestChoice? ranges r = none ↔ ∀ range ∈ ranges, ¬range.Suits r) ∧
    ∀ choice, bestChoice? ranges r = some choice ↔
      ∃ (range : SetupRange) (n : UInt32), range.IsFirstBest ranges r ∧
        range.buffer.MovesTo r.frames n ∧
        choice = {
          sampleRate := r.sampleRate
          channels := r.channels
          sample := range.sample
          frames := if n = 0 then 1 else n } := by
  refine ⟨bestChoice?_eq_none_iff, fun choice => ?_⟩
  rw [bestChoice?_eq_some_iff]
  refine exists_congr fun range => ?_
  constructor
  · rintro ⟨hbest, rfl⟩
    exact ⟨range.buffer.clamp r.frames, hbest, BufferRange.movesTo_iff.2 rfl, rfl⟩
  · rintro ⟨n, hbest, hmoves, rfl⟩
    rw [BufferRange.movesTo_iff.1 hmoves]
    exact ⟨hbest, rfl⟩

end GuestAudio
