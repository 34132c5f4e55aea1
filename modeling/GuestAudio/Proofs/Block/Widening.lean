import GuestAudio.Block.Mixing

set_option autoImplicit false

/-! # Widening, pair by pair

A mono source is brought into a stereo block all at once. The same comes of going along the two, one
byte of the source and one pair of bytes of the block at a time, until one of them runs out
(`widenInto_eq_widenPairwise`); an odd byte at the end of the block is no pair.

`widenInto_pairs` says where every byte of the block comes from, and that it makes no difference
whether a source is widened as a whole or in two pieces. -/

namespace GuestAudio

/-- Put each byte of the source into the next pair of bytes of the block, as long as there are both;
    the number of bytes written, and the block. -/
def widenPairwise : Bytes → Bytes → Nat × Bytes
  | [], dst => (0, dst)
  | _ :: _, [] => (0, [])
  | _ :: _, [odd] => (0, [odd])
  | b :: src, _ :: _ :: dst =>
      ((widenPairwise src dst).1 + 2, b :: b :: (widenPairwise src dst).2)

/-! ## One pair at a time -/

theorem widenInto_nil (dst : Bytes) : widenInto [] dst = (0, dst) := by
  simp [widenInto, doubled, overlay]

/-- Where there is no pair, nothing is written. -/
theorem widenInto_of_length_lt {dst : Bytes} (src : Bytes) (h : dst.length < 2) :
    widenInto src dst = (0, dst) := by
  have hnone : dst.length / 2 = 0 := Nat.div_eq_of_lt h
  simp [widenInto, hnone, doubled, overlay]

theorem widenInto_cons (b x y : UInt8) (src dst : Bytes) :
    widenInto (b :: src) (x :: y :: dst) =
      ((widenInto src dst).1 + 2, b :: b :: (widenInto src dst).2) := by
  have hpairs : min ((dst.length + 1 + 1) / 2) (src.length + 1) =
      min (dst.length / 2) src.length + 1 := by omega
  simp [widenInto, hpairs, Nat.add_mul, doubled, overlay]

theorem widenInto_eq_widenPairwise (src dst : Bytes) :
    widenInto src dst = widenPairwise src dst := by
  fun_induction widenPairwise src dst with
  | case1 dst => exact widenInto_nil dst
  | case2 b src => exact widenInto_of_length_lt _ (by decide)
  | case3 b src odd => exact widenInto_of_length_lt _ Nat.one_lt_two
  | case4 b src x y dst ih => rw [widenInto_cons, ih]

/-! ## Where the bytes come from -/

/-- The bytes of a pair are the byte of the source. -/
theorem getElem?_widenPairwise_of_lt {src dst : Bytes} {i : Nat}
    (hi : i < (widenPairwise src dst).1 / 2) :
    ∃ b, src[i]? = some b ∧ (widenPairwise src dst).2[2 * i]? = some b ∧
      (widenPairwise src dst).2[2 * i + 1]? = some b := by
  fun_induction widenPairwise src dst generalizing i with
  | case1 | case2 | case3 => simp at hi
  | case4 b src x y dst ih =>
    cases i with
    | zero => exact ⟨b, rfl, rfl, rfl⟩
    | succ i => exact ih (by dsimp only at hi; omega)

/-- Behind the pairs, all bytes stay. -/
theorem getElem?_widenPairwise_of_le {src dst : Bytes} {j : Nat}
    (hj : (widenPairwise src dst).1 ≤ j) : (widenPairwise src dst).2[j]? = dst[j]? := by
  fun_induction widenPairwise src dst generalizing j with
  | case1 | case2 | case3 => rfl
  | case4 b src x y dst ih =>
    obtain ⟨k, rfl⟩ := Nat.exists_eq_add_of_le' (show 2 ≤ j by dsimp only at hj; omega)
    exact ih (by dsimp only at hj; omega)

/-- A second piece goes on where the first one ended. -/
theorem widenPairwise_append (first second dst : Bytes) :
    widenPairwise (first ++ second) dst =
      let ⟨written, block⟩ := widenPairwise first dst
      let rest := widenPairwise second (block.drop written)
      (written + rest.1, block.take written ++ rest.2) := by
  fun_induction widenPairwise first dst with
  | case1 dst => simp
  -- where the first piece finds no pair, the second one finds none either
  | case2 b first => cases second <;> rfl
  | case3 b first odd => cases second <;> rfl
  | case4 b first x y dst ih =>
    rw [List.cons_append, widenPairwise, ih]
    dsimp only
    rw [Nat.add_right_comm]
    rfl

/-! ## The whole -/

/-- **Widening, byte by byte.** As many pairs are written as there are both pairs in the block and
    bytes in the source. Each holds its byte of the source twice, and every byte behind them is the
    one that was there. So a source may be cut anywhere: to widen its second piece into what the
    first one left of the block is to widen it as a whole. -/
theorem widenInto_pairs (src dst : Bytes) :
    let written := (widenInto src dst).1
    let block := (widenInto src dst).2
    written = 2 * min (dst.length / 2) src.length ∧ block.length = dst.length ∧
    (∀ i < written / 2, ∃ b,
      src[i]? = some b ∧ block[2 * i]? = some b ∧ block[2 * i + 1]? = some b) ∧
    (∀ j ≥ written, block[j]? = dst[j]?) ∧
    ∀ cut : Nat,
      let first := widenInto (src.take cut) dst
      let second := widenInto (src.drop cut) (first.2.drop first.1)
      first.1 + second.1 = written ∧ first.2.take first.1 ++ second.2 = block := by
  refine ⟨Nat.mul_comm _ _, length_widenInto src dst, ?_, ?_, ?_⟩
  · intro i hi
    rw [widenInto_eq_widenPairwise] at hi ⊢
    exact getElem?_widenPairwise_of_lt hi
  · intro j hj
    rw [widenInto_eq_widenPairwise] at hj ⊢
    exact getElem?_widenPairwise_of_le hj
  · intro cut
    have hpieces := widenPairwise_append (src.take cut) (src.drop cut) dst
    rw [List.take_append_drop] at hpieces
    simp only [widenInto_eq_widenPairwise, hpieces, and_self]

/-- Of four bytes two find a pair in a block of five bytes, whichever of them come first. -/
theorem widenInto_pairs_odd :
    (widenInto [7, 8, 9, 10] [1, 2, 3, 4, 5]).2[2 * 1 + 1]? = some 8 ∧
    (widenInto [7, 8, 9, 10] [1, 2, 3, 4, 5]).2[4]? = some 5 ∧
    (widenInto [7] [1, 2, 3, 4, 5]).2.take 2 ++ (widenInto [8, 9, 10] [3, 4, 5]).2 =
      [7, 7, 8, 8, 5] := by
  obtain ⟨-, -, hpairs, hbehind, hpieces⟩ := widenInto_pairs [7, 8, 9, 10] [1, 2, 3, 4, 5]
  obtain ⟨b, hsrc, -, hsecond⟩ := hpairs 1 (by decide)
  cases hsrc
  exact ⟨hsecond, hbehind 4 (by decide), (hpieces 1).2⟩

end GuestAudio
