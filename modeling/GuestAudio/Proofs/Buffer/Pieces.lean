import GuestAudio.Buffer

set_option autoImplicit false

/-! # The pieces of a buffer

A buffer is cut into pieces of one size and one shorter rest. The lengths of the pieces follow from
the length of the buffer (`pieceLengths`, `map_length_chunks`), and so does their number
(`length_chunks`). -/

namespace GuestAudio

/-- The lengths of the pieces into which a buffer of `n` samples is cut. -/
def pieceLengths (size n : Nat) : List Nat :=
  List.replicate (n / size) size ++ if n % size = 0 then [] else [n % size]

theorem pieceLengths_zero (size : Nat) : pieceLengths size 0 = [] := by
  rw [pieceLengths, Nat.zero_div, Nat.zero_mod, if_pos rfl]
  rfl

theorem pieceLengths_of_lt {size n : Nat} (hn : 0 < n) (h : n < size) :
    pieceLengths size n = [n] := by
  rw [pieceLengths, Nat.div_eq_of_lt h, Nat.mod_eq_of_lt h, if_neg (Nat.ne_of_gt hn)]
  rfl

theorem pieceLengths_add {size : Nat} (hs : 0 < size) (n : Nat) :
    pieceLengths size (size + n) = size :: pieceLengths size n := by
  rw [pieceLengths, pieceLengths, Nat.add_div_left n hs, Nat.add_mod_left, List.replicate_succ]
  rfl

theorem pieceLengths_of_dvd {size n : Nat} (h : size ∣ n) :
    pieceLengths size n = List.replicate (n / size) size := by
  rw [pieceLengths, if_pos (Nat.mod_eq_zero_of_dvd h), List.append_nil]

/-- A piece holds something, and no more than it may. -/
theorem pieceLengths_bounds {size n k : Nat} (hs : 0 < size) (h : k ∈ pieceLengths size n) :
    0 < k ∧ k ≤ size := by
  rcases List.mem_append.1 h with h | h
  · rw [List.eq_of_mem_replicate h]
    exact ⟨hs, Nat.le_refl _⟩
  · by_cases hmod : n % size = 0
    · rw [if_pos hmod] at h
      exact absurd h List.not_mem_nil
    · rw [if_neg hmod, List.mem_singleton] at h
      have := Nat.mod_lt n hs
      omega

theorem map_length_chunks {α : Type} {size : Nat} (hs : 0 < size) (xs : List α) :
    (chunks size xs).map List.length = pieceLengths size xs.length := by
  fun_induction chunks size xs with
  | case1 xs h =>
    rw [List.isEmpty_iff.1 h, List.length_nil, pieceLengths_zero]
    rfl
  | case2 xs hne ih =>
    have hpos : 0 < xs.length := List.length_pos_iff.2 (mt List.isEmpty_iff.2 hne)
    rw [List.map_cons, ih, Nat.max_eq_left hs, List.length_take, List.length_drop]
    by_cases hlt : xs.length < size
    · have hrest : xs.length - size = 0 := by omega
      rw [hrest, pieceLengths_zero, pieceLengths_of_lt hpos hlt, Nat.min_eq_right (by omega)]
    · have hlen : xs.length = size + (xs.length - size) := by omega
      conv => rhs; rw [hlen, pieceLengths_add hs]
      rw [Nat.min_eq_left (by omega)]

theorem map_length_flatMap_chunks {α : Type} {size : Nat} (hs : 0 < size)
    (buffers : List (List α)) :
    (buffers.flatMap (chunks size)).map List.length =
      (buffers.map List.length).flatMap (pieceLengths size) := by
  induction buffers with
  | nil => rfl
  | cons buffer rest ih =>
    rw [List.flatMap_cons, List.map_append, map_length_chunks hs, ih, List.map_cons,
      List.flatMap_cons]

theorem flatten_flatMap_chunks {α : Type} (size : Nat) (buffers : List (List α)) :
    (buffers.flatMap (chunks size)).flatten = buffers.flatten := by
  induction buffers with
  | nil => rfl
  | cons buffer rest ih =>
    rw [List.flatMap_cons, List.flatten_append, flatten_chunks, ih, List.flatten_cons]

/-! ## The number of pieces -/

theorem length_pieceLengths {size : Nat} (hs : 0 < size) (n : Nat) :
    (pieceLengths size n).length = (n + size - 1) / size := by
  rw [pieceLengths, List.length_append, List.length_replicate]
  split
  · next h =>
    obtain ⟨k, rfl⟩ := Nat.dvd_of_mod_eq_zero h
    rw [Nat.mul_div_cancel_left k hs, Nat.add_sub_assoc hs, Nat.mul_add_div hs,
      Nat.div_eq_of_lt (Nat.sub_lt hs Nat.one_pos)]
    rfl
  · next h =>
    have hn := Nat.div_add_mod n size
    have hrest := Nat.mod_lt n hs
    have hsum : n + size - 1 = size * (n / size + 1) + (n % size - 1) := by
      rw [Nat.mul_add, Nat.mul_one]
      omega
    rw [hsum, Nat.mul_add_div hs, Nat.div_eq_of_lt (show n % size - 1 < size by omega)]
    rfl

theorem length_chunks {α : Type} {size : Nat} (hs : 0 < size) (xs : List α) :
    (chunks size xs).length = (xs.length + size - 1) / size := by
  rw [← List.length_map List.length, map_length_chunks hs, length_pieceLengths hs]

/-! ## Pieces in a row -/

theorem length_flatten_of_pieces {α : Type} {size n : Nat} (hs : 0 < size)
    {pieces : List (List α)} (h : pieces.map List.length = pieceLengths size n) :
    pieces.flatten.length = n := by
  have hcut := congrArg List.length (flatten_chunks size (List.replicate n ()))
  rwa [List.length_flatten, map_length_chunks hs, List.length_replicate, ← h,
    ← List.length_flatten] at hcut

/-- An element of pieces in a row, by quotient and remainder. -/
theorem getElem?_flatten_of_pieces {α : Type} {size n i : Nat} (hs : 0 < size)
    {pieces : List (List α)} (h : pieces.map List.length = pieceLengths size n) (hi : i < n) :
    pieces.flatten[i]? = pieces[i / size]?.bind fun piece => piece[i % size]? := by
  induction pieces generalizing n i with
  | nil =>
    have hcount := congrArg List.length h
    rw [length_pieceLengths hs, List.map_nil, List.length_nil, eq_comm,
      Nat.div_eq_zero_iff] at hcount
    omega
  | cons piece rest ih =>
    rw [List.map_cons] at h
    rw [List.flatten_cons]
    by_cases hlt : n < size
    · rw [pieceLengths_of_lt (by omega) hlt] at h
      obtain ⟨hpiece, -⟩ := List.cons.inj h
      rw [List.getElem?_append_left (by omega), Nat.div_eq_of_lt (by omega),
        Nat.mod_eq_of_lt (by omega)]
      rfl
    · obtain ⟨k, rfl⟩ := Nat.exists_eq_add_of_le (Nat.le_of_not_lt hlt)
      rw [pieceLengths_add hs] at h
      obtain ⟨hpiece, hrest⟩ := List.cons.inj h
      by_cases hfirst : i < size
      · rw [List.getElem?_append_left (by omega), Nat.div_eq_of_lt hfirst,
          Nat.mod_eq_of_lt hfirst]
        rfl
      · obtain ⟨j, rfl⟩ := Nat.exists_eq_add_of_le (Nat.le_of_not_lt hfirst)
        rw [List.getElem?_append_right (by omega), hpiece, Nat.add_sub_cancel_left,
          ih hrest (by omega), Nat.add_div_left j hs, Nat.add_mod_left]
        rfl

end GuestAudio
