set_option autoImplicit false

/-! # Buffers

A buffer is a list whose length is fixed by its owner. `overlay` writes over the start of a buffer
and keeps its length; `chunks` cuts a buffer into pieces of one size, the last of which may be
shorter. -/

namespace GuestAudio

variable {α : Type}

/-! ## Writing over the start -/

/-- Write `xs` over the start of `dst`. What does not fit is dropped, what is not reached stays. -/
def overlay (xs dst : List α) : List α :=
  xs.take dst.length ++ dst.drop xs.length

@[simp] theorem length_overlay (xs dst : List α) : (overlay xs dst).length = dst.length := by
  simp only [overlay, List.length_append, List.length_take, List.length_drop]
  omega

theorem overlay_of_length_le {xs dst : List α} (h : xs.length ≤ dst.length) :
    overlay xs dst = xs ++ dst.drop xs.length := by
  rw [overlay, List.take_of_length_le h]

theorem overlay_of_length_eq {xs dst : List α} (h : xs.length = dst.length) :
    overlay xs dst = xs := by
  rw [overlay_of_length_le (Nat.le_of_eq h), h, List.drop_length, List.append_nil]

/-- Of a source longer than the buffer only its start is written. -/
theorem overlay_take (xs dst : List α) :
    overlay (xs.take dst.length) dst = overlay xs dst := by
  unfold overlay
  rw [List.take_take, Nat.min_self, List.length_take]
  rcases Nat.le_total xs.length dst.length with h | h
  · rw [Nat.min_eq_right h]
  · rw [Nat.min_eq_left h, List.drop_of_length_le h, List.drop_of_length_le (Nat.le_refl _)]

/-- Writing into the start of a buffer is writing into the buffer. -/
theorem overlay_take_append_drop {n : Nat} {xs dst : List α} (hx : xs.length ≤ n)
    (hn : n ≤ dst.length) : overlay xs (dst.take n) ++ dst.drop n = overlay xs dst := by
  have hlen : (dst.take n).length = n := List.length_take_of_le hn
  rw [overlay_of_length_le (by omega), overlay_of_length_le (by omega), List.append_assoc]
  congr 1
  conv => rhs; rw [← List.take_append_drop n dst]
  rw [List.drop_append_of_le_length (by omega)]

/-! ## Cutting into chunks -/

/-- Cut `xs` into pieces of `size` elements, the last one shorter if they do not come out even.
    A size of zero counts as one, so that every piece holds something. -/
def chunks (size : Nat) (xs : List α) : List (List α) :=
  if xs.isEmpty then [] else xs.take (max size 1) :: chunks size (xs.drop (max size 1))
termination_by xs.length
decreasing_by
  have := List.length_pos_iff.2 (mt List.isEmpty_iff.2 ‹_›)
  simp only [List.length_drop]
  omega

theorem chunks_of_ne_nil {size : Nat} {xs : List α} (hs : 0 < size) (h : xs ≠ []) :
    chunks size xs = xs.take size :: chunks size (xs.drop size) := by
  rw [chunks, if_neg (mt List.isEmpty_iff.1 h), Nat.max_eq_left hs]

/-- Nothing is lost in cutting. -/
theorem flatten_chunks (size : Nat) (xs : List α) : (chunks size xs).flatten = xs := by
  fun_induction chunks size xs with
  | case1 xs h => rw [List.isEmpty_iff.1 h, List.flatten_nil]
  | case2 xs _ ih => rw [List.flatten_cons, ih, List.take_append_drop]

/-- No chunk is larger than asked for. -/
theorem length_le_of_mem_chunks {size : Nat} {xs c : List α} (hs : 0 < size)
    (h : c ∈ chunks size xs) : c.length ≤ size := by
  fun_induction chunks size xs with
  | case1 => exact absurd h List.not_mem_nil
  | case2 xs _ ih =>
    rcases List.mem_cons.1 h with rfl | h
    · rw [Nat.max_eq_left hs]
      exact List.length_take_le size xs
    · exact ih h

end GuestAudio
