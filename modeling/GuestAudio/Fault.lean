set_option autoImplicit false

/-! # Faults and halts

The arithmetic of the sound path is done in machine words and its buffers have fixed lengths. Where
a result might not fit its word, or an index might lie outside its buffer, the operation answers in
`Checked` and the fault is part of the answer, so that its absence can be stated and proved.

An operation that may also have to wait for the guest answers in `Run`: a caller that waits with
nothing posted is *parked*, which is not a fault. -/

namespace GuestAudio

/-- Why an operation stops in the middle. -/
inductive Fault
  /-- A sum or product does not fit the word it is computed in. -/
  | overflow
  /-- An index or slice reaches past the end of its buffer. -/
  | outOfBounds
deriving Repr, DecidableEq

/-- A computation that a fault may cut short. -/
abbrev Checked := Except Fault

/-- Why an operation that may wait does not come to its end. -/
inductive Halt
  | fault (f : Fault)
  /-- The caller waits for a post, and none is there. -/
  | parked
deriving Repr, DecidableEq

/-- A computation that may fault or stay parked. -/
abbrev Run := Except Halt

instance : MonadLift Checked Run where
  monadLift x := x.mapError Halt.fault

/-! ## Steps -/

variable {ε α β : Type}

/-- What comes to its end has come to the end of its first step. -/
theorem bind_eq_ok_iff {x : Except ε α} {f : α → Except ε β} {b : β} :
    x >>= f = .ok b ↔ ∃ a, x = .ok a ∧ f a = .ok b := by
  cases x <;> simp [bind, Except.bind]

/-- What is cut short is cut short in its first step or after it. -/
theorem bind_eq_error_iff {x : Except ε α} {f : α → Except ε β} {e : ε} :
    x >>= f = .error e ↔ x = .error e ∨ ∃ a, x = .ok a ∧ f a = .error e := by
  cases x <;> simp [bind, Except.bind]

@[simp] theorem ok_bind (a : α) (f : α → Except ε β) : (.ok a : Except ε α) >>= f = f a := rfl

/-- A list of computations of which none is cut short. -/
theorem mapM_eq_ok {f : α → Except ε β} {g : α → β} {xs : List α}
    (h : ∀ x ∈ xs, f x = .ok (g x)) : xs.mapM f = .ok (xs.map g) := by
  induction xs with
  | nil => rfl
  | cons x rest ih =>
    rw [List.mapM_cons, h x List.mem_cons_self, ok_bind,
      ih fun y hy => h y (List.mem_cons_of_mem x hy)]
    rfl

@[simp] theorem liftM_ok (a : α) : (liftM (.ok a : Checked α) : Run α) = .ok a := rfl

theorem liftM_eq_ok_iff {x : Checked α} {a : α} : (liftM x : Run α) = .ok a ↔ x = .ok a := by
  cases x with
  | error e => exact ⟨nofun, nofun⟩
  | ok b => rw [liftM_ok, Except.ok.injEq, Except.ok.injEq]

theorem liftM_eq_error_iff {x : Checked α} {halt : Halt} :
    (liftM x : Run α) = .error halt ↔ ∃ fault, x = .error fault ∧ halt = .fault fault := by
  cases x with
  | error fault =>
    constructor
    · rintro ⟨⟩
      exact ⟨fault, rfl, rfl⟩
    · rintro ⟨_, ⟨⟩, rfl⟩
      rfl
  | ok a => exact ⟨nofun, nofun⟩

/-! ## Machine words -/

/-- The result `n`, provided it fits a word of `bits` bits. -/
def fitting (bits n : Nat) : Checked Nat :=
  if n < 1 <<< bits then .ok n else .error .overflow

theorem fitting_of_lt {bits n : Nat} (h : n < 1 <<< bits) : fitting bits n = .ok n := if_pos h

theorem fitting_eq_ok_iff {bits n m : Nat} : fitting bits n = .ok m ↔ n < 1 <<< bits ∧ n = m := by
  unfold fitting
  split
  · next h => simp [h]
  · next h => simp [h]

/-! ## Slices -/

/-- Cut `xs` after its first `n` elements, provided it has as many. -/
def slice (n : Nat) (xs : List α) : Checked (List α × List α) :=
  if n ≤ xs.length then .ok (xs.take n, xs.drop n) else .error .outOfBounds

theorem slice_of_le {n : Nat} {xs : List α} (h : n ≤ xs.length) :
    slice n xs = .ok (xs.take n, xs.drop n) := if_pos h

theorem slice_of_length_lt {n : Nat} {xs : List α} (h : xs.length < n) :
    slice n xs = .error .outOfBounds := if_neg (Nat.not_le.2 h)

/-- Nothing is lost in cutting. -/
theorem append_of_slice {n : Nat} {xs ys zs : List α} (h : slice n xs = .ok (ys, zs)) :
    ys ++ zs = xs := by
  unfold slice at h
  split at h
  · cases h
    exact List.take_append_drop n xs
  · cases h

/-- The element at `i`, provided there is one. -/
def elementAt (xs : List α) (i : Nat) : Checked α :=
  match xs[i]? with
  | some x => .ok x
  | none => .error .outOfBounds

theorem elementAt_of_lt {xs : List α} {i : Nat} (h : i < xs.length) :
    elementAt xs i = .ok xs[i] := by
  simp [elementAt, h]

end GuestAudio
