set_option autoImplicit false

/-! # Reading from the front of a list

A `ListReader` takes what it reads from the front of a list, and leaves the rest to the next reader,
or says why it cannot. Loops over a list are written with `iterate`: every round but the last has to
take something, which is why they come to an end (`iterate_eq`). -/

namespace GuestAudio

/-- A reader of values from the front of a list. -/
abbrev ListReader (τ ε : Type) := StateT (List τ) (Except ε)

/-- What a round of a loop comes to. -/
inductive Round (σ α : Type)
  /-- Another round follows. -/
  | again (s : σ)
  /-- The loop is over. -/
  | done (a : α)
deriving Repr, DecidableEq

namespace ListReader

variable {τ ε σ α β : Type}

/-- Give up, unless a condition holds. -/
def require (condition : Bool) (e : ε) : ListReader τ ε Unit :=
  if condition then pure () else throw e

theorem bind_apply (r : ListReader τ ε α) (f : α → ListReader τ ε β) (xs : List τ) :
    (r >>= f) xs =
      match r xs with
      | .ok (a, rest) => f a rest
      | .error e => .error e := by
  cases h : r xs <;> simp only [bind, StateT.bind, Except.bind, h]

theorem bind_apply_of_ok {r : ListReader τ ε α} {xs rest : List τ} {a : α}
    (h : r xs = .ok (a, rest)) (f : α → ListReader τ ε β) : (r >>= f) xs = f a rest := by
  rw [bind_apply, h]

theorem bind_apply_of_error {r : ListReader τ ε α} {xs : List τ} {e : ε} (h : r xs = .error e)
    (f : α → ListReader τ ε β) : (r >>= f) xs = .error e := by
  rw [bind_apply, h]

/-- Looking at what comes next takes nothing of it. -/
theorem get_apply (xs : List τ) : (get : ListReader τ ε (List τ)) xs = .ok (xs, xs) := rfl

/-- What is read comes to its end with its first step and what follows. -/
theorem bind_apply_eq_ok_iff {r : ListReader τ ε α} {f : α → ListReader τ ε β} {xs rest : List τ}
    {b : β} :
    (r >>= f) xs = .ok (b, rest) ↔ ∃ a between, r xs = .ok (a, between) ∧
      f a between = .ok (b, rest) := by
  rw [bind_apply]
  constructor
  · intro h
    cases hr : r xs with
    | error e =>
      rw [hr] at h
      cases h
    | ok read =>
      rw [hr] at h
      exact ⟨read.1, read.2, rfl, h⟩
  · rintro ⟨a, between, hr, hf⟩
    rw [hr]
    exact hf

theorem require_apply_eq_ok_iff {condition : Bool} {e : ε} {xs rest : List τ} {u : Unit} :
    (require condition e : ListReader τ ε Unit) xs = .ok (u, rest) ↔
      condition = true ∧ rest = xs := by
  cases condition with
  | false =>
    constructor
    · intro h
      cases h
    · rintro ⟨h, -⟩
      cases h
  | true =>
    constructor
    · intro h
      cases h
      exact ⟨rfl, rfl⟩
    · rintro ⟨-, rfl⟩
      rfl

/-- Where one reader gives up, the other reads what the first was given. -/
theorem orElse_apply_of_error {r s : ListReader τ ε α} {xs : List τ} {e : ε}
    (h : r xs = .error e) : (r <|> s) xs = s xs := by
  have hcatch : (r <|> s) xs = tryCatch (r xs) fun _ => s xs := rfl
  rw [hcatch, h]
  rfl

/-- Take rounds until one is the last. A round before the last that takes nothing is `stuck`. -/
def iterate (stuck : ε) (round : σ → ListReader τ ε (Round σ α)) (s : σ) : ListReader τ ε α :=
  fun xs =>
    match round s xs with
    | .error e => .error e
    | .ok (.done a, rest) => .ok (a, rest)
    | .ok (.again s, rest) =>
        if rest.length < xs.length then iterate stuck round s rest else .error stuck
termination_by xs => xs.length

/-- A loop is its first round, and the loop from there on. -/
theorem iterate_eq (stuck : ε) (round : σ → ListReader τ ε (Round σ α)) (s : σ) (xs : List τ) :
    iterate stuck round s xs =
      match round s xs with
      | .error e => .error e
      | .ok (.done a, rest) => .ok (a, rest)
      | .ok (.again s, rest) =>
          if rest.length < xs.length then iterate stuck round s rest else .error stuck := by
  rw [iterate]

theorem iterate_of_again {stuck : ε} {round : σ → ListReader τ ε (Round σ α)} {s s' : σ}
    {xs rest : List τ} (h : round s xs = .ok (.again s', rest)) (hlt : rest.length < xs.length) :
    iterate stuck round s xs = iterate stuck round s' rest := by
  rw [iterate_eq, h]
  exact if_pos hlt

theorem iterate_of_done {stuck : ε} {round : σ → ListReader τ ε (Round σ α)} {s : σ} {a : α}
    {xs rest : List τ} (h : round s xs = .ok (.done a, rest)) :
    iterate stuck round s xs = .ok (a, rest) := by
  rw [iterate_eq, h]

end ListReader

end GuestAudio
