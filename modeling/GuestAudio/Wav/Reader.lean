import GuestAudio.Format.Layout
import GuestAudio.ListReader
import GuestAudio.Wav.Error

set_option autoImplicit false

/-! # Reading bytes

A `ByteReader` reads from the front of a string of bytes, or says why it cannot. What it reads are
single pieces of known length and little-endian numbers. No reader ever leaves more bytes than it
was given (`Shortens`), which is why loops over a file come to an end. -/

namespace GuestAudio

/-- A reader of values from the front of a string of bytes. -/
abbrev ByteReader := ListReader UInt8 WavError

/-- The number with these bytes, lowest first. -/
def littleEndian (bytes : Bytes) : Nat := bytes.foldr (fun b n => b.toNat + 256 * n) 0

/-- The first `n` elements and the rest, if there are as many. -/
def splitExactly {α : Type} : Nat → List α → Option (List α × List α)
  | 0, xs => some ([], xs)
  | _ + 1, [] => none
  | n + 1, x :: xs => (splitExactly n xs).map fun (front, rest) => (x :: front, rest)

theorem splitExactly_eq {α : Type} (n : Nat) (xs : List α) :
    splitExactly n xs = if n ≤ xs.length then some (xs.take n, xs.drop n) else none := by
  induction n generalizing xs with
  | zero => simp [splitExactly]
  | succ n ih =>
    cases xs with
    | nil => simp [splitExactly]
    | cons x xs =>
      rw [splitExactly, ih]
      by_cases h : n ≤ xs.length <;> simp [h]

namespace ByteReader

open ListReader

/-- The next `n` bytes. -/
def take (n : Nat) : ByteReader Bytes := fun bytes =>
  match splitExactly n bytes with
  | some (front, rest) => .ok (front, rest)
  | none => .error .tooShort

/-- Pass over the next `n` bytes. -/
def skip (n : Nat) : ByteReader Unit := do
  let _ ← take n

/-- Pass over the next `n` bytes, or as many as there are. -/
def skipUpTo (n : Nat) : ByteReader Unit := fun bytes => .ok ((), bytes.drop n)

/-- A number of `n` bytes, lowest first. -/
def number (n : Nat) : ByteReader Nat := do
  return littleEndian (← take n)

/-! ## Bytes left -/

/-- A reader that leaves no more bytes than it was given. -/
def Shortens {α : Type} (r : ByteReader α) : Prop :=
  ∀ bytes a rest, r bytes = .ok (a, rest) → rest.length ≤ bytes.length

theorem shortens_pure {α : Type} (a : α) : Shortens (pure a : ByteReader α) := by
  intro bytes b rest h
  cases h
  exact Nat.le_refl _

theorem shortens_throw {α : Type} (e : WavError) : Shortens (throw e : ByteReader α) := by
  intro bytes b rest h
  cases h

theorem Shortens.bind {α β : Type} {r : ByteReader α} {f : α → ByteReader β} (hr : Shortens r)
    (hf : ∀ a, Shortens (f a)) : Shortens (r >>= f) := by
  intro bytes b rest h
  obtain ⟨a, between, hread, hrest⟩ := bind_apply_eq_ok_iff.1 h
  exact Nat.le_trans (hf a between b rest hrest) (hr bytes a between hread)

theorem shortens_require (condition : Bool) (e : WavError) :
    Shortens (require condition e) := by
  unfold require
  split
  · exact shortens_pure ()
  · exact shortens_throw e

/-- What `take` takes is gone. -/
theorem length_of_take {n : Nat} {bytes front rest : Bytes}
    (h : take n bytes = .ok (front, rest)) : front.length = n ∧ bytes = front ++ rest := by
  simp only [take, splitExactly_eq] at h
  by_cases hn : n ≤ bytes.length
  · simp only [hn, if_true, Except.ok.injEq, Prod.mk.injEq] at h
    obtain ⟨rfl, rfl⟩ := h
    exact ⟨by simp only [List.length_take]; omega, (List.take_append_drop n bytes).symm⟩
  · simp [hn] at h

theorem shortens_take (n : Nat) : Shortens (take n) := by
  intro bytes front rest h
  rw [(length_of_take h).2, List.length_append]
  omega

theorem shortens_skip (n : Nat) : Shortens (skip n) :=
  (shortens_take n).bind fun _ => shortens_pure ()

theorem shortens_skipUpTo (n : Nat) : Shortens (skipUpTo n) := by
  intro bytes a rest h
  cases h
  simp only [List.length_drop]
  omega

theorem shortens_number (n : Nat) : Shortens (number n) :=
  (shortens_take n).bind fun _ => shortens_pure _

end ByteReader

end GuestAudio
