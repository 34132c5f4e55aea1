import Mathlib.Data.List.Induction
import Mathlib.Data.List.Infix
import Mathlib.Order.Bounds.Defs
import GuestAudio.Proofs.Block.GuestSide

set_option autoImplicit false

/-! # Counting sources from several threads

Any number of threads of the guest add and remove sources, each through a port. To add one is a
single atomic step. To remove one a thread reads the number of sources and then exchanges it for one
less, unless it is no longer what was read; in that case, and now and then for no reason, the
exchange fails, and the thread tries again with what it reads now. What a thread reads may be out of
date.

In every interleaving each call changes the number once, and returns what the number is right after.
Since the number stops at zero it is no mere difference of additions and removals: it is the
greatest excess of additions over removals among the latest changes, however many of these are
taken (`run_counts`). -/

namespace GuestAudio

/-! ## Changes of the number of sources -/

/-- A change of the number of sources. -/
inductive SourceChange
  | added
  | removed
deriving Repr, DecidableEq

/-- The number of sources after a change. -/
def SourceChange.apply (n : Nat) : SourceChange → Nat
  | added => n + 1
  | removed => n - 1

/-- Additions less removals. -/
def excess (changes : List SourceChange) : Int :=
  (changes.count .added : Int) - changes.count .removed

/-- No run of latest changes, whether all of them or none, has a greater excess than `n`, and one of
    them has it. -/
def IsGreatestExcess (changes : List SourceChange) (n : Nat) : Prop :=
  IsGreatest {k : Int | ∃ latest, latest <:+ changes ∧ excess latest = k} n

theorem excess_concat_added (changes : List SourceChange) :
    excess (changes ++ [.added]) = excess changes + 1 := by
  simp only [excess, List.count_append, List.count_singleton_self]
  have hother : [SourceChange.added].count .removed = 0 := rfl
  omega

theorem excess_concat_removed (changes : List SourceChange) :
    excess (changes ++ [.removed]) = excess changes - 1 := by
  simp only [excess, List.count_append, List.count_singleton_self]
  have hother : [SourceChange.removed].count .added = 0 := rfl
  omega

theorem isGreatestExcess_nil : IsGreatestExcess [] 0 := by
  refine ⟨⟨[], List.suffix_rfl, rfl⟩, ?_⟩
  rintro k ⟨latest, hlatest, rfl⟩
  rw [List.suffix_nil.1 hlatest]
  exact Int.le_refl _

/-- One more change moves the greatest excess as it moves the number of sources: a removal that
    finds nothing leaves the empty run, whose excess is zero. -/
theorem IsGreatestExcess.concat {changes : List SourceChange} {n : Nat}
    (h : IsGreatestExcess changes n) (change : SourceChange) :
    IsGreatestExcess (changes ++ [change]) (change.apply n) := by
  obtain ⟨⟨latest, hlatest, hexcess⟩, hgreatest⟩ := h
  have hnonneg : 0 ≤ excess [] := Int.le_refl _
  have hlonger : latest ++ [change] <:+ changes ++ [change] :=
    List.suffix_concat_iff.2 (.inr ⟨latest, rfl, hlatest⟩)
  constructor
  · cases change with
    | added =>
      refine ⟨latest ++ [.added], hlonger, ?_⟩
      rw [excess_concat_added, hexcess]
      rfl
    | removed =>
      cases n with
      | zero => exact ⟨[], List.nil_suffix, rfl⟩
      | succ n =>
        refine ⟨latest ++ [.removed], hlonger, ?_⟩
        rw [excess_concat_removed, hexcess]
        simp only [SourceChange.apply]
        omega
  · rintro k ⟨longer, hsuffix, rfl⟩
    rcases List.suffix_concat_iff.1 hsuffix with rfl | ⟨shorter, rfl, hshorter⟩
    · exact Int.natCast_nonneg _
    · have hle : excess shorter ≤ n := hgreatest ⟨shorter, hshorter, rfl⟩
      cases change with
      | added =>
        rw [excess_concat_added]
        simp only [SourceChange.apply]
        omega
      | removed =>
        rw [excess_concat_removed]
        simp only [SourceChange.apply]
        omega

/-- There are no more sources than were added. -/
theorem IsGreatestExcess.le_count_added {changes : List SourceChange} {n : Nat}
    (h : IsGreatestExcess changes n) : n ≤ changes.count .added := by
  obtain ⟨latest, hlatest, hexcess⟩ := h.1
  have hcount : latest.count .added ≤ changes.count .added := hlatest.sublist.count_le _
  unfold excess at hexcess
  omega

/-- There is a source just if among some latest changes there are more additions than removals. -/
theorem IsGreatestExcess.ne_zero_iff {changes : List SourceChange} {n : Nat}
    (h : IsGreatestExcess changes n) :
    n ≠ 0 ↔ ∃ latest, latest <:+ changes ∧ latest.count .removed < latest.count .added := by
  constructor
  · intro hn
    obtain ⟨latest, hlatest, hexcess⟩ := h.1
    refine ⟨latest, hlatest, ?_⟩
    unfold excess at hexcess
    omega
  · rintro ⟨latest, hlatest, hmore⟩ rfl
    have hle : excess latest ≤ (0 : Nat) := h.2 ⟨latest, hlatest, rfl⟩
    unfold excess at hle
    omega

/-! ## Threads -/

/-- Where a thread stands that counts sources. -/
inductive CountingPhase
  /-- Between two calls. -/
  | idle
  /-- It removes a source, has read this number, and is about to exchange it. -/
  | removing (seen : Nat)
deriving Repr, DecidableEq

/-- A call that has changed the number of sources, and what it returns. -/
structure SourceCall where
  thread : Nat
  change : SourceChange
  result : Nat
deriving Repr, DecidableEq

/-- The threads, what they share, and the calls in the order of their changes. -/
structure CountingThreads where
  shared : SharedState
  threads : List CountingPhase
  calls : List SourceCall := []

/-- Who takes the next step, and which one. A turn that a thread cannot take passes. -/
inductive CountingTurn
  /-- A thread between two calls adds a source. -/
  | add (thread : Nat)
  /-- A thread between two calls begins to remove a source, and reads the number `seen`. -/
  | read (thread seen : Nat)
  /-- A thread that has read a number exchanges it, which may fail for no reason. If it fails then
      the thread reads the number `seen`. -/
  | exchange (thread seen : Nat) (fails : Bool)
  /-- Someone else changes what is shared, but for the number of sources. -/
  | other (shared : SharedState)

/-- The turn is for the addition of a source. -/
def CountingTurn.adds : CountingTurn → Bool
  | add _ => true
  | _ => false

namespace SharedState

/-- The shared state with another number of sources. -/
def withSources (s : SharedState) (n : Nat) : SharedState :=
  { s with status := { s.status with sources := n } }

/-- Make a change in one step, and return the number of sources. -/
def changeSources (s : SharedState) : SourceChange → Checked (Nat × SharedState)
  | .added => s.addSource
  | .removed => .ok s.removeSource

theorem addSource_of_lt {s : SharedState} (h : s.status.sources + 1 < 1 <<< 32) :
    s.addSource = .ok (s.status.sources + 1, s.withSources (s.status.sources + 1)) := by
  rw [addSource, Status.addSource_of_lt h]
  rfl

/-- What is returned is the number of sources right after the change. -/
theorem sources_of_changeSources {s t : SharedState} {change : SourceChange} {result : Nat}
    (h : s.changeSources change = .ok (result, t)) :
    t.status.sources = change.apply s.status.sources ∧ result = t.status.sources := by
  cases change with
  | added =>
    obtain ⟨status, hstatus, h⟩ := bind_eq_ok_iff.1 h
    obtain ⟨sources, hfits, hstatus⟩ := bind_eq_ok_iff.1 hstatus
    obtain ⟨-, rfl⟩ := fitting_eq_ok_iff.1 hfits
    cases hstatus
    cases h
    exact ⟨rfl, rfl⟩
  | removed =>
    cases h
    exact ⟨rfl, rfl⟩

end SharedState

namespace CountingThreads

/-- No thread is in a call. -/
def start (shared : SharedState) (threads : Nat) : CountingThreads where
  shared
  threads := List.replicate threads .idle

/-- The changes that were made. -/
def changes (s : CountingThreads) : List SourceChange := s.calls.map SourceCall.change

/-- The step of a turn. -/
def step (s : CountingThreads) : CountingTurn → Checked CountingThreads
  | .add i =>
      match s.threads[i]? with
      | some .idle => do
          let (result, shared) ← s.shared.addSource
          return { s with shared, calls := s.calls ++ [⟨i, .added, result⟩] }
      | _ => .ok s
  | .read i seen =>
      match s.threads[i]? with
      | some .idle => .ok { s with threads := s.threads.set i (.removing seen) }
      | _ => .ok s
  | .exchange i seen fails =>
      match s.threads[i]? with
      | some (.removing n) =>
          if s.shared.status.sources = n ∧ fails = false then
            .ok {
              shared := s.shared.withSources (n - 1)
              threads := s.threads.set i .idle
              calls := s.calls ++ [⟨i, .removed, n - 1⟩] }
          else .ok { s with threads := s.threads.set i (.removing seen) }
      | _ => .ok s
  | .other shared => .ok { s with shared := shared.withSources s.shared.status.sources }

/-- The steps of an interleaving. -/
def run (turns : List CountingTurn) (s : CountingThreads) : Checked CountingThreads :=
  turns.foldlM step s

/-! ## What a step does -/

variable {s t : CountingThreads} {turn : CountingTurn}

/-- A step leaves the number of sources alone, or it is a whole call that nothing disturbs. -/
theorem step_cases (h : s.step turn = .ok t) :
    (t.calls = s.calls ∧ t.shared.status.sources = s.shared.status.sources) ∨
      ∃ call, t.calls = s.calls ++ [call] ∧ (call.change = .added → turn.adds = true) ∧
        s.shared.changeSources call.change = .ok (call.result, t.shared) := by
  cases turn with
  | add i =>
    unfold step at h
    dsimp only at h
    split at h
    · obtain ⟨⟨result, shared⟩, hadd, h⟩ := bind_eq_ok_iff.1 h
      cases h
      exact .inr ⟨_, rfl, fun _ => rfl, hadd⟩
    · cases h
      exact .inl ⟨rfl, rfl⟩
  | read i seen =>
    unfold step at h
    dsimp only at h
    split at h
    · cases h
      exact .inl ⟨rfl, rfl⟩
    · cases h
      exact .inl ⟨rfl, rfl⟩
  | exchange i seen fails =>
    unfold step at h
    dsimp only at h
    split at h
    · split at h
      · next hexchange =>
        -- the number is still the one that was read
        cases h
        refine .inr ⟨_, rfl, nofun, ?_⟩
        rw [← hexchange.1]
        rfl
      · cases h
        exact .inl ⟨rfl, rfl⟩
    · cases h
      exact .inl ⟨rfl, rfl⟩
  | other shared =>
    cases h
    exact .inl ⟨rfl, rfl⟩

/-- No step faults while the number of sources has room to grow. -/
theorem exists_step (h : turn.adds = true → s.shared.status.sources + 1 < 1 <<< 32) :
    ∃ t, s.step turn = .ok t := by
  cases turn with
  | add i =>
    unfold step
    dsimp only
    split
    · rw [SharedState.addSource_of_lt (h rfl)]
      exact ⟨_, rfl⟩
    · exact ⟨_, rfl⟩
  | read i seen =>
    unfold step
    dsimp only
    split <;> exact ⟨_, rfl⟩
  | exchange i seen fails =>
    unfold step
    dsimp only
    split
    · split <;> exact ⟨_, rfl⟩
    · exact ⟨_, rfl⟩
  | other shared => exact ⟨_, rfl⟩

/-! ## Every interleaving -/

/-- The number of sources, and each result when it was returned, are the greatest excess of the
    changes made until then. -/
structure Counted (s : CountingThreads) : Prop where
  sources : IsGreatestExcess s.changes s.shared.status.sources
  results : ∀ k call, s.calls[k]? = some call →
    IsGreatestExcess (s.changes.take (k + 1)) call.result

theorem counted_start {shared : SharedState} (h : shared.status.sources = 0) (threads : Nat) :
    (start shared threads).Counted where
  sources := by
    show IsGreatestExcess [] shared.status.sources
    rw [h]
    exact isGreatestExcess_nil
  results := by
    intro k call hcall
    exact absurd hcall nofun

theorem Counted.step (hs : s.Counted) (h : s.step turn = .ok t) : t.Counted := by
  rcases step_cases h with ⟨hcalls, hsources⟩ | ⟨call, hcalls, -, hcall⟩
  · have hchanges : t.changes = s.changes := by rw [changes, hcalls]; rfl
    refine ⟨?_, ?_⟩
    · rw [hchanges, hsources]
      exact hs.sources
    · rw [hchanges, hcalls]
      exact hs.results
  · obtain ⟨hsources, hresult⟩ := SharedState.sources_of_changeSources hcall
    have hchanges : t.changes = s.changes ++ [call.change] := by
      rw [changes, hcalls, List.map_append]
      rfl
    have hcount : IsGreatestExcess t.changes t.shared.status.sources := by
      rw [hchanges, hsources]
      exact hs.sources.concat call.change
    have hlength : s.changes.length = s.calls.length := List.length_map _
    refine ⟨hcount, fun k earlier hearlier => ?_⟩
    rw [hcalls] at hearlier
    by_cases hk : k < s.calls.length
    · rw [List.getElem?_append_left hk] at hearlier
      rw [hchanges, List.take_append_of_le_length (hlength ▸ hk)]
      exact hs.results k earlier hearlier
    · -- the call of this step is the last one
      have hlast : k = s.calls.length := by
        have hlt := (List.getElem?_eq_some_iff.1 hearlier).1
        rw [List.length_append, List.length_singleton] at hlt
        omega
      rw [hlast, List.getElem?_concat_length] at hearlier
      cases hearlier
      rw [List.take_of_length_le (by rw [hchanges, List.length_append, hlength, hlast]; rfl),
        hresult]
      exact hcount

/-- No more additions are made than there are turns for them. -/
theorem count_added_step (h : s.step turn = .ok t) :
    t.changes.count .added ≤ s.changes.count .added + if turn.adds = true then 1 else 0 := by
  rcases step_cases h with ⟨hcalls, -⟩ | ⟨call, hcalls, hadds, -⟩
  · rw [changes, hcalls]
    exact Nat.le_add_right _ _
  · rw [changes, hcalls, List.map_append, List.count_append, List.map_singleton]
    cases hchange : call.change with
    | added =>
      rw [if_pos (hadds hchange)]
      exact Nat.le_refl _
    | removed => exact Nat.le_add_right _ _

/-- With few enough additions no step of an interleaving faults, and all of them count. -/
theorem Counted.run (hs : s.Counted) (turns : List CountingTurn)
    (hfew : s.changes.count .added + turns.countP CountingTurn.adds < 1 <<< 32) :
    ∃ t, CountingThreads.run turns s = .ok t ∧ t.Counted ∧
      t.changes.count .added < 1 <<< 32 := by
  induction turns generalizing s with
  | nil => exact ⟨s, rfl, hs, hfew⟩
  | cons turn rest ih =>
    rw [List.countP_cons] at hfew
    have hroom : turn.adds = true → s.shared.status.sources + 1 < 1 <<< 32 := by
      intro hadds
      rw [if_pos hadds] at hfew
      have hle := hs.sources.le_count_added
      omega
    obtain ⟨t, ht⟩ := exists_step hroom
    have hadded := count_added_step ht
    obtain ⟨u, hu, hcounted⟩ := ih (hs.step ht) (by omega)
    refine ⟨u, ?_, hcounted⟩
    rw [CountingThreads.run, List.foldlM_cons, ht]
    exact hu

end CountingThreads

/-! ## Fills -/

/-- The guest is interrupted by a fill, as it shows where its code for the interrupt ends early. -/
def BlockFiller.Interrupts {γ : Type} (f : BlockFiller) (m : Machine γ) (region : Bytes) : Prop :=
  ∀ fault, f.fill { run := fun _ _ => .error fault } m region = .error (.fault fault)

theorem BlockFiller.interrupts_iff {γ : Type} {f : BlockFiller} {m : Machine γ} {region : Bytes} :
    f.Interrupts m region ↔ m.shared.status.hasSource = true := by
  constructor
  · intro h
    rw [← Bool.not_eq_false]
    intro hidle
    have hfill := h .overflow
    rw [fill_of_idle hidle] at hfill
    cases hfill
  · intro h fault
    rw [fill, if_pos h]
    rfl

namespace CountingThreads

/-- **The number of sources in every interleaving.** From no sources, and with fewer additions than
    a 32-bit word can count, no step of an interleaving faults. In the state that it reaches, the
    number of sources is the greatest excess of additions over removals among the latest changes,
    and each call has returned that number for the changes up to its own. The next step leaves the
    number alone, or is a whole call that nothing disturbs and that returns the number right after.
    There is a source, so that a fill interrupts the guest, just if some latest changes are more
    additions than removals. -/
theorem run_counts (shared : SharedState) (threads : Nat) (turns : List CountingTurn)
    (hnone : shared.status.sources = 0) (hfew : turns.countP CountingTurn.adds < 1 <<< 32) :
    ∃ s, run turns (start shared threads) = .ok s ∧
      s.shared.status.sources < 1 <<< 32 ∧
      IsGreatestExcess s.changes s.shared.status.sources ∧
      (∀ k call, s.calls[k]? = some call →
        IsGreatestExcess (s.changes.take (k + 1)) call.result) ∧
      (∀ turn t, s.step turn = .ok t →
        (t.calls = s.calls ∧ t.shared.status.sources = s.shared.status.sources) ∨
          ∃ call, t.calls = s.calls ++ [call] ∧
            s.shared.changeSources call.change = .ok (call.result, t.shared) ∧
            call.result = t.shared.status.sources) ∧
      (s.shared.status.hasSource = true ↔ ∃ latest, latest <:+ s.changes ∧
        latest.count .removed < latest.count .added) ∧
      ∀ {γ : Type} (f : BlockFiller) (m : Machine γ) (region : Bytes), m.shared = s.shared →
        (f.Interrupts m region ↔ ∃ latest, latest <:+ s.changes ∧
          latest.count .removed < latest.count .added) := by
  have hstart : (start shared threads).changes.count .added = 0 := rfl
  obtain ⟨s, hrun, hs, hadded⟩ := (counted_start hnone threads).run turns (by omega)
  have hsource : s.shared.status.hasSource = true ↔ ∃ latest, latest <:+ s.changes ∧
      latest.count .removed < latest.count .added := by
    rw [Status.hasSource, bne_iff_ne, hs.sources.ne_zero_iff]
  refine ⟨s, hrun, Nat.lt_of_le_of_lt hs.sources.le_count_added hadded, hs.sources, hs.results, ?_,
    hsource, ?_⟩
  · intro turn t ht
    rcases step_cases ht with hcalls | ⟨call, hcalls, -, hcall⟩
    · exact .inl hcalls
    · exact .inr ⟨call, hcalls, hcall, (SharedState.sources_of_changeSources hcall).2⟩
  · intro γ f m region hshared
    rw [BlockFiller.interrupts_iff, hshared]
    exact hsource

/-- Two threads. A removal that finds no source is absorbed. Then the first thread reads one source,
    fails to exchange the number, as a second one was added meanwhile, and removes one in its second
    attempt. -/
theorem run_counts_retried :
    let turns : List CountingTurn := [
      .read 0 0, .exchange 0 0 false, .add 0, .read 0 1, .add 1, .exchange 0 2 false,
      .exchange 0 2 false]
    turns.countP CountingTurn.adds < 1 <<< 32 ∧
    ∃ s, run turns (start {} 2) = .ok s ∧
      s.calls = [⟨0, .removed, 0⟩, ⟨0, .added, 1⟩, ⟨1, .added, 2⟩, ⟨0, .removed, 1⟩] ∧
      s.shared.status.sources = 1 ∧
      IsGreatestExcess [.removed, .added, .added, .removed] 1 := by
  intro turns
  obtain ⟨s, hrun, -, hcount, -⟩ := run_counts {} 2 turns rfl (by decide)
  have hstate : run turns (start {} 2) = .ok {
      shared := { status := { sources := 1 } }
      threads := [.idle, .idle]
      calls := [⟨0, .removed, 0⟩, ⟨0, .added, 1⟩, ⟨1, .added, 2⟩, ⟨0, .removed, 1⟩] } := rfl
  cases hrun.symm.trans hstate
  exact ⟨by decide, _, hstate, rfl, rfl, hcount⟩

end CountingThreads

end GuestAudio
