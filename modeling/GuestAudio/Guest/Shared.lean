import GuestAudio.Guest.Rendezvous
import GuestAudio.Guest.Status

set_option autoImplicit false

/-! # What the guest shares with the audio side

A `SharedState` is what both the audio side and the guest's interrupt code work on: the rendezvous
and the status. An `InterruptHandler` is the guest itself, as far as the audio side can tell: an
interrupt may change the guest and the shared state, and nothing else. In particular the guest
cannot see the volume. -/

namespace GuestAudio

/-- The rendezvous and the status. -/
structure SharedState where
  rendezvous : Rendezvous := {}
  status : Status := {}
deriving Repr, DecidableEq

/-- How a guest with state `γ` takes an interrupt. -/
structure InterruptHandler (γ : Type) where
  /-- Take the interrupt. The flag is already raised when this runs. -/
  run : γ → SharedState → Checked (γ × SharedState)

namespace SharedState

variable {γ : Type}

/-- Read and clear the interrupt flag. -/
def takeInterrupt (s : SharedState) : Bool × SharedState :=
  let (interrupt, rendezvous) := s.rendezvous.takeInterrupt
  (interrupt, { s with rendezvous })

/-- Answer the audio side. -/
def answer (s : SharedState) (block : Option GuestBlock) : Checked SharedState := do
  return { s with rendezvous := ← s.rendezvous.answer block }

/-- Ask the guest's mixer for the next block, if a mixer is attached. -/
def query (s : SharedState) (nextBlock : γ → Option GuestBlock × γ) (guest : γ) :
    Option GuestBlock × γ :=
  if s.status.mixer = 0 then (none, guest) else nextBlock guest

/-- Service the interrupt: answer with what the guest's mixer has next. -/
def service (s : SharedState) (nextBlock : γ → Option GuestBlock × γ) (guest : γ) :
    Checked (γ × SharedState) := do
  let (block, guest) := s.query nextBlock guest
  return (guest, ← s.answer block)

/-- Service the interrupt without a mixer. -/
def serviceWithoutMixer (s : SharedState) : Checked SharedState := s.answer none

/-- Attach the mixer at a nonzero address, or detach it. -/
def attachMixer (s : SharedState) (address : UInt32) : SharedState :=
  { s with status := s.status.attachMixer address }

/-- One more source; the new count. -/
def addSource (s : SharedState) : Checked (Nat × SharedState) := do
  let status ← s.status.addSource
  return (status.sources, { s with status })

/-- One source less, if there is one; the new count. -/
def removeSource (s : SharedState) : Nat × SharedState :=
  let status := s.status.removeSource
  (status.sources, { s with status })

/-- Collect an answer, or stay parked. -/
def collect (s : SharedState) : Run (Option GuestBlock × SharedState) :=
  match s.rendezvous.collect? with
  | none => .error .parked
  | some (block, rendezvous) => .ok (block, { s with rendezvous })

/-- Ask the guest for a block, interrupt it, and collect its answer. -/
def obtain (handler : InterruptHandler γ) (guest : γ) (s : SharedState) :
    Run (Logged (Option GuestBlock × γ × SharedState)) := do
  let ⟨rendezvous, log⟩ := s.rendezvous.ask
  let (guest, s) ← handler.run guest { s with rendezvous }
  let (block, s) ← s.collect
  return ⟨(block, guest, s), log⟩

theorem answer_of_lt {s : SharedState} {block : Option GuestBlock}
    (hp : s.rendezvous.posts + 1 < 1 <<< 32) :
    s.answer block = .ok { s with
      rendezvous := { s.rendezvous with slot := block, posts := s.rendezvous.posts + 1 } } := by
  rw [answer, Rendezvous.answer_of_lt hp]
  rfl

theorem service_of_lt {s : SharedState} (nextBlock : γ → Option GuestBlock × γ) (guest : γ)
    (hp : s.rendezvous.posts + 1 < 1 <<< 32) :
    s.service nextBlock guest = .ok ((s.query nextBlock guest).2, { s with
      rendezvous := { s.rendezvous with
        slot := (s.query nextBlock guest).1
        posts := s.rendezvous.posts + 1 } }) := by
  unfold service
  dsimp only
  rw [answer_of_lt hp]
  rfl

theorem collect_of_posts_eq_zero {s : SharedState} (hp : s.rendezvous.posts = 0) :
    s.collect = .error .parked := by
  rw [collect, Rendezvous.collect?_eq_none_iff.2 hp]

/-- To collect is to wait if nothing is posted, and nothing else cuts it short. -/
theorem halt_of_collect {s : SharedState} {halt : Halt} (h : s.collect = .error halt) :
    halt = .parked := by
  unfold collect at h
  split at h
  · cases h
    rfl
  · cases h

theorem collect_of_posts_eq_succ {s : SharedState} {n : Nat} (hp : s.rendezvous.posts = n + 1) :
    s.collect = .ok (s.rendezvous.slot, { s with
      rendezvous := { s.rendezvous with awaiting := false, posts := n, slot := none } }) := by
  simp only [collect, Rendezvous.collect?, hp]

end SharedState

end GuestAudio
