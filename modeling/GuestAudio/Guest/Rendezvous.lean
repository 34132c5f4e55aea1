import GuestAudio.Fault
import GuestAudio.Format.Layout
import GuestAudio.Log

set_option autoImplicit false

/-! # The rendezvous with the guest

The audio side asks for a block and waits; the guest answers with a block, or with none, and posts.
There is one slot for the answer and no queue behind it: a second answer before the first is taken
replaces it, while both posts count. To collect an answer takes one post and empties the slot; with
no post the audio side stays parked for as long as none arrives.

Each step below is done under one lock, so any interleaving of the two sides is a sequence of
them. -/

namespace GuestAudio

/-! ## What is offered -/

/-- Sound that the guest offers, and what it says about it. Nothing ties the count, the size and the
    channels to the bytes. -/
structure GuestBlock where
  /-- Frames described. -/
  frameCount : UInt32
  /-- Sample size in bits. -/
  sampleBits : UInt16
  channels : UInt16
  bytes : Bytes
deriving Repr, DecidableEq

/-- Mono 8-bit, the one layout that is widened for a stereo device. -/
def GuestBlock.isMonoBytes (b : GuestBlock) : Bool :=
  b.channels == 1 && b.sampleBits == 8

/-! ## The meeting place -/

/-- Where the two sides meet. -/
structure Rendezvous where
  /-- The interrupt flag that the guest sees. -/
  interrupt : Bool := false
  /-- A block was asked for, and no answer was collected since. -/
  awaiting : Bool := false
  /-- Posts not yet taken. -/
  posts : Nat := 0
  /-- The latest answer, until it is taken. -/
  slot : Option GuestBlock := none
deriving Repr, DecidableEq

namespace Rendezvous

/-- Nothing asked, nothing answered. -/
def idle : Rendezvous := {}

/-- Raise the interrupt flag. A request on top of another one is worth a record. -/
def ask (r : Rendezvous) : Logged Rendezvous := do
  if r.awaiting then Logged.tell .requestOutstanding
  pure { r with interrupt := true, awaiting := true }

/-- Read and clear the interrupt flag. -/
def takeInterrupt (r : Rendezvous) : Bool × Rendezvous :=
  (r.interrupt, { r with interrupt := false })

/-- Write the slot and post. The number of posts is a 32-bit word. -/
def answer (r : Rendezvous) (block : Option GuestBlock) : Checked Rendezvous := do
  return { r with slot := block, posts := ← fitting 32 (r.posts + 1) }

/-- Take one post and the answer. Nothing comes of it while there is no post. -/
def collect? (r : Rendezvous) : Option (Option GuestBlock × Rendezvous) :=
  match r.posts with
  | 0 => none
  | posts + 1 => some (r.slot, { r with awaiting := false, posts, slot := none })

theorem value_ask (r : Rendezvous) :
    r.ask.value = { r with interrupt := true, awaiting := true } := by
  cases hf : r.awaiting <;> simp [ask, hf]

theorem log_ask (r : Rendezvous) :
    r.ask.log = if r.awaiting then [.requestOutstanding] else [] := by
  cases hf : r.awaiting <;> simp [ask, hf, Logged.tell]

theorem answer_of_lt {r : Rendezvous} {block : Option GuestBlock}
    (hp : r.posts + 1 < 1 <<< 32) :
    r.answer block = .ok { r with slot := block, posts := r.posts + 1 } := by
  rw [answer, fitting_of_lt hp]
  rfl

theorem collect?_eq_none_iff {r : Rendezvous} : r.collect? = none ↔ r.posts = 0 := by
  unfold collect?
  split <;> simp_all

end Rendezvous

end GuestAudio
