import GuestAudio.Guest.Shared

set_option autoImplicit false

/-! # A guest with a queue of blocks

A guest whose mixer hands out the blocks of a queue, one for each query, and none once the queue is
empty. How its interrupt code behaves is a parameter: besides the code that follows the rules there
are guests that service the interrupt too often, at the wrong time, without a mixer, or not at
all. -/

namespace GuestAudio

/-- How the interrupt code reacts to the interrupt. -/
inductive Reaction
  /-- Service it if the flag is up, and clear the flag. -/
  | ifRaised
  /-- Service it and leave the flag as it is. -/
  | keepFlag
  /-- Clear the flag and service it twice. -/
  | twice
  /-- Clear the flag and service it without the mixer. -/
  | withoutMixer
  /-- Do nothing. -/
  | never
deriving Repr, DecidableEq

/-- A guest with its queue. -/
structure QueuedGuest where
  /-- Interrupts taken. -/
  interrupts : Nat := 0
  /-- Queries of the mixer. -/
  queries : Nat := 0
  /-- Blocks not yet handed out; a place may hold none. -/
  queue : List (Option GuestBlock) := []
  reaction : Reaction := .ifRaised
deriving Repr, DecidableEq

namespace QueuedGuest

/-- Put a block at the end of the queue. -/
def enqueue (g : QueuedGuest) (block : Option GuestBlock) : QueuedGuest :=
  { g with queue := g.queue ++ [block] }

/-- The mixer's answer to a query: the front of the queue. -/
def nextBlock (g : QueuedGuest) : Option GuestBlock × QueuedGuest :=
  match g.queue with
  | [] => (none, { g with queries := g.queries + 1 })
  | block :: rest => (block, { g with queries := g.queries + 1, queue := rest })

/-- Service the interrupt with the guest's mixer. -/
def service (g : QueuedGuest) (s : SharedState) : Checked (QueuedGuest × SharedState) :=
  s.service nextBlock g

/-- Take the interrupt and react to it. -/
def interrupt (g : QueuedGuest) (s : SharedState) : Checked (QueuedGuest × SharedState) :=
  let g := { g with interrupts := g.interrupts + 1 }
  match g.reaction with
  | .ifRaised =>
      match s.takeInterrupt with
      | (true, s) => g.service s
      | (false, s) => .ok (g, s)
  | .keepFlag => g.service s
  | .twice => do
      let (g, s) ← g.service s.takeInterrupt.2
      g.service s
  | .withoutMixer => do
      return (g, ← s.takeInterrupt.2.serviceWithoutMixer)
  | .never => .ok (g, s)

/-- How the guest takes an interrupt. -/
def handler : InterruptHandler QueuedGuest := ⟨interrupt⟩

end QueuedGuest

end GuestAudio
