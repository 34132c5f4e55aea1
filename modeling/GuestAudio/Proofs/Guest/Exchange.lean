import GuestAudio.Guest.Queued

set_option autoImplicit false

/-! # An exchange with a prompt guest

A prompt guest takes the interrupt as soon as it is raised and services it once. With nothing left
to collect, an exchange with it never has to wait, and obtains what the mixer has next
(`obtain_prompt`). A guest with a queue that keeps to the rules is prompt (`obtain_of_queue`). -/

namespace GuestAudio

variable {γ : Type}

/-- Take the interrupt, and service it with the guest's mixer if it was raised. -/
def InterruptHandler.prompt (nextBlock : γ → Option GuestBlock × γ) : InterruptHandler γ where
  run guest s :=
    match s.takeInterrupt with
    | (true, s) => s.service nextBlock guest
    | (false, s) => .ok (guest, s)

theorem SharedState.obtain_prompt (nextBlock : γ → Option GuestBlock × γ) (guest : γ)
    {s : SharedState} (hposts : s.rendezvous.posts = 0) :
    s.obtain (.prompt nextBlock) guest = .ok ⟨((s.query nextBlock guest).1,
      (s.query nextBlock guest).2, { s with rendezvous := .idle }), s.rendezvous.ask.log⟩ := by
  have hrun : (InterruptHandler.prompt nextBlock).run guest
      { s with rendezvous := s.rendezvous.ask.value } = .ok ((s.query nextBlock guest).2,
        { s with rendezvous := ⟨false, true, 1, (s.query nextBlock guest).1⟩ }) := by
    simp only [InterruptHandler.prompt, takeInterrupt, Rendezvous.takeInterrupt,
      Rendezvous.value_ask]
    rw [service_of_lt nextBlock guest (by rw [hposts]; decide), hposts]
    rfl
  unfold obtain
  dsimp only
  rw [hrun, liftM_ok, ok_bind]
  dsimp only
  rw [collect_of_posts_eq_succ rfl]
  rfl

/-! ## A guest with a queue -/

namespace QueuedGuest

theorem obtain_eq_prompt {g : QueuedGuest} (hreaction : g.reaction = .ifRaised) (s : SharedState) :
    s.obtain handler g =
      s.obtain (.prompt nextBlock) { g with interrupts := g.interrupts + 1 } := by
  have hrun : ∀ s', handler.run g s' =
      (InterruptHandler.prompt nextBlock).run { g with interrupts := g.interrupts + 1 } s' := by
    intro s'
    dsimp only [handler]
    unfold interrupt
    rw [hreaction]
    rfl
  unfold SharedState.obtain
  simp only [hrun]

/-- A guest that keeps to the rules answers with the front of its queue. -/
theorem obtain_of_queue {g : QueuedGuest} {s : SharedState} {block : Option GuestBlock}
    {rest : List (Option GuestBlock)} (hmixer : s.status.mixer ≠ 0)
    (hreaction : g.reaction = .ifRaised) (hposts : s.rendezvous.posts = 0)
    (hqueue : g.queue = block :: rest) :
    s.obtain handler g = .ok ⟨(block,
      { g with interrupts := g.interrupts + 1, queries := g.queries + 1, queue := rest },
      { s with rendezvous := .idle }), s.rendezvous.ask.log⟩ := by
  rw [obtain_eq_prompt hreaction, SharedState.obtain_prompt nextBlock _ hposts]
  rw [SharedState.query, if_neg hmixer, nextBlock]
  simp only [hqueue]

end QueuedGuest

end GuestAudio
