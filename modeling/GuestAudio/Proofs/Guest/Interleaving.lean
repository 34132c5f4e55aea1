import GuestAudio.Proofs.Guest.Exchange

set_option autoImplicit false

/-! # Exchanges in any interleaving

One audio thread makes exchange after exchange: it asks, raises the interrupt, and waits for a post.
Any number of threads of the guest look at the interrupt flag, and one that finds it up services the
interrupt once: it queries a mixer and answers. A `Turn` says who takes the next step, so a list of
turns is an interleaving; which step that is follows from where the thread stands.

While a request is outstanding there is exactly one token for it: the flag is up, or one thread of
the guest is servicing it, or its answer is posted (`InStep.outstanding`). Hence the `n`-th result
is the answer to the `n`-th request, in every interleaving (`run_delivers`). An exchange with a
prompt guest is one of them (`InStep.run_promptly`).

The requests are numbered from one. The numbers, and the lists of what was offered, answered and
delivered, are a record of the run, and no step depends on them. -/

namespace GuestAudio

/-! ## Threads and their turns -/

/-- Where the audio thread stands. -/
inductive AudioPhase
  /-- Between two exchanges. -/
  | idle
  /-- It has asked, and is about to raise the interrupt for its request. -/
  | asked (request : Nat)
  /-- It waits for the answer to its request. -/
  | waiting (request : Nat)
deriving Repr, DecidableEq

/-- Where a thread of the guest stands. -/
inductive GuestPhase
  /-- About to look at the flag. -/
  | polling
  /-- It has found the flag up, which this request raised, and cleared it. -/
  | taken (request : Nat)
  /-- It has made the query, and is about to answer. -/
  | queried (request : Nat) (block : Option GuestBlock)
deriving Repr, DecidableEq

/-- The request whose interrupt the thread has taken and not yet answered. -/
def GuestPhase.request? : GuestPhase → Option Nat
  | polling => none
  | taken request => some request
  | queried request _ => some request

/-- The thread has taken an interrupt and not yet answered. -/
def GuestPhase.isServicing (g : GuestPhase) : Bool := g.request?.isSome

/-- All threads, what they share, and what has happened so far. -/
structure Threads (γ : Type) where
  shared : SharedState
  /-- The mixers of the guest. -/
  mixers : γ
  guests : List GuestPhase
  audio : AudioPhase := .idle
  /-- The number of requests. -/
  requests : Nat := 0
  /-- For each query what the mixer had next, or nothing if none was passed or attached. -/
  offers : List (Option GuestBlock) := []
  /-- The answers, each with the request that it is for. -/
  answers : List (Nat × Option GuestBlock) := []
  /-- The results of the completed exchanges, each with its request. -/
  results : List (Nat × Option GuestBlock) := []
  log : Log := []

/-- Who takes the next step. -/
inductive Turn
  | audio
  /-- The guest's thread at an index. Should it make its query now, it passes a mixer or not. -/
  | guest (i : Nat) (passes : Bool)
  /-- Something else changes the status, be it the mixer or the sources. -/
  | status (status : Status)

namespace Threads

variable {γ : Type}

/-- Nothing asked, and all of the guest's threads polling. -/
def start (status : Status) (mixers : γ) (guests : Nat) : Threads γ where
  shared := { status }
  mixers := mixers
  guests := List.replicate guests .polling

/-- A step of the audio thread. To raise the interrupt only lets the guest's threads run, which they
    may at any time. Without a post the thread stays where it waits. -/
def stepAudio (s : Threads γ) : Threads γ :=
  match s.audio with
  | .idle =>
      let asked := s.shared.rendezvous.ask
      { s with
        shared := { s.shared with rendezvous := asked.value }
        audio := .asked (s.requests + 1)
        requests := s.requests + 1
        log := s.log ++ asked.log }
  | .asked n => { s with audio := .waiting n }
  | .waiting n =>
      match s.shared.collect with
      | .error _ => s
      | .ok (block, shared) =>
          { s with shared, audio := .idle, results := s.results ++ [(n, block)] }

/-- A step of the guest's thread `i`, whose mixer is `mixer i`. -/
def stepGuest (mixer : Nat → γ → Option GuestBlock × γ) (i : Nat) (passes : Bool)
    (s : Threads γ) : Checked (Threads γ) :=
  match s.guests[i]? with
  | none => .ok s
  | some .polling =>
      match s.shared.takeInterrupt with
      | (true, shared) =>
          .ok { s with shared, guests := s.guests.set i (.taken s.requests) }
      | (false, shared) => .ok { s with shared }
  | some (.taken n) =>
      let (block, mixers) :=
        if passes then s.shared.query (mixer i) s.mixers else (none, s.mixers)
      .ok { s with
        mixers
        guests := s.guests.set i (.queried n block)
        offers := s.offers ++
          [if passes ∧ s.shared.status.mixer ≠ 0 then (mixer i s.mixers).1 else none] }
  | some (.queried n block) => do
      let shared ← s.shared.answer block
      return { s with
        shared
        guests := s.guests.set i .polling
        answers := s.answers ++ [(n, block)] }

/-- The step of a turn. -/
def step (mixer : Nat → γ → Option GuestBlock × γ) (s : Threads γ) : Turn → Checked (Threads γ)
  | .audio => .ok s.stepAudio
  | .guest i passes => s.stepGuest mixer i passes
  | .status status => .ok { s with shared := { s.shared with status } }

/-- The steps of an interleaving. -/
def run (mixer : Nat → γ → Option GuestBlock × γ) (turns : List Turn) (s : Threads γ) :
    Checked (Threads γ) :=
  turns.foldlM (step mixer) s

/-! ## What a step keeps -/

/-- The tokens for the request at hand: the raised flag, the threads servicing it, and the posts. -/
def tokens (s : Threads γ) : Nat :=
  s.shared.rendezvous.interrupt.toNat + s.guests.countP GuestPhase.isServicing +
    s.shared.rendezvous.posts

/-- The answer that is posted and not yet collected, if there is one. -/
def posted (s : Threads γ) : List (Nat × Option GuestBlock) :=
  if s.shared.rendezvous.posts = 0 then [] else [(s.requests, s.shared.rendezvous.slot)]

/-- What holds after every step. -/
structure InStep (s : Threads γ) : Prop where
  awaiting : s.shared.rendezvous.awaiting = true ↔ s.audio ≠ .idle
  outstanding : s.tokens = s.shared.rendezvous.awaiting.toNat
  slot : s.shared.rendezvous.posts = 0 → s.shared.rendezvous.slot = none
  requests : s.requests = s.results.length + s.shared.rendezvous.awaiting.toNat
  exchange : ∀ n, s.audio = .asked n ∨ s.audio = .waiting n → n = s.requests
  servicing : ∀ g ∈ s.guests, ∀ n, g.request? = some n → n = s.requests
  delivered : s.results.map Prod.fst = List.range' 1 s.results.length
  answered : s.answers = s.results ++ s.posted
  offered : (∀ n block, .queried n block ∉ s.guests) → s.offers = s.answers.map Prod.snd
  held : ∀ n block, .queried n block ∈ s.guests → s.offers = s.answers.map Prod.snd ++ [block]
  log : s.log = []

theorem inStep_start (status : Status) (mixers : γ) (guests : Nat) :
    (start status mixers guests).InStep := by
  have hpolling : ∀ g ∈ (start status mixers guests).guests, g = .polling :=
    fun g hg => (List.mem_replicate.1 hg).2
  constructor
  case servicing =>
    intro g hg n hn
    rw [hpolling g hg] at hn
    exact absurd hn nofun
  case held =>
    intro n block hmem
    exact absurd (hpolling _ hmem) nofun
  case outstanding =>
    simp [tokens, start, GuestPhase.isServicing, GuestPhase.request?]
  all_goals simp [start, posted]

/-! ### One token at most -/

theorem InStep.tokens_le_one {s : Threads γ} (h : s.InStep) : s.tokens ≤ 1 := by
  rw [h.outstanding]
  exact Bool.toNat_le _

/-- A token elsewhere leaves none with the guest's threads. -/
theorem InStep.not_servicing {s : Threads γ} (h : s.InStep)
    (hother : s.shared.rendezvous.awaiting = false ∨ s.shared.rendezvous.interrupt = true ∨
      0 < s.shared.rendezvous.posts) :
    ∀ g ∈ s.guests, g.isServicing = false := by
  have hcount : s.guests.countP GuestPhase.isServicing = 0 := by
    have htokens := h.outstanding
    have hle := h.tokens_le_one
    unfold tokens at htokens hle
    rcases hother with hother | hother | hother
    · rw [hother, Bool.toNat_false] at htokens
      omega
    · rw [hother, Bool.toNat_true] at hle
      omega
    · omega
  intro g hg
  exact Bool.eq_false_iff.2 (List.countP_eq_zero.1 hcount g hg)

/-- Between two exchanges there is no token. -/
theorem InStep.of_idle {s : Threads γ} (h : s.InStep) (hidle : s.audio = .idle) :
    s.shared.rendezvous.awaiting = false ∧ s.shared.rendezvous.posts = 0 ∧
      s.guests.countP GuestPhase.isServicing = 0 := by
  have hawaiting : s.shared.rendezvous.awaiting = false := by
    rw [Bool.eq_false_iff]
    exact fun ha => h.awaiting.1 ha hidle
  have htokens := h.outstanding
  rw [hawaiting, Bool.toNat_false] at htokens
  unfold tokens at htokens
  exact ⟨hawaiting, by omega, by omega⟩

/-- A thread that is servicing the interrupt has the only token. -/
theorem InStep.sole {s : Threads γ} (h : s.InStep) {i : Nat} (hi : i < s.guests.length)
    (hg : s.guests[i].isServicing = true) :
    s.shared.rendezvous.awaiting = true ∧ s.shared.rendezvous.interrupt = false ∧
      s.shared.rendezvous.posts = 0 ∧ s.guests.countP GuestPhase.isServicing = 1 := by
  have hpos : 0 < s.guests.countP GuestPhase.isServicing :=
    List.countP_pos_iff.2 ⟨s.guests[i], List.getElem_mem hi, hg⟩
  have htokens := h.outstanding
  have hle := h.tokens_le_one
  unfold tokens at htokens hle
  refine ⟨?_, ?_, by omega, by omega⟩
  · cases ha : s.shared.rendezvous.awaiting with
    | true => rfl
    | false =>
      rw [ha, Bool.toNat_false] at htokens
      omega
  · cases hf : s.shared.rendezvous.interrupt with
    | false => rfl
    | true =>
      rw [hf, Bool.toNat_true] at hle
      omega

/-- No other thread is servicing the interrupt with it. -/
theorem InStep.others_polling {s : Threads γ} (h : s.InStep) {i : Nat} (hi : i < s.guests.length)
    (hg : s.guests[i].isServicing = true) :
    ∀ g ∈ s.guests.set i .polling, g.isServicing = false := by
  have hcount : (s.guests.set i .polling).countP GuestPhase.isServicing = 0 := by
    obtain ⟨-, -, -, hone⟩ := h.sole hi hg
    rw [List.countP_set hi, hone, if_pos hg]
    rfl
  intro g hmem
  exact Bool.eq_false_iff.2 (List.countP_eq_zero.1 hcount g hmem)

/-- A thread found elsewhere in the list than at `i`. -/
theorem mem_set_polling {guests : List GuestPhase} {i : Nat} {g x : GuestPhase}
    (hx : x ∈ guests.set i g) (hne : x ≠ g) : x ∈ guests.set i .polling := by
  obtain ⟨j, hj, rfl⟩ := List.mem_iff_getElem.1 hx
  by_cases hij : i = j
  · subst hij
    rw [List.getElem_set_self] at hne
    exact absurd rfl hne
  · rw [List.length_set] at hj
    rw [List.getElem_set_ne hij]
    exact List.mem_iff_getElem.2 ⟨j, by simpa using hj, List.getElem_set_ne hij _⟩

/-! ### The audio thread -/

/-- Between two exchanges the thread raises the flag for a new request. -/
theorem InStep.stepIdle {s : Threads γ} (h : s.InStep) (hidle : s.audio = .idle) :
    s.stepAudio.InStep := by
  -- nothing is outstanding, and the raised flag becomes the token of the new request
  obtain ⟨hawaiting, hposts, hcount⟩ := h.of_idle hidle
  have hpolling := h.not_servicing (.inl hawaiting)
  have hrequests := h.requests
  have hanswered := h.answered
  rw [hawaiting, Bool.toNat_false] at hrequests
  simp only [Threads.stepAudio, hidle]
  constructor
  case outstanding => simp [tokens, Rendezvous.value_ask, hposts, hcount]
  case requests => simp [Rendezvous.value_ask, hrequests]
  case servicing =>
    intro g hg n hn
    have := hpolling g hg
    simp [GuestPhase.isServicing, hn] at this
  case answered => simpa [posted, Rendezvous.value_ask, hposts] using hanswered
  case log => simp [Rendezvous.log_ask, hawaiting, h.log]
  case awaiting => simp [Rendezvous.value_ask]
  case slot => simpa [Rendezvous.value_ask] using h.slot
  case exchange => simp
  case delivered => exact h.delivered
  case offered => exact h.offered
  case held => exact h.held

/-- The thread that waits takes the post, if there is one. -/
theorem InStep.stepWaiting {s : Threads γ} (h : s.InStep) {n : Nat}
    (hwaiting : s.audio = .waiting n) : s.stepAudio.InStep := by
  simp only [Threads.stepAudio, hwaiting]
  cases hposts : s.shared.rendezvous.posts with
  | zero =>
    rw [SharedState.collect_of_posts_eq_zero hposts]
    exact h
  | succ k =>
    -- the post is the only token, so that nothing is outstanding once it is taken
    rw [SharedState.collect_of_posts_eq_succ hposts]
    have hn : n = s.requests := h.exchange n (.inr hwaiting)
    have hawaiting : s.shared.rendezvous.awaiting = true := by
      rw [h.awaiting, hwaiting]
      exact nofun
    have htokens := h.outstanding
    have hrequests := h.requests
    rw [hawaiting, Bool.toNat_true] at htokens hrequests
    unfold tokens at htokens
    have hk : k = 0 := by omega
    have hcount : s.guests.countP GuestPhase.isServicing = 0 := by omega
    have hflag : s.shared.rendezvous.interrupt.toNat = 0 := by omega
    have hanswered := h.answered
    rw [posted, if_neg (by omega)] at hanswered
    constructor
    case outstanding => simp [tokens, hk, hcount, hflag]
    case requests => simp [hrequests]
    case delivered =>
      simp only [List.map_append, List.map_cons, List.map_nil, List.length_append,
        List.length_cons, List.length_nil]
      rw [h.delivered, List.range'_1_concat, hn, hrequests, Nat.add_comm 1]
    case answered => simpa [posted, hk, hn] using hanswered
    case awaiting => simp
    case slot => simp
    case exchange => simp
    case servicing => exact h.servicing
    case offered => exact h.offered
    case held => exact h.held
    case log => exact h.log

theorem InStep.stepAudio {s : Threads γ} (h : s.InStep) : s.stepAudio.InStep := by
  cases hphase : s.audio with
  | idle => exact h.stepIdle hphase
  | asked n =>
    simp only [Threads.stepAudio, hphase]
    exact { h with
      awaiting := by simpa [hphase] using h.awaiting
      exchange := by simpa [hphase] using h.exchange }
  | waiting n => exact h.stepWaiting hphase

/-! ### The guest's threads -/

/-- A query gives what the record of offers says. -/
theorem query_eq_offer (shared : SharedState) (nextBlock : γ → Option GuestBlock × γ) (mixers : γ)
    (passes : Bool) :
    (if passes then shared.query nextBlock mixers else (none, mixers)).1 =
      if passes ∧ shared.status.mixer ≠ 0 then (nextBlock mixers).1 else none := by
  cases passes with
  | false => simp
  | true => by_cases hm : shared.status.mixer = 0 <;> simp [SharedState.query, hm]

/-- Whatever one thread goes on to, the threads service the current request, if it does. -/
theorem InStep.servicing_set {s : Threads γ} (h : s.InStep) {i : Nat} {next : GuestPhase}
    (hnext : ∀ n, next.request? = some n → n = s.requests) :
    ∀ g ∈ s.guests.set i next, ∀ n, g.request? = some n → n = s.requests := by
  intro g hmem n hn
  rcases List.mem_or_eq_of_mem_set hmem with hmem | rfl
  · exact h.servicing g hmem n hn
  · exact hnext n hn

/-- A thread that polls takes the flag, if it is raised. -/
theorem InStep.stepPolling {s : Threads γ} (h : s.InStep)
    (mixer : Nat → γ → Option GuestBlock × γ) {i : Nat} (passes : Bool)
    (hi : s.guests[i]? = some .polling) :
    ∃ t, s.stepGuest mixer i passes = .ok t ∧ t.InStep := by
  obtain ⟨hlt, hg⟩ := List.getElem?_eq_some_iff.1 hi
  cases hflag : s.shared.rendezvous.interrupt with
  | false =>
    simp only [Threads.stepGuest, hi, SharedState.takeInterrupt, Rendezvous.takeInterrupt, hflag]
    refine ⟨_, rfl, { h with outstanding := ?_ }⟩
    simpa [tokens, hflag] using h.outstanding
  | true =>
    -- the token passes from the flag to the thread
    simp only [Threads.stepGuest, hi, SharedState.takeInterrupt, Rendezvous.takeInterrupt, hflag]
    have hpolling := h.not_servicing (.inr (.inl hflag))
    have hqueried : ∀ n block, .queried n block ∉ s.guests.set i (.taken s.requests) := by
      intro n block hmem
      rcases List.mem_or_eq_of_mem_set hmem with hmem | heq
      · cases hpolling _ hmem
      · cases heq
    refine ⟨_, rfl, ?_⟩
    constructor
    case outstanding =>
      have htokens := h.outstanding
      simp only [tokens, hflag, Bool.toNat_true, Bool.toNat_false] at htokens ⊢
      rw [List.countP_set hlt, hg, ← htokens]
      simp [GuestPhase.isServicing, GuestPhase.request?]
      omega
    case servicing => exact h.servicing_set fun n hn => (Option.some.inj hn).symm
    case offered =>
      refine fun _ => h.offered fun n block hmem => ?_
      cases hpolling _ hmem
    case held => exact fun n block hmem => absurd hmem (hqueried n block)
    case answered => exact h.answered
    case awaiting => exact h.awaiting
    case slot => exact h.slot
    case requests => exact h.requests
    case exchange => exact h.exchange
    case delivered => exact h.delivered
    case log => exact h.log

/-- A thread that has taken the flag asks its mixer, and holds what the mixer offers. -/
theorem InStep.stepTaken {s : Threads γ} (h : s.InStep)
    (mixer : Nat → γ → Option GuestBlock × γ) {i n : Nat} (passes : Bool)
    (hi : s.guests[i]? = some (.taken n)) :
    ∃ t, s.stepGuest mixer i passes = .ok t ∧ t.InStep := by
  obtain ⟨hlt, hg⟩ := List.getElem?_eq_some_iff.1 hi
  have hservicing : s.guests[i].isServicing = true := by rw [hg]; rfl
  have hothers := h.others_polling hlt hservicing
  obtain ⟨-, -, hposts, hone⟩ := h.sole hlt hservicing
  have hoffer := query_eq_offer s.shared (mixer i) s.mixers passes
  simp only [Threads.stepGuest, hi]
  cases hq : if passes then s.shared.query (mixer i) s.mixers else (none, s.mixers) with
  | mk block mixers =>
    rw [hq] at hoffer
    -- no other thread holds a block, so all that was offered before is answered
    have hoffered : s.offers = s.answers.map Prod.snd := by
      refine h.offered fun m b hmem => ?_
      have hset : GuestPhase.queried m b ∈ s.guests.set i (.taken n) := by
        rwa [← hg, List.set_getElem_self]
      exact absurd (hothers _ (mem_set_polling hset nofun)) nofun
    have hunique : ∀ m b, .queried m b ∈ s.guests.set i (.queried n block) → b = block := by
      intro m b hmem
      by_cases heq : GuestPhase.queried m b = .queried n block
      · exact (GuestPhase.queried.inj heq).2
      · exact absurd (hothers _ (mem_set_polling hmem heq)) nofun
    refine ⟨_, rfl, ?_⟩
    constructor
    case outstanding =>
      have htokens := h.outstanding
      simp only [tokens] at htokens ⊢
      rw [List.countP_set hlt, if_pos hservicing, hone, ← htokens, hone]
      rfl
    case servicing =>
      refine h.servicing_set fun m hm => ?_
      rw [← Option.some.inj hm]
      exact h.servicing _ (List.mem_of_getElem? hi) n rfl
    case offered =>
      intro hnone
      exact absurd (List.mem_set hlt _) (hnone n block)
    case held =>
      intro m b hmem
      rw [hunique m b hmem, hoffered, ← hoffer]
    case answered => exact h.answered
    case awaiting => exact h.awaiting
    case slot => exact h.slot
    case requests => exact h.requests
    case exchange => exact h.exchange
    case delivered => exact h.delivered
    case log => exact h.log

/-- A thread that holds what the mixer offers posts it. -/
theorem InStep.stepQueried {s : Threads γ} (h : s.InStep)
    (mixer : Nat → γ → Option GuestBlock × γ) {i n : Nat} (passes : Bool)
    {block : Option GuestBlock} (hi : s.guests[i]? = some (.queried n block)) :
    ∃ t, s.stepGuest mixer i passes = .ok t ∧ t.InStep := by
  obtain ⟨hlt, hg⟩ := List.getElem?_eq_some_iff.1 hi
  have hservicing : s.guests[i].isServicing = true := by rw [hg]; rfl
  have hothers := h.others_polling hlt hservicing
  obtain ⟨hawaiting, hflag, hposts, hone⟩ := h.sole hlt hservicing
  have hn : n = s.requests := h.servicing _ (List.mem_of_getElem? hi) n rfl
  have hanswered := h.answered
  rw [posted, if_pos hposts, List.append_nil] at hanswered
  -- one post is far from the end of its word
  have hfits : s.shared.rendezvous.posts + 1 < 1 <<< 32 := by
    rw [hposts]
    decide
  simp only [Threads.stepGuest, hi]
  rw [SharedState.answer_of_lt hfits]
  refine ⟨_, rfl, ?_⟩
  constructor
  case outstanding =>
    simp only [tokens, hflag, hposts, hawaiting]
    rw [List.countP_set hlt, if_pos hservicing, hone]
    rfl
  case slot => simp
  case servicing => exact h.servicing_set nofun
  case answered => simp [posted, hanswered, hn]
  case offered =>
    intro _
    rw [h.held n block (List.mem_of_getElem? hi), List.map_append]
    rfl
  case held =>
    intro m b hmem
    exact absurd (hothers _ hmem) nofun
  case awaiting => exact h.awaiting
  case requests => exact h.requests
  case exchange => exact h.exchange
  case delivered => exact h.delivered
  case log => exact h.log

theorem InStep.stepGuest {s : Threads γ} (h : s.InStep)
    (mixer : Nat → γ → Option GuestBlock × γ) (i : Nat) (passes : Bool) :
    ∃ t, s.stepGuest mixer i passes = .ok t ∧ t.InStep := by
  cases hi : s.guests[i]? with
  | none =>
    simp only [Threads.stepGuest, hi]
    exact ⟨s, rfl, h⟩
  | some phase =>
    cases phase with
    | polling => exact h.stepPolling mixer passes hi
    | taken n => exact h.stepTaken mixer passes hi
    | queried n block => exact h.stepQueried mixer passes hi

/-! ## Every interleaving -/

theorem InStep.step {s : Threads γ} (h : s.InStep) (mixer : Nat → γ → Option GuestBlock × γ)
    (turn : Turn) : ∃ t, s.step mixer turn = .ok t ∧ t.InStep := by
  cases turn with
  | audio => exact ⟨_, rfl, h.stepAudio⟩
  | guest i passes => exact h.stepGuest mixer i passes
  | status status => exact ⟨_, rfl, { h with }⟩

theorem InStep.run {s : Threads γ} (h : s.InStep) (mixer : Nat → γ → Option GuestBlock × γ)
    (turns : List Turn) : ∃ t, Threads.run mixer turns s = .ok t ∧ t.InStep := by
  induction turns generalizing s with
  | nil => exact ⟨s, rfl, h⟩
  | cons turn rest ih =>
    obtain ⟨t, ht, hstep⟩ := h.step mixer turn
    obtain ⟨u, hu, hrun⟩ := ih hstep
    refine ⟨u, ?_, hrun⟩
    rw [Threads.run, List.foldlM_cons, ht]
    exact hu

theorem InStep.offers_eq {s : Threads γ} (h : s.InStep) :
    s.offers = s.answers.map Prod.snd ∨ ∃ block, s.offers = s.answers.map Prod.snd ++ [block] := by
  by_cases hheld : ∃ n block, .queried n block ∈ s.guests
  · obtain ⟨n, block, hmem⟩ := hheld
    exact .inr ⟨block, h.held n block hmem⟩
  · exact .inl (h.offered fun n block hmem => hheld ⟨n, block, hmem⟩)

/-- The answers are numbered like the requests. -/
theorem InStep.map_fst_answers {s : Threads γ} (h : s.InStep) :
    s.answers.map Prod.fst = List.range' 1 s.answers.length := by
  rw [h.answered, List.map_append, h.delivered, List.length_append]
  unfold posted
  split
  · simp
  · next hposts =>
    have hrequests := h.requests
    have htokens := h.outstanding
    have hle := Bool.toNat_le s.shared.rendezvous.awaiting
    unfold tokens at htokens
    have hlast : s.requests = 1 + s.results.length := by omega
    rw [List.length_singleton, List.range'_1_concat, List.map_singleton, hlast]

/-! ## An exchange without waiting -/

/-- The turns of an exchange with a prompt guest, whose thread is the one at `i`. -/
def promptly (i : Nat) : List Turn :=
  [.audio, .audio, .guest i true, .guest i true, .guest i true, .audio]

/-- Between two exchanges, these turns complete one more, with the same result as an exchange made
    in one go. -/
theorem InStep.run_promptly {s : Threads γ} (h : s.InStep) (mixer : Nat → γ → Option GuestBlock × γ)
    {i : Nat} (hidle : s.audio = .idle) (hpolling : s.guests[i]? = some .polling) :
    ∃ t block, Threads.run mixer (promptly i) s = .ok t ∧
      s.shared.obtain (.prompt (mixer i)) s.mixers = .ok ⟨(block, t.mixers, t.shared), t.log⟩ ∧
      t.guests = s.guests ∧ t.audio = .idle ∧
      t.results = s.results ++ [(s.requests + 1, block)] := by
  obtain ⟨hawaiting, hposts, -⟩ := h.of_idle hidle
  obtain ⟨hlt, hg⟩ := List.getElem?_eq_some_iff.1 hpolling
  have hback : s.guests.set i .polling = s.guests := by rw [← hg, List.set_getElem_self]
  have hat : ∀ g, (s.guests.set i g)[i]? = some g := fun g => List.getElem?_set_self hlt
  refine ⟨{ s with
    shared := { s.shared with rendezvous := .idle }
    mixers := (s.shared.query (mixer i) s.mixers).2
    audio := .idle
    requests := s.requests + 1
    offers := s.offers ++ [if s.shared.status.mixer = 0 then none else (mixer i s.mixers).1]
    answers := s.answers ++ [(s.requests + 1, (s.shared.query (mixer i) s.mixers).1)]
    results := s.results ++ [(s.requests + 1, (s.shared.query (mixer i) s.mixers).1)] },
    (s.shared.query (mixer i) s.mixers).1, ?_, ?_, rfl, rfl, rfl⟩
  · -- ask and raise, take the interrupt, query, answer, collect: each step finds its thread where
    -- the one before has left it
    simp [promptly, Threads.run, Threads.step, Threads.stepAudio, Threads.stepGuest, hidle,
      hpolling, hposts, hat, hback, hawaiting, Rendezvous.value_ask, Rendezvous.log_ask,
      SharedState.takeInterrupt, Rendezvous.takeInterrupt, SharedState.query, SharedState.answer,
      Rendezvous.answer_of_lt, SharedState.collect, Rendezvous.collect?, Rendezvous.idle]
  · rw [SharedState.obtain_prompt (mixer i) s.mixers hposts, Rendezvous.log_ask, hawaiting, h.log]
    rfl

/-! ## All exchanges -/

/-- **Each answer is delivered once, in order, and to the exchange that asked for it.** In every
    interleaving no step faults, and an awaited request has exactly one token. The `n`-th answer is
    for the `n`-th request and is what the guest had to offer to it, and the results are the answers
    without the one that is still in the slot. Between two exchanges the next one can be completed
    with any thread of the guest that polls. -/
theorem run_delivers (mixer : Nat → γ → Option GuestBlock × γ) (status : Status) (mixers : γ)
    (guests : Nat) (turns : List Turn) :
    ∃ s, run mixer turns (start status mixers guests) = .ok s ∧
      s.shared.rendezvous.posts ≤ 1 ∧
      (s.shared.rendezvous.slot ≠ none → s.shared.rendezvous.posts = 1) ∧
      s.shared.rendezvous.interrupt.toNat + s.guests.countP GuestPhase.isServicing +
          s.shared.rendezvous.posts =
        (if s.shared.rendezvous.awaiting then 1 else 0) ∧
      s.answers = s.results ++
        (if s.shared.rendezvous.posts = 1 then [(s.requests, s.shared.rendezvous.slot)] else []) ∧
      s.answers.map Prod.fst = List.range' 1 s.answers.length ∧
      s.answers.map Prod.snd <+: s.offers ∧
      s.offers.length ≤ s.answers.length + 1 ∧
      ∀ i, s.audio = .idle → s.guests[i]? = some .polling →
        ∃ t block, run mixer (promptly i) s = .ok t ∧
          s.shared.obtain (.prompt (mixer i)) s.mixers = .ok ⟨(block, t.mixers, t.shared), t.log⟩ ∧
          t.guests = s.guests ∧ t.audio = .idle ∧
          t.results = s.results ++ [(s.requests + 1, block)] := by
  obtain ⟨s, hrun, h⟩ := (inStep_start status mixers guests).run mixer turns
  have hle : s.shared.rendezvous.posts ≤ 1 := by
    have := h.tokens_le_one
    unfold tokens at this
    omega
  have hone : s.shared.rendezvous.posts = 1 ↔ s.shared.rendezvous.posts ≠ 0 := by omega
  refine ⟨s, hrun, hle, ?_, ?_, ?_, h.map_fst_answers, ?_, ?_,
    fun i hidle hpolling => h.run_promptly mixer hidle hpolling⟩
  · intro hslot
    rw [hone]
    exact fun hzero => hslot (h.slot hzero)
  · have htokens := h.outstanding
    cases hawaiting : s.shared.rendezvous.awaiting <;> simpa [tokens, hawaiting] using htokens
  · rw [h.answered, posted]
    simp only [hone, ite_not]
  · rcases h.offers_eq with heq | ⟨block, heq⟩
    · exact ⟨[], by rw [heq, List.append_nil]⟩
    · exact ⟨[_], heq.symm⟩
  · rcases h.offers_eq with heq | ⟨block, heq⟩ <;> simp [heq]

/-- Three exchanges with two threads of the guest. In the first one a thread looks too early and
    then too late, and the audio thread finds no post at first; in the second one that thread is
    there before the interrupt is raised, and passes no mixer. The third one brings what the mixer
    has next. -/
theorem run_delivers_three_exchanges :
    let first : GuestBlock := ⟨1, 8, 1, [7]⟩
    let second : GuestBlock := ⟨1, 8, 1, [8]⟩
    let mixer : Nat → List GuestBlock → Option GuestBlock × List GuestBlock :=
      fun _ blocks => (blocks.head?, blocks.tail)
    let turns : List Turn :=
      [.guest 0 true, .audio, .audio, .guest 1 true, .guest 0 true, .audio, .guest 1 true,
        .guest 1 true, .audio, .audio, .guest 0 true, .guest 0 false, .audio, .guest 0 true, .audio]
    ∃ s t, run mixer turns (start { mixer := 1 } [first, second] 2) = .ok s ∧
      s.results = [(1, some first), (2, none)] ∧ s.answers = s.results ∧
      run mixer (promptly 0) s = .ok t ∧
      t.results = [(1, some first), (2, none), (3, some second)] := by
  intro first second mixer turns
  obtain ⟨s, hrun, -, -, -, hanswers, -, -, -, hnext⟩ :=
    run_delivers mixer { mixer := 1 } [first, second] 2 turns
  have hvalue : s.results = [(1, some first), (2, none)] ∧ s.requests = 2 ∧ s.audio = .idle ∧
      s.guests = [.polling, .polling] ∧ s.mixers = [second] ∧
      s.shared = { status := { mixer := 1 } } := by
    cases hrun
    exact ⟨rfl, rfl, rfl, rfl, rfl, rfl⟩
  obtain ⟨hresults, hrequests, hidle, hguests, hmixers, hshared⟩ := hvalue
  obtain ⟨t, block, hprompt, hobtain, -, -, hthird⟩ := hnext 0 hidle (by rw [hguests]; rfl)
  have hblock : block = some second := by
    rw [hmixers, hshared] at hobtain
    have hanswer := congrArg (fun obtained => obtained.toOption.map (·.value.1)) hobtain
    exact (Option.some.inj hanswer).symm
  refine ⟨s, t, hrun, hresults, ?_, hprompt, ?_⟩
  · rw [hanswers, hshared]
    exact List.append_nil _
  · rw [hthird, hresults, hrequests, hblock]
    rfl

end Threads

end GuestAudio
