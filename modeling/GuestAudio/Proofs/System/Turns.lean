import GuestAudio.Proofs.Guest.History
import GuestAudio.Proofs.System.LiveStreams

set_option autoImplicit false

/-! # Requests in turn

The audio thread asks for a block only in an exchange, at the end of which it has collected an
answer. So nothing is outstanding between two callbacks, whatever the guest does and however often
the device is opened anew, and no request of a callback finds another one outstanding
(`log_of_courseOnCard`). That callbacks are not made at the same time is because one stream at most
is alive (`ownsLive_courseOnCard`). -/

namespace GuestAudio

variable {γ : Type} {handler : InterruptHandler γ}

/-! ## An exchange -/

namespace SharedState

variable {guest guest' : γ} {s s' : SharedState}

/-- Once an answer is collected, nothing is outstanding, whatever the guest did. -/
theorem awaiting_of_collect {answer : Option GuestBlock} (h : s.collect = .ok (answer, s')) :
    s'.rendezvous.awaiting = false := by
  cases hposts : s.rendezvous.posts with
  | zero =>
    rw [collect_of_posts_eq_zero hposts] at h
    cases h
  | succ n =>
    rw [collect_of_posts_eq_succ hposts] at h
    cases h
    rfl

theorem quiet_of_obtain {answer : Option GuestBlock} {log : Log}
    (hs : s.rendezvous.awaiting = false)
    (h : s.obtain handler guest = .ok ⟨(answer, guest', s'), log⟩) :
    log = [] ∧ s'.rendezvous.awaiting = false := by
  obtain ⟨⟨ran, s₁⟩, -, h⟩ := bind_eq_ok_iff.1 h
  obtain ⟨⟨answer, s₂⟩, hcollect, h⟩ := bind_eq_ok_iff.1 h
  cases h
  refine ⟨?_, awaiting_of_collect hcollect⟩
  show s.rendezvous.ask.log = []
  rw [Rendezvous.log_ask, hs]
  rfl

theorem quiet_of_attend {answer? : Option (Option GuestBlock)} {log : Log}
    (hs : s.rendezvous.awaiting = false)
    (h : s.attend handler guest = .ok ⟨(answer?, guest', s'), log⟩) :
    log = [] ∧ s'.rendezvous.awaiting = false := by
  cases hsource : s.status.hasSource with
  | false =>
    rw [attend_of_idle hsource] at h
    cases h
    exact ⟨rfl, hs⟩
  | true =>
    rw [attend, if_pos hsource] at h
    obtain ⟨⟨⟨answer, guest', s'⟩, log⟩, hobtain, h⟩ := bind_eq_ok_iff.1 h
    cases h
    exact quiet_of_obtain hs hobtain

theorem quiet_of_attendEach {n : Nat} {answers : List (Option (Option GuestBlock))} {log : Log}
    (hs : s.rendezvous.awaiting = false)
    (h : s.attendEach handler n guest = .ok ⟨(answers, guest', s'), log⟩) :
    log = [] ∧ s'.rendezvous.awaiting = false := by
  induction n generalizing guest s answers log with
  | zero =>
    cases h
    exact ⟨rfl, hs⟩
  | succ n ih =>
    obtain ⟨⟨⟨answer?, guest₁, s₁⟩, log₁⟩, hattend, h⟩ := bind_eq_ok_iff.1 h
    obtain ⟨⟨⟨answers, guest₂, s₂⟩, log₂⟩, heach, h⟩ := bind_eq_ok_iff.1 h
    cases h
    obtain ⟨hlog₁, hs₁⟩ := quiet_of_attend hs hattend
    obtain ⟨hlog₂, hs₂⟩ := ih hs₁ heach
    exact ⟨by rw [hlog₁, hlog₂]; rfl, hs₂⟩

end SharedState

/-! ## All events -/

/-- The step is one of the audio thread's. -/
def SharedStep.isAudio : SharedStep γ → Bool
  | ask | collect => true
  | _ => false

/-- The event is a step of the audio thread that is not part of a callback. -/
def SoundcardEvent.isLoose : SoundcardEvent γ → Bool
  | system (.shared step) => step.isAudio
  | _ => false

theorem SharedStep.awaiting_apply {step : SharedStep γ} {guest guest' : γ} {s s' : SharedState}
    (hstep : step.isAudio = false) (h : step.apply guest s = .ok (guest', s')) :
    s'.rendezvous.awaiting = s.rendezvous.awaiting := by
  have hanswer : ∀ (block : Option GuestBlock) (s' : SharedState), s.answer block = .ok s' →
      s'.rendezvous.awaiting = s.rendezvous.awaiting := by
    intro block s' h
    obtain ⟨rendezvous, hrendezvous, h⟩ := bind_eq_ok_iff.1 h
    cases h
    obtain ⟨posts, -, hrendezvous⟩ := bind_eq_ok_iff.1 hrendezvous
    cases hrendezvous
    rfl
  cases step with
  | ask | collect => cases hstep
  | takeInterrupt | attachMixer | removeSource =>
    cases h
    rfl
  | service nextBlock? =>
    cases nextBlock? with
    | none | some =>
      obtain ⟨answered, hservice, h⟩ := bind_eq_ok_iff.1 h
      cases h
      exact hanswer _ _ hservice
  | answer block =>
    obtain ⟨answered, hservice, h⟩ := bind_eq_ok_iff.1 h
    cases h
    exact hanswer _ _ hservice
  | addSource =>
    obtain ⟨⟨count, added⟩, hadd, h⟩ := bind_eq_ok_iff.1 h
    cases h
    obtain ⟨status, -, hadd⟩ := bind_eq_ok_iff.1 hadd
    cases hadd
    rfl

/-- Nothing is outstanding, on the rendezvous in use and on the one that was given up. -/
def Deployment.Settled {η σ : Type} (d : Deployment η σ γ) : Prop :=
  ∀ rendezvous, (d.system.rendezvous? <|> d.retired?) = some rendezvous →
    rendezvous.awaiting = false

namespace Deployment

variable {η σ : Type} {H : OutputHost η σ} {d e : Deployment η σ γ}

theorem Settled.withShared {guest : γ} {shared : SharedState}
    (h : shared.rendezvous.awaiting = false) : (d.withShared guest shared).Settled := by
  unfold Deployment.withShared
  cases hon : d.system.isOn with
  | true =>
    rintro _ ⟨⟩
    exact h
  | false =>
    have hoff : d.system.rendezvous? = none := by simpa [SoundSystem.isOn] using hon
    intro rendezvous hrendezvous
    simp only [Bool.false_eq_true, if_false, hoff] at hrendezvous
    cases hrendezvous
    exact h

theorem Settled.step {event : SystemEvent γ} (h : d.Settled) (hproper : d.system.Proper)
    (hevent : (SoundcardEvent.system event).isLoose = false)
    (hstep : Deployment.step H d event = .ok e) : e.Settled := by
  cases event with
  | change change =>
    obtain ⟨⟨⟨result, system⟩, log⟩, hchange, hstep⟩ := bind_eq_ok_iff.1 hstep
    cases hstep
    rcases hproper.changeFormat_cases (H := H) change with
      ⟨cause, log', hrefused⟩ | ⟨p, log', -, -, -, hopened⟩
    · rw [hrefused] at hchange
      cases hchange
      exact h
    · rw [hopened] at hchange
      have hsystem : system = ((d.system.disconnect H).openedFor H (p.apply change)).2 := by
        cases hchange
        rfl
      unfold Settled at h ⊢
      rwa [hsystem, SoundSystem.rendezvous?_openedFor, SoundSystem.rendezvous?_disconnect]
  | volume =>
    cases hstep
    exact h
  | stop =>
    cases hstep
    exact h
  | shared step =>
    unfold Deployment.step at hstep
    cases hshared : d.shared? with
    | none =>
      simp only [hshared] at hstep
      cases hstep
      exact h
    | some shared =>
      simp only [hshared] at hstep
      obtain ⟨⟨guest, shared'⟩, happly, hstep⟩ := bind_eq_ok_iff.1 hstep
      cases hstep
      obtain ⟨rendezvous, hrendezvous, rfl⟩ := Option.map_eq_some_iff.1 hshared
      refine Settled.withShared ?_
      rw [step.awaiting_apply hevent happly]
      exact h rendezvous hrendezvous

end Deployment

theorem CardDeployment.settled_step {d e : CardDeployment γ} {event : SoundcardEvent γ} {log : Log}
    (h : d.Settled) (hplayable : d.system.Playable) (hevent : event.isLoose = false)
    (hstep : d.step handler event = .ok ⟨e, log⟩) : log = [] ∧ e.Settled := by
  cases event with
  | system event =>
    obtain ⟨next, hnext, hstep⟩ := bind_eq_ok_iff.1 hstep
    cases hstep
    exact ⟨rfl, h.step hplayable.proper hevent (liftM_eq_ok_iff.1 hnext)⟩
  | callback buffer =>
    rcases callback_cases hplayable hstep with
      ⟨rfl, rfl⟩ |
      ⟨session, shared, answers, guest, shared', stream, -, hshared, hattend, -, -, rfl⟩
    · exact ⟨rfl, h⟩
    · obtain ⟨rendezvous, hrendezvous, rfl⟩ := Option.map_eq_some_iff.1 hshared
      have hsettled : rendezvous.awaiting = false := h rendezvous (by rw [hrendezvous]; rfl)
      obtain ⟨hlog, hquiet⟩ := SharedState.quiet_of_attendEach hsettled hattend
      refine ⟨hlog, ?_⟩
      rintro _ ⟨⟩
      exact hquiet
  | plug device? =>
    cases hstep
    exact ⟨rfl, h⟩

/-- In a course whose requests are all made by callbacks, nothing is outstanding after any event,
    and no callback logs anything. -/
theorem log_of_courseOnCard {card : Soundcard} {settings : Settings} {guest : γ}
    {events : List (SoundcardEvent γ)} (hevents : ∀ event ∈ events, event.isLoose = false)
    {d : CardDeployment γ} {log : Log}
    (hd : courseOnCard handler card settings guest events = .ok (.ok ⟨d, log⟩)) :
    log = [] ∧ d.Settled := by
  refine (courseOnCard_induction (P := fun x => x.log = [] ∧ x.value.Settled) ?_ ?_ hd).2
  · intro s log' hstart
    refine ⟨rfl, ?_⟩
    rcases (SoundSystem.start_cases hstart).2 with ⟨-, rfl⟩ | ⟨-, rfl⟩
    · rintro _ ⟨⟩
    · intro rendezvous hrendezvous
      rw [SoundSystem.rendezvous?_openedFor] at hrendezvous
      cases hrendezvous
      rfl
  · rintro earlier d e event log' hmem hplayable ⟨hearlier, hsettled⟩ hstep
    obtain ⟨rfl, hnext⟩ := CardDeployment.settled_step hsettled hplayable (hevents event hmem) hstep
    rw [List.append_nil]
    exact ⟨hearlier, hnext⟩

/-- **The history says it all.** After calls in any order, as long as only posted answers are
    collected and the posts can be counted, the posts, the slot, the flags and every reply are what
    the history of the calls says, and no block is handed over twice; and if the audio side asks
    only after it has collected, no request finds another one outstanding. So none does in a course
    whose requests are all made by callbacks, with any guest and on any sound card; and on a card
    without other streams, callbacks come from that of the open session alone. -/
theorem rendezvous_history :
    (∀ calls, Rendezvous.Admissible calls →
      ∃ t, Rendezvous.transcript calls = .ok t ∧ t.Reflects calls ∧
        (Rendezvous.inTurn false calls = true → t.log = [])) ∧
    ∀ {γ : Type} (handler : InterruptHandler γ) (card : Soundcard) (settings : Settings) (guest : γ)
      (events : List (SoundcardEvent γ)) (d : CardDeployment γ) (log : Log),
      (∀ event ∈ events, event.isLoose = false) →
      courseOnCard handler card settings guest events = .ok (.ok ⟨d, log⟩) →
        log = [] ∧ d.Settled ∧ (card.live = [] → d.system.OwnsLive) := by
  refine ⟨fun calls hcalls => ?_, fun handler card settings guest events d log hevents hd => ?_⟩
  · obtain ⟨t, ht, hreflects⟩ := Rendezvous.exists_transcript hcalls
    refine ⟨t, ht, hreflects, fun hturn => ?_⟩
    unfold Rendezvous.transcript at ht
    exact Rendezvous.log_eq_nil_of_inTurn hturn rfl ht
  · obtain ⟨hlog, hsettled⟩ := log_of_courseOnCard hevents hd
    exact ⟨hlog, hsettled, fun hcard => ownsLive_courseOnCard hcard hd⟩

/-- An answer that nobody asked for is replaced before it is collected, and the second post brings
    nothing. And a guest that answers every interrupt twice is called back before and after the
    device is opened anew, which leaves one stream alive. -/
theorem rendezvous_history_overwritten :
    let stray : GuestBlock := ⟨1, 8, 1, [1]⟩
    let late : GuestBlock := ⟨1, 8, 1, [2]⟩
    let calls : List Rendezvous.Call :=
      [.answer (some stray), .ask, .answer (some late), .collect, .collect, .takeInterrupt]
    let card : Soundcard := { device? := some {
      name? := none
      ranges := .ok []
      defaultSetup := .ok ⟨1, 8000, .range 1 1, .u8⟩ } }
    let guest : QueuedGuest := { reaction := .twice }
    let events : List (SoundcardEvent QueuedGuest) :=
      [.system (.shared .addSource), .callback fun t => List.replicate 3 t.atRest,
        .system (.change (.rate 0)), .callback fun t => List.replicate 2 t.atRest]
    (Rendezvous.Admissible calls ∧
      ∃ t, Rendezvous.transcript calls = .ok t ∧
        t.replies = [.done, .done, .done, .collected (some late), .collected none, .raised true] ∧
        t.rendezvous.posts + 2 = 2) ∧
    (∀ event ∈ events, event.isLoose = false) ∧
      ∃ d log, courseOnCard QueuedGuest.handler card {} guest events = .ok (.ok ⟨d, log⟩) ∧
        d.guest.interrupts = 5 ∧ log = [] ∧ d.Settled ∧
        d.system.host.live = [⟨8000, 1, .fixed 1, .u8⟩] := by
  intro stray late calls card guest events
  have hcalls : Rendezvous.Admissible calls := by decide
  have hevents : ∀ event ∈ events, event.isLoose = false := by
    simp [events, SoundcardEvent.isLoose, SharedStep.isAudio]
  obtain ⟨t, ht, hreflects, -⟩ := rendezvous_history.1 calls hcalls
  have hcourse : ∃ d log, courseOnCard QueuedGuest.handler card {} guest events =
      .ok (.ok ⟨d, log⟩) ∧ d.guest.interrupts = 5 ∧
        d.system.session?.map (·.stream.setup) = some ⟨8000, 1, .fixed 1, .u8⟩ := by
    have hrun : ((courseOnCard QueuedGuest.handler card {} guest events).toOption.bind
        Except.toOption).map (fun x => (x.value.guest.interrupts,
          x.value.system.session?.map (·.stream.setup))) =
            some (5, some ⟨8000, 1, .fixed 1, .u8⟩) := by decide +kernel
    cases hx : courseOnCard QueuedGuest.handler card {} guest events with
    | error halt =>
      rw [hx] at hrun
      cases hrun
    | ok started =>
      cases started with
      | error cause =>
        rw [hx] at hrun
        cases hrun
      | ok x =>
        rw [hx] at hrun
        exact ⟨x.value, x.log, rfl, Prod.mk.inj (Option.some.inj hrun)⟩
  obtain ⟨d, log, hd, hinterrupts, hsetup⟩ := hcourse
  obtain ⟨hlog, hsettled, hlive⟩ := rendezvous_history.2 _ _ _ _ _ d log hevents hd
  refine ⟨⟨hcalls, t, ht, ?_, hreflects.posts⟩, hevents, d, log, hd, hinterrupts, hlog, hsettled,
    ?_⟩
  · cases ht
    rfl
  · obtain ⟨session, hsession, hstream⟩ := Option.map_eq_some_iff.1 hsetup
    rw [show d.system.host.live = _ from hlive rfl, hsession, ← hstream]
    rfl

end GuestAudio
