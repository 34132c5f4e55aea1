import GuestAudio.Proofs.System.Soundcard

set_option autoImplicit false

/-! # Live streams

A stream that was built is alive until it is dropped. On a card without other streams the one that
is alive is that of the open session, after every event, and without a session none is
(`ownsLive_courseOnCard`). So callbacks come from one stream at a time. -/

namespace GuestAudio

/-- The streams that are alive: that of the open session, or none. -/
def SoundSystem.OwnsLive (s : SoundSystem Soundcard OutputStream) : Prop :=
  s.host.live = s.session?.toList.map (·.stream.setup)

namespace SoundSystem.OwnsLive

variable {s t : SoundSystem Soundcard OutputStream}

theorem aside (h : s.OwnsLive) (haside : s.Aside t) : t.OwnsLive := by
  rwa [OwnsLive, haside.host, haside.session?]

theorem disconnect (h : s.OwnsLive) : (s.disconnect Soundcard.host).OwnsLive := by
  unfold OwnsLive at h
  unfold SoundSystem.disconnect
  cases hsession : s.session? with
  | none =>
    rw [hsession] at h
    simpa only [OwnsLive, hsession] using h
  | some session =>
    rw [hsession] at h
    exact congrArg Soundcard.live (Soundcard.drop_of_live h)

theorem stop (h : s.OwnsLive) : (s.stop Soundcard.host).OwnsLive :=
  h.disconnect

theorem openedFor (h : s.OwnsLive) (hclosed : s.session? = none) (p : Pick) :
    (s.openedFor Soundcard.host p).2.OwnsLive := by
  have hlive := Soundcard.live_acquire s.host (p.request s.blockFrames)
  rw [OwnsLive, hclosed] at h
  rw [h] at hlive
  dsimp only [SoundSystem.openedFor, Soundcard.host]
  cases hanswer : (s.host.acquire (p.request s.blockFrames)).1.value with
  | error cause =>
    rw [hanswer] at hlive
    dsimp only [OwnsLive, keep]
    rw [hclosed]
    exact hlive
  | ok session =>
    rw [hanswer] at hlive
    exact hlive

end SoundSystem.OwnsLive

variable {γ : Type} {handler : InterruptHandler γ}

theorem CardDeployment.ownsLive_step {d e : CardDeployment γ} {event : SoundcardEvent γ} {log : Log}
    (h : d.system.OwnsLive) (hplayable : d.system.Playable)
    (hstep : d.step handler event = .ok ⟨e, log⟩) : e.system.OwnsLive := by
  cases event with
  | system event =>
    obtain ⟨next, hnext, hstep⟩ := bind_eq_ok_iff.1 hstep
    cases hstep
    rcases Deployment.step_cases hplayable.proper (liftM_eq_ok_iff.1 hnext) with
      haside | hstop | ⟨p, change, -, -, -, -, hopened⟩
    · exact h.aside haside
    · rw [hstop]
      exact h.stop
    · rw [hopened]
      exact h.disconnect.openedFor (SoundSystem.session?_disconnect _ _) _
  | callback buffer =>
    rcases callback_cases hplayable hstep with
      ⟨rfl, -⟩ | ⟨session, shared, answers, guest, shared', stream, hsession, -, -, -, hsetup, rfl⟩
    · exact h
    · rw [SoundSystem.OwnsLive, hsession] at h
      exact h.trans (congrArg (fun setup => [setup]) hsetup.symm)
  | plug device? =>
    cases hstep
    exact h

/-- On a card without other streams, those that are alive after any course are that of the open
    session: no stream outlives its session. -/
theorem ownsLive_courseOnCard {card : Soundcard} {settings : Settings} {guest : γ}
    {events : List (SoundcardEvent γ)} (hcard : card.live = []) {d : CardDeployment γ} {log : Log}
    (hd : courseOnCard handler card settings guest events = .ok (.ok ⟨d, log⟩)) :
    d.system.OwnsLive := by
  refine (courseOnCard_induction (P := fun x => x.value.system.OwnsLive) ?_ ?_ hd).2
  · intro s log hstart
    rcases (SoundSystem.start_cases hstart).2 with ⟨-, rfl⟩ | ⟨-, rfl⟩
    · exact hcard
    · exact SoundSystem.OwnsLive.openedFor (s := SoundSystem.ready card settings) hcard rfl _
  · intro earlier d e event log _ hplayable hlive hstep
    exact CardDeployment.ownsLive_step hlive hplayable hstep

end GuestAudio
