import GuestAudio.Proofs.System.Opening

set_option autoImplicit false

/-! # A system in use

After its start a system goes through a course of events: its user changes the format or the
volume, or stops it, and in between the guest and the audio thread take steps on what they share.
The guest works through a port, and a port that was handed out stays usable after the system is
stopped. The steps are those that are done under one lock, so that an exchange of a stream with the
guest is a run of them, in any interleaving.

To a device matter two kinds of events only: those that stop the system, and the accepted changes
that open the device anew. All others leave aside what concerns the device (`SoundSystem.Aside`),
and `Deployment.step_cases` says that there is nothing else. -/

namespace GuestAudio

/-! ## Steps on the shared state -/

/-- A step on what the guest and the audio side share, with a guest of type `γ`. -/
inductive SharedStep (γ : Type)
  /-- The audio thread asks for a block. -/
  | ask
  /-- The audio thread takes an answer, if one is posted. -/
  | collect
  | takeInterrupt
  /-- The interrupt is serviced, with a mixer or without one. -/
  | service (nextBlock? : Option (γ → Option GuestBlock × γ))
  /-- An answer is written and posted, whether or not one was asked for. -/
  | answer (block : Option GuestBlock)
  | attachMixer (address : UInt32)
  | addSource
  | removeSource

namespace SharedStep

variable {γ : Type}

/-- Take the step. -/
def apply (guest : γ) (s : SharedState) : SharedStep γ → Checked (γ × SharedState)
  | ask => return (guest, { s with rendezvous := s.rendezvous.ask.value })
  | collect =>
      match s.collect with
      | .error _ => return (guest, s)
      | .ok (_, s) => return (guest, s)
  | takeInterrupt => return (guest, s.takeInterrupt.2)
  | service none => do return (guest, ← s.serviceWithoutMixer)
  | service (some nextBlock) => s.service nextBlock guest
  | answer block => do return (guest, ← s.answer block)
  | attachMixer address => return (guest, s.attachMixer address)
  | addSource => do
      let (_, s) ← s.addSource
      return (guest, s)
  | removeSource => return (guest, s.removeSource.2)

end SharedStep

/-! ## Events -/

/-- What can happen to a system in use. What only reads of the system, the chime included, is left
    out. -/
inductive SystemEvent (γ : Type)
  | change (change : FormatChange)
  | volume (change : VolumeChange)
  /-- The system is stopped, as it also is when it is given up. -/
  | stop
  | shared (step : SharedStep γ)

/-- The event is a step on what is shared with the guest. -/
def SystemEvent.isShared {γ : Type} : SystemEvent γ → Bool
  | shared _ => true
  | _ => false

/-- A system with its guest. -/
structure Deployment (η σ γ : Type) where
  system : SoundSystem η σ
  guest : γ
  /-- The rendezvous that the system has given up. Ports handed out before still work on it. -/
  retired? : Option Rendezvous := none

namespace Deployment

variable {η σ γ : Type}

/-- What a port works on, if one was ever handed out. -/
def shared? (d : Deployment η σ γ) : Option SharedState :=
  (d.system.rendezvous? <|> d.retired?).map fun rendezvous =>
    { rendezvous, status := d.system.status }

/-- The deployment after a step of the guest or of the audio thread. -/
def withShared (d : Deployment η σ γ) (guest : γ) (shared : SharedState) : Deployment η σ γ :=
  if d.system.isOn then { d with system := d.system.withShared shared, guest }
  else
    { system := { d.system with status := shared.status }
      guest
      retired? := some shared.rendezvous }

/-- What an event leads to. Without a port there are no steps on the shared state. -/
def step (H : OutputHost η σ) (d : Deployment η σ γ) : SystemEvent γ → Checked (Deployment η σ γ)
  | .change change => do
      let ⟨(_, system), _⟩ ← d.system.changeFormat H change
      return { d with system }
  | .volume change => return { d with system := d.system.changeVolume change }
  | .stop =>
      return { d with
        system := d.system.stop H
        retired? := d.system.rendezvous? <|> d.retired? }
  | .shared step =>
      match d.shared? with
      | none => return d
      | some shared => do
          let (guest, shared) ← step.apply d.guest shared
          return d.withShared guest shared

/-- What events in a row lead to. -/
def run (H : OutputHost η σ) (events : List (SystemEvent γ)) (d : Deployment η σ γ) :
    Checked (Deployment η σ γ) :=
  events.foldlM (step H) d

end Deployment

variable {η σ γ : Type}

/-- The start of a system, and what the events after it lead to. -/
def course (H : OutputHost η σ) (host : η) (settings : Settings) (guest : γ)
    (events : List (SystemEvent γ)) : Checked (Except OutputError (Deployment η σ γ)) := do
  let ⟨started, _⟩ ← SoundSystem.start H host settings
  match started with
  | .error e => return .error e
  | .ok system => return .ok (← Deployment.run H events { system, guest })

theorem course_of_flaw {H : OutputHost η σ} {host : η} {settings : Settings} {guest : γ}
    {events : List (SystemEvent γ)} {e : OutputError} (h : settings.check = .error e) :
    course H host settings guest events = .ok (.error e) := by
  unfold course
  rw [SoundSystem.start_of_flaw h]
  rfl

theorem course_of_start {H : OutputHost η σ} {host : η} {settings : Settings}
    {s : SoundSystem η σ} {log : Log} (h : SoundSystem.start H host settings = .ok ⟨.ok s, log⟩)
    (guest : γ) (events : List (SystemEvent γ)) :
    course H host settings guest events =
      (Deployment.run H events { system := s, guest }).map Except.ok := by
  unfold course
  rw [h]
  rfl

theorem course_eq_ok_iff {H : OutputHost η σ} {host : η} {settings : Settings} {guest : γ}
    {events : List (SystemEvent γ)} {d : Deployment η σ γ} :
    course H host settings guest events = .ok (.ok d) ↔
      ∃ s log, SoundSystem.start H host settings = .ok ⟨.ok s, log⟩ ∧
        Deployment.run H events { system := s, guest } = .ok d := by
  constructor
  · intro hd
    obtain ⟨⟨started, log⟩, hstart, hd⟩ := bind_eq_ok_iff.1 hd
    cases started with
    | error e => cases hd
    | ok s =>
      obtain ⟨e, hrun, he⟩ := bind_eq_ok_iff.1 hd
      cases he
      exact ⟨s, log, hstart, hrun⟩
  · rintro ⟨s, log, hstart, hrun⟩
    rw [course_of_start hstart, hrun]
    rfl

/-! ## What an event leaves alone -/

/-- Of what concerns the device, `t` differs from `s` in nothing. -/
structure SoundSystem.Aside (s t : SoundSystem η σ) : Prop where
  host : t.host = s.host
  menu : t.menu = s.menu
  blockFrames : t.blockFrames = s.blockFrames
  session? : t.session? = s.session?
  isOn : t.isOn = s.isOn
  status : ∃ sources mixer, t.status = { s.status with sources, mixer }

theorem SoundSystem.Aside.refl (s : SoundSystem η σ) : s.Aside s :=
  ⟨rfl, rfl, rfl, rfl, rfl, s.status.sources, s.status.mixer, rfl⟩

theorem SharedState.status_answer {s s' : SharedState} {block : Option GuestBlock}
    (h : s.answer block = .ok s') : s'.status = s.status := by
  obtain ⟨rendezvous, -, h⟩ := bind_eq_ok_iff.1 h
  cases h
  rfl

/-- A step on the shared state changes at most the sources and the mixer of the status. -/
theorem SharedStep.status_apply {guest guest' : γ} {s s' : SharedState} {step : SharedStep γ}
    (h : step.apply guest s = .ok (guest', s')) :
    ∃ sources mixer, s'.status = { s.status with sources, mixer } := by
  have hkept : s'.status = s.status →
      ∃ sources mixer, s'.status = { s.status with sources, mixer } :=
    fun h => ⟨s.status.sources, s.status.mixer, h⟩
  cases step with
  | ask | takeInterrupt =>
    cases h
    exact hkept rfl
  | collect =>
    cases hposts : s.rendezvous.posts with
    | zero =>
      rw [apply, SharedState.collect_of_posts_eq_zero hposts] at h
      cases h
      exact hkept rfl
    | succ n =>
      rw [apply, SharedState.collect_of_posts_eq_succ hposts] at h
      cases h
      exact hkept rfl
  | service nextBlock? =>
    cases nextBlock? with
    | none | some =>
      obtain ⟨answered, hanswer, h⟩ := bind_eq_ok_iff.1 h
      cases h
      exact hkept (SharedState.status_answer hanswer)
  | answer block =>
    obtain ⟨answered, hanswer, h⟩ := bind_eq_ok_iff.1 h
    cases h
    exact hkept (SharedState.status_answer hanswer)
  | attachMixer address =>
    cases h
    exact ⟨s.status.sources, address, rfl⟩
  | addSource =>
    obtain ⟨⟨count, added⟩, hadd, h⟩ := bind_eq_ok_iff.1 h
    cases h
    obtain ⟨status, hstatus, hadd⟩ := bind_eq_ok_iff.1 hadd
    cases hadd
    obtain ⟨sources, -, hstatus⟩ := bind_eq_ok_iff.1 hstatus
    cases hstatus
    exact ⟨sources, s.status.mixer, rfl⟩
  | removeSource =>
    cases h
    exact ⟨s.status.sources - 1, s.status.mixer, rfl⟩

theorem Deployment.aside_withShared {d : Deployment η σ γ} {guest : γ} {shared : SharedState}
    (h : ∃ sources mixer, shared.status = { d.system.status with sources, mixer }) :
    d.system.Aside (d.withShared guest shared).system := by
  unfold withShared
  split
  · next hon => exact ⟨rfl, rfl, rfl, rfl, hon.symm, h⟩
  · exact ⟨rfl, rfl, rfl, rfl, rfl, h⟩

theorem Deployment.status_of_shared? {d : Deployment η σ γ} {shared : SharedState}
    (h : d.shared? = some shared) : shared.status = d.system.status := by
  obtain ⟨rendezvous, -, rfl⟩ := Option.map_eq_some_iff.1 h
  rfl

/-! ## Each event -/

namespace SoundSystem

/-- A system that is on has filled its menu, and one that is off has no session. -/
structure Proper (s : SoundSystem η σ) : Prop where
  picked : s.isOn = true → ∃ p : Pick, s.menu = p.menu
  connected : s.isConnected = true → s.isOn = true

/-- A change of the format is refused, with nothing changed, or the device is opened anew. -/
theorem Proper.changeFormat_cases {H : OutputHost η σ} {s : SoundSystem η σ} (h : s.Proper)
    (change : FormatChange) :
    (∃ e log, s.changeFormat H change = .ok ⟨(.error e, s), log⟩) ∨
      ∃ (p : Pick) (log : Log), s.isOn = true ∧ s.menu = p.menu ∧ change.isListed = true ∧
        s.changeFormat H change = .ok ⟨(s.disconnect H).openedFor H (p.apply change), log⟩ := by
  cases hon : s.isOn with
  | false => exact .inl ⟨_, _, changeFormat_of_off hon⟩
  | true =>
    obtain ⟨p, hmenu⟩ := h.picked hon
    cases hstray : change.stray? with
    | some entry => exact .inl ⟨_, _, changeFormat_of_stray hon hmenu hstray⟩
    | none =>
      have hlisted := FormatChange.stray?_eq_none_iff.1 hstray
      obtain ⟨log, hchange⟩ := changeFormat_of_listed (H := H) hon hmenu hlisted
      exact .inr ⟨p, log, rfl, hmenu, hlisted, hchange⟩

end SoundSystem

namespace Deployment

open SoundSystem

variable {H : OutputHost η σ} {d e : Deployment η σ γ}

theorem aside_of_shared {step : SharedStep γ}
    (hstep : Deployment.step H d (.shared step) = .ok e) : d.system.Aside e.system := by
  unfold Deployment.step at hstep
  cases hshared : d.shared? with
  | none =>
    simp only [hshared] at hstep
    cases hstep
    exact Aside.refl _
  | some shared =>
    simp only [hshared] at hstep
    obtain ⟨⟨guest, shared'⟩, happly, hstep⟩ := bind_eq_ok_iff.1 hstep
    cases hstep
    have hstatus := step.status_apply happly
    rw [status_of_shared? hshared] at hstatus
    exact aside_withShared hstatus

theorem aside_of_volume {change : VolumeChange}
    (hstep : Deployment.step H d (.volume change) = .ok e) : d.system.Aside e.system := by
  cases hstep
  exact ⟨rfl, rfl, rfl, rfl, rfl, d.system.status.sources, d.system.status.mixer, rfl⟩

/-- An event leaves the device aside, stops the system, or opens the device anew. -/
theorem step_cases (h : d.system.Proper) {event : SystemEvent γ}
    (hstep : step H d event = .ok e) :
    d.system.Aside e.system ∨ e.system = d.system.stop H ∨
      ∃ (p : Pick) (change : FormatChange), event = .change change ∧ d.system.isOn = true ∧
        d.system.menu = p.menu ∧ change.isListed = true ∧
        e.system = ((d.system.disconnect H).openedFor H (p.apply change)).2 := by
  cases event with
  | change change =>
    obtain ⟨⟨⟨result, system⟩, log⟩, hchange, hstep⟩ := bind_eq_ok_iff.1 hstep
    cases hstep
    rcases h.changeFormat_cases (H := H) change with
      ⟨cause, log', hrefused⟩ | ⟨p, log', hon, hmenu, hlisted, hopened⟩
    · rw [hrefused] at hchange
      cases hchange
      exact .inl (Aside.refl _)
    · rw [hopened] at hchange
      cases hchange
      exact .inr (.inr ⟨p, change, rfl, hon, hmenu, hlisted, rfl⟩)
  | volume change => exact .inl (aside_of_volume hstep)
  | stop =>
    cases hstep
    exact .inr (.inl rfl)
  | shared step => exact .inl (aside_of_shared hstep)

end Deployment

/-! ## All events -/

namespace SoundSystem

variable {H : OutputHost η σ} {s t : SoundSystem η σ}

theorem proper_initial (host : η) (settings : Settings) :
    (initial host settings : SoundSystem η σ).Proper :=
  ⟨nofun, nofun⟩

theorem proper_openedFor (hon : s.isOn = true) (p : Pick) : (s.openedFor H p).2.Proper where
  picked _ := ⟨p, menu_openedFor H s p⟩
  connected _ := (isOn_openedFor H s p).trans hon

theorem proper_stop (H : OutputHost η σ) (s : SoundSystem η σ) : (s.stop H).Proper where
  picked := nofun
  connected hopen := by simp at hopen

theorem Proper.aside (h : s.Proper) (haside : s.Aside t) : t.Proper where
  picked hon := by
    rw [haside.menu]
    exact h.picked (haside.isOn ▸ hon)
  connected hopen := by
    rw [isConnected, haside.session?] at hopen
    rw [haside.isOn]
    exact h.connected hopen

end SoundSystem

open SoundSystem

theorem Deployment.proper_step {H : OutputHost η σ} {d e : Deployment η σ γ}
    (h : d.system.Proper) {event : SystemEvent γ} (hstep : step H d event = .ok e) :
    e.system.Proper := by
  rcases step_cases h hstep with haside | hstop | ⟨p, change, -, hon, -, -, hopened⟩
  · exact h.aside haside
  · rw [hstop]
    exact proper_stop H d.system
  · rw [hopened]
    exact proper_openedFor ((isOn_disconnect H d.system).trans hon) _

/-- What every event keeps holds after every run. -/
theorem Deployment.run_induction {H : OutputHost η σ} {P : Deployment η σ γ → Prop}
    (hstep : ∀ d event e, P d → step H d event = .ok e → P e) {events : List (SystemEvent γ)}
    {d e : Deployment η σ γ} (hd : P d) (hrun : run H events d = .ok e) : P e := by
  induction events generalizing d with
  | nil =>
    cases hrun
    exact hd
  | cons event rest ih =>
    unfold run at hrun ih
    rw [List.foldlM_cons] at hrun
    obtain ⟨next, hnext, hrun⟩ := bind_eq_ok_iff.1 hrun
    exact ih (hstep d event next hd hnext) hrun

/-- Only steps on the shared state can fault. -/
theorem Deployment.exists_run {H : OutputHost η σ} {events : List (SystemEvent γ)}
    (hevents : ∀ event ∈ events, event.isShared = false) {d : Deployment η σ γ}
    (h : d.system.Proper) : ∃ e, run H events d = .ok e := by
  induction events generalizing d with
  | nil => exact ⟨d, rfl⟩
  | cons event rest ih =>
    have hstep : ∃ e, step H d event = .ok e := by
      cases event with
      | change change =>
        rcases h.changeFormat_cases (H := H) change with ⟨_, _, hchange⟩ | ⟨_, _, _, _, _, hchange⟩
        · exact ⟨_, bind_eq_ok_iff.2 ⟨_, hchange, rfl⟩⟩
        · exact ⟨_, bind_eq_ok_iff.2 ⟨_, hchange, rfl⟩⟩
      | volume | stop => exact ⟨_, rfl⟩
      | shared step => cases hevents _ List.mem_cons_self
    obtain ⟨next, hnext⟩ := hstep
    obtain ⟨e, hrun⟩ := ih (fun event hmem => hevents event (List.mem_cons_of_mem _ hmem))
      (proper_step h hnext)
    refine ⟨e, ?_⟩
    unfold run at hrun ⊢
    rw [List.foldlM_cons, hnext, ok_bind, hrun]

/-- A system that starts is as it was built, and is off, or has asked for its first pick. -/
theorem SoundSystem.start_cases {H : OutputHost η σ} {host : η} {settings : Settings}
    {s : SoundSystem η σ} {log : Log} (h : start H host settings = .ok ⟨.ok s, log⟩) :
    settings.check = .ok () ∧
      (settings.soundOff = true ∧ s = initial host settings ∨
        settings.soundOff = false ∧ s = ((ready host settings).openedFor H settings.pick).2) := by
  cases hcheck : settings.check with
  | error e =>
    rw [start_of_flaw hcheck] at h
    cases h
  | ok =>
    cases hoff : settings.soundOff with
    | true =>
      rw [start_of_off hcheck hoff] at h
      cases h
      exact ⟨rfl, .inl ⟨rfl, rfl⟩⟩
    | false =>
      obtain ⟨log', hstart⟩ := start_of_on H host hcheck hoff
      rw [hstart] at h
      cases h
      exact ⟨rfl, .inr ⟨rfl, rfl⟩⟩

theorem SoundSystem.exists_start (H : OutputHost η σ) (host : η) {settings : Settings}
    (hcheck : settings.check = .ok ()) :
    ∃ s log, s.Proper ∧ start H host settings = .ok ⟨.ok s, log⟩ := by
  cases hoff : settings.soundOff with
  | true => exact ⟨_, _, proper_initial host settings, start_of_off hcheck hoff⟩
  | false =>
    obtain ⟨log, hstart⟩ := start_of_on H host hcheck hoff
    exact ⟨_, log, proper_openedFor rfl _, hstart⟩

/-- What holds at the start, and is kept by each kind of event, holds throughout every course. -/
theorem course_induction {H : OutputHost η σ} {host : η} {settings : Settings} {guest : γ}
    {P : SoundSystem η σ → Prop}
    (off : P (initial host settings))
    (on : P ((ready host settings).openedFor H settings.pick).2)
    (aside : ∀ s t, s.Proper → P s → s.Aside t → P t)
    (stop : ∀ s, s.Proper → P s → P (s.stop H))
    (opened : ∀ s p, s.Proper → P s → s.isOn = true → P ((s.disconnect H).openedFor H p).2)
    {events : List (SystemEvent γ)} {d : Deployment η σ γ}
    (hd : course H host settings guest events = .ok (.ok d)) : d.system.Proper ∧ P d.system := by
  obtain ⟨s, log, hstart, hrun⟩ := course_eq_ok_iff.1 hd
  refine Deployment.run_induction (P := fun d => d.system.Proper ∧ P d.system) ?_ ?_ hrun
  · rintro d event e ⟨hproper, hP⟩ hstep
    refine ⟨Deployment.proper_step hproper hstep, ?_⟩
    rcases Deployment.step_cases hproper hstep with
      haside | hstop | ⟨p, change, -, hon, -, -, hopened⟩
    · exact aside _ _ hproper hP haside
    · rw [hstop]
      exact stop _ hproper hP
    · rw [hopened]
      exact opened _ _ hproper hP hon
  · rcases (start_cases hstart).2 with ⟨-, rfl⟩ | ⟨-, rfl⟩
    · exact ⟨proper_initial host settings, off⟩
    · exact ⟨proper_openedFor rfl _, on⟩

/-- With settings within range, and without steps on the shared state, every course is gone through
    to its end. -/
theorem exists_course {H : OutputHost η σ} {host : η} {settings : Settings} {guest : γ}
    (hcheck : settings.check = .ok ()) {events : List (SystemEvent γ)}
    (hevents : ∀ event ∈ events, event.isShared = false) :
    ∃ d, course H host settings guest events = .ok (.ok d) := by
  obtain ⟨s, log, hproper, hstart⟩ := exists_start H host hcheck
  obtain ⟨d, hrun⟩ :=
    Deployment.exists_run (H := H) (d := { system := s, guest }) hevents hproper
  exact ⟨d, course_eq_ok_iff.2 ⟨s, log, hstart, hrun⟩⟩

theorem proper_course {H : OutputHost η σ} {host : η} {settings : Settings} {guest : γ}
    {events : List (SystemEvent γ)} {d : Deployment η σ γ}
    (hd : course H host settings guest events = .ok (.ok d)) : d.system.Proper :=
  (course_induction (P := fun _ => True) trivial trivial (fun _ _ _ _ _ => trivial)
    (fun _ _ _ => trivial) (fun _ _ _ _ _ => trivial) hd).1

end GuestAudio
