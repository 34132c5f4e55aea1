import GuestAudio.Proofs.Device.Channels
import GuestAudio.Proofs.System.VolumeInUse

set_option autoImplicit false

/-! # A system on a sound card

A system on a sound card goes through its course of events, and in between the device asks the open
stream for samples, in buffers of any length; and another device may become the default one.

Whatever the device offers and however it answers, a session that is open can be fed: the device is
asked for at least one channel, a setup without channels is refused, and a block has at least one
frame. With the volume in range, which no change takes it out of, a callback can then end early only
where the guest's side of it does (`soundcard_callback`). -/

namespace GuestAudio

/-! ## What a sound card is asked for -/

theorem Pick.channels_request (p : Pick) (frames : UInt32) : (p.request frames).channels ≠ 0 := by
  have hcounts : ∀ count ∈ standardChannelCounts, count ≠ 0 := by
    simp [standardChannelCounts]
  have hmem : standardChannelCounts.get p.channels ∈ standardChannelCounts := List.get_mem _ _
  exact hcounts _ hmem

/-! ## The sizes of a format -/

/-- What is computed from the sizes and the samples of a format fits the words it is computed in:
    64 bits for sizes, 32 bits with a sign for samples. -/
structure OutputFormat.FitsWords (f : OutputFormat) : Prop where
  block : f.blockBytes < 1 <<< 64
  described : ∀ b : GuestBlock, b.frameCount.toNat * f.frameBytes < 1 <<< 64
  product : ∀ (s : Int) (volume : Nat), f.layout.minSample ≤ s ∧ s ≤ f.layout.maxSample →
    volume ≤ unityVolume → (s * volume).natAbs < 1 <<< 31
  sum : ∀ (s d : Int) (volume : Nat), f.layout.minSample ≤ s ∧ s ≤ f.layout.maxSample →
    f.layout.minSample ≤ d ∧ d ≤ f.layout.maxSample → volume ≤ unityVolume →
      (d + scaleSample volume s).natAbs < 1 <<< 31

theorem OutputFormat.fitsWords (f : OutputFormat) : f.FitsWords := by
  have hlimits : -32768 ≤ f.layout.minSample ∧ f.layout.maxSample ≤ 32767 := by
    cases f.layout <;> decide
  have hframe : f.frameBytes ≤ 2 * 65535 := by
    have hchannels : f.channels.toNat < 65536 := f.channels.toNat_lt
    have hsample : f.layout.sampleBytes ≤ 2 := by cases f.layout <;> decide
    exact Nat.mul_le_mul hsample (by omega)
  have hframes (n : UInt32) : n.toNat * f.frameBytes < 1 <<< 64 := by
    have hn : n.toNat ≤ 4294967295 := Nat.le_of_lt_succ n.toNat_lt
    exact Nat.lt_of_le_of_lt (Nat.mul_le_mul hn hframe) (by decide)
  constructor
  case block => exact hframes f.framesPerBlock
  case described => exact fun b => hframes b.frameCount
  case product =>
    intro s volume hs hvolume
    have hsample : s.natAbs ≤ 32768 := by omega
    rw [Int.natAbs_mul, Int.natAbs_natCast]
    exact Nat.lt_of_le_of_lt (Nat.mul_le_mul hsample hvolume) (by decide)
  case sum =>
    intro s d volume hs hd hvolume
    have hscaled := scaleSample_bounds hvolume hs
    have hword : 1 <<< 31 = 2147483648 := rfl
    omega

variable {γ : Type} {handler : InterruptHandler γ}

/-! ## Events -/

/-- What can happen to a system on a sound card in use. -/
inductive SoundcardEvent (γ : Type)
  | system (event : SystemEvent γ)
  /-- The device asks for samples, in a buffer of the type that it takes. -/
  | callback (buffer : (t : NativeType) → List t.Sample)
  /-- There is another default device, or none any more. -/
  | plug (device? : Option OutputDevice)

/-- A system on a sound card with its guest. -/
abbrev CardDeployment (γ : Type) := Deployment Soundcard OutputStream γ

/-- The device asks for samples, and what it gets goes to the device. -/
def OutputStream.callback (handler : InterruptHandler γ)
    (buffer : (t : NativeType) → List t.Sample) (s : OutputStream) (m : Machine γ) :
    Run (Logged (Unit × OutputStream × Machine γ)) := do
  let ⟨(_, stream, m), log⟩ ← s.feed handler m (buffer s.sampleType)
  return ⟨((), stream, m), log⟩

namespace CardDeployment

/-- What an event leads to, and what is logged while the guest is asked. -/
def step (handler : InterruptHandler γ) (d : CardDeployment γ) :
    SoundcardEvent γ → Run (Logged (CardDeployment γ))
  | .system event => do return pure (← Deployment.step Soundcard.host d event)
  | .callback buffer => do
      let ⟨(_, system, guest), log⟩ ←
        d.system.runStream d.guest (OutputStream.callback handler buffer)
      return ⟨{ d with system, guest }, log⟩
  | .plug device? =>
      return pure { d with system := { d.system with host := { d.system.host with device? } } }

/-- What events in a row lead to. -/
def run (handler : InterruptHandler γ) (events : List (SoundcardEvent γ))
    (d : Logged (CardDeployment γ)) : Run (Logged (CardDeployment γ)) :=
  events.foldlM (fun d event => do
    let ⟨next, log⟩ ← step handler d.value event
    return ⟨next, d.log ++ log⟩) d

end CardDeployment

/-- The start of a system on a sound card, and what the events after it lead to. -/
def courseOnCard (handler : InterruptHandler γ) (card : Soundcard) (settings : Settings) (guest : γ)
    (events : List (SoundcardEvent γ)) : Run (Except OutputError (Logged (CardDeployment γ))) := do
  let ⟨started, _⟩ ← SoundSystem.start Soundcard.host card settings
  match started with
  | .error e => return .error e
  | .ok system => return .ok (← CardDeployment.run handler events ⟨{ system, guest }, []⟩)

/-! ## A system that can be fed -/

/-- The volume is in range, and the session that is open can be fed. -/
structure SoundSystem.Playable (s : SoundSystem Soundcard OutputStream) : Prop where
  proper : s.Proper
  volume : s.volume.InRange
  feedable : ∀ session, s.session? = some session → session.Feedable

namespace SoundSystem.Playable

variable {s : SoundSystem Soundcard OutputStream}

theorem initial (card : Soundcard) {settings : Settings} (h : settings.check = .ok ()) :
    (SoundSystem.initial card settings : SoundSystem Soundcard OutputStream).Playable where
  proper := proper_initial card settings
  volume := (settings.flaw?_eq_none_iff.1 (settings.check_eq_ok_iff.1 h)).2
  feedable session hsession := by
    have hclosed : (none : Option (Session OutputStream)) = some session := hsession
    cases hclosed

theorem openedFor (hon : s.isOn = true) (hv : s.volume.InRange) (hclosed : s.session? = none)
    (p : Pick) : (s.openedFor Soundcard.host p).2.Playable where
  proper := proper_openedFor hon p
  volume := by simpa using hv
  feedable := by
    intro session hsession
    unfold SoundSystem.openedFor at hsession
    dsimp only [Soundcard.host] at hsession
    cases hanswer : (s.host.acquire (p.request s.blockFrames)).1.value with
    | error cause =>
      rw [hanswer] at hsession
      rw [show s.session? = some session from hsession] at hclosed
      cases hclosed
    | ok granted =>
      rw [hanswer] at hsession
      cases hsession
      exact Soundcard.feedable_of_acquire (fun h => p.channels_request _ h.unasked) hanswer

theorem start {card : Soundcard} {settings : Settings} {log : Log}
    (h : SoundSystem.start Soundcard.host card settings = .ok ⟨.ok s, log⟩) : s.Playable := by
  obtain ⟨hcheck, ⟨-, rfl⟩ | ⟨-, rfl⟩⟩ := start_cases h
  · exact initial card hcheck
  · have hv : (ready card settings : SoundSystem Soundcard OutputStream).volume.InRange :=
      (initial card hcheck).volume
    exact openedFor rfl hv rfl settings.pick

end SoundSystem.Playable

/-! ## Every event -/

variable {d e : CardDeployment γ}

namespace CardDeployment

theorem playable_system {event : SystemEvent γ} (h : d.system.Playable)
    (hstep : Deployment.step Soundcard.host d event = .ok e) : e.system.Playable where
  proper := Deployment.proper_step h.proper hstep
  volume := Deployment.inRange_step h.proper h.volume hstep
  feedable := by
    rcases Deployment.step_cases h.proper hstep with
      haside | hstop | ⟨p, change, -, hon, -, -, hopened⟩
    · rw [haside.session?]
      exact h.feedable
    · rw [hstop]
      intro session hsession
      exact absurd hsession (by simp [SoundSystem.stop])
    · rw [hopened]
      exact (SoundSystem.Playable.openedFor ((SoundSystem.isOn_disconnect _ _).trans hon)
        (by simpa using h.volume) (SoundSystem.session?_disconnect _ _) _).feedable

/-- The deployment after the open stream was fed. -/
def fed (d : CardDeployment γ) (session : Session OutputStream) (guest : γ) (shared : SharedState) :
    CardDeployment γ :=
  { d with system := { d.system.withShared shared with session? := some session }, guest }

/-- A callback does nothing, or feeds the open stream. -/
theorem callback_cases {buffer : (t : NativeType) → List t.Sample} {log : Log}
    (h : d.system.Playable) (hstep : d.step handler (.callback buffer) = .ok ⟨e, log⟩) :
    (e = d ∧ log = []) ∨
      ∃ session shared answers guest shared' stream, d.system.session? = some session ∧
        d.system.shared? = some shared ∧
        shared.attendEach handler (session.format.blocksFor
          (buffer session.stream.sampleType).length) d.guest =
            .ok ⟨(answers, guest, shared'), log⟩ ∧
        ({ session with stream } : Session OutputStream).Feedable ∧
        stream.setup = session.stream.setup ∧
        e = d.fed { session with stream } guest shared' := by
  obtain ⟨⟨⟨answer?, system, guest⟩, log'⟩, hrun, hstep⟩ := bind_eq_ok_iff.1 hstep
  cases hstep
  unfold SoundSystem.runStream at hrun
  split at hrun
  · next session shared hsession hshared =>
    refine .inr ?_
    obtain ⟨⟨⟨answer, stream, m⟩, log'⟩, hwork, hrun⟩ := bind_eq_ok_iff.1 hrun
    cases hrun
    obtain ⟨⟨⟨samples, stream, m⟩, log'⟩, hfeed, hwork⟩ := bind_eq_ok_iff.1 hwork
    cases hwork
    have hsetup := OutputStream.setup_of_feed hfeed
    have hfeedable := h.feedable session hsession
    cases hattend : shared.attendEach handler (session.format.blocksFor
        (buffer session.stream.sampleType).length) d.guest with
    | error halt =>
      rw [hfeedable.feed_error h.volume _ hattend] at hfeed
      cases hfeed
    | ok attended =>
      obtain ⟨⟨answers, guest, shared'⟩, log'⟩ := attended
      obtain ⟨stream', hstream, hfed⟩ := hfeedable.feed
        (m := { shared, volume := d.system.volume, guest := d.guest }) h.volume _ hattend
      rw [hfed] at hfeed
      cases hfeed
      exact ⟨session, shared, answers, guest, shared', stream, hsession, hshared, hattend,
        hstream, hsetup, rfl⟩
  · cases hrun
    exact .inl ⟨rfl, rfl⟩

theorem playable_fed {session : Session OutputStream} (h : d.system.Playable)
    (hon : d.system.isOn = true) (hsession : session.Feedable) (guest : γ) (shared : SharedState) :
    (d.fed session guest shared).system.Playable where
  proper := ⟨fun _ => h.proper.picked hon, fun _ => rfl⟩
  volume := h.volume
  feedable := by
    rintro _ ⟨⟩
    exact hsession

theorem playable_step {event : SoundcardEvent γ} {log : Log} (h : d.system.Playable)
    (hstep : d.step handler event = .ok ⟨e, log⟩) : e.system.Playable := by
  cases event with
  | system event =>
    obtain ⟨next, hnext, hstep⟩ := bind_eq_ok_iff.1 hstep
    cases hstep
    exact playable_system h (liftM_eq_ok_iff.1 hnext)
  | callback buffer =>
    rcases callback_cases h hstep with
      ⟨rfl, -⟩ |
      ⟨session, shared, answers, guest, shared', stream, hsession, -, -, hstream, -, rfl⟩
    · exact h
    · have hon := h.proper.connected (by simp [SoundSystem.isConnected, hsession])
      exact playable_fed h hon hstream guest shared'
  | plug device? =>
    cases hstep
    exact ⟨⟨h.proper.picked, h.proper.connected⟩, h.volume, h.feedable⟩

/-- What every one of the events keeps holds after all of them. -/
theorem run_induction {P : Logged (CardDeployment γ) → Prop} {events : List (SoundcardEvent γ)}
    (hstep : ∀ earlier d e event log, event ∈ events → P ⟨d, earlier⟩ →
      step handler d event = .ok ⟨e, log⟩ → P ⟨e, earlier ++ log⟩)
    {x y : Logged (CardDeployment γ)} (hx : P x) (hrun : run handler events x = .ok y) : P y := by
  induction events generalizing x with
  | nil =>
    cases hrun
    exact hx
  | cons event rest ih =>
    unfold run at hrun ih
    rw [List.foldlM_cons] at hrun
    obtain ⟨next, hnext, hrun⟩ := bind_eq_ok_iff.1 hrun
    obtain ⟨⟨e, log⟩, hevent, hnext⟩ := bind_eq_ok_iff.1 hnext
    cases hnext
    have hrest : P ⟨e, x.log ++ log⟩ :=
      hstep x.log x.value e event log List.mem_cons_self hx hevent
    exact ih (fun earlier d e event log hmem => hstep earlier d e event log
      (List.mem_cons_of_mem _ hmem)) hrest hrun

end CardDeployment

/-- What holds at the start, and is kept by every one of the events while the system can be fed,
    holds at the end of the course. -/
theorem courseOnCard_induction {P : Logged (CardDeployment γ) → Prop} {card : Soundcard}
    {settings : Settings} {guest : γ} {events : List (SoundcardEvent γ)}
    {x : Logged (CardDeployment γ)}
    (start : ∀ s log, SoundSystem.start Soundcard.host card settings = .ok ⟨.ok s, log⟩ →
      P ⟨{ system := s, guest }, []⟩)
    (step : ∀ earlier d e event log, event ∈ events → d.system.Playable → P ⟨d, earlier⟩ →
      CardDeployment.step handler d event = .ok ⟨e, log⟩ → P ⟨e, earlier ++ log⟩)
    (hx : courseOnCard handler card settings guest events = .ok (.ok x)) :
    x.value.system.Playable ∧ P x := by
  obtain ⟨⟨started, log⟩, hstart, hx⟩ := bind_eq_ok_iff.1 hx
  have hstart' := liftM_eq_ok_iff.1 hstart
  cases started with
  | error cause => cases hx
  | ok s =>
    obtain ⟨y, hrun, hx⟩ := bind_eq_ok_iff.1 hx
    cases hx
    refine CardDeployment.run_induction (P := fun x => x.value.system.Playable ∧ P x) ?_ ?_ hrun
    · rintro earlier d e event log hmem ⟨hplayable, hP⟩ hevent
      exact ⟨CardDeployment.playable_step hplayable hevent,
        step earlier d e event log hmem hplayable hP hevent⟩
    · exact ⟨SoundSystem.Playable.start hstart', start s log hstart'⟩

theorem playable_courseOnCard {card : Soundcard} {settings : Settings} {guest : γ}
    {events : List (SoundcardEvent γ)} {x : Logged (CardDeployment γ)}
    (hx : courseOnCard handler card settings guest events = .ok (.ok x)) :
    x.value.system.Playable :=
  (courseOnCard_induction (P := fun _ => True) (fun _ _ _ => trivial)
    (fun _ _ _ _ _ _ _ _ _ => trivial) hx).1

/-! ## Every callback -/

/-- **A callback fills its buffer.** On any sound card and through every course, whatever the guest
    answers: sizes and samples of an open session fit their words; a callback of its stream, for a
    buffer of any length, comes to its end wherever the guest's side of it does, with a sample for
    each one asked for and nothing left of what the buffer held; and where it does not, the guest's
    own code ends early, or has posted nothing to collect. -/
theorem soundcard_callback (handler : InterruptHandler γ) (card : Soundcard) (settings : Settings)
    (guest : γ) (events : List (SoundcardEvent γ)) {log : Log} {session : Session OutputStream}
    (hd : courseOnCard handler card settings guest events = .ok (.ok ⟨d, log⟩))
    (hsession : d.system.session? = some session) :
    session.format.FitsWords ∧
    ∃ shared, d.system.shared? = some shared ∧
      ∀ buffer : List session.stream.sampleType.Sample,
        let machine : Machine γ := { shared, volume := d.system.volume, guest := d.guest }
        let attended :=
          shared.attendEach handler (session.format.blocksFor buffer.length) d.guest
        (∀ answers guest' shared' log', attended = .ok ⟨(answers, guest', shared'), log'⟩ →
          ∃ samples stream,
            session.stream.feed handler machine buffer =
              .ok ⟨(samples, stream, { machine with shared := shared', guest := guest' }), log'⟩ ∧
            samples = session.format.samplesFor session.stream.sampleType d.system.volume answers
              (pieceLengths session.format.blockSamples buffer.length) ∧
            samples.length = buffer.length) ∧
        ∀ halt, session.stream.feed handler machine buffer = .error halt →
          attended = .error halt ∧
          (halt = .parked ∨
            ∃ guest s fault, handler.run guest s = .error fault ∧ halt = .fault fault) := by
  have hplayable := playable_courseOnCard hd
  have hfeedable := hplayable.feedable session hsession
  have hon : d.system.isOn = true :=
    hplayable.proper.connected (by simp [SoundSystem.isConnected, hsession])
  obtain ⟨rendezvous, hrendezvous⟩ := Option.isSome_iff_exists.1 hon
  refine ⟨session.format.fitsWords, { rendezvous, status := d.system.status },
    by rw [SoundSystem.shared?, hrendezvous]; rfl, fun buffer => ⟨?_, ?_⟩⟩
  · intro answers guest' shared' log' hattend
    obtain ⟨stream, -, hfeed⟩ := hfeedable.feed
      (m := { shared := _, volume := d.system.volume, guest := d.guest })
      hplayable.volume buffer hattend
    refine ⟨_, stream, hfeed, rfl, ?_⟩
    have hcount := (SharedState.length_of_attendEach hattend).trans
      (OutputFormat.blocksFor_eq_length_chunks hfeedable.samples buffer)
    rw [← map_length_chunks hfeedable.samples buffer, OutputFormat.length_samplesFor _ _ _ hcount,
      flatten_chunks]
  · intro halt hfeed
    cases hattend : SharedState.attendEach handler (session.format.blocksFor buffer.length) d.guest
        { rendezvous, status := d.system.status } with
    | error halt' =>
      rw [hfeedable.feed_error hplayable.volume buffer hattend] at hfeed
      cases hfeed
      exact ⟨rfl, SharedState.halt_of_attendEach hattend⟩
    | ok attended =>
      obtain ⟨⟨answers, guest', shared'⟩, log'⟩ := attended
      obtain ⟨stream, -, hfed⟩ := hfeedable.feed
        (m := { shared := _, volume := d.system.volume, guest := d.guest })
        hplayable.volume buffer hattend
      rw [hfed] at hfeed
      cases hfeed

/-- The device offers no range, has three channels by default, and refuses a fixed buffer size; the
    guest describes more frames than its five bytes hold. Seven samples are asked for, one more
    than a block of two frames has. -/
theorem soundcard_callback_fallback :
    let card : Soundcard := { device? := some {
      name? := none
      ranges := .ok []
      defaultSetup := .ok ⟨3, 48000, .range 1 2, .f32⟩
      builds := [some .badArgument] } }
    let guest : QueuedGuest := { queue := [some ⟨4294967295, 7, 9, [1, 2, 3, 4, 5]⟩] }
    let events : List (SoundcardEvent QueuedGuest) :=
      [.system (.shared .addSource), .system (.shared (.attachMixer 1))]
    ∃ d log session shared,
      courseOnCard QueuedGuest.handler card {} guest events = .ok (.ok ⟨d, log⟩) ∧
      d.system.session? = some session ∧ session.format = ⟨48000, .word, 3, 2⟩ ∧
      d.system.shared? = some shared ∧
      ∀ buffer : List session.stream.sampleType.Sample, buffer.length = 7 →
        ∃ samples stream m, session.stream.feed QueuedGuest.handler
            { shared, volume := d.system.volume, guest := d.guest } buffer =
              .ok ⟨(samples, stream, m), []⟩ ∧
          samples.length = 7 ∧ m.guest.interrupts = 2 := by
  intro card guest events
  obtain ⟨d, log, session, shared, hd, hsession, hformat, hshared, hattend⟩ :
      ∃ d log session shared,
        courseOnCard QueuedGuest.handler card {} guest events = .ok (.ok ⟨d, log⟩) ∧
        d.system.session? = some session ∧ session.format = ⟨48000, .word, 3, 2⟩ ∧
        d.system.shared? = some shared ∧
        ∃ answers guest' shared', shared.attendEach QueuedGuest.handler 2 d.guest =
          .ok ⟨(answers, guest', shared'), []⟩ ∧ guest'.interrupts = 2 :=
    ⟨_, _, _, _, rfl, rfl, rfl, rfl, _, _, _, rfl, rfl⟩
  obtain ⟨answers, guest', shared', hattend, hinterrupts⟩ := hattend
  obtain ⟨-, shared₁, hshared₁, hcallback⟩ :=
    soundcard_callback QueuedGuest.handler card {} guest events hd hsession
  cases hshared₁.symm.trans hshared
  refine ⟨d, log, session, shared, hd, hsession, hformat, hshared, fun buffer hbuffer => ?_⟩
  -- seven samples are a block of six and a rest
  have hblocks : session.format.blocksFor buffer.length = 2 := by rw [hformat, hbuffer]; rfl
  rw [← hblocks] at hattend
  obtain ⟨samples, stream, hfeed, -, hlength⟩ := (hcallback buffer).1 _ _ _ _ hattend
  exact ⟨samples, stream, _, hfeed, hlength.trans hbuffer, hinterrupts⟩

end GuestAudio
