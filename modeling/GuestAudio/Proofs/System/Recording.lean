import GuestAudio.Proofs.System.Course

set_option autoImplicit false

/-! # A record of the host's calls

Any host can be made to keep a record of what is asked of it: each request with its answer, and each
session that ends. The sessions are numbered in the order in which they begin, and the number is
kept in the session's stream, so that the record shows which session it is that ends.

A system cannot tell the difference. `course_recorded` says that on a host with a record it goes
through the same course, so that what the record shows of every host holds of the host itself. -/

namespace GuestAudio

/-! ## Records -/

/-- A call of the host, with its outcome. Sessions go by their numbers. -/
inductive HostCall
  /-- A request, and why it was refused. -/
  | refused (request : OutputRequest) (cause : OutputError)
  /-- A request, the session that began, and the format that was granted. -/
  | granted (request : OutputRequest) (session : Nat) (format : OutputFormat)
  /-- The session ended. -/
  | released (session : Nat)
deriving Repr, DecidableEq

namespace HostCall

/-- The request, if the call was to open the device. -/
def request? : HostCall → Option OutputRequest
  | refused request _ => some request
  | granted request _ _ => some request
  | released _ => none

/-- The session that began with the call. -/
def begun? : HostCall → Option Nat
  | granted _ session _ => some session
  | _ => none

/-- The session that ended with the call. -/
def ended? : HostCall → Option Nat
  | released session => some session
  | _ => none

/-- The format granted by the call. -/
def format? : HostCall → Option OutputFormat
  | granted _ _ format => some format
  | _ => none

end HostCall

/-- The calls of a host in the order in which they were made. -/
abbrev HostCalls := List HostCall

namespace HostCalls

/-- All requests. -/
def requests (calls : HostCalls) : List OutputRequest := calls.filterMap HostCall.request?

/-- All sessions that began. -/
def begun (calls : HostCalls) : List Nat := calls.filterMap HostCall.begun?

/-- All sessions that ended. -/
def ended (calls : HostCalls) : List Nat := calls.filterMap HostCall.ended?

/-- All formats that were granted. -/
def formats (calls : HostCalls) : List OutputFormat := calls.filterMap HostCall.format?

/-- The sessions that began and did not end. -/
def alive (calls : HostCalls) : List Nat := calls.begun.filter fun session => session ∉ calls.ended

section Concat

variable (calls : HostCalls) (call : HostCall)

@[simp] theorem requests_concat :
    requests (calls ++ [call]) = calls.requests ++ call.request?.toList :=
  List.filterMap_append

@[simp] theorem begun_concat : begun (calls ++ [call]) = calls.begun ++ call.begun?.toList :=
  List.filterMap_append

@[simp] theorem ended_concat : ended (calls ++ [call]) = calls.ended ++ call.ended?.toList :=
  List.filterMap_append

@[simp] theorem formats_concat :
    formats (calls ++ [call]) = calls.formats ++ call.format?.toList :=
  List.filterMap_append

end Concat

end HostCalls

/-! ## Hosts with a record -/

/-- A host, and the calls that were made of it. -/
structure Recorded (η : Type) where
  host : η
  calls : HostCalls := []

/-- The stream of a numbered session. -/
structure Numbered (σ : Type) where
  number : Nat
  stream : σ

/-- The session with another stream. -/
def Session.map {σ τ : Type} (f : σ → τ) (s : Session σ) : Session τ where
  format := s.format
  driver := s.driver
  stream := f s.stream

variable {η σ γ : Type}

/-- The call that a request comes to, if the session that may begin has this number. -/
def HostCall.ofAnswer (request : OutputRequest) (number : Nat) :
    Except OutputError (Session σ) → HostCall
  | .error cause => refused request cause
  | .ok session => granted request number session.format

/-- The host, with a record of its calls. -/
def OutputHost.recorded (H : OutputHost η σ) : OutputHost (Recorded η) (Numbered σ) where
  acquire r request :=
    let answer := H.acquire r.host request
    let number := r.calls.begun.length
    (⟨answer.1.value.map (Session.map (Numbered.mk number)), answer.1.log⟩,
      { host := answer.2, calls := r.calls ++ [.ofAnswer request number answer.1.value] })
  release r session :=
    { host := H.release r.host (session.map Numbered.stream)
      calls := r.calls ++ [.released session.stream.number] }

/-! ## What an opening and an ending add -/

section Calls

variable (H : OutputHost η σ) (s : SoundSystem (Recorded η) (Numbered σ))

@[simp] theorem HostCall.request?_ofAnswer (request : OutputRequest) (number : Nat)
    (answer : Except OutputError (Session σ)) :
    (ofAnswer request number answer).request? = some request := by
  cases answer <;> rfl

theorem SoundSystem.calls_openedFor (p : Pick) :
    (s.openedFor H.recorded p).2.host.calls = s.host.calls ++
      [.ofAnswer (p.request s.blockFrames) s.host.calls.begun.length
        (H.acquire s.host.host (p.request s.blockFrames)).1.value] :=
  congrArg Recorded.calls (host_keep _ _ _)

/-- The end of a session is put on record as that, and as nothing else. -/
theorem SoundSystem.filterMap_calls_disconnect {α : Type} {readout : HostCall → Option α}
    (h : ∀ number, readout (.released number) = none) :
    (s.disconnect H.recorded).host.calls.filterMap readout =
      s.host.calls.filterMap readout := by
  unfold disconnect
  split
  · rfl
  · next session _ =>
    have hcalls : (H.recorded.release s.host session).calls =
        s.host.calls ++ [.released session.stream.number] := rfl
    rw [hcalls, List.filterMap_append, List.filterMap_cons_none (h _), List.filterMap_nil,
      List.append_nil]

theorem SoundSystem.requests_disconnect :
    (s.disconnect H.recorded).host.calls.requests = s.host.calls.requests :=
  filterMap_calls_disconnect H s fun _ => rfl

theorem SoundSystem.begun_disconnect :
    (s.disconnect H.recorded).host.calls.begun = s.host.calls.begun :=
  filterMap_calls_disconnect H s fun _ => rfl

theorem SoundSystem.formats_disconnect :
    (s.disconnect H.recorded).host.calls.formats = s.host.calls.formats :=
  filterMap_calls_disconnect H s fun _ => rfl

end Calls

/-! ## Without the record -/

/-- The system without its host's record. -/
def SoundSystem.forget (s : SoundSystem (Recorded η) (Numbered σ)) : SoundSystem η σ where
  host := s.host.host
  menu := s.menu
  blockFrames := s.blockFrames
  volume := s.volume
  status := s.status
  rendezvous? := s.rendezvous?
  session? := s.session?.map (Session.map Numbered.stream)
  capabilities := s.capabilities

/-- The deployment without its host's record. -/
def Deployment.forget (d : Deployment (Recorded η) (Numbered σ) γ) : Deployment η σ γ where
  system := d.system.forget
  guest := d.guest
  retired? := d.retired?

/-- The calls on record. -/
def Deployment.calls (d : Deployment (Recorded η) (Numbered σ) γ) : HostCalls := d.system.host.calls

namespace SoundSystem

section Forget

variable (H : OutputHost η σ) (s : SoundSystem (Recorded η) (Numbered σ))

theorem forget_disconnect : (s.disconnect H.recorded).forget = s.forget.disconnect H := by
  cases hsession : s.session? with
  | none => simp [disconnect, forget, hsession]
  | some session => simp [disconnect, forget, hsession, OutputHost.recorded]

theorem forget_stop : (s.stop H.recorded).forget = s.forget.stop H := by
  unfold stop
  rw [← forget_disconnect]
  rfl

theorem map_forget_openedFor (p : Pick) :
    (s.openedFor H.recorded p).map id forget = s.forget.openedFor H p := by
  dsimp only [openedFor, OutputHost.recorded, forget]
  generalize H.acquire s.host.host (p.request s.blockFrames) = acquired
  obtain ⟨⟨answer, log⟩, host⟩ := acquired
  cases answer with
  | error cause => rfl
  | ok session => rfl

theorem forget_openedFor (p : Pick) :
    (s.openedFor H.recorded p).2.forget = (s.forget.openedFor H p).2 :=
  congrArg Prod.snd (map_forget_openedFor H s p)

end Forget

end SoundSystem

open SoundSystem

/-! ## The same course -/

variable {H : OutputHost η σ}

/-- A change of the format comes to the same on a host with a record. -/
theorem SoundSystem.Proper.changeFormat_recorded {s : SoundSystem (Recorded η) (Numbered σ)}
    (h : s.Proper) (change : FormatChange) :
    ∃ result t log log', s.changeFormat H.recorded change = .ok ⟨(result, t), log⟩ ∧
      s.forget.changeFormat H change = .ok ⟨(result, t.forget), log'⟩ := by
  cases hon : s.isOn with
  | false => exact ⟨_, _, _, _, changeFormat_of_off hon, changeFormat_of_off (s := s.forget) hon⟩
  | true =>
    obtain ⟨p, hmenu⟩ := h.picked hon
    cases hstray : change.stray? with
    | some entry =>
      exact ⟨_, _, _, _, changeFormat_of_stray hon hmenu hstray,
        changeFormat_of_stray (s := s.forget) hon hmenu hstray⟩
    | none =>
      have hlisted := FormatChange.stray?_eq_none_iff.1 hstray
      obtain ⟨log, hrecorded⟩ := changeFormat_of_listed (H := H.recorded) hon hmenu hlisted
      obtain ⟨log', hchange⟩ :=
        changeFormat_of_listed (H := H) (s := s.forget) hon hmenu hlisted
      rw [← forget_disconnect, ← map_forget_openedFor] at hchange
      exact ⟨_, _, log, log', hrecorded, hchange⟩

/-- A start comes to the same on a host with a record. -/
theorem SoundSystem.start_recorded (host : η) {settings : Settings}
    (hcheck : settings.check = .ok ()) :
    ∃ s log log', s.Proper ∧ start H.recorded { host } settings = .ok ⟨.ok s, log⟩ ∧
      start H host settings = .ok ⟨.ok s.forget, log'⟩ := by
  cases hoff : settings.soundOff with
  | true =>
    exact ⟨_, _, _, proper_initial _ settings, start_of_off hcheck hoff, start_of_off hcheck hoff⟩
  | false =>
    obtain ⟨log, hrecorded⟩ := start_of_on H.recorded { host } hcheck hoff
    obtain ⟨log', hstart⟩ := start_of_on H host hcheck hoff
    refine ⟨_, log, log', proper_openedFor rfl _, hrecorded, ?_⟩
    rw [forget_openedFor]
    exact hstart

namespace Deployment

theorem forget_withShared (d : Deployment (Recorded η) (Numbered σ) γ) (guest : γ)
    (shared : SharedState) :
    (d.withShared guest shared).forget = d.forget.withShared guest shared := by
  unfold withShared
  rw [show d.forget.system.isOn = d.system.isOn from rfl]
  split
  · rfl
  · rfl

theorem step_recorded {d : Deployment (Recorded η) (Numbered σ) γ} (h : d.system.Proper)
    (event : SystemEvent γ) :
    step H d.forget event = (step H.recorded d event).map forget := by
  cases event with
  | change change =>
    obtain ⟨result, t, log, log', hrecorded, hchange⟩ := h.changeFormat_recorded (H := H) change
    simp only [step, hrecorded, forget, hchange]
    rfl
  | volume change => rfl
  | stop =>
    simp only [step, forget, ← forget_stop]
    rfl
  | shared step =>
    -- the step works on the shared state, where nothing of the host is
    rw [Deployment.step, Deployment.step, show d.forget.shared? = d.shared? from rfl]
    cases d.shared? with
    | none => rfl
    | some shared =>
      dsimp only
      rw [show d.forget.guest = d.guest from rfl]
      cases step.apply d.guest shared with
      | error f => rfl
      | ok answer => exact congrArg Except.ok (forget_withShared d answer.1 answer.2).symm

theorem run_recorded {d : Deployment (Recorded η) (Numbered σ) γ} (h : d.system.Proper)
    (events : List (SystemEvent γ)) :
    run H events d.forget = (run H.recorded events d).map forget := by
  induction events generalizing d with
  | nil => rfl
  | cons event rest ih =>
    unfold run at ih ⊢
    rw [List.foldlM_cons, List.foldlM_cons, step_recorded h]
    cases hstep : step H.recorded d event with
    | error f => rfl
    | ok e => exact ih (proper_step h hstep)

end Deployment

/-- **On a host with a record a system goes through the same course.** -/
theorem course_recorded (H : OutputHost η σ) (host : η) (settings : Settings) (guest : γ)
    (events : List (SystemEvent γ)) :
    course H host settings guest events =
      (course H.recorded { host } settings guest events).map (Except.map Deployment.forget) := by
  cases hcheck : settings.check with
  | error e =>
    rw [course_of_flaw hcheck, course_of_flaw hcheck]
    rfl
  | ok =>
    obtain ⟨s, log, log', hproper, hrecorded, hstart⟩ := start_recorded (H := H) host hcheck
    have hrun := Deployment.run_recorded (H := H) (d := { system := s, guest }) hproper events
    dsimp only [Deployment.forget] at hrun
    rw [course_of_start hstart, course_of_start hrecorded, hrun]
    cases Deployment.run H.recorded events { system := s, guest } with
    | error f => rfl
    | ok d => rfl

theorem course_forget {host : η} {settings : Settings} {guest : γ}
    {events : List (SystemEvent γ)} {d : Deployment (Recorded η) (Numbered σ) γ}
    (hd : course H.recorded { host } settings guest events = .ok (.ok d)) :
    course H host settings guest events = .ok (.ok d.forget) := by
  rw [course_recorded, hd]
  rfl

end GuestAudio
