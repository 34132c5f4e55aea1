import GuestAudio.Device.Planned
import GuestAudio.Proofs.System.PublishedFormat

set_option autoImplicit false

/-! # Requests to the host

What a system asks of its host is told by its picks alone. It asks for the first one at the start,
and then for the next one with each change whose indices are all listed, whatever the host answers.
No other event is a reason to ask, and a refusal does not hold the next pick back
(`course_requests`). -/

namespace GuestAudio

/-! ## Accepted changes -/

namespace SystemEvent

variable {γ : Type}

/-- The change of the format, if its indices are all listed. -/
def accepted? : SystemEvent γ → Option FormatChange
  | .change asked => if asked.isListed then some asked else none
  | _ => none

/-- The event stops the system. -/
def isStop : SystemEvent γ → Bool
  | .stop => true
  | _ => false

end SystemEvent

/-- The changes among the events whose indices are all listed. -/
def acceptedChanges {γ : Type} (events : List (SystemEvent γ)) : List FormatChange :=
  events.filterMap SystemEvent.accepted?

/-- The picks that changes lead through, from the first one on. -/
def Pick.through (p : Pick) (changes : List FormatChange) : List Pick := changes.scanl Pick.apply p

/-- The pick that changes lead to. -/
def Pick.after (p : Pick) (changes : List FormatChange) : Pick := changes.foldl Pick.apply p

open SoundSystem

variable {η σ γ : Type} {H : OutputHost η σ}

/-- Whatever the answer, the request is put on record. -/
theorem SoundSystem.requests_openedFor (s : SoundSystem (Recorded η) (Numbered σ)) (p : Pick) :
    (s.openedFor H.recorded p).2.host.calls.requests =
      s.host.calls.requests ++ [p.request s.blockFrames] := by
  rw [calls_openedFor, HostCalls.requests_concat, HostCall.request?_ofAnswer, Option.toList_some]

/-! ## Following the picks -/

/-- The system is on, has selected a pick, and asked for it last, after these requests. -/
structure SoundSystem.Follows (s : SoundSystem (Recorded η) (Numbered σ)) (p : Pick)
    (frames : UInt32) (earlier : List OutputRequest) : Prop where
  isOn : s.isOn = true
  menu : s.menu = p.menu
  blockFrames : s.blockFrames = frames
  requests : s.host.calls.requests = earlier ++ [p.request frames]

namespace SoundSystem.Follows

variable {s t : SoundSystem (Recorded η) (Numbered σ)} {p : Pick} {frames : UInt32}
  {earlier : List OutputRequest}

theorem aside (h : s.Follows p frames earlier) (haside : s.Aside t) :
    t.Follows p frames earlier where
  isOn := haside.isOn.trans h.isOn
  menu := haside.menu.trans h.menu
  blockFrames := haside.blockFrames.trans h.blockFrames
  requests := haside.host ▸ h.requests

theorem reopened (h : s.Follows p frames earlier) (q : Pick) :
    ((s.disconnect H.recorded).openedFor H.recorded q).2.Follows q frames
      (earlier ++ [p.request frames]) where
  isOn := by rw [isOn_openedFor, isOn_disconnect, h.isOn]
  menu := menu_openedFor _ _ _
  blockFrames := by rw [blockFrames_openedFor, blockFrames_disconnect, h.blockFrames]
  requests := by
    rw [requests_openedFor, requests_disconnect, blockFrames_disconnect, h.requests, h.blockFrames]

end SoundSystem.Follows

namespace Deployment

variable {d e : Deployment (Recorded η) (Numbered σ) γ} {p : Pick} {frames : UInt32}
  {earlier : List OutputRequest}

/-- An accepted change leads to the next pick, and to a request for it. -/
theorem follows_of_accepted (h : d.system.Follows p frames earlier) {event : SystemEvent γ}
    {change : FormatChange} (haccepted : event.accepted? = some change)
    (hstep : step H.recorded d event = .ok e) :
    e.system.Follows (p.apply change) frames (earlier ++ [p.request frames]) := by
  cases event with
  | volume | stop | shared => cases haccepted
  | change change' =>
    simp only [SystemEvent.accepted?, Option.ite_none_right_eq_some, Option.some.injEq] at haccepted
    obtain ⟨hlisted, rfl⟩ := haccepted
    obtain ⟨log, hchange⟩ := changeFormat_of_listed (H := H.recorded) h.isOn h.menu hlisted
    simp only [step, hchange, ok_bind] at hstep
    cases hstep
    exact h.reopened (p.apply change')

/-- Any other event, short of a stop, leads to no request. -/
theorem follows_of_not_accepted (h : d.system.Follows p frames earlier) {event : SystemEvent γ}
    (hstop : event.isStop = false) (haccepted : event.accepted? = none)
    (hstep : step H.recorded d event = .ok e) : e.system.Follows p frames earlier := by
  cases event with
  | stop => cases hstop
  | volume change => exact h.aside (aside_of_volume hstep)
  | shared step => exact h.aside (aside_of_shared hstep)
  | change change =>
    have hlisted : change.isListed ≠ true := by simpa [SystemEvent.accepted?] using haccepted
    cases hstray : change.stray? with
    | none => exact absurd (FormatChange.stray?_eq_none_iff.1 hstray) hlisted
    | some entry =>
      have hchange := changeFormat_of_stray (H := H.recorded) h.isOn h.menu hstray
      simp only [step, hchange, ok_bind] at hstep
      cases hstep
      exact h

/-- The requests of a run are those for the picks it leads through. -/
theorem follows_run {events : List (SystemEvent γ)}
    (hstop : ∀ event ∈ events, event.isStop = false) (h : d.system.Follows p frames earlier)
    (hrun : run H.recorded events d = .ok e) :
    e.system.isOn = true ∧ e.system.blockFrames = frames ∧
    e.system.menu = (p.after (acceptedChanges events)).menu ∧
    e.system.host.calls.requests =
      earlier ++ (p.through (acceptedChanges events)).map (·.request frames) := by
  -- the request for the first pick is on record already, and `earlier` stands for those before it
  induction events generalizing d p earlier with
  | nil =>
    cases hrun
    exact ⟨h.isOn, h.blockFrames, h.menu, h.requests⟩
  | cons event rest ih =>
    unfold run at hrun ih
    rw [List.foldlM_cons] at hrun
    obtain ⟨next, hnext, hrun⟩ := bind_eq_ok_iff.1 hrun
    have hrest : ∀ event ∈ rest, event.isStop = false :=
      fun event hmem => hstop event (List.mem_cons_of_mem _ hmem)
    cases haccepted : event.accepted? with
    | none =>
      have hfollows := follows_of_not_accepted h (hstop event List.mem_cons_self) haccepted hnext
      rw [acceptedChanges, List.filterMap_cons_none haccepted]
      exact ih hrest hfollows hrun
    | some change =>
      have hfollows := follows_of_accepted h haccepted hnext
      obtain ⟨hon, hframes, hmenu, hrequests⟩ := ih hrest hfollows hrun
      rw [acceptedChanges, List.filterMap_cons_some haccepted]
      refine ⟨hon, hframes, hmenu, ?_⟩
      rw [hrequests, List.append_assoc, Pick.through, Pick.through, List.scanl_cons, List.map_cons]
      rfl

end Deployment

theorem follows_course {host : η} {settings : Settings} {guest : γ}
    (hcheck : settings.check = .ok ()) (hon : settings.soundOff = false)
    {events : List (SystemEvent γ)} (hstop : ∀ event ∈ events, event.isStop = false)
    {d : Deployment (Recorded η) (Numbered σ) γ}
    (hd : course H.recorded { host } settings guest events = .ok (.ok d)) :
    d.system.isOn = true ∧ d.system.blockFrames = settings.blockFrames ∧
    d.system.menu = (settings.pick.after (acceptedChanges events)).menu ∧
    d.calls.requests =
      (settings.pick.through (acceptedChanges events)).map (·.request settings.blockFrames) := by
  obtain ⟨s, log, hstart, hrun⟩ := course_eq_ok_iff.1 hd
  obtain ⟨log', hready⟩ := start_of_on H.recorded { host } hcheck hon
  rw [hready] at hstart
  cases hstart
  have hfollows : ((ready { host } settings).openedFor H.recorded settings.pick).2.Follows
      settings.pick settings.blockFrames [] :=
    ⟨isOn_openedFor _ _ _, menu_openedFor _ _ _, blockFrames_openedFor _ _ _,
      requests_openedFor _ _⟩
  exact Deployment.follows_run hstop hfollows hrun

/-! ## The answer to a request -/

/-- An accepted change returns the host's error and leaves the device closed, or keeps the session.
    The selection is the next one in both cases. -/
theorem SoundSystem.changeFormat_answer {s : SoundSystem η σ} {p : Pick} (hon : s.isOn = true)
    (hmenu : s.menu = p.menu) {change : FormatChange} (hlisted : change.isListed = true) :
    ∃ result t log, s.changeFormat H change = .ok ⟨(result, t), log⟩ ∧
      t.menu.selection? = some (p.apply change).selection ∧
      match (H.acquire (s.disconnect H).host ((p.apply change).request s.blockFrames)).1.value with
      | .error cause => result = .error cause ∧ t.isConnected = false
      | .ok session =>
          result = .ok () ∧ t.session? = some session ∧ t.status.Reports session.format := by
  obtain ⟨log, hchange⟩ := changeFormat_of_listed (H := H) hon hmenu hlisted
  refine ⟨_, _, log, hchange, ?_, ?_⟩
  · exact (congrArg FormatMenu.selection? (menu_openedFor _ _ _)).trans (Pick.selection?_menu _)
  · have hclosed : (s.disconnect H).session? = none := session?_disconnect H s
    rw [← blockFrames_disconnect H s]
    cases (H.acquire (s.disconnect H).host
        ((p.apply change).request (s.disconnect H).blockFrames)).1.value with
    | error cause =>
      refine ⟨rfl, ?_⟩
      dsimp only [keep, isConnected]
      rw [hclosed]
      rfl
    | ok session => exact ⟨rfl, rfl, Status.reports_publish _ _⟩

/-- **What is asked of the host.** With sound on and up to a stop, the requests are one for the
    first pick and one for each next pick that an accepted change leads to, in order, whatever the
    host answers. The change after these is asked for in the same way: if the host refuses it, its
    error is returned and the device is closed, and if the host grants it, the device is open with
    the granted format. In both cases the selection has advanced. -/
theorem course_requests (H : OutputHost η σ) (host : η) {settings : Settings} (guest : γ)
    (hcheck : settings.check = .ok ()) (hon : settings.soundOff = false)
    {events : List (SystemEvent γ)} (hstop : ∀ event ∈ events, event.isStop = false) :
    ((∀ event ∈ events, event.isShared = false) →
      ∃ d, course H.recorded { host } settings guest events = .ok (.ok d)) ∧
    ∀ d, course H.recorded { host } settings guest events = .ok (.ok d) →
      let frames := 4096 >>> settings.bufferShift
      let pick := settings.pick.after (acceptedChanges events)
      let s := d.forget.system
      course H host settings guest events = .ok (.ok d.forget) ∧
      d.calls.requests =
        (settings.pick.through (acceptedChanges events)).map (·.request frames) ∧
      s.menu.selection? = some pick.selection ∧
      ∀ change, change.isListed = true →
        ∃ result t log, s.changeFormat H change = .ok ⟨(result, t), log⟩ ∧
          t.menu.selection? = some (pick.apply change).selection ∧
          match (H.acquire (s.disconnect H).host ((pick.apply change).request frames)).1.value with
          | .error cause => result = .error cause ∧ t.isConnected = false
          | .ok session =>
              result = .ok () ∧ t.session? = some session ∧ t.status.Reports session.format := by
  refine ⟨exists_course hcheck, fun d hd => ?_⟩
  have hframes : settings.blockFrames = 4096 >>> settings.bufferShift :=
    Settings.blockFrames_of_check hcheck
  obtain ⟨hisOn, hblockFrames, hmenu, hrequests⟩ := follows_course hcheck hon hstop hd
  rw [hframes] at hrequests hblockFrames
  refine ⟨course_forget hd, hrequests, ?_, fun change hlisted => ?_⟩
  · exact (congrArg FormatMenu.selection? hmenu).trans (Pick.selection?_menu _)
  · have hanswer := changeFormat_answer (H := H) (s := d.forget.system) hisOn hmenu hlisted
    rwa [show d.forget.system.blockFrames = _ from hblockFrames] at hanswer

/-- A preference that is not listed falls back on the last entry. The first and the third request
    are refused, and the change to a size that is not listed is no reason to ask. -/
theorem course_requests_two_refused :
    let settings : Settings := { bufferShift := 12, preferredRate := some 9 }
    let host : PlannedHost := { plan := [.refuse .deviceMissing,
      .grant none none none none "granted", .refuse (.deviceRefused "busy")] }
    let events : List (SystemEvent Unit) :=
      [.change (.rate 0), .change (.all ⟨1, 5, 0⟩), .change (.size 0)]
    settings.check = .ok () ∧ settings.soundOff = false ∧
    (∀ event ∈ events, event.isStop = false) ∧
    ∃ d : Deployment (Recorded PlannedHost) (Numbered BlockFiller) Unit,
      course PlannedHost.host.recorded { host } settings () events = .ok (.ok d) ∧
      d.calls.requests = [⟨44100, .word, 2, 1⟩, ⟨11025, .word, 2, 1⟩, ⟨11025, .byte, 2, 1⟩] ∧
      d.system.menu.selection? = some ⟨0, 0, 1⟩ := by
  intro settings host events
  have hcheck : settings.check = .ok () := rfl
  have hstop : ∀ event ∈ events, event.isStop = false := by decide
  have hrequests := course_requests PlannedHost.host host () hcheck rfl hstop
  obtain ⟨d, hd⟩ := hrequests.1 (by decide)
  obtain ⟨-, hasked, hselected, -⟩ := hrequests.2 d hd
  exact ⟨hcheck, rfl, hstop, d, hd, hasked, hselected⟩

end GuestAudio
