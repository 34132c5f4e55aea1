import GuestAudio.Device.Planned
import GuestAudio.Proofs.System.Recording

set_option autoImplicit false

/-! # One session at a time

The record of a host that serves a system is orderly (`HostCalls.Orderly`): a request comes only
while no session is alive, the session that begins is the one that ends next, and it ends once.
Which session is alive after the last call is what the system itself holds, so that the system's own
answer to whether it is connected can be trusted (`course_sessions`). -/

namespace GuestAudio

namespace HostCalls

/-! ## Orderly records -/

/-- The call fits after a record with this many sessions, of which this one is alive, and makes that
    one alive. A request fits only while no session is alive, and the session that ends is the one
    that was. -/
inductive Fits (begun : Nat) : Option Nat → HostCall → Option Nat → Prop
  | refused (request : OutputRequest) (cause : OutputError) :
      Fits begun none (.refused request cause) none
  | granted (request : OutputRequest) (format : OutputFormat) :
      Fits begun none (.granted request begun format) (some begun)
  | released (session : Nat) : Fits begun (some session) (.released session) none

/-- A record in which every call fits, and the session that is alive after the last one. -/
inductive Orderly : HostCalls → Option Nat → Prop
  | start : Orderly [] none
  | next {calls : HostCalls} {call : HostCall} {alive? alive?' : Option Nat} :
      Orderly calls alive? → Fits calls.begun.length alive? call alive?' →
        Orderly (calls ++ [call]) alive?'

namespace Orderly

variable {calls earlier : HostCalls} {alive? : Option Nat}

/-- The sessions that began are those that ended, in the same order, and the one that is alive. -/
theorem begun_eq (h : Orderly calls alive?) : calls.begun = calls.ended ++ alive?.toList := by
  induction h with
  | start => rfl
  | next h hfits ih =>
    cases hfits with
    | refused | granted | released => simpa [HostCall.begun?, HostCall.ended?] using ih

theorem begun_eq_range (h : Orderly calls alive?) :
    calls.begun = List.range calls.begun.length := by
  induction h with
  | start => rfl
  | next h hfits ih =>
    cases hfits with
    | refused | released => simpa [HostCall.begun?] using ih
    | granted => simpa [HostCall.begun?, List.range_succ] using ih

theorem nodup_begun (h : Orderly calls alive?) : calls.begun.Nodup := by
  rw [h.begun_eq_range]
  exact List.nodup_range

theorem alive_eq (h : Orderly calls alive?) : calls.alive = alive?.toList := by
  -- no session begins twice, so the one that is alive is none of those that ended
  have hnodup := h.nodup_begun
  rw [h.begun_eq, List.nodup_append] at hnodup
  obtain ⟨-, -, hdisjoint⟩ := hnodup
  have hended : calls.ended.filter (fun session => session ∉ calls.ended) = [] := by
    simp
  have halive : alive?.toList.filter (fun session => session ∉ calls.ended) = alive?.toList := by
    rw [List.filter_eq_self]
    intro session hsession
    exact decide_eq_true fun hmem => hdisjoint session hmem session hsession rfl
  rw [alive, h.begun_eq, List.filter_append, hended, halive, List.nil_append]

/-- The record was orderly all along. -/
theorem of_prefix (h : Orderly calls alive?) (hearlier : earlier <+: calls) :
    ∃ alive?, Orderly earlier alive? := by
  induction h with
  | start =>
    rw [List.prefix_nil.1 hearlier]
    exact ⟨none, .start⟩
  | next h hfits ih =>
    rcases List.prefix_concat_iff.1 hearlier with rfl | hearlier
    · exact ⟨_, .next h hfits⟩
    · exact ih hearlier

theorem of_request {call : HostCall} (h : Orderly (earlier ++ [call]) alive?)
    (hrequest : call.request?.isSome = true) : Orderly earlier none := by
  generalize hcalls : earlier ++ [call] = calls at h
  cases h with
  | start => simp at hcalls
  | next h hfits =>
    obtain ⟨rfl, hcall⟩ := List.append_inj' hcalls rfl
    cases hcall
    cases hfits with
    | refused | granted => exact h
    | released => cases hrequest

end Orderly

end HostCalls

/-! ## The record of a course -/

open SoundSystem

variable {η σ γ : Type} {H : OutputHost η σ} {s : SoundSystem (Recorded η) (Numbered σ)}

/-- The host's record is orderly, and the session that is alive is the one the system holds. -/
def SoundSystem.Tidy (s : SoundSystem (Recorded η) (Numbered σ)) : Prop :=
  s.host.calls.Orderly (s.session?.map fun session => session.stream.number)

namespace SoundSystem.Tidy

theorem disconnect (h : s.Tidy) : (s.disconnect H.recorded).Tidy := by
  unfold Tidy at h
  unfold SoundSystem.disconnect
  cases hsession : s.session? with
  | none =>
    rw [hsession] at h
    simpa only [Tidy, hsession] using h
  | some session =>
    rw [hsession] at h
    exact .next h (.released session.stream.number)

theorem openedFor (h : s.Tidy) (hclosed : s.session? = none) (p : Pick) :
    (s.openedFor H.recorded p).2.Tidy := by
  unfold Tidy at h
  rw [hclosed] at h
  dsimp only [SoundSystem.openedFor, OutputHost.recorded]
  cases (H.acquire s.host.host (p.request s.blockFrames)).1.value with
  | error cause =>
    have hrefused := h.next (.refused (p.request s.blockFrames) cause)
    simpa only [Tidy, HostCall.ofAnswer, Except.map, keep, hclosed, Option.map_none] using hrefused
  | ok session => exact h.next (.granted (p.request s.blockFrames) session.format)

end SoundSystem.Tidy

theorem tidy_course {host : η} {settings : Settings} {guest : γ} {events : List (SystemEvent γ)}
    {d : Deployment (Recorded η) (Numbered σ) γ}
    (hd : course H.recorded { host } settings guest events = .ok (.ok d)) : d.system.Tidy := by
  have hready : (ready { host } settings : SoundSystem (Recorded η) (Numbered σ)).Tidy :=
    HostCalls.Orderly.start
  refine (course_induction (P := SoundSystem.Tidy) hready ?_ ?_ ?_ ?_ hd).2
  · exact hready.openedFor rfl _
  · intro s t _ h haside
    rwa [Tidy, haside.host, haside.session?]
  · exact fun s _ h => h.disconnect
  · exact fun s p _ h _ => h.disconnect.openedFor (session?_disconnect H.recorded s) p

/-- **One session at a time.** With settings within range, on any host, and through every course:
    a request is made only while no session is alive; there is one session more that began than
    ended if the system is connected, and else as many; a system that is connected is on; no session
    begins or ends twice, and those that ended began before; and after a stop all of them ended.
    Without steps on the shared state the course always comes to its end. -/
theorem course_sessions (H : OutputHost η σ) (host : η) {settings : Settings} (guest : γ)
    (hcheck : settings.check = .ok ()) (events : List (SystemEvent γ)) :
    ((∀ event ∈ events, event.isShared = false) →
      ∃ d, course H.recorded { host } settings guest events = .ok (.ok d)) ∧
    ∀ d, course H.recorded { host } settings guest events = .ok (.ok d) →
      course H host settings guest events = .ok (.ok d.forget) ∧
      (∀ (earlier : HostCalls) call later, d.calls = earlier ++ call :: later →
        call.request?.isSome = true → earlier.alive = []) ∧
      d.calls.begun.length = d.calls.ended.length + (if d.system.isConnected then 1 else 0) ∧
      (d.system.isConnected = true → d.system.isOn = true) ∧
      d.calls.begun.Nodup ∧
      (∀ earlier : HostCalls, earlier <+: d.calls → earlier.ended <+: earlier.begun) ∧
      (let stopped := d.system.stop H.recorded
       stopped.isConnected = false ∧ stopped.isOn = false ∧ stopped.host.calls.alive = [] ∧
        stopped.host.calls.begun = d.calls.begun ∧
        stopped.host.calls.ended = d.calls.begun) := by
  refine ⟨exists_course hcheck, fun d hd => ?_⟩
  have htidy : d.system.Tidy := tidy_course hd
  -- a stop calls the host as often as a disconnect does
  have hstopped : (d.system.disconnect H.recorded).Tidy := htidy.disconnect
  rw [Tidy, session?_disconnect] at hstopped
  have hbegun : (d.system.disconnect H.recorded).host.calls.begun = d.calls.begun :=
    begun_disconnect H d.system
  have hended := hstopped.begun_eq
  rw [hbegun, Option.map_none, Option.toList_none, List.append_nil] at hended
  refine ⟨course_forget hd, ?_, ?_, (proper_course hd).connected, htidy.nodup_begun, ?_,
    isConnected_stop _ _, rfl, hstopped.alive_eq, hbegun, hended.symm⟩
  · intro earlier call later hcalls hrequest
    have hearlier : earlier ++ [call] <+: d.calls := ⟨later, by rw [hcalls]; simp⟩
    obtain ⟨alive?, horderly⟩ := htidy.of_prefix hearlier
    exact (horderly.of_request hrequest).alive_eq
  · have hlength := congrArg List.length htidy.begun_eq
    rw [List.length_append] at hlength
    rw [Deployment.calls, hlength, isConnected]
    cases d.system.session? with
    | none => rfl
    | some session => rfl
  · intro earlier hearlier
    obtain ⟨alive?, horderly⟩ := htidy.of_prefix hearlier
    rw [horderly.begun_eq]
    exact List.prefix_append _ _

/-- The host grants the request at the start and refuses the one after the first change. The second
    change brings a second session, which ends when the system is stopped. -/
theorem course_sessions_refused_between :
    let settings : Settings := { bufferShift := 12 }
    let host : PlannedHost :=
      { plan := [.grant none none none none "first", .refuse .deviceMissing] }
    let events : List (SystemEvent Unit) := [.change (.rate 0), .change (.size 0)]
    settings.check = .ok () ∧
    ∃ d : Deployment (Recorded PlannedHost) (Numbered BlockFiller) Unit,
      course PlannedHost.host.recorded { host } settings () events = .ok (.ok d) ∧
      d.calls.begun = [0, 1] ∧ d.calls.ended = [0] ∧ d.calls.requests.length = 3 ∧
      (d.system.stop PlannedHost.host.recorded).host.calls.ended = [0, 1] := by
  intro settings host events
  have hcheck : settings.check = .ok () := rfl
  obtain ⟨d, hd, hbegun, hended, hrequests⟩ :
      ∃ d, course PlannedHost.host.recorded { host } settings () events = .ok (.ok d) ∧
        d.calls.begun = [0, 1] ∧ d.calls.ended = [0] ∧ d.calls.requests.length = 3 :=
    ⟨_, rfl, rfl, rfl, rfl⟩
  obtain ⟨-, -, -, -, -, -, -, -, -, -, hstopped⟩ :=
    (course_sessions PlannedHost.host host () hcheck events).2 d hd
  exact ⟨hcheck, d, hd, hbegun, hended, hrequests, hstopped.trans hbegun⟩

end GuestAudio
