import GuestAudio.Device.Planned
import GuestAudio.Proofs.System.Course

set_option autoImplicit false

/-! # Refused changes

A change of the format is refused with sound off, and for an index that is not listed. A refusal
leaves the whole system as it was, its host included, so that a host with a record of its calls
shows that it was not called. And sound that is off stays off: no event gives the system a
rendezvous or a session again (`course_refusals`). -/

namespace GuestAudio

open SoundSystem

variable {η σ γ : Type}

/-- No event turns sound on, and none reaches the host while it is off. -/
theorem Deployment.run_of_off {H : OutputHost η σ} {d e : Deployment η σ γ}
    (h : d.system.Proper) (hoff : d.system.isOn = false) {events : List (SystemEvent γ)}
    (hrun : run H events d = .ok e) :
    e.system.Proper ∧ e.system.isOn = false ∧ e.system.host = d.system.host := by
  refine run_induction
    (P := fun e => e.system.Proper ∧ e.system.isOn = false ∧ e.system.host = d.system.host)
    ?_ ⟨h, hoff, rfl⟩ hrun
  rintro s event t ⟨hproper, hoff, hhost⟩ hstep
  refine ⟨proper_step hproper hstep, ?_⟩
  rcases step_cases hproper hstep with haside | hstop | ⟨p, change, -, hon, -⟩
  · rw [haside.isOn, haside.host]
    exact ⟨hoff, hhost⟩
  · have hsession : s.system.session? = none := by
      cases hs : s.system.session? with
      | none => rfl
      | some session =>
        have hon := hproper.connected (by rw [isConnected, hs]; rfl)
        rw [hoff] at hon
        cases hon
    rw [hstop, SoundSystem.stop, disconnect_of_session?_eq_none H hsession]
    exact ⟨rfl, hhost⟩
  · rw [hoff] at hon
    cases hon

/-- **A refused change changes nothing, and sound that is off stays off.** With sound off every
    change is refused. With sound on, a change with an index that is not listed is refused for the
    first such index, in the order rate, size, channels. In both cases the system is what it was.
    Once sound is off, no events turn it on, open a device, give out a port, or reach the host. -/
theorem course_refusals (H : OutputHost η σ) (host : η) (settings : Settings) (guest : γ)
    (events : List (SystemEvent γ)) {d : Deployment η σ γ}
    (hd : course H host settings guest events = .ok (.ok d)) :
    (d.system.isOn = false → ∀ change,
      d.system.changeFormat H change = .ok ⟨(.error .soundOff, d.system), []⟩) ∧
    (d.system.isOn = true → ∀ change, change.isListed = false →
      ∃ list index, change.stray? = some (list, index) ∧
        d.system.changeFormat H change = .ok
          ⟨(.error (.notListed list index list.length), d.system),
            if d.system.status.hasSource then [.changedWhileActive d.system.status.sources]
            else []⟩) ∧
    (d.system.isOn = false → ∀ later e, Deployment.run H later d = .ok e →
      e.system.isOn = false ∧ e.system.isConnected = false ∧ e.system.shared? = none ∧
        e.system.host = d.system.host) := by
  have hproper := proper_course hd
  refine ⟨fun hoff change => changeFormat_of_off hoff, fun hon change hlisted => ?_,
    fun hoff later e hrun => ?_⟩
  · obtain ⟨p, hmenu⟩ := hproper.picked hon
    cases hstray : change.stray? with
    | none =>
      rw [FormatChange.stray?_eq_none_iff.1 hstray] at hlisted
      cases hlisted
    | some entry => exact ⟨entry.1, entry.2, rfl, changeFormat_of_stray hon hmenu hstray⟩
  · obtain ⟨hproper, hoff, hhost⟩ := Deployment.run_of_off hproper hoff hrun
    have hclosed : e.system.isConnected = false := by
      rw [← Bool.not_eq_true]
      intro hopen
      rw [hproper.connected hopen] at hoff
      cases hoff
    have hshared : e.system.shared? = none := by
      rw [isOn, Option.isSome_eq_false_iff, Option.isNone_iff_eq_none] at hoff
      rw [SoundSystem.shared?, hoff]
      rfl
    exact ⟨hoff, hclosed, hshared, hhost⟩

/-- With a source active and the device closed, as the host refuses it at first, a change with two
    indices that are not listed is refused for the size, which comes first. -/
theorem course_refusals_two_strays :
    ∃ d : Deployment PlannedHost BlockFiller Unit,
      course PlannedHost.host { plan := [.refuse .deviceMissing] } { bufferShift := 12 } ()
        [.shared .addSource] = .ok (.ok d) ∧
      d.system.isOn = true ∧ d.system.isConnected = false ∧
      d.system.changeFormat PlannedHost.host (.all ⟨0, 2, 7⟩) =
        .ok ⟨(.error (.notListed .sizes 2 2), d.system), [.changedWhileActive 1]⟩ := by
  refine ⟨_, rfl, rfl, rfl, ?_⟩
  obtain ⟨list, index, hstray, hchange⟩ := (course_refusals PlannedHost.host
    { plan := [.refuse .deviceMissing] } { bufferShift := 12 } () [.shared .addSource]
    rfl).2.1 rfl (.all ⟨0, 2, 7⟩) rfl
  cases hstray
  exact hchange

end GuestAudio
