import GuestAudio.Device.Planned
import GuestAudio.Proofs.System.Recording

set_option autoImplicit false

/-! # The published format

The status shows the format that the host granted last, whatever happened since: a request that was
refused, a change that was rejected, a stop, or work on the sources and the mixer (`course_status`).
The session keeps a format of its own, and while there is a session the two are the same. -/

namespace GuestAudio

/-! ## What a status reports -/

/-- The status shows this format. -/
structure Status.Reports (s : Status) (f : OutputFormat) : Prop where
  sampleRate : s.sampleRate = f.sampleRate
  sampleBits : s.sampleBits = f.sampleBits
  channels : s.channels = f.channels
  framesPerBlock : s.framesPerBlock = f.framesPerBlock

/-- What is reported before any device is open. -/
def OutputFormat.unopened : OutputFormat where
  sampleRate := 44100
  layout := .word
  channels := 2
  framesPerBlock := 0

theorem Status.reports_initial : Status.initial.Reports .unopened := ⟨rfl, rfl, rfl, rfl⟩

theorem Status.reports_publish (s : Status) (f : OutputFormat) : (s.publish f).Reports f :=
  ⟨rfl, rfl, rfl, rfl⟩

/-- The sources and the mixer are no part of the format. -/
theorem Status.Reports.aside {s : Status} {f : OutputFormat} (h : s.Reports f) (sources : Nat)
    (mixer : UInt32) : Status.Reports { s with sources, mixer } f :=
  ⟨h.sampleRate, h.sampleBits, h.channels, h.framesPerBlock⟩

/-! ## The format granted last -/

/-- The format granted last, or what is reported before any was. -/
def HostCalls.lastFormat (calls : HostCalls) : OutputFormat := calls.formats.getLastD .unopened

theorem HostCalls.lastFormat_concat (calls : HostCalls) (call : HostCall) :
    lastFormat (calls ++ [call]) = call.format?.getD calls.lastFormat := by
  rw [lastFormat, formats_concat]
  cases call.format? with
  | none => rw [Option.toList_none, List.append_nil, Option.getD_none, lastFormat]
  | some format => rw [Option.toList_some, List.getLastD_concat, Option.getD_some]

open SoundSystem

variable {η σ γ : Type} {H : OutputHost η σ} {s : SoundSystem (Recorded η) (Numbered σ)}

/-- The status and the session both have the format that the host granted last. -/
structure SoundSystem.UpToDate (s : SoundSystem (Recorded η) (Numbered σ)) : Prop where
  reports : s.status.Reports s.host.calls.lastFormat
  format_eq : ∀ session, s.session? = some session → session.format = s.host.calls.lastFormat

namespace SoundSystem.UpToDate

theorem disconnect (h : s.UpToDate) : (s.disconnect H.recorded).UpToDate where
  reports := by
    rw [HostCalls.lastFormat, formats_disconnect, status_disconnect]
    exact h.reports
  format_eq session hsession := by
    rw [session?_disconnect] at hsession
    cases hsession

theorem openedFor (h : s.UpToDate) (hclosed : s.session? = none) (p : Pick) :
    (s.openedFor H.recorded p).2.UpToDate := by
  dsimp only [SoundSystem.openedFor, OutputHost.recorded]
  cases (H.acquire s.host.host (p.request s.blockFrames)).1.value with
  | error cause =>
    -- a refusal grants nothing, so what was granted last stays in the status
    refine ⟨?_, fun session hsession => ?_⟩
    · dsimp only [Except.map, keep]
      rw [HostCalls.lastFormat_concat]
      exact h.reports
    · dsimp only [Except.map, keep] at hsession
      rw [hclosed] at hsession
      cases hsession
  | ok session =>
    have hlast : HostCalls.lastFormat (s.host.calls ++
        [.ofAnswer (p.request s.blockFrames) s.host.calls.begun.length (.ok session)]) =
        session.format := HostCalls.lastFormat_concat _ _
    refine ⟨?_, fun kept hkept => ?_⟩
    · dsimp only [Except.map, keep]
      rw [hlast]
      exact Status.reports_publish _ _
    · cases hkept
      exact hlast.symm

end SoundSystem.UpToDate

theorem upToDate_course {host : η} {settings : Settings} {guest : γ}
    {events : List (SystemEvent γ)} {d : Deployment (Recorded η) (Numbered σ) γ}
    (hd : course H.recorded { host } settings guest events = .ok (.ok d)) :
    d.system.UpToDate := by
  have hinitial : (initial { host } settings : SoundSystem (Recorded η) (Numbered σ)).UpToDate :=
    ⟨Status.reports_initial, nofun⟩
  have hready : (ready { host } settings : SoundSystem (Recorded η) (Numbered σ)).UpToDate :=
    ⟨Status.reports_initial, nofun⟩
  refine (course_induction (P := SoundSystem.UpToDate) hinitial ?_ ?_ ?_ ?_ hd).2
  · exact hready.openedFor rfl _
  · intro s t _ h haside
    obtain ⟨sources, mixer, hstatus⟩ := haside.status
    refine ⟨?_, ?_⟩
    · rw [hstatus, haside.host]
      exact h.reports.aside sources mixer
    · rw [haside.session?, haside.host]
      exact h.format_eq
  · intro s _ h
    have hclosed : (s.disconnect H.recorded).UpToDate := h.disconnect
    exact ⟨hclosed.reports, hclosed.format_eq⟩
  · exact fun s p _ h _ => h.disconnect.openedFor (session?_disconnect H.recorded s) p

/-- **The status shows the format that was granted last.** On any host and through every course the
    status reports the format of the last session that the host granted, and 44100 Hz, 16 bits, two
    channels and no frames if it never granted any. So while the system is connected, the status
    reports the format of its session. -/
theorem course_status (H : OutputHost η σ) (host : η) (settings : Settings) (guest : γ)
    (events : List (SystemEvent γ)) {d : Deployment (Recorded η) (Numbered σ) γ}
    (hd : course H.recorded { host } settings guest events = .ok (.ok d)) :
    course H host settings guest events = .ok (.ok d.forget) ∧
    d.forget.system.status.Reports (d.calls.formats.getLastD
      { sampleRate := 44100, layout := .word, channels := 2, framesPerBlock := 0 }) ∧
    ∀ session, d.forget.system.session? = some session →
      d.forget.system.status.Reports session.format := by
  have hcurrent : d.system.UpToDate := upToDate_course hd
  refine ⟨course_forget hd, hcurrent.reports, fun session hsession => ?_⟩
  obtain ⟨numbered, hnumbered, rfl⟩ := Option.map_eq_some_iff.1 hsession
  have hreports := hcurrent.reports
  rw [← hcurrent.format_eq numbered hnumbered] at hreports
  exact hreports

/-- The host grants another rate, another layout, another channel and another block than it was
    asked for. A request that is refused, a stop, and the loss of a source change nothing of it. -/
theorem course_status_adjusted :
    let host : PlannedHost := { plan :=
      [.grant (some 48000) (some .byte) (some 1) (some 3) "other", .refuse .deviceMissing] }
    let events : List (SystemEvent Unit) :=
      [.shared .addSource, .change (.rate 0), .stop, .shared .removeSource]
    ∃ d : Deployment (Recorded PlannedHost) (Numbered BlockFiller) Unit,
      course PlannedHost.host.recorded { host } { bufferShift := 12 } () events = .ok (.ok d) ∧
      d.calls.formats = [⟨48000, .byte, 1, 3⟩] ∧ d.system.isConnected = false ∧
      d.system.status.Reports ⟨48000, .byte, 1, 3⟩ := by
  intro host events
  obtain ⟨d, hd, hformats, hclosed⟩ :
      ∃ d, course PlannedHost.host.recorded { host } { bufferShift := 12 } () events =
          .ok (.ok d) ∧
        d.calls.formats = [⟨48000, .byte, 1, 3⟩] ∧ d.system.isConnected = false :=
    ⟨_, rfl, rfl, rfl⟩
  have hstatus := (course_status PlannedHost.host host { bufferShift := 12 } () events hd).2.1
  rw [hformats] at hstatus
  exact ⟨d, hd, hformats, hclosed, hstatus⟩

end GuestAudio
