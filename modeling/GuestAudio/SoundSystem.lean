import GuestAudio.Block.Filler
import GuestAudio.Capabilities
import GuestAudio.Chime.Sound
import GuestAudio.Device.Output
import GuestAudio.Format.Menu
import GuestAudio.Settings

set_option autoImplicit false

/-! # The sound system

The system owns the format menu, the volume, the status, the rendezvous with the guest, and at most
one session. It works with any host.

A device that does not open is not an error at the start: the system stays silent, and the next
format change tries again. A format change checks its indices first; then it ends the session and
opens the device anew, and the selection is the new one whether or not the device opens. Without a
rendezvous, that is with sound switched off or after the system is stopped, nothing opens the device
any more. -/

namespace GuestAudio

/-- A sound system on a host with state `η` and streams of type `σ`. -/
structure SoundSystem (η σ : Type) where
  host : η
  menu : FormatMenu
  /-- Frames per block to ask for. -/
  blockFrames : UInt32
  volume : Volume
  status : Status := Status.initial
  /-- None with sound switched off or after the system is stopped. -/
  rendezvous? : Option Rendezvous := none
  session? : Option (Session σ) := none
  capabilities : CapabilitySet := CapabilitySet.advertised

namespace SoundSystem

variable {η σ γ : Type}

/-- A device is open. -/
def isConnected (s : SoundSystem η σ) : Bool := s.session?.isSome

/-- Sound is not switched off. -/
def isOn (s : SoundSystem η σ) : Bool := s.rendezvous?.isSome

/-- Open the device for the selected format. -/
def connect (H : OutputHost η σ) (s : SoundSystem η σ) :
    Checked (Logged (Except OutputError Unit × SoundSystem η σ)) := do
  if s.isOn then
    let ⟨(requested, menu), log₁⟩ ← s.menu.request s.blockFrames
    let s := { s with menu }
    match requested with
    | .error e => return ⟨(.error e, s), log₁⟩
    | .ok request =>
        let (⟨acquired, log₂⟩, host) := H.acquire s.host request
        let s := { s with host }
        match acquired with
        | .error e => return ⟨(.error e, s), log₁ ++ log₂⟩
        | .ok session =>
            let s := { s with status := s.status.publish session.format, session? := session }
            return ⟨(.ok (), s), log₁ ++ log₂⟩
  else return pure (.error .soundOff, s)

/-- Open the device, and log what keeps it from opening. -/
def connectOrLog (H : OutputHost η σ) (s : SoundSystem η σ) :
    Checked (Logged (Except OutputError Unit × SoundSystem η σ)) := do
  let ⟨(result, s), log⟩ ← s.connect H
  match result with
  | .ok () => return ⟨(.ok (), s), log⟩
  | .error e => return ⟨(.error e, s), log ++ [.noOutput e]⟩

/-- End the session, if there is one. -/
def disconnect (H : OutputHost η σ) (s : SoundSystem η σ) : SoundSystem η σ :=
  match s.session? with
  | none => s
  | some session => { s with host := H.release s.host session, session? := none }

/-- Start the system and try to open the device. Only settings that are out of range are refused. -/
def start (H : OutputHost η σ) (host : η) (settings : Settings) :
    Checked (Logged (Except OutputError (SoundSystem η σ))) := do
  match settings.check with
  | .error e => return pure (.error e)
  | .ok () =>
      let s : SoundSystem η σ := {
        host
        menu := FormatMenu.preferring (settings.preferredRate.map UInt64.toNat)
          (settings.preferredSize.map UInt64.toNat) (settings.preferredChannels.map UInt64.toNat)
        blockFrames := settings.blockFrames
        volume := settings.volume }
      if settings.soundOff then return pure (.ok s)
      -- a device that does not open is logged, and tried again by the next format change
      let ⟨(_, s), log⟩ ← { s with rendezvous? := some Rendezvous.idle }.connectOrLog H
      return ⟨.ok s, log⟩

/-- End the session and give up the rendezvous. Doing so twice is harmless. -/
def stop (H : OutputHost η σ) (s : SoundSystem η σ) : SoundSystem η σ :=
  { s.disconnect H with rendezvous? := none }

/-- Change the selected format and open the device anew. -/
def changeFormat (H : OutputHost η σ) (s : SoundSystem η σ) (change : FormatChange) :
    Checked (Logged (Except OutputError Unit × SoundSystem η σ)) := do
  if s.isOn then
    -- told first, even if the change is then refused
    let active := if s.status.hasSource then [.changedWhileActive s.status.sources] else []
    let ⟨(accepted, menu), log₁⟩ := s.menu.apply change
    match accepted with
    | .error e => return ⟨(.error e, s), active ++ log₁⟩
    | .ok () =>
        -- the host sees the old session end before the new request
        let ⟨result, log₂⟩ ← { s.disconnect H with menu }.connectOrLog H
        return ⟨result, active ++ log₁ ++ log₂⟩
  else return pure (.error .soundOff, s)

/-- Change the volume or a mute. -/
def changeVolume (s : SoundSystem η σ) (change : VolumeChange) : SoundSystem η σ :=
  { s with volume := s.volume.apply change }

/-! ## Working with the guest -/

/-- What is shared with the guest, unless sound is switched off. -/
def shared? (s : SoundSystem η σ) : Option SharedState :=
  s.rendezvous?.map fun rendezvous => { rendezvous, status := s.status }

/-- The system after what it shares with the guest changed. -/
def withShared (s : SoundSystem η σ) (shared : SharedState) : SoundSystem η σ :=
  { s with rendezvous? := some shared.rendezvous, status := shared.status }

/-- Let the open stream work on the shared state, the volume and a guest. Nothing happens, and there
    is no answer, without an open stream. -/
def runStream {α : Type} (s : SoundSystem η σ) (guest : γ)
    (work : σ → Machine γ → Run (Logged (α × σ × Machine γ))) :
    Run (Logged (Option α × SoundSystem η σ × γ)) :=
  match s.session?, s.shared? with
  | some session, some shared => do
      let ⟨(answer, stream, m), log⟩ ← work session.stream { shared, volume := s.volume, guest }
      let s := { s.withShared m.shared with session? := some { session with stream } }
      return ⟨(some answer, s, m.guest), log⟩
  | _, _ => return pure (none, s, guest)

/-! ## The start-up chime -/

/-- The sound to play at the start, unless sound is switched off or the file cannot be read. -/
def chime (s : SoundSystem η σ) (name : String) (file? : Option Bytes) : Logged (Option Sound) :=
  if s.isOn then
    match Sound.load file? with
    | .ok sound => pure (some sound)
    | .error cause => do
        Logged.tell (.chimeUnreadable name cause)
        pure none
  else pure none

end SoundSystem

end GuestAudio
