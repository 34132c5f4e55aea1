import GuestAudio.Chime.Playhead
import GuestAudio.Device.Output
import GuestAudio.Log

set_option autoImplicit false

/-! # Playing the chime

The chime has a stream of its own, apart from the guest's sound. It takes the device's default setup
as it is and leaves the buffer size to the device. The stream may be built and yet not start, and
then it is given up. -/

namespace GuestAudio

/-- A stream built for a chime. -/
structure ChimeStream where
  setup : StreamSetup
  sampleType : NativeType
  playhead : Playhead

/-- What came of opening a stream for a chime. -/
structure ChimeAttempt where
  result : Except OutputError Unit
  /-- The stream that was built, even if it did not start. -/
  stream? : Option ChimeStream
  /-- The device afterwards. -/
  device? : Option OutputDevice

namespace ChimeStream

/-- The stream for a sound in a device's setup, if its samples can be fed. -/
def ofSetup? (sound : Sound) (setup : DeviceSetup) : Option ChimeStream :=
  setup.sample.native?.map fun sampleType =>
    { setup := {
        sampleRate := setup.sampleRate
        channels := setup.channels
        buffer := .any
        sample := setup.sample }
      sampleType
      playhead := Playhead.atStart sound setup.sampleRate setup.channels }

/-- Open the default device and start a stream for a sound. -/
def start (device? : Option OutputDevice) (sound : Sound) : ChimeAttempt :=
  match device? with
  | none => { result := .error .deviceMissing, stream? := none, device? := none }
  | some device =>
      let failed (cause : OutputError) : ChimeAttempt :=
        { result := .error cause, stream? := none, device? := some device }
      match device.defaultSetup with
      | .error e => failed (.ofDefaultSetupError e)
      | .ok setup =>
          match ofSetup? sound setup with
          | none => failed (.unfitSamples setup.sample.name)
          | some stream =>
              match device.build with
              | (.error e, device) =>
                  { result := .error (.ofBuildError e), stream? := none, device? := some device }
              | (.ok (), device) =>
                  let (played, device) := device.start
                  { result := played.mapError .ofStartError
                    stream? := some stream
                    device? := some device }

/-- The device asks for buffers of these sizes, one after the other. -/
def renderAll (t : NativeType) : Playhead → List Nat → Checked (List (List t.Sample))
  | _, [] => return []
  | p, n :: rest => do
      let (_, samples, p) ← p.render t (List.replicate n t.atRest)
      return samples :: (← renderAll t p rest)

/-- The samples of the buffers for which the device asks. -/
def buffers (s : ChimeStream) (sizes : List Nat) : Checked (List (List s.sampleType.Sample)) :=
  renderAll s.sampleType s.playhead sizes

end ChimeStream

namespace ChimeAttempt

/-- The stream, if it was built and started. -/
def running? (a : ChimeAttempt) : Option ChimeStream :=
  match a.result with
  | .ok () => a.stream?
  | .error _ => none

/-- What is logged of an attempt: why the chime is not heard, or the trouble that the device reports
    while it is. -/
def log (a : ChimeAttempt) (troubles : List RunningError) : Log :=
  match a.result with
  | .ok () => troubles.map .chimeStreamTrouble
  | .error cause => [.chimeFailed cause]

end ChimeAttempt

end GuestAudio
