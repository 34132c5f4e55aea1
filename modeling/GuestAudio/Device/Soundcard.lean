import GuestAudio.Block.Playback
import GuestAudio.Device.Output

set_option autoImplicit false

/-! # The sound card as a host

Opening the default output device goes through these steps, and the first that fails ends it: find
the device, choose a setup, build a stream, start it. A stream is first built with the
chosen number of frames as its fixed buffer size; a device that refuses this is asked once more,
with the buffer size left to it.

A stream is alive from when it is built until it is dropped: at once if it does not start, and else
with its session. -/

namespace GuestAudio

/-- A running output stream. -/
structure OutputStream where
  setup : StreamSetup
  sampleType : NativeType
  playback : Playback

namespace OutputStream

variable {γ : Type}

/-- The device asks for samples: its buffer, filled, and what else changed. -/
def feed (s : OutputStream) (handler : InterruptHandler γ) (m : Machine γ)
    (buffer : List s.sampleType.Sample) :
    Run (Logged (List s.sampleType.Sample × OutputStream × Machine γ)) := do
  let ⟨r, log⟩ ← s.playback.render s.sampleType handler m buffer
  return ⟨(r.samples, { s with playback := r.playback }, r.machine), log⟩

theorem setup_of_feed {s t : OutputStream} {handler : InterruptHandler γ} {m m' : Machine γ}
    {buffer samples : List s.sampleType.Sample} {log : Log}
    (h : s.feed handler m buffer = .ok ⟨(samples, t, m'), log⟩) : t.setup = s.setup := by
  obtain ⟨rendered, -, h⟩ := bind_eq_ok_iff.1 h
  cases h
  rfl

/-- The device reports trouble with the stream. -/
def report (_ : OutputStream) (cause : RunningError) : Logged Unit :=
  Logged.tell (.streamTrouble cause)

end OutputStream

/-- What comes of asking a device for a stream: the answer, the device afterwards, and the
    setups it was asked for. -/
structure BuildAttempt where
  result : Except OutputError OutputStream
  device : OutputDevice
  tried : List StreamSetup

namespace OutputDevice

/-- Build a stream for a choice. -/
def buildFor (d : OutputDevice) (choice : StreamChoice) (buffer : BufferDemand)
    (format : OutputFormat) : BuildAttempt :=
  match choice.sample.native? with
  | none =>
      { result := .error (.unfitSamples choice.sample.name), device := d, tried := [] }
  | some sampleType =>
      let setup : StreamSetup := {
        sampleRate := choice.sampleRate
        channels := choice.channels
        buffer
        sample := choice.sample }
      match d.build with
      | (.error e, device) => { result := .error (.ofBuildError e), device, tried := [setup] }
      | (.ok (), device) =>
          { result := .ok { setup, sampleType, playback := Playback.ofFormat format }
            device
            tried := [setup] }

/-- Build a stream with a fixed buffer size, else with the size left to the device. -/
def buildEither (d : OutputDevice) (choice : StreamChoice) (format : OutputFormat) :
    Logged BuildAttempt :=
  let first := d.buildFor choice (.fixed choice.frames) format
  match first.result with
  | .ok _ => pure first
  | .error cause => do
      Logged.tell (.fixedBufferRefused choice.frames cause)
      let second := first.device.buildFor choice .any format
      pure { second with tried := first.tried ++ second.tried }

end OutputDevice

/-- The default output device, if there is one, and the streams that were asked of it. -/
structure Soundcard where
  device? : Option OutputDevice := none
  /-- The setup of every stream that was to be built, in order. -/
  tried : List StreamSetup := []
  /-- The setups of the streams that are alive, the newest first. -/
  live : List StreamSetup := []

namespace Soundcard

/-- A stream that is built is alive. -/
def keep (card : Soundcard) (stream : OutputStream) : Soundcard :=
  { card with live := stream.setup :: card.live }

/-- A stream that is dropped is not alive any more. -/
def drop (card : Soundcard) (stream : OutputStream) : Soundcard :=
  { card with live := card.live.erase stream.setup }

theorem drop_of_live {card : Soundcard} {stream : OutputStream} {others : List StreamSetup}
    (h : card.live = stream.setup :: others) : card.drop stream = { card with live := others } := by
  rw [drop, h, List.erase_cons_head]

/-- Open the default output device. -/
def acquire (card : Soundcard) (r : OutputRequest) :
    Logged (Except OutputError (Session OutputStream)) × Soundcard :=
  match card.device? with
  | none => (pure (.error .deviceMissing), card)
  | some device =>
      match device.choose r with
      | .error e => (pure (.error e), card)
      | .ok choice =>
          let format : OutputFormat := {
            sampleRate := choice.sampleRate
            layout := r.layout
            channels := choice.channels
            framesPerBlock := choice.frames }
          let ⟨attempt, log⟩ := device.buildEither choice format
          let card :=
            { card with device? := some attempt.device, tried := card.tried ++ attempt.tried }
          match attempt.result with
          | .error e => (⟨.error e, log⟩, card)
          | .ok stream =>
              let (started, device) := attempt.device.start
              let card := { card.keep stream with device? := some device }
              match started with
              -- a stream that does not start is given up
              | .error e => (⟨.error (.ofStartError e), log⟩, card.drop stream)
              | .ok () => (⟨.ok { format, driver := device.driverName, stream }, log⟩, card)

/-- The stream of a session is dropped with it. -/
def release (card : Soundcard) (session : Session OutputStream) : Soundcard :=
  card.drop session.stream

/-- The sound card's operations. -/
def host : OutputHost Soundcard OutputStream where
  acquire := acquire
  release := release

end Soundcard

end GuestAudio
