import GuestAudio.Device.Choice
import GuestAudio.Format.Output
import GuestAudio.Log
import GuestAudio.Text.Quoted

set_option autoImplicit false

/-! # Output devices and hosts

What a program can ask of an output device: its name, the ranges it supports, its default setup,
to build a stream, and to start one. How it answers is a value, and building and starting streams
use up the answers that are prepared for them.

A host opens an output device on request and decides what it can grant. What it returns is a
session: the granted format, the name of the driver, and the running stream. A session ends when it
is released to its host. -/

namespace GuestAudio

/-! ## Devices -/

/-- A device, as the answers that it gives. -/
structure OutputDevice where
  /-- The name of the system that offers the device. -/
  hostName : String := "ALSA"
  /-- The device's name, if it can give one. -/
  name? : Option String
  ranges : Except RangesError (List SetupRange)
  defaultSetup : Except DefaultSetupError DeviceSetup
  /-- What becomes of the next streams to build; past the end all succeed. -/
  builds : List (Option BuildError) := []
  /-- What becomes of the next streams to start; past the end all succeed. -/
  starts : List (Option StartError) := []

namespace OutputDevice

/-- The name of the driver: the device's name, after that of the system that offers it. -/
def driverName (d : OutputDevice) : String := d.hostName ++ "/" ++ d.name?.getD "unknown"

/-- Build a stream. -/
def build (d : OutputDevice) : Except BuildError Unit × OutputDevice :=
  match d.builds with
  | [] => (.ok (), d)
  | none :: builds => (.ok (), { d with builds })
  | some e :: builds => (.error e, { d with builds })

/-- Start a stream. -/
def start (d : OutputDevice) : Except StartError Unit × OutputDevice :=
  match d.starts with
  | [] => (.ok (), d)
  | none :: starts => (.ok (), { d with starts })
  | some e :: starts => (.error e, { d with starts })

/-- The setup for a request: the best supported range, else the default setup. -/
def choose (d : OutputDevice) (r : OutputRequest) : Except OutputError StreamChoice := do
  let ranges ← d.ranges.mapError OutputError.ofRangesError
  match bestChoice? ranges r with
  | some choice => return choice
  | none =>
      let setup ← d.defaultSetup.mapError OutputError.ofDefaultSetupError
      fallbackChoice setup r

end OutputDevice

/-! ## Sessions and hosts -/

/-- An open device. -/
structure Session (σ : Type) where
  /-- What was granted. -/
  format : OutputFormat
  /-- The name of the driver that feeds the device. -/
  driver : String
  /-- The running stream. -/
  stream : σ

/-- The session in one line, field by field. -/
def Session.describe {σ : Type} (s : Session σ) : String :=
  "DeviceSession \x7b format: " ++ s.format.describe ++ ", driver: " ++ quoted s.driver ++ " \x7d"

/-- A host with state `η` whose streams are of type `σ`. -/
structure OutputHost (η σ : Type) where
  /-- Open the device for a request, and begin a session. -/
  acquire : η → OutputRequest → Logged (Except OutputError (Session σ)) × η
  /-- End a session. -/
  release : η → Session σ → η

end GuestAudio
