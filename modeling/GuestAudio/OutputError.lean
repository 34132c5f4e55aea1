import GuestAudio.Device.Error
import GuestAudio.Toml.Value
import GuestAudio.Wav.Error

set_option autoImplicit false

/-! # Why there is no output

`OutputError` lists the ways in which setting up or opening the output can fail, each with the facts
that its wording needs; `OutputError.message` is the wording. What a device reports becomes an
`OutputError` by the question it failed to answer. -/

namespace GuestAudio

/-- The list of the format menu that an index refers to. -/
inductive MenuList
  | rates
  | sizes
  | channelCounts
deriving Repr, DecidableEq

def MenuList.name : MenuList → String
  | rates => "sample rate"
  | sizes => "sample size"
  | channelCounts => "channel count"

/-- Failures of setting up or opening the output. -/
inductive OutputError
  /-- The host has no output device. -/
  | deviceMissing
  /-- The host refused to open the device. -/
  | deviceRefused (reason : String)
  /-- The output stream could not be built. -/
  | streamRefused (reason : String)
  /-- The output stream could not be started. -/
  | startRefused (reason : String)
  /-- A sample format that cannot be fed or read. -/
  | unfitSamples (what : String)
  /-- An index outside its list, and the length of the list. -/
  | notListed (list : MenuList) (index length : Nat)
  /-- Settings out of range. -/
  | badSettings (reason : String)
  /-- The text of settings that cannot be read. -/
  | unreadableSettings (cause : TomlError)
  /-- A WAV file that cannot be read. -/
  | unreadableSound (cause : WavError)
  /-- The operation needs a device, and sound is switched off. -/
  | soundOff
deriving Repr, DecidableEq

namespace OutputError

def message : OutputError → String
  | deviceMissing => "no audio output device available"
  | deviceRefused reason => "cannot open audio: " ++ reason
  | streamRefused reason => "failed to build audio stream: " ++ reason
  | startRefused reason => "failed to play audio stream: " ++ reason
  | unfitSamples what => "unsupported sample format: " ++ what
  | notListed list index length =>
      "invalid " ++ list.name ++ " index " ++ toString index ++ " (catalog has " ++
        toString length ++ " entries)"
  | badSettings reason => "invalid audio configuration: " ++ reason
  | unreadableSettings cause => "failed to parse audio configuration: " ++ cause.message
  | unreadableSound cause => "failed to load WAV: " ++ cause.message
  | soundOff => "audio is disabled"

/-! ## Device reports -/

def ofRangesError (e : RangesError) : OutputError := deviceRefused e.message

def ofDefaultSetupError (e : DefaultSetupError) : OutputError := deviceRefused e.message

def ofBuildError (e : BuildError) : OutputError := streamRefused e.message

def ofStartError (e : StartError) : OutputError := startRefused e.message

end OutputError

end GuestAudio
