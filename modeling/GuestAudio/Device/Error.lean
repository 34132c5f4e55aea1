set_option autoImplicit false

/-! # What an output device can report

One type for each question that a device may fail to answer. Each has an escape for what only its
driver knows how to say, in the driver's words. -/

namespace GuestAudio

/-- The words in which every question passes on a driver's own text. -/
def driverText (text : String) : String := "A backend-specific error has occurred: " ++ text

def deviceGoneText : String :=
  "The requested device is no longer available. For example, it has been unplugged."

/-- Failure to list the supported setups. -/
inductive RangesError
  | deviceGone
  | badArgument
  | driver (text : String)
deriving Repr, DecidableEq

def RangesError.message : RangesError → String
  | deviceGone => deviceGoneText
  | badArgument =>
      "Invalid argument passed to the backend. For example, this happens when trying to read " ++
        "capture capabilities when the device does not support it."
  | driver text => driverText text

/-- Failure to give the default setup. -/
inductive DefaultSetupError
  | deviceGone
  | outputUnsupported
  | driver (text : String)
deriving Repr, DecidableEq

def DefaultSetupError.message : DefaultSetupError → String
  | deviceGone => deviceGoneText
  | outputUnsupported => "The requested stream type is not supported by the device."
  | driver text => driverText text

/-- Failure to build a stream. -/
inductive BuildError
  | deviceGone
  | setupUnsupported
  | badArgument
  | tooManyStreams
  | driver (text : String)
deriving Repr, DecidableEq

def BuildError.message : BuildError → String
  | deviceGone => deviceGoneText
  | setupUnsupported =>
      "The requested stream configuration is not supported by the device."
  | badArgument =>
      "The requested device does not support this capability (invalid argument)"
  | tooManyStreams => "Adding a new stream ID would cause an overflow"
  | driver text => driverText text

/-- Failure to start a stream. -/
inductive StartError
  | deviceGone
  | driver (text : String)
deriving Repr, DecidableEq

def StartError.message : StartError → String
  | deviceGone => "the device associated with the stream is no longer available"
  | driver text => driverText text

/-- Trouble with a running stream. -/
inductive RunningError
  | deviceGone
  | driver (text : String)
deriving Repr, DecidableEq

def RunningError.message : RunningError → String
  | deviceGone => deviceGoneText
  | driver text => driverText text

end GuestAudio
