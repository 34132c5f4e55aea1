set_option autoImplicit false

/-! # Why a WAV file is refused -/

namespace GuestAudio

/-- What is wrong with a WAV header. -/
inductive WavFlaw
  | noRiffTag
  | noWaveTag
  | missingFormat
  | formatSize
  | unexpectedFormatSize
  | zeroChannels
  | bitsExceedSample
  | inconsistentFormat
  | bitsNotWholeBytes
  | zeroBits
  | notPcmBits
  | notFloatBits
  | extendedSize
  | extensibleSize
  | dataNotWholeSamples
  | dataNotWholeFrames
deriving Repr, DecidableEq

def WavFlaw.message : WavFlaw → String
  | noRiffTag => "no RIFF tag found"
  | noWaveTag => "no WAVE tag found"
  | missingFormat => "missing fmt chunk"
  | formatSize => "invalid fmt chunk size"
  | unexpectedFormatSize => "unexpected fmt chunk size"
  | zeroChannels => "file contains zero channels"
  | bitsExceedSample => "sample bits exceeds size of sample"
  | inconsistentFormat => "inconsistent fmt chunk"
  | bitsNotWholeBytes => "bits per sample is not a multiple of 8"
  | zeroBits => "bits per sample is 0"
  | notPcmBits => "bits per sample is not 8 or 16"
  | notFloatBits => "bits per sample is not 32"
  | extendedSize => "unexpected WAVEFORMATEX size"
  | extensibleSize => "unexpected WAVEFORMATEXTENSIBLE size"
  | dataNotWholeSamples => "data chunk length is not a multiple of sample size"
  | dataNotWholeFrames => "invalid data chunk length"

/-- Why a WAV file cannot be read. -/
inductive WavError
  /-- The file has no more bytes. -/
  | tooShort
  /-- The header contradicts itself. -/
  | illFormed (flaw : WavFlaw)
  /-- A layout that is not read at all. -/
  | unsupported
  /-- A sample takes more bytes than the target has room for. -/
  | tooWide
  /-- There is no such file. -/
  | fileNotFound
deriving Repr, DecidableEq

def WavError.message : WavError → String
  | tooShort => "Failed to read enough bytes."
  | illFormed flaw => "Ill-formed WAVE file: " ++ flaw.message
  | unsupported => "The wave format of the file is not supported."
  | tooWide => "The sample has more bits than the destination type."
  | fileNotFound => "No such file or directory (os error 2)"

end GuestAudio
