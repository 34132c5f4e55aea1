import GuestAudio.Wav.Reader

set_option autoImplicit false

/-! # The header of a WAV file

A file starts with two tags and goes on in chunks, each with a name and a length. The format chunk
says how samples are laid out, the last one of several counts; the data chunk ends the header; a
fact chunk is passed over as four bytes whatever its length; all others are passed over by their
length.

The format chunk comes in three sorts: whole numbers, floating-point numbers, and an extensible sort
that names one of the two. Each allows certain lengths of the chunk and numbers of bits. -/

namespace GuestAudio

/-- How the samples of a file are written. -/
inductive WavEncoding
  | integer
  | float
deriving Repr, DecidableEq

/-- The layout of the samples of a file. -/
structure WavSpec where
  channels : UInt16
  sampleRate : UInt32
  /-- Bits of a sample that count. -/
  bits : Nat
  /-- Bytes that a sample takes. -/
  sampleBytes : Nat
  encoding : WavEncoding
deriving Repr, DecidableEq

/-- The bytes of a text of ASCII characters. -/
def tagBytes (tag : String) : Bytes := tag.toList.map fun c => UInt8.ofNat c.toNat

namespace WavSpec

open ListReader ByteReader

/-- The format tag of whole numbers. -/
def integerTag : Nat := 1

/-- The format tag of floating-point numbers. -/
def floatTag : Nat := 3

/-- The format tag of the extensible sort. -/
def extensibleTag : Nat := 0xfffe

/-- The name of whole numbers in the extensible sort. -/
def integerGuid : Bytes :=
  [0x01, 0x00, 0x00, 0x00, 0x00, 0x00, 0x10, 0x00, 0x80, 0x00, 0x00, 0xaa, 0x00, 0x38, 0x9b, 0x71]

/-- The name of floating-point numbers in the extensible sort. -/
def floatGuid : Bytes :=
  [0x03, 0x00, 0x00, 0x00, 0x00, 0x00, 0x10, 0x00, 0x80, 0x00, 0x00, 0xaa, 0x00, 0x38, 0x9b, 0x71]

/-- The rest of a format chunk for whole numbers. The longer forms of the chunk allow only some
    numbers of bits. -/
def readInteger (length : Nat) (spec : WavSpec) : ByteReader WavSpec := do
  require (length == 16 || length == 18 || length == 40) (.illFormed .unexpectedFormatSize)
  if length = 16 then pure spec
  else do
    -- the size of the extension, which is not looked at
    skip 2
    require (spec.bits == 8 || spec.bits == 16 || spec.bits == 24) (.illFormed .notPcmBits)
    if length = 40 then skip 22
    pure spec

/-- The rest of a format chunk for floating-point numbers. -/
def readFloat (length : Nat) (spec : WavSpec) : ByteReader WavSpec := do
  require (length == 16 || length == 18) (.illFormed .unexpectedFormatSize)
  if length = 18 then
    let size ← number 2
    require (size == 0) (.illFormed .extendedSize)
  require (spec.bits == 32) (.illFormed .notFloatBits)
  pure { spec with encoding := .float }

/-- The rest of an extensible format chunk. The number of valid bits, unless it is zero, stands in
    for the number of bits. -/
def readExtensible (length : Nat) (spec : WavSpec) : ByteReader WavSpec := do
  require (40 ≤ length) (.illFormed .unexpectedFormatSize)
  let size ← number 2
  require (size == 22) (.illFormed .extensibleSize)
  let validBits ← number 2
  -- the places of the speakers
  skip 4
  let guid ← take 16
  require (guid == integerGuid || guid == floatGuid) .unsupported
  pure { spec with
    bits := if validBits = 0 then spec.bits else validBits
    encoding := if guid = integerGuid then .integer else .float }

/-- Read a format chunk of this length. -/
def read (length : Nat) : ByteReader WavSpec := do
  require (16 ≤ length) (.illFormed .formatSize)
  let tag ← number 2
  let channels ← number 2
  let sampleRate ← number 4
  let byteRate ← number 4
  let align ← number 2
  let bits ← number 2
  require (channels != 0) (.illFormed .zeroChannels)
  -- a sample is as wide as its share of the alignment, which may exceed its bits
  let sampleBytes := align / channels
  require (8 * sampleBytes < 0x10000 && bits ≤ 8 * sampleBytes) (.illFormed .bitsExceedSample)
  require (byteRate == align * sampleRate) (.illFormed .inconsistentFormat)
  require (bits % 8 == 0) (.illFormed .bitsNotWholeBytes)
  require (bits != 0) (.illFormed .zeroBits)
  let spec : WavSpec := {
    channels := UInt16.ofNat channels
    sampleRate := UInt32.ofNat sampleRate
    bits
    sampleBytes
    encoding := .integer }
  if tag = integerTag then readInteger length spec
  else if tag = floatTag then readFloat length spec
  else if tag = extensibleTag then readExtensible length spec
  else throw .unsupported

end WavSpec

/-! ## Chunks -/

/-- What a chunk of the header amounts to. -/
inductive WavChunk
  /-- The header goes on, with the format read last, if any. -/
  | more (spec? : Option WavSpec)
  /-- The data follow, so many bytes. -/
  | data (spec : WavSpec) (length : Nat)
deriving Repr, DecidableEq

open ListReader ByteReader

theorem WavSpec.shortens_readInteger (length : Nat) (spec : WavSpec) :
    Shortens (WavSpec.readInteger length spec) := by
  unfold WavSpec.readInteger
  refine (shortens_require _ _).bind fun _ => ?_
  split
  · exact shortens_pure _
  · refine (shortens_skip _).bind fun _ => (shortens_require _ _).bind fun _ => ?_
    split
    · exact (shortens_skip _).bind fun _ => shortens_pure _
    · exact shortens_pure _

theorem WavSpec.shortens_readFloat (length : Nat) (spec : WavSpec) :
    Shortens (WavSpec.readFloat length spec) := by
  have hlast : Shortens (do
      require (spec.bits == 32) (.illFormed .notFloatBits)
      pure { spec with encoding := .float } : ByteReader WavSpec) :=
    (shortens_require _ _).bind fun _ => shortens_pure _
  unfold WavSpec.readFloat
  refine (shortens_require _ _).bind fun _ => ?_
  split
  · exact (shortens_number _).bind fun _ => (shortens_require _ _).bind fun _ => hlast
  · exact hlast

theorem WavSpec.shortens_readExtensible (length : Nat) (spec : WavSpec) :
    Shortens (WavSpec.readExtensible length spec) := by
  unfold WavSpec.readExtensible
  exact (shortens_require _ _).bind fun _ => (shortens_number _).bind fun _ =>
    (shortens_require _ _).bind fun _ => (shortens_number _).bind fun _ =>
    (shortens_skip _).bind fun _ => (shortens_take _).bind fun _ =>
    (shortens_require _ _).bind fun _ => shortens_pure _

theorem WavSpec.shortens_read (length : Nat) : Shortens (WavSpec.read length) := by
  unfold WavSpec.read
  refine (shortens_require _ _).bind fun _ => (shortens_number _).bind fun _ =>
    (shortens_number _).bind fun _ => (shortens_number _).bind fun _ =>
    (shortens_number _).bind fun _ => (shortens_number _).bind fun _ =>
    (shortens_number _).bind fun _ => (shortens_require _ _).bind fun _ =>
    (shortens_require _ _).bind fun _ => (shortens_require _ _).bind fun _ =>
    (shortens_require _ _).bind fun _ => (shortens_require _ _).bind fun _ => ?_
  split
  · exact shortens_readInteger _ _
  · split
    · exact shortens_readFloat _ _
    · split
      · exact shortens_readExtensible _ _
      · exact shortens_throw _

/-- What follows the name of a chunk. -/
def readNamedChunk (spec? : Option WavSpec) (name : Bytes) : ByteReader WavChunk := do
  let length ← number 4
  if name = tagBytes "fmt " then
    let spec ← WavSpec.read length
    pure (.more (some spec))
  else if name = tagBytes "fact" then
    -- four bytes, whatever the length says, and no error if there are fewer
    skipUpTo 4
    pure (.more spec?)
  else if name = tagBytes "data" then
    match spec? with
    | some spec => pure (.data spec length)
    | none => throw (.illFormed .missingFormat)
  else
    skip length
    pure (.more spec?)

/-- Read the next chunk, down to its data if it is the data chunk. -/
def readChunk (spec? : Option WavSpec) : ByteReader WavChunk := do
  readNamedChunk spec? (← take 4)

theorem shortens_readNamedChunk (spec? : Option WavSpec) (name : Bytes) :
    Shortens (readNamedChunk spec? name) := by
  unfold readNamedChunk
  refine (shortens_number _).bind fun length => ?_
  split
  · exact (WavSpec.shortens_read _).bind fun _ => shortens_pure _
  · split
    · exact (shortens_skipUpTo _).bind fun _ => shortens_pure _
    · split
      · split
        · exact shortens_pure _
        · exact shortens_throw _
      · exact (shortens_skip _).bind fun _ => shortens_pure _

/-- A chunk takes at least the four bytes of its name. -/
theorem length_lt_of_readChunk {spec? : Option WavSpec} {bytes rest : Bytes} {c : WavChunk}
    (h : readChunk spec? bytes = .ok (c, rest)) : rest.length < bytes.length := by
  obtain ⟨name, between, htake, hnamed⟩ := bind_apply_eq_ok_iff.1 h
  obtain ⟨hname, rfl⟩ := length_of_take htake
  have hshort : rest.length ≤ between.length :=
    shortens_readNamedChunk spec? name between c rest hnamed
  rw [List.length_append, hname]
  omega

/-- Read chunks up to the data: the format, the length of the data, and the bytes from there on. -/
def readUntilData (spec? : Option WavSpec) (bytes : Bytes) :
    Except WavError ((WavSpec × Nat) × Bytes) :=
  match _h : readChunk spec? bytes with
  | .error e => .error e
  | .ok (.more spec?, rest) => readUntilData spec? rest
  | .ok (.data spec length, rest) => .ok ((spec, length), rest)
termination_by bytes.length
decreasing_by exact length_lt_of_readChunk _h

/-- A file whose header is read: the layout, and the number of samples of all channels. -/
structure WavHeader where
  spec : WavSpec
  sampleCount : Nat
deriving Repr, DecidableEq

/-- Read the header. The data are a whole number of samples, and as many for each channel. -/
def WavHeader.read : ByteReader WavHeader := do
  require ((← take 4) == tagBytes "RIFF") (.illFormed .noRiffTag)
  -- the length of the file, which is not looked at
  skip 4
  require ((← take 4) == tagBytes "WAVE") (.illFormed .noWaveTag)
  let (spec, length) ← readUntilData none
  require (length % spec.sampleBytes == 0) (.illFormed .dataNotWholeSamples)
  let sampleCount := length / spec.sampleBytes
  require (sampleCount % spec.channels.toNat == 0) (.illFormed .dataNotWholeFrames)
  pure { spec, sampleCount }

end GuestAudio
