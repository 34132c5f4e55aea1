import GuestAudio.Sample.Native

set_option autoImplicit false

/-! # What an output device offers

A device lists the setups that it supports as ranges of sample rates, each for one channel count and
one sort of sample. It also has one setup by default. A stream is built for a setup that fixes
everything but, perhaps, the size of the buffer. -/

namespace GuestAudio

/-- The sort of samples that a device takes. -/
inductive DeviceSample
  | i8
  | i16
  | i24
  | i32
  | i64
  | u8
  | u16
  | u32
  | u64
  | f32
  | f64
deriving Repr, DecidableEq

namespace DeviceSample

def name : DeviceSample → String
  | i8 => "I8"
  | i16 => "I16"
  | i24 => "I24"
  | i32 => "I32"
  | i64 => "I64"
  | u8 => "U8"
  | u16 => "U16"
  | u32 => "U32"
  | u64 => "U64"
  | f32 => "F32"
  | f64 => "F64"

/-- All sorts. -/
def all : List DeviceSample := [i8, i16, i24, i32, i64, u8, u16, u32, u64, f32, f64]

/-- The sort of this name, if there is one. -/
def ofName? (name : String) : Option DeviceSample := all.find? fun s => s.name = name

/-- The type with which buffers of this sort are filled, for the sorts that can be. -/
def native? : DeviceSample → Option NativeType
  | u8 => some .u8
  | i16 => some .i16
  | u16 => some .u16
  | i32 => some .i32
  | f32 => some .f32
  | _ => none

/-- The sort that holds the samples of a wire layout as they are. -/
def ofLayout : WireLayout → DeviceSample
  | .byte => .u8
  | .word => .i16

end DeviceSample

/-- The buffer sizes, in frames, that a device supports. -/
inductive BufferRange
  | range (least greatest : UInt32)
  | unknown
deriving Repr, DecidableEq

/-- A range of supported setups. -/
structure SetupRange where
  channels : UInt16
  minRate : UInt32
  maxRate : UInt32
  buffer : BufferRange
  sample : DeviceSample
deriving Repr, DecidableEq

/-- One supported setup. -/
structure DeviceSetup where
  channels : UInt16
  sampleRate : UInt32
  buffer : BufferRange
  sample : DeviceSample
deriving Repr, DecidableEq

/-- The buffer size that is asked for with a stream. -/
inductive BufferDemand
  | fixed (frames : UInt32)
  /-- Whatever the device prefers. -/
  | any
deriving Repr, DecidableEq

/-- The setup of a stream to build. -/
structure StreamSetup where
  sampleRate : UInt32
  channels : UInt16
  buffer : BufferDemand
  sample : DeviceSample
deriving Repr, DecidableEq

end GuestAudio
