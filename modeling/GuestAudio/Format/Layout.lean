set_option autoImplicit false

/-! # Wire layouts

The guest's sound reaches the device as bytes in one of two layouts. Each has a byte that stands
for silence; a block filled with it decodes to samples at rest. -/

namespace GuestAudio

/-- A string of bytes. -/
abbrev Bytes := List UInt8

/-- Byte layout of one sample in a hardware block. -/
inductive WireLayout
  /-- Unsigned 8-bit, at rest at 0x80. -/
  | byte
  /-- Signed 16-bit, high byte first, at rest at zero. -/
  | word
deriving Repr, DecidableEq

namespace WireLayout

/-- Sample size in bits. -/
def bits : WireLayout → UInt16
  | byte => 8
  | word => 16

/-- The layout with samples of this size, if there is one. -/
def ofBits? (bits : UInt16) : Option WireLayout :=
  if bits = 8 then some byte else if bits = 16 then some word else none

/-- Sample size in bytes. -/
def sampleBytes : WireLayout → Nat
  | byte => 1
  | word => 2

/-- The byte that fills a block with silence. -/
def silence : WireLayout → UInt8
  | byte => 0x80
  | word => 0x00

/-- The layout's name. -/
def name : WireLayout → String
  | byte => "U8"
  | word => "S16Be"

/-- The layout of this name, if there is one. -/
def ofName? (name : String) : Option WireLayout := [byte, word].find? fun w => w.name = name

theorem ofBits?_eq_some_iff {n : UInt16} {w : WireLayout} : ofBits? n = some w ↔ n = w.bits := by
  unfold ofBits?
  cases w <;> split <;> (try split) <;> simp_all [bits]

theorem sampleBytes_pos (w : WireLayout) : 0 < w.sampleBytes := by
  cases w <;> decide

end WireLayout

end GuestAudio
