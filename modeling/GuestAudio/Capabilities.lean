set_option autoImplicit false

/-! # Capabilities of the sound component

The output capabilities advertised to the guest are a set of five, kept as a word with one bit for
each. No set has other bits: of a word with some, `ofBits?` makes no set, while `truncate` drops
them. -/

namespace GuestAudio

/-- One capability. -/
inductive Capability
  /-- Unsigned 8-bit output. -/
  | rawBytes
  /-- Two's complement 8-bit output. -/
  | signedBytes
  /-- 16-bit output. -/
  | words
  /-- Stereo output. -/
  | stereo
  /-- The component wants the register message. -/
  | registerMessage
deriving Repr, DecidableEq

namespace Capability

/-- The capability's bit. -/
def mask : Capability → UInt32
  | rawBytes => 0x100
  | signedBytes => 0x200
  | words => 0x400
  | stereo => 0x800
  | registerMessage => 0x80000000

def name : Capability → String
  | rawBytes => "BIT8_RAW_OUT"
  | signedBytes => "BIT8_TWOS_OUT"
  | words => "BIT16_OUT"
  | stereo => "STEREO_OUT"
  | registerMessage => "WANTS_REGISTER_MESSAGE"

/-- All capabilities, lowest bit first. -/
def all : List Capability :=
  [rawBytes, signedBytes, words, stereo, registerMessage]

/-- The bits of all capabilities. -/
def allBits : UInt32 :=
  all.foldl (fun bits c => bits ||| c.mask) 0

theorem mask_and_allBits (c : Capability) : c.mask &&& allBits = c.mask := by
  cases c <;> decide

end Capability

/-- A set of capabilities. -/
structure CapabilitySet where
  bits : UInt32
  /-- Every bit is that of a capability. -/
  known : bits &&& Capability.allBits = bits
deriving Repr, DecidableEq

namespace CapabilitySet

open Capability (allBits)

theorem or_and_eq_or {a b m : UInt32} (ha : a &&& m = a) (hb : b &&& m = b) :
    (a ||| b) &&& m = a ||| b := by
  have hdistrib : (a ||| b) &&& m = (a &&& m) ||| (b &&& m) :=
    UInt32.eq_of_toBitVec_eq BitVec.and_or_distrib_right
  rw [hdistrib, ha, hb]

theorem xor_and_eq_xor {a b m : UInt32} (ha : a &&& m = a) (hb : b &&& m = b) :
    (a ^^^ b) &&& m = a ^^^ b := by
  have hdistrib : (a ^^^ b) &&& m = (a &&& m) ^^^ (b &&& m) := by
    rw [← UInt32.toBitVec_inj]
    ext i hi
    simp only [UInt32.toBitVec_and, UInt32.toBitVec_xor, BitVec.getElem_and, BitVec.getElem_xor,
      Bool.and_xor_distrib_right]
  rw [hdistrib, ha, hb]

def empty : CapabilitySet := ⟨0, by decide⟩

def singleton (c : Capability) : CapabilitySet := ⟨c.mask, c.mask_and_allBits⟩

def union (a b : CapabilitySet) : CapabilitySet :=
  ⟨a.bits ||| b.bits, or_and_eq_or a.known b.known⟩

/-- The set of these capabilities. -/
def ofList (cs : List Capability) : CapabilitySet :=
  cs.foldl (fun set c => set.union (singleton c)) empty

/-- All capabilities. -/
def all : CapabilitySet := ofList Capability.all

/-- What is advertised: 16-bit stereo output, and the register message is wanted. -/
def advertised : CapabilitySet := ofList [.registerMessage, .stereo, .words]

/-- The known bits of a word. -/
def truncate (bits : UInt32) : CapabilitySet :=
  ⟨bits &&& allBits, by rw [UInt32.and_assoc, UInt32.and_self]⟩

/-- The set with exactly these bits, unless one of them is unknown. -/
def ofBits? (bits : UInt32) : Option CapabilitySet :=
  if known : bits &&& allBits = bits then some ⟨bits, known⟩ else none

def difference (a b : CapabilitySet) : CapabilitySet :=
  ⟨a.bits &&& ~~~b.bits, by
    rw [UInt32.and_assoc, UInt32.and_comm _ allBits, ← UInt32.and_assoc, a.known]⟩

def symmDiff (a b : CapabilitySet) : CapabilitySet :=
  ⟨a.bits ^^^ b.bits, xor_and_eq_xor a.known b.known⟩

/-- The capabilities that are not in `a`. -/
def complement (a : CapabilitySet) : CapabilitySet := truncate (~~~a.bits)

def isEmpty (a : CapabilitySet) : Bool := a.bits == 0

/-- All capabilities are in `a`. -/
def isAll (a : CapabilitySet) : Bool := all.bits &&& a.bits == all.bits

/-- All of `b` is in `a`. -/
def contains (a b : CapabilitySet) : Bool := a.bits &&& b.bits == b.bits

/-- Some capability is in both. -/
def intersects (a b : CapabilitySet) : Bool := a.bits &&& b.bits != 0

/-- The capabilities in `a`, lowest bit first. -/
def toList (a : CapabilitySet) : List Capability :=
  Capability.all.filter fun c => a.contains (singleton c)

/-- The set in one line: the names joined by bars, or a zero word for the empty set. -/
def describe (a : CapabilitySet) : String :=
  let inner := match a.toList with
    | [] => "0x0"
    | cs => " | ".intercalate (cs.map Capability.name)
  "ComponentFlags(" ++ inner ++ ")"

end CapabilitySet

end GuestAudio
