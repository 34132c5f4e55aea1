import GuestAudio.Fault
import GuestAudio.Format.Output
import GuestAudio.Log

set_option autoImplicit false

/-! # The format menu

The menu lists the sample rates, sample sizes and channel counts that the guest may pick from, each
by its index. It starts empty, with at most a preferred index for each list, and the first operation
that needs the standard lists fills them in. Filling settles the three indices: a preferred index
that lies inside its list stays, any other gives way to the last entry, which is the best one.

A rejected change leaves the menu as it is, but for being filled by it if nothing else did so
before. -/

namespace GuestAudio

/-- The standard sample rates, lowest first. -/
def standardRates : List UInt32 := [11025, 22050, 44100]

/-- The standard sample sizes in bits. -/
def standardSizes : List UInt16 := [8, 16]

/-- The standard channel counts. -/
def standardChannelCounts : List UInt16 := [1, 2]

/-- An index into each list. -/
structure Selection where
  rate : Nat
  size : Nat
  channels : Nat
deriving Repr, DecidableEq

/-- The lists, and the index that is preferred or chosen for each. -/
structure FormatMenu where
  rates : List UInt32 := []
  sizes : List UInt16 := []
  channelCounts : List UInt16 := []
  rate? : Option Nat := none
  size? : Option Nat := none
  channels? : Option Nat := none
deriving Repr, DecidableEq

/-- A change of the selected format: all three indices at once, or one of them. -/
inductive FormatChange
  | all (selection : Selection)
  | rate (index : Nat)
  | size (index : Nat)
  | channels (index : Nat)
deriving Repr, DecidableEq

/-- The index for a list of this length: the preferred one if it is inside, else the last one. -/
def settleIndex (list : MenuList) (preferred : Option Nat) (length : Nat) :
    Logged (Option Nat) :=
  if length = 0 then pure none
  else
    let last := length - 1
    match preferred with
    | none => pure (some last)
    | some index =>
        if index < length then pure (some index)
        else do
          Logged.tell (.preferenceOutOfRange list index last)
          pure (some last)

/-- Accept an index that is inside a list of this length. -/
def requireListed (list : MenuList) (index length : Nat) : Except OutputError Unit :=
  if index < length then .ok () else .error (.notListed list index length)

namespace FormatMenu

/-- Nothing listed, nothing preferred. -/
def empty : FormatMenu := {}

/-- Nothing listed, with indices to prefer when the lists are filled in. -/
def preferring (rate? size? channels? : Option Nat) : FormatMenu := { rate?, size?, channels? }

def isFilled (m : FormatMenu) : Bool := !m.sizes.isEmpty

/-- Fill in the standard lists and settle the indices, unless it is done. -/
def fill (m : FormatMenu) : Logged FormatMenu :=
  if m.isFilled then pure m
  else do
    let rates := m.rates ++ standardRates
    let sizes := m.sizes ++ standardSizes
    let channelCounts := m.channelCounts ++ standardChannelCounts
    let rate? ← settleIndex .rates m.rate? rates.length
    let size? ← settleIndex .sizes m.size? sizes.length
    let channels? ← settleIndex .channelCounts m.channels? channelCounts.length
    pure { rates, sizes, channelCounts, rate?, size?, channels? }

/-- The selected indices, once the menu is filled. -/
def selection? (m : FormatMenu) : Option Selection :=
  if m.isFilled then
    match m.rate?, m.size?, m.channels? with
    | some rate, some size, some channels => some { rate, size, channels }
    | _, _, _ => none
  else none

/-- The indices of a change are inside their lists; else the first of them that is not, in the order
    rate, size, channels. -/
def check (m : FormatMenu) : FormatChange → Except OutputError Unit
  | .all s => do
      requireListed .rates s.rate m.rates.length
      requireListed .sizes s.size m.sizes.length
      requireListed .channelCounts s.channels m.channelCounts.length
  | .rate index => requireListed .rates index m.rates.length
  | .size index => requireListed .sizes index m.sizes.length
  | .channels index => requireListed .channelCounts index m.channelCounts.length

/-- Replace the indices that a change names. -/
def replace (m : FormatMenu) : FormatChange → FormatMenu
  | .all s => { m with rate? := some s.rate, size? := some s.size, channels? := some s.channels }
  | .rate index => { m with rate? := some index }
  | .size index => { m with size? := some index }
  | .channels index => { m with channels? := some index }

/-- Apply a change: fill the menu, then replace the indices unless one of them is outside its
    list. -/
def apply (m : FormatMenu) (change : FormatChange) :
    Logged (Except OutputError Unit × FormatMenu) := do
  let m ← m.fill
  match m.check change with
  | .ok () => pure (.ok (), m.replace change)
  | .error e => pure (.error e, m)

/-- The request for the selected entries. -/
def request (m : FormatMenu) (frames : UInt32) :
    Checked (Logged (Except OutputError OutputRequest × FormatMenu)) := do
  let ⟨m, log⟩ := m.fill
  match m.selection? with
  | none => return ⟨(.error (.badSettings "format catalog has no selection"), m), log⟩
  | some selection =>
      -- the indices of a filled menu are inside their lists, so none of these can fail
      let bits ← elementAt m.sizes selection.size
      match WireLayout.ofBits? bits with
      | none => return ⟨(.error (.unfitSamples (toString bits ++ "-bit samples")), m), log⟩
      | some layout =>
          let sampleRate ← elementAt m.rates selection.rate
          let channels ← elementAt m.channelCounts selection.channels
          return ⟨(.ok { sampleRate, layout, channels, frames }, m), log⟩

/-! ## A filled menu

`Filled` says of a menu what `fill` brings about: the standard lists, and an index inside each. -/

/-- The standard lists, and an index inside each. -/
structure Filled (m : FormatMenu) : Prop where
  rates : m.rates = standardRates
  sizes : m.sizes = standardSizes
  channelCounts : m.channelCounts = standardChannelCounts
  rate? : ∃ i < 3, m.rate? = some i
  size? : ∃ i < 2, m.size? = some i
  channels? : ∃ i < 2, m.channels? = some i

theorem Filled.isFilled {m : FormatMenu} (h : m.Filled) : m.isFilled = true := by
  simp [FormatMenu.isFilled, h.sizes, standardSizes]

theorem Filled.fill {m : FormatMenu} (h : m.Filled) : m.fill = pure m := by
  simp [FormatMenu.fill, h.isFilled]

end FormatMenu

end GuestAudio
