import GuestAudio.Format.Menu

set_option autoImplicit false

/-! # Picks from the standard lists

A `Pick` is an entry of each standard list, and makes a filled menu (`Pick.filled_menu`). Filling
an empty menu settles the first pick (`fill_preferring`), a change whose indices are all listed
leads from one pick to the next (`Pick.apply_menu_of_listed`), any other change leaves the pick
alone and is refused for its first index that is not listed (`Pick.apply_menu_of_stray`), and the
request is for the entries of the pick (`request_of_fill`). -/

namespace GuestAudio

/-! ## The indices of a change -/

/-- The length of a standard list. -/
def MenuList.length : MenuList → Nat
  | rates => standardRates.length
  | sizes => standardSizes.length
  | channelCounts => standardChannelCounts.length

namespace FormatChange

/-- The indices that a change names, each with its list, in the order rate, size, channels. -/
def indices : FormatChange → List (MenuList × Nat)
  | all s => [(.rates, s.rate), (.sizes, s.size), (.channelCounts, s.channels)]
  | rate index => [(.rates, index)]
  | size index => [(.sizes, index)]
  | channels index => [(.channelCounts, index)]

/-- The first index of a change that is outside its list. -/
def stray? (change : FormatChange) : Option (MenuList × Nat) :=
  change.indices.find? fun entry => entry.1.length ≤ entry.2

/-- All indices of a change are inside their lists. -/
def isListed (change : FormatChange) : Bool :=
  change.indices.all fun entry => entry.2 < entry.1.length

theorem stray?_eq_none_iff {change : FormatChange} :
    change.stray? = none ↔ change.isListed = true := by
  simp only [stray?, isListed, List.find?_eq_none, List.all_eq_true, decide_eq_true_eq, Nat.not_le]

end FormatChange

/-! ## Picks -/

/-- An entry of each standard list. -/
structure Pick where
  rate : Fin MenuList.rates.length
  size : Fin MenuList.sizes.length
  channels : Fin MenuList.channelCounts.length
deriving Repr, DecidableEq

/-- The preferred index if there is one and it is listed, else the last one. -/
def preferredOrLast {n : Nat} (preferred : Option Nat) : Fin (n + 1) :=
  match preferred with
  | none => Fin.last n
  | some index => if h : index < n + 1 then ⟨index, h⟩ else Fin.last n

/-- The new index if it is listed, else the old one. -/
def listedOr {n : Nat} (index : Nat) (old : Fin n) : Fin n :=
  if h : index < n then ⟨index, h⟩ else old

theorem listedOr_of_lt {n index : Nat} {old : Fin n} (h : index < n) :
    listedOr index old = ⟨index, h⟩ := dif_pos h

namespace Pick

/-- The pick of a menu that starts with these preferences. -/
def preferring (rate? size? channels? : Option Nat) : Pick where
  rate := preferredOrLast (n := 2) rate?
  size := preferredOrLast (n := 1) size?
  channels := preferredOrLast (n := 1) channels?

/-- The entries that a change names take the place of those of the pick. -/
def apply (p : Pick) : FormatChange → Pick
  | .all s =>
      { rate := listedOr s.rate p.rate
        size := listedOr s.size p.size
        channels := listedOr s.channels p.channels }
  | .rate index => { p with rate := listedOr index p.rate }
  | .size index => { p with size := listedOr index p.size }
  | .channels index => { p with channels := listedOr index p.channels }

/-- The indices of a pick. -/
def selection (p : Pick) : Selection where
  rate := p.rate
  size := p.size
  channels := p.channels

/-- The wire layout with samples of the picked size. -/
def layout (p : Pick) : WireLayout :=
  if (p.size : Nat) = 0 then .byte else .word

/-- The request for the entries of a pick. -/
def request (p : Pick) (frames : UInt32) : OutputRequest where
  sampleRate := standardRates.get p.rate
  layout := p.layout
  channels := standardChannelCounts.get p.channels
  frames := frames

/-- The filled menu in which a pick is selected. -/
def menu (p : Pick) : FormatMenu where
  rates := standardRates
  sizes := standardSizes
  channelCounts := standardChannelCounts
  rate? := some p.rate
  size? := some p.size
  channels? := some p.channels

theorem bits_layout (p : Pick) : p.layout.bits = standardSizes.get p.size := by
  obtain ⟨-, ⟨size, hsize⟩, -⟩ := p
  have hsize' : size < 2 := hsize
  match size, hsize' with
  | 0, _ => rfl
  | 1, _ => rfl

theorem filled_menu (p : Pick) : p.menu.Filled :=
  ⟨rfl, rfl, rfl, ⟨p.rate, p.rate.isLt, rfl⟩, ⟨p.size, p.size.isLt, rfl⟩,
    ⟨p.channels, p.channels.isLt, rfl⟩⟩

@[simp] theorem fill_menu (p : Pick) : p.menu.fill = pure p.menu := p.filled_menu.fill

@[simp] theorem selection?_menu (p : Pick) : p.menu.selection? = some p.selection := by
  simp [FormatMenu.selection?, FormatMenu.isFilled, menu, selection, standardSizes]

end Pick

/-! ## Filling the menu -/

theorem settleIndex_eq_preferredOrLast (list : MenuList) (preferred : Option Nat) (n : Nat) :
    (settleIndex list preferred (n + 1)).value =
      some (preferredOrLast (n := n) preferred : Nat) := by
  cases preferred with
  | none => simp [settleIndex, preferredOrLast]
  | some index =>
    by_cases h : index < n + 1
    · simp [settleIndex, preferredOrLast, h]
    · simp [settleIndex, preferredOrLast, h]

/-- Filling settles each index: the preferred one, or the last one. -/
theorem fill_preferring (rate? size? channels? : Option Nat) :
    (FormatMenu.preferring rate? size? channels?).fill.value =
      (Pick.preferring rate? size? channels?).menu := by
  have hr := settleIndex_eq_preferredOrLast .rates rate? 2
  have hs := settleIndex_eq_preferredOrLast .sizes size? 1
  have hc := settleIndex_eq_preferredOrLast .channelCounts channels? 1
  simp only [FormatMenu.fill, FormatMenu.isFilled, FormatMenu.preferring, List.isEmpty_nil,
    Bool.not_true, Bool.false_eq_true, if_false, List.nil_append]
  simp only [Logged.value_bind, Logged.value_pure]
  simp only [standardRates, standardSizes, standardChannelCounts, List.length_cons,
    List.length_nil, hr, hs, hc]
  rfl

/-! ## Changing the pick -/

theorem FormatMenu.apply_of_fill {m : FormatMenu} (h : m.fill = pure m) (change : FormatChange) :
    m.apply change =
      match m.check change with
      | .ok () => pure (.ok (), m.replace change)
      | .error e => pure (.error e, m) := by
  unfold apply
  rw [h]
  rfl

/-- Indices are required to be listed one after the other, up to the first that is not. -/
theorem forM_requireListed (indices : List (MenuList × Nat)) :
    (forM indices fun entry => requireListed entry.1 entry.2 entry.1.length) =
      match indices.find? fun entry => entry.1.length ≤ entry.2 with
      | none => .ok ()
      | some (list, index) => .error (.notListed list index list.length) := by
  induction indices with
  | nil => rfl
  | cons head rest ih =>
    obtain ⟨list, index⟩ := head
    by_cases h : index < list.length
    · rw [List.forM_cons, ih, List.find?_cons_of_neg (by simpa using h), requireListed, if_pos h]
      rfl
    · rw [List.forM_cons, List.find?_cons_of_pos (by simpa using h), requireListed, if_neg h]
      rfl

namespace Pick

theorem check_menu (p : Pick) (change : FormatChange) :
    p.menu.check change =
      forM change.indices fun entry => requireListed entry.1 entry.2 entry.1.length := by
  cases change <;>
    simp only [FormatMenu.check, FormatChange.indices, List.forM_cons, List.forM_nil,
      bind_pure_unit] <;>
    rfl

theorem replace_menu {p : Pick} {change : FormatChange} (h : change.isListed = true) :
    p.menu.replace change = (p.apply change).menu := by
  unfold FormatChange.isListed at h
  cases change with
  | all s =>
    simp only [FormatChange.indices, List.all_cons, List.all_nil, Bool.and_eq_true,
      decide_eq_true_eq] at h
    obtain ⟨hrate, hsize, hchannels, -⟩ := h
    simp only [FormatMenu.replace, apply, menu, listedOr_of_lt hrate, listedOr_of_lt hsize,
      listedOr_of_lt hchannels]
  | rate | size | channels =>
    simp only [FormatChange.indices, List.all_cons, List.all_nil, Bool.and_true,
      decide_eq_true_eq] at h
    simp only [FormatMenu.replace, apply, menu, listedOr_of_lt h]

/-- A change whose indices are all listed takes a filled menu to the next pick. -/
theorem apply_menu_of_listed {p : Pick} {change : FormatChange} (h : change.isListed = true) :
    p.menu.apply change = pure (.ok (), (p.apply change).menu) := by
  have hcheck : p.menu.check change = .ok () := by
    have hstray := FormatChange.stray?_eq_none_iff.2 h
    unfold FormatChange.stray? at hstray
    rw [check_menu, forM_requireListed, hstray]
  rw [FormatMenu.apply_of_fill p.fill_menu, hcheck, ← replace_menu h]

/-- Any other change is refused for its first index that is not listed. -/
theorem apply_menu_of_stray {p : Pick} {change : FormatChange} {list : MenuList} {index : Nat}
    (h : change.stray? = some (list, index)) :
    p.menu.apply change = pure (.error (.notListed list index list.length), p.menu) := by
  have hcheck : p.menu.check change = .error (.notListed list index list.length) := by
    unfold FormatChange.stray? at h
    rw [check_menu, forM_requireListed, h]
  rw [FormatMenu.apply_of_fill p.fill_menu, hcheck]

end Pick

/-! ## The request for a pick -/

/-- A menu asks for the entries of the pick that filling it settles. -/
theorem request_of_fill {m : FormatMenu} {p : Pick} (h : m.fill.value = p.menu) (frames : UInt32) :
    m.request frames = .ok ⟨(.ok (p.request frames), p.menu), m.fill.log⟩ := by
  have hsize : elementAt p.menu.sizes p.size = .ok p.layout.bits := by
    rw [Pick.bits_layout]
    exact elementAt_of_lt p.size.isLt
  have hlayout : WireLayout.ofBits? p.layout.bits = some p.layout :=
    WireLayout.ofBits?_eq_some_iff.2 rfl
  have hrate : elementAt p.menu.rates p.rate = .ok (standardRates.get p.rate) :=
    elementAt_of_lt p.rate.isLt
  have hchannels : elementAt p.menu.channelCounts p.channels =
      .ok (standardChannelCounts.get p.channels) := elementAt_of_lt p.channels.isLt
  unfold FormatMenu.request
  simp only [h, Pick.selection?_menu, Pick.selection]
  rw [hsize, ok_bind, hlayout]
  dsimp only
  rw [hrate, ok_bind, hchannels]
  rfl

end GuestAudio
