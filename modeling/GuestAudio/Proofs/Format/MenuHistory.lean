import GuestAudio.Proofs.Format.Pick

set_option autoImplicit false

/-! # Operations on a menu, one after the other

A history records what each operation on a menu answers, what it logs, and the menu it leaves.
Whatever the preferences and the operations, every record is `Faithful`: the standard lists are
listed from the first operation on, the selected index of each list is the last one that was
accepted for it, a change is refused just for its first index that is not listed and then changes
nothing, no request fails, and preferences that are not listed are logged by the first operation
(`history_faithful`). Between the operations the menu is nothing but a pick, and what holds of it
then is `Stands`. -/

namespace GuestAudio

/-! ## Histories -/

/-- An operation on a menu. -/
inductive MenuCall
  | fill
  | change (change : FormatChange)
  | request (frames : UInt32)
deriving Repr, DecidableEq

/-- What an operation on a menu answers. -/
inductive MenuReply
  | filled
  | changed (result : Except OutputError Unit)
  | requested (result : Except OutputError OutputRequest)

/-- An operation is refused if it answers with an error. -/
def MenuReply.isRefusal : MenuReply → Bool
  | filled => false
  | changed result => !result.isOk
  | requested result => !result.isOk

/-- What an operation did. -/
structure MenuRecord where
  call : MenuCall
  before : FormatMenu
  reply : MenuReply
  after : FormatMenu
  log : Log

namespace FormatMenu

/-- Perform an operation: its answer, and the menu it leaves. -/
def perform (m : FormatMenu) : MenuCall → Checked (Logged (MenuReply × FormatMenu))
  | .fill => return ⟨(.filled, m.fill.value), m.fill.log⟩
  | .change change =>
      let ⟨(result, m), log⟩ := m.apply change
      return ⟨(.changed result, m), log⟩
  | .request frames => do
      let ⟨(result, m), log⟩ ← m.request frames
      return ⟨(.requested result, m), log⟩

/-- Perform operations, one after the other. -/
def history : FormatMenu → List MenuCall → Checked (List MenuRecord)
  | _, [] => return []
  | m, call :: rest => do
      let ⟨(reply, after), log⟩ ← m.perform call
      return { call, before := m, reply, after, log } :: (← history after rest)

end FormatMenu

/-! ## What is selected -/

/-- The index that a change names for a list, if it names one. -/
def FormatChange.indexFor? : FormatChange → MenuList → Option Nat
  | .all s, .rates => some s.rate
  | .all s, .sizes => some s.size
  | .all s, .channelCounts => some s.channels
  | .rate index, .rates => some index
  | .size index, .sizes => some index
  | .channels index, .channelCounts => some index
  | _, _ => none

/-- The index that an operation gave to a list, if it is a change that was accepted. -/
def MenuRecord.accepted? (r : MenuRecord) (list : MenuList) : Option Nat :=
  match r.call, r.reply with
  | .change change, .changed (.ok ()) => change.indexFor? list
  | _, _ => none

/-- The index that a list starts with: the preferred one if it is listed, else the last one. -/
def MenuList.startIndex (list : MenuList) (preferred : Option Nat) : Nat :=
  match preferred with
  | none => list.length - 1
  | some index => if index < list.length then index else list.length - 1

/-- The index that was accepted last for a list, or the one it started with. -/
def latestIndex (preferred : MenuList → Option Nat) (records : List MenuRecord)
    (list : MenuList) : Nat :=
  (records.filterMap (·.accepted? list)).getLast?.getD (list.startIndex (preferred list))

/-- The indices that were accepted last. -/
def latestSelection (preferred : MenuList → Option Nat) (records : List MenuRecord) :
    Selection where
  rate := latestIndex preferred records .rates
  size := latestIndex preferred records .sizes
  channels := latestIndex preferred records .channelCounts

/-- A record for each preferred index that is not listed, in the order rate, size, channels. -/
def strayPreferences (preferred : MenuList → Option Nat) : Log :=
  [MenuList.rates, .sizes, .channelCounts].filterMap fun list =>
    (preferred list).bind fun index =>
      if index < list.length then none
      else some (.preferenceOutOfRange list index (list.length - 1))

/-- Nothing listed, with an index to prefer for each list, or none. -/
def FormatMenu.preferringEach (preferred : MenuList → Option Nat) : FormatMenu :=
  preferring (preferred .rates) (preferred .sizes) (preferred .channelCounts)

/-- The answer to a change of a menu with the standard lists. -/
def FormatChange.verdict (change : FormatChange) : Except OutputError Unit :=
  match change.stray? with
  | none => .ok ()
  | some (list, index) => .error (.notListed list index list.length)

/-- What an operation did is as it should be, after these earlier ones. -/
structure MenuRecord.Faithful (preferred : MenuList → Option Nat) (past : List MenuRecord)
    (r : MenuRecord) : Prop where
  /-- It starts from the menu that the last operation left. -/
  before : r.before = (past.getLast?.map MenuRecord.after).getD (.preferringEach preferred)
  rates : r.after.rates = standardRates
  sizes : r.after.sizes = standardSizes
  channelCounts : r.after.channelCounts = standardChannelCounts
  selection : r.after.selection? = some (latestSelection preferred (past ++ [r]))
  listed : ∀ list : MenuList, latestIndex preferred (past ++ [r]) list < list.length
  /-- A change is refused just for its first index that is not listed. -/
  changed : ∀ change, r.call = .change change → r.reply = .changed change.verdict
  /-- A refused operation does no more than to fill the menu. -/
  refused : r.reply.isRefusal = true → r.after = r.before.fill.value
  /-- A request is for the selected entries. -/
  requested : ∀ frames, r.call = .request frames →
    ∃ sampleRate layout channels,
      standardRates[latestIndex preferred (past ++ [r]) .rates]? = some sampleRate ∧
      standardSizes[latestIndex preferred (past ++ [r]) .sizes]? = some layout.bits ∧
      standardChannelCounts[latestIndex preferred (past ++ [r]) .channelCounts]? = some channels ∧
      r.reply = .requested (.ok { sampleRate, layout, channels, frames })
  /-- Only the first operation logs anything. -/
  log : r.log = if past = [] then strayPreferences preferred else []

/-! ## The index for a list -/

namespace Pick

/-- The index of a pick for a list. -/
def indexFor (p : Pick) : MenuList → Nat
  | .rates => p.rate
  | .sizes => p.size
  | .channelCounts => p.channels

theorem indexFor_lt (p : Pick) (list : MenuList) : p.indexFor list < list.length := by
  cases list with
  | rates => exact p.rate.isLt
  | sizes => exact p.size.isLt
  | channelCounts => exact p.channels.isLt

theorem selection_eq {p : Pick} {index : MenuList → Nat}
    (h : ∀ list, p.indexFor list = index list) :
    p.selection =
      { rate := index .rates, size := index .sizes, channels := index .channelCounts } := by
  rw [← h, ← h, ← h]
  rfl

theorem indexFor_preferring (preferred : MenuList → Option Nat) (list : MenuList) :
    (Pick.preferring (preferred .rates) (preferred .sizes)
      (preferred .channelCounts)).indexFor list = list.startIndex (preferred list) := by
  have hsettle : ∀ {n : Nat} (index? : Option Nat), (preferredOrLast (n := n) index? : Nat) =
      match index? with
      | none => n
      | some index => if index < n + 1 then index else n := by
    intro n index?
    cases index? with
    | none => rfl
    | some index =>
      unfold preferredOrLast
      dsimp only
      split <;> rfl
  cases list <;> exact hsettle _

/-- An accepted change replaces the indices that it names, and no others. -/
theorem indexFor_apply {p : Pick} {change : FormatChange} (h : change.isListed = true)
    (list : MenuList) :
    (p.apply change).indexFor list = (change.indexFor? list).getD (p.indexFor list) := by
  unfold FormatChange.isListed at h
  cases change with
  | all s =>
    simp only [FormatChange.indices, List.all_cons, List.all_nil, Bool.and_eq_true,
      decide_eq_true_eq] at h
    obtain ⟨hrate, hsize, hchannels, -⟩ := h
    cases list <;>
      simp only [apply, indexFor, listedOr_of_lt hrate, listedOr_of_lt hsize,
        listedOr_of_lt hchannels, FormatChange.indexFor?, Option.getD_some]
  | rate | size | channels =>
    simp only [FormatChange.indices, List.all_cons, List.all_nil, Bool.and_true,
      decide_eq_true_eq] at h
    cases list <;>
      simp only [apply, indexFor, listedOr_of_lt h, FormatChange.indexFor?, Option.getD_some,
        Option.getD_none]

end Pick

theorem latestIndex_concat (preferred : MenuList → Option Nat) (past : List MenuRecord)
    (r : MenuRecord) (list : MenuList) :
    latestIndex preferred (past ++ [r]) list =
      (r.accepted? list).getD (latestIndex preferred past list) := by
  unfold latestIndex
  rw [List.filterMap_append]
  cases h : r.accepted? list with
  | none => simp [h]
  | some index => simp [h]

/-! ## One operation -/

/-- Filling an empty menu logs the preferences that are not listed. -/
theorem log_fill_preferringEach (preferred : MenuList → Option Nat) :
    (FormatMenu.preferringEach preferred).fill.log = strayPreferences preferred := by
  have hsettle : ∀ (list : MenuList) (index? : Option Nat),
      (settleIndex list index? list.length).log =
        (index?.bind fun index =>
          if index < list.length then none
          else some (Record.preferenceOutOfRange list index (list.length - 1))).toList := by
    intro list index?
    have hlength : list.length ≠ 0 := by cases list <;> decide
    unfold settleIndex
    rw [if_neg hlength]
    cases index? with
    | none => rfl
    | some index =>
      by_cases h : index < list.length
      · simp [h]
      · simp [h, Logged.tell]
  have hlogs : (FormatMenu.preferringEach preferred).fill.log =
      (settleIndex .rates (preferred .rates) MenuList.rates.length).log ++
        ((settleIndex .sizes (preferred .sizes) MenuList.sizes.length).log ++
          ((settleIndex .channelCounts (preferred .channelCounts)
            MenuList.channelCounts.length).log ++ [])) := rfl
  rw [hlogs, hsettle, hsettle, hsettle]
  unfold strayPreferences
  simp only [List.filterMap_cons, List.filterMap_nil]
  cases (preferred .rates).bind _ <;> cases (preferred .sizes).bind _ <;>
    cases (preferred .channelCounts).bind _ <;> rfl

namespace FormatMenu

/-- A menu after these operations: where it comes from, the pick it is filled with, and what filling
    it logs. -/
structure Stands (preferred : MenuList → Option Nat) (past : List MenuRecord)
    (m : FormatMenu) : Prop where
  menu : m = (past.getLast?.map MenuRecord.after).getD (.preferringEach preferred)
  pick : ∃ p : Pick, m.fill.value = p.menu ∧
    ∀ list, p.indexFor list = latestIndex preferred past list
  log : m.fill.log = if past = [] then strayPreferences preferred else []

theorem stands_preferringEach (preferred : MenuList → Option Nat) :
    Stands preferred [] (.preferringEach preferred) where
  menu := rfl
  pick := ⟨_, fill_preferring _ _ _, Pick.indexFor_preferring preferred⟩
  log := log_fill_preferringEach preferred

/-- A change is applied to the menu that filling leaves. -/
theorem apply_of_fill_menu {m : FormatMenu} {p : Pick} (h : m.fill.value = p.menu)
    (change : FormatChange) :
    m.apply change = ⟨(p.menu.apply change).value, m.fill.log ++ (p.menu.apply change).log⟩ := by
  unfold apply
  rw [p.fill_menu, ← h]
  rfl

variable {preferred : MenuList → Option Nat} {past : List MenuRecord} {m : FormatMenu}

/-- An operation that leaves the menu of a pick does what it should, if its pick has the indices
    that it gave and the earlier ones for the other lists, and if it answers as it should. -/
theorem Stands.leaves {r : MenuRecord} {p : Pick} (hm : Stands preferred past r.before)
    (hafter : r.after = p.menu)
    (hindex : ∀ list,
      p.indexFor list = (r.accepted? list).getD (latestIndex preferred past list))
    (hlog : r.log = r.before.fill.log)
    (hchanged : ∀ change, r.call = .change change → r.reply = .changed change.verdict)
    (hrefused : r.reply.isRefusal = true → r.after = r.before.fill.value)
    (hrequested : ∀ frames, r.call = .request frames →
      r.reply = .requested (.ok (p.request frames))) :
    r.Faithful preferred past ∧ Stands preferred (past ++ [r]) r.after := by
  have hlatest : ∀ list, p.indexFor list = latestIndex preferred (past ++ [r]) list := by
    intro list
    rw [hindex, latestIndex_concat]
  constructor
  · constructor
    case before => exact hm.menu
    case rates | sizes | channelCounts => rw [hafter]; rfl
    case selection => rw [hafter, p.selection?_menu, Pick.selection_eq hlatest]; rfl
    case listed =>
      intro list
      rw [← hlatest]
      exact p.indexFor_lt list
    case changed => exact hchanged
    case refused => exact hrefused
    case requested =>
      intro frames hcall
      refine ⟨_, _, _, ?_, ?_, ?_, hrequested frames hcall⟩
      · rw [← hlatest]
        exact List.getElem?_eq_getElem p.rate.isLt
      · rw [← hlatest, p.bits_layout]
        exact List.getElem?_eq_getElem p.size.isLt
      · rw [← hlatest]
        exact List.getElem?_eq_getElem p.channels.isLt
    case log => rw [hlog, hm.log]
  · constructor
    case menu => simp
    case pick =>
      refine ⟨p, ?_, hlatest⟩
      rw [hafter, p.fill_menu, Logged.value_pure]
    case log =>
      rw [hafter, p.fill_menu, Logged.log_pure, if_neg (by simp)]

/-- Every operation does what it should. -/
theorem Stands.perform (hm : Stands preferred past m) (call : MenuCall) :
    ∃ r : MenuRecord, r.call = call ∧ r.before = m ∧
      m.perform call = .ok ⟨(r.reply, r.after), r.log⟩ ∧
      r.Faithful preferred past ∧ Stands preferred (past ++ [r]) r.after := by
  obtain ⟨p, hfill, hindex⟩ := hm.pick
  cases call with
  | fill =>
    let r : MenuRecord := ⟨.fill, m, .filled, m.fill.value, m.fill.log⟩
    refine ⟨r, rfl, rfl, rfl, ?_⟩
    exact leaves (r := r) hm hfill hindex rfl nofun nofun nofun
  | request frames =>
    let r : MenuRecord :=
      ⟨.request frames, m, .requested (.ok (p.request frames)), p.menu, m.fill.log⟩
    refine ⟨r, rfl, rfl, ?_, ?_⟩
    · rw [FormatMenu.perform, request_of_fill hfill]
      rfl
    · refine leaves (r := r) hm rfl hindex rfl nofun nofun ?_
      rintro _ ⟨⟩
      rfl
  | change change =>
    have happly := apply_of_fill_menu hfill change
    cases hstray : change.stray? with
    | none =>
      have hlisted := FormatChange.stray?_eq_none_iff.1 hstray
      let r : MenuRecord :=
        ⟨.change change, m, .changed (.ok ()), (p.apply change).menu, m.fill.log⟩
      refine ⟨r, rfl, rfl, ?_, ?_⟩
      · rw [Pick.apply_menu_of_listed hlisted, Logged.log_pure, List.append_nil] at happly
        rw [FormatMenu.perform, happly]
        rfl
      · refine leaves (r := r) hm rfl ?_ rfl ?_ nofun nofun
        · intro list
          rw [Pick.indexFor_apply hlisted, hindex]
          rfl
        · rintro _ ⟨⟩
          rw [FormatChange.verdict, hstray]
    | some stray =>
      obtain ⟨list, index⟩ := stray
      let r : MenuRecord :=
        ⟨.change change, m, .changed (.error (.notListed list index list.length)), p.menu,
          m.fill.log⟩
      refine ⟨r, rfl, rfl, ?_, ?_⟩
      · rw [Pick.apply_menu_of_stray hstray, Logged.log_pure, List.append_nil] at happly
        rw [FormatMenu.perform, happly]
        rfl
      · refine leaves (r := r) hm rfl hindex rfl ?_ (fun _ => hfill.symm) nofun
        rintro _ ⟨⟩
        rw [FormatChange.verdict, hstray]

/-! ## All operations -/

/-- Operations on a menu that stands do what they should, one after the other. -/
theorem Stands.history (hm : Stands preferred past m) (calls : List MenuCall) :
    ∃ records, m.history calls = .ok records ∧ records.map MenuRecord.call = calls ∧
      ∀ earlier r later, records = earlier ++ r :: later →
        r.Faithful preferred (past ++ earlier) := by
  induction calls generalizing past m with
  | nil =>
    refine ⟨[], rfl, rfl, ?_⟩
    intro earlier r later h
    simp at h
  | cons call rest ih =>
    obtain ⟨r, rfl, rfl, hperform, hfaithful, hstands⟩ := hm.perform call
    obtain ⟨records, hrecords, hcalls, hrest⟩ := ih hstands
    refine ⟨r :: records, ?_, ?_, ?_⟩
    · rw [FormatMenu.history, hperform, ok_bind]
      dsimp only
      rw [hrecords]
      rfl
    · rw [List.map_cons, hcalls]
    · intro earlier r' later h
      cases earlier with
      | nil =>
        obtain ⟨rfl, -⟩ := List.cons.inj h
        rw [List.append_nil]
        exact hfaithful
      | cons first earlier =>
        obtain ⟨rfl, htail⟩ := List.cons.inj h
        rw [List.append_cons]
        exact hrest earlier r' later htail

end FormatMenu

/-- **A menu keeps its lists and never loses a selection.** It starts empty and selects nothing.
    Whatever the preferences and the operations, none of them faults, and each does what it should
    after the earlier ones. -/
theorem history_faithful (preferred : MenuList → Option Nat) (calls : List MenuCall) :
    let start := FormatMenu.preferring (preferred .rates) (preferred .sizes)
      (preferred .channelCounts)
    (start.rates = [] ∧ start.sizes = [] ∧ start.channelCounts = [] ∧
      start.selection? = none) ∧
    ∃ records, start.history calls = .ok records ∧ records.map MenuRecord.call = calls ∧
      ∀ earlier r later, records = earlier ++ r :: later → r.Faithful preferred earlier := by
  intro start
  refine ⟨⟨rfl, rfl, rfl, rfl⟩, ?_⟩
  obtain ⟨records, hrecords, hcalls, hfaithful⟩ :=
    (FormatMenu.stands_preferringEach preferred).history calls
  exact ⟨records, hrecords, hcalls, hfaithful⟩

end GuestAudio
