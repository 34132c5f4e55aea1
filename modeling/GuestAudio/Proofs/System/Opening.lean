import GuestAudio.Proofs.Format.Pick
import GuestAudio.SoundSystem

set_option autoImplicit false

/-! # Opening the device

Whatever opens the device, at the start or after a change, comes to one step: the host is asked for
the entries of a pick, and the system keeps what it answers (`SoundSystem.openedFor`). Each of the
operations that may open it has one lemma for each of its outcomes here, and the modules that follow
use these alone. -/

namespace GuestAudio

/-- The pick that settings ask for. -/
def Settings.pick (s : Settings) : Pick :=
  .preferring (s.preferredRate.map UInt64.toNat) (s.preferredSize.map UInt64.toNat)
    (s.preferredChannels.map UInt64.toNat)

/-- Settings within range ask for a block of 4096 frames, halved as often as they say. -/
theorem Settings.blockFrames_of_check {s : Settings} (h : s.check = .ok ()) :
    s.blockFrames = 4096 >>> s.bufferShift := by
  have hshift : s.bufferShift.toNat ≤ 12 :=
    UInt32.le_iff_toNat_le.1 (s.flaw?_eq_none_iff.1 (s.check_eq_ok_iff.1 h)).1
  have hpos : 0 < unshiftedFrames >>> s.bufferShift.toNat := by
    rw [Nat.shiftRight_eq_div_pow]
    exact Nat.div_pos (Nat.pow_le_pow_right (by decide) hshift) (Nat.two_pow_pos _)
  have hle : unshiftedFrames >>> s.bufferShift.toNat ≤ unshiftedFrames := Nat.shiftRight_le _ _
  have hlt : unshiftedFrames >>> s.bufferShift.toNat < 2 ^ 32 :=
    Nat.lt_of_le_of_lt hle (by decide)
  unfold blockFrames
  rw [if_pos (by omega), Nat.max_eq_left hpos]
  apply UInt32.toNat_inj.1
  rw [UInt32.toNat_ofNat', Nat.mod_eq_of_lt hlt, UInt32.toNat_shiftRight,
    Nat.mod_eq_of_lt (show s.bufferShift.toNat < 32 by omega)]
  rfl

namespace SoundSystem

variable {η σ : Type}

/-! ## The parts of an opening -/

/-- The system as it is built from settings, before anything is opened. -/
def initial (host : η) (settings : Settings) : SoundSystem η σ where
  host := host
  menu := FormatMenu.preferring (settings.preferredRate.map UInt64.toNat)
    (settings.preferredSize.map UInt64.toNat) (settings.preferredChannels.map UInt64.toNat)
  blockFrames := settings.blockFrames
  volume := settings.volume

/-- The system with sound on, before it asks its host for anything. -/
def ready (host : η) (settings : Settings) : SoundSystem η σ :=
  { initial host settings with rendezvous? := some .idle }

/-- The system keeps its host's answer to a request. -/
def keep (s : SoundSystem η σ) (host : η) :
    Except OutputError (Session σ) → SoundSystem η σ
  | .error _ => { s with host }
  | .ok session =>
      { s with host, status := s.status.publish session.format, session? := some session }

/-- What comes of asking the host for the entries of a pick. -/
def openedFor (H : OutputHost η σ) (s : SoundSystem η σ) (p : Pick) :
    Except OutputError Unit × SoundSystem η σ :=
  let answer := H.acquire s.host (p.request s.blockFrames)
  (answer.1.value.map fun _ => (), ({ s with menu := p.menu }).keep answer.2 answer.1.value)

/-! ## Fields that an operation leaves alone -/

section Fields

variable (H : OutputHost η σ) (s : SoundSystem η σ)

@[simp] theorem session?_disconnect : (s.disconnect H).session? = none := by
  unfold disconnect
  split
  · assumption
  · rfl

@[simp] theorem rendezvous?_disconnect : (s.disconnect H).rendezvous? = s.rendezvous? := by
  unfold disconnect
  split <;> rfl

@[simp] theorem isOn_disconnect : (s.disconnect H).isOn = s.isOn :=
  congrArg Option.isSome (rendezvous?_disconnect H s)

@[simp] theorem blockFrames_disconnect : (s.disconnect H).blockFrames = s.blockFrames := by
  unfold disconnect
  split <;> rfl

@[simp] theorem status_disconnect : (s.disconnect H).status = s.status := by
  unfold disconnect
  split <;> rfl

@[simp] theorem isConnected_stop : (s.stop H).isConnected = false := by
  simp [stop, isConnected]

theorem disconnect_of_session?_eq_none {s : SoundSystem η σ} (h : s.session? = none) :
    s.disconnect H = s := by
  simp only [disconnect, h]

variable (host : η) (answer : Except OutputError (Session σ)) (p : Pick)

@[simp] theorem host_keep : (s.keep host answer).host = host := by
  cases answer <;> rfl

@[simp] theorem menu_keep : (s.keep host answer).menu = s.menu := by
  cases answer <;> rfl

@[simp] theorem rendezvous?_keep : (s.keep host answer).rendezvous? = s.rendezvous? := by
  cases answer <;> rfl

@[simp] theorem blockFrames_keep : (s.keep host answer).blockFrames = s.blockFrames := by
  cases answer <;> rfl

@[simp] theorem menu_openedFor : (s.openedFor H p).2.menu = p.menu := menu_keep _ _ _

@[simp] theorem rendezvous?_openedFor : (s.openedFor H p).2.rendezvous? = s.rendezvous? :=
  rendezvous?_keep _ _ _

@[simp] theorem isOn_openedFor : (s.openedFor H p).2.isOn = s.isOn :=
  congrArg Option.isSome (rendezvous?_openedFor H s p)

@[simp] theorem blockFrames_openedFor : (s.openedFor H p).2.blockFrames = s.blockFrames :=
  blockFrames_keep _ _ _

end Fields

/-! ## Connecting -/

variable {H : OutputHost η σ} {s : SoundSystem η σ} {p : Pick}

theorem connect_of_fill (hon : s.isOn = true) (hfill : s.menu.fill.value = p.menu) :
    ∃ log, s.connect H = .ok ⟨s.openedFor H p, log⟩ := by
  unfold connect
  rw [if_pos hon, request_of_fill hfill, ok_bind]
  unfold openedFor
  rcases hacquire : H.acquire s.host (p.request s.blockFrames) with ⟨⟨answer, log⟩, host⟩
  refine ⟨s.menu.fill.log ++ log, ?_⟩
  simp only [hacquire]
  cases answer with
  | error e => rfl
  | ok session => rfl

theorem connectOrLog_of_fill (hon : s.isOn = true) (hfill : s.menu.fill.value = p.menu) :
    ∃ log, s.connectOrLog H = .ok ⟨s.openedFor H p, log⟩ := by
  obtain ⟨log, hconnect⟩ := connect_of_fill (H := H) hon hfill
  unfold connectOrLog
  rw [hconnect, ok_bind]
  dsimp only
  split
  · next h => exact ⟨log, congrArg Except.ok (congrArg (Logged.mk · log) (Prod.ext h.symm rfl))⟩
  · next e h => exact ⟨_, congrArg Except.ok (congrArg (Logged.mk · _) (Prod.ext h.symm rfl))⟩

/-! ## Starting -/

variable {host : η} {settings : Settings}

theorem start_of_flaw {e : OutputError} (h : settings.check = .error e) :
    start H host settings = .ok (pure (.error e)) := by
  simp only [start, h]
  rfl

theorem start_of_off (h : settings.check = .ok ()) (hoff : settings.soundOff = true) :
    start H host settings = .ok (pure (.ok (initial host settings))) := by
  simp only [start, h, hoff, if_true]
  rfl

theorem start_of_on (H : OutputHost η σ) (host : η) (h : settings.check = .ok ())
    (hon : settings.soundOff = false) :
    ∃ log, start H host settings =
      .ok ⟨.ok ((ready host settings).openedFor H settings.pick).2, log⟩ := by
  obtain ⟨log, hopen⟩ := connectOrLog_of_fill (H := H) (p := settings.pick)
    (s := ready host settings) rfl (fill_preferring _ _ _)
  refine ⟨log, ?_⟩
  simp only [start, h, hon, Bool.false_eq_true, if_false]
  unfold ready initial at hopen
  rw [hopen]
  rfl

/-! ## Changing the format -/

variable {change : FormatChange}

theorem changeFormat_of_off (hoff : s.isOn = false) :
    s.changeFormat H change = .ok (pure (.error .soundOff, s)) := by
  simp only [changeFormat, hoff, Bool.false_eq_true, if_false]
  rfl

/-- A change that is refused changes nothing, but is told if sources are active. -/
theorem changeFormat_of_stray (hon : s.isOn = true) (hmenu : s.menu = p.menu) {list : MenuList}
    {index : Nat} (hstray : change.stray? = some (list, index)) :
    s.changeFormat H change = .ok ⟨(.error (.notListed list index list.length), s),
      if s.status.hasSource then [.changedWhileActive s.status.sources] else []⟩ := by
  unfold changeFormat
  rw [if_pos hon, hmenu, Pick.apply_menu_of_stray hstray]
  simp only [pure, Except.pure, List.append_nil]

/-- A change that is accepted ends the session, and asks the host anew. -/
theorem changeFormat_of_listed (hon : s.isOn = true) (hmenu : s.menu = p.menu)
    (hlisted : change.isListed = true) :
    ∃ log, s.changeFormat H change =
      .ok ⟨(s.disconnect H).openedFor H (p.apply change), log⟩ := by
  have hreopen : ({ s.disconnect H with menu := (p.apply change).menu }).openedFor H
      (p.apply change) = (s.disconnect H).openedFor H (p.apply change) := rfl
  obtain ⟨log, hopen⟩ := connectOrLog_of_fill (H := H) (p := p.apply change)
    (s := { s.disconnect H with menu := (p.apply change).menu })
    ((isOn_disconnect H s).trans hon) (by simp)
  rw [hreopen] at hopen
  unfold changeFormat
  rw [if_pos hon, hmenu, Pick.apply_menu_of_listed hlisted]
  simp only [pure]
  rw [hopen]
  exact ⟨_, rfl⟩

end SoundSystem

end GuestAudio
