import GuestAudio.Proofs.Toml.Lines
import GuestAudio.Settings.Text
import Mathlib.Data.List.Perm.Subperm

set_option autoImplicit false

/-! # Settings survive being written and read

Any of the lines that settings are written as, in any order, read as those settings with a default
for each one whose line is left out (`Settings.restricted`, `Settings.readsAs_listed`). Whether the
settings are within range makes no difference to that: it is looked at only afterwards, by
`Settings.ofText`. The lines are plain ones, since every name of a setting is a bare key and every
value is spelt as one word, and their table `Lists` the settings that are named. -/

namespace GuestAudio

/-! ## Keys and their values -/

/-- Among distinct keys a key leads to the value beside it. -/
theorem lookup_of_mem {α β : Type} [BEq α] [LawfulBEq α] {entries : List (α × β)} {key : α} {v : β}
    (hnodup : (entries.map Prod.fst).Nodup) (h : (key, v) ∈ entries) :
    entries.lookup key = some v := by
  induction entries with
  | nil => exact absurd h List.not_mem_nil
  | cons e entries ih =>
    rw [List.map_cons, List.nodup_cons] at hnodup
    rcases List.mem_cons.1 h with rfl | hmem
    · exact List.lookup_cons_self
    · have hkey : (key == e.1) = false := by
        rw [beq_eq_false_iff_ne]
        intro heq
        have hkeys : key ∈ entries.map Prod.fst := List.mem_map_of_mem hmem
        exact hnodup.1 (heq ▸ hkeys)
      rw [List.lookup_cons, hkey]
      exact ih hnodup.2 hmem

theorem lookup_map_snd {α β γ : Type} [BEq α] (f : β → γ) (entries : List (α × β)) (key : α) :
    (entries.map fun e => (e.1, f e.2)).lookup key = (entries.lookup key).map f := by
  induction entries with
  | nil => rfl
  | cons e entries ih =>
    rw [List.map_cons, List.lookup_cons, List.lookup_cons]
    cases key == e.1 with
    | true => rfl
    | false => exact ih

/-! ## Values and names -/

namespace SettingValue

/-- What a document holds for the value. -/
def scalar : SettingValue → TomlScalar
  | flag b => .boolean b
  | number n => .integer n

/-- No number is wider than the widest setting. -/
def Fits : SettingValue → Prop
  | flag _ => True
  | number n => n < 1 <<< 64

theorem Fits.spells {v : SettingValue} (h : v.Fits) : Spells v.text.toList v.scalar := by
  cases v with
  | flag b => exact spells_boolean b
  | number n => exact spells_number (Nat.lt_trans h (by decide))

end SettingValue

/-- The names of all settings, in the order in which they are written. -/
def settingNames : List String :=
  ["nosound", "sound_buffer", "sample_rate_index", "sample_size_index", "channel_count_index",
    "main_volume", "speaker_volume", "main_mute", "speaker_mute"]

theorem bare_of_mem_settingNames {name : String} (h : name ∈ settingNames) :
    name.toList ≠ [] ∧ ∀ c ∈ name.toList, isBareKeyChar c = true := by
  have hnames : settingNames.all (fun name =>
      !name.toList.isEmpty && name.toList.all isBareKeyChar) = true := by decide
  have hname := List.all_eq_true.1 hnames name h
  rw [Bool.and_eq_true, List.all_eq_true, Bool.not_eq_true', List.isEmpty_eq_false_iff] at hname
  exact hname

/-- The line of a setting, as a plain line of a document. -/
def plainSetting (setting : String × SettingValue)
    (h : setting.1 ∈ settingNames ∧ setting.2.Fits) : PlainLine where
  key := setting.1
  word := setting.2.text
  scalar := setting.2.scalar
  key_ne_nil := (bare_of_mem_settingNames h.1).1
  key_bare := (bare_of_mem_settingNames h.1).2
  spells := h.2.spells

namespace Settings

theorem keys_entries (c : Settings) : (c.entries.map Prod.fst).Sublist settingNames := by
  have hindex (name : String) (i? : Option UInt64) :
      ((i?.map fun i => (name, SettingValue.number i.toNat)).toList.map Prod.fst).Sublist
        [name] := by
    cases i? with
    | none => exact List.nil_sublist _
    | some i => exact List.Sublist.refl _
  simp only [entries, List.map_append]
  exact ((((List.Sublist.refl _).append (hindex _ _)).append (hindex _ _)).append
    (hindex _ _)).append (List.Sublist.refl _)

theorem nodup_keys_entries (c : Settings) : (c.entries.map Prod.fst).Nodup :=
  List.Nodup.sublist c.keys_entries (by decide)

theorem fits_of_mem_entries (c : Settings) {setting : String × SettingValue}
    (h : setting ∈ c.entries) : setting.2.Fits := by
  have hlevel (level : UInt16) : level.toNat < 1 <<< 64 := Nat.lt_trans level.toNat_lt (by decide)
  have hshift (n : UInt32) : n.toNat < 1 <<< 64 := Nat.lt_trans n.toNat_lt (by decide)
  have hindex (name : String) (i? : Option UInt64) :
      ∀ e ∈ (i?.map fun i => (name, SettingValue.number i.toNat)).toList, e.2.Fits := by
    cases i? with
    | none => exact List.forall_mem_nil _
    | some i => exact List.forall_mem_singleton.2 i.toNat_lt
  revert setting
  simp only [entries, List.forall_mem_append, List.forall_mem_cons]
  exact ⟨⟨⟨⟨⟨trivial, hshift _, List.forall_mem_nil _⟩, hindex _ _⟩, hindex _ _⟩, hindex _ _⟩,
    hlevel _, hlevel _, trivial, trivial, List.forall_mem_nil _⟩

/-- Each setting under its name. -/
theorem lookup_entries (c : Settings) :
    c.entries.lookup "nosound" = some (.flag c.soundOff) ∧
    c.entries.lookup "sound_buffer" = some (.number c.bufferShift.toNat) ∧
    c.entries.lookup "sample_rate_index" = c.preferredRate.map (.number ·.toNat) ∧
    c.entries.lookup "sample_size_index" = c.preferredSize.map (.number ·.toNat) ∧
    c.entries.lookup "channel_count_index" = c.preferredChannels.map (.number ·.toNat) ∧
    c.entries.lookup "main_volume" = some (.number c.volume.main.level.toNat) ∧
    c.entries.lookup "speaker_volume" = some (.number c.volume.speaker.level.toNat) ∧
    c.entries.lookup "main_mute" = some (.flag c.volume.main.muted) ∧
    c.entries.lookup "speaker_mute" = some (.flag c.volume.speaker.muted) := by
  cases hr : c.preferredRate <;> cases hs : c.preferredSize <;>
    cases hc : c.preferredChannels <;>
    simp [entries, List.lookup_cons, hr, hs, hc]

end Settings

/-! ## The table of a text -/

section Listed

variable {c : Settings} {listed : List (String × SettingValue)}

theorem nodup_keys_of_subperm (h : listed.Subperm c.entries) : (listed.map Prod.fst).Nodup := by
  obtain ⟨ordered, hperm, hsub⟩ := h
  exact (hperm.map Prod.fst).nodup_iff.1 (c.nodup_keys_entries.sublist (hsub.map Prod.fst))

/-- The text of these lines, with or without a line break after the last. -/
def IsTextOf (text : String) (listed : List (String × SettingValue)) : Prop :=
  text = String.join (listed.map settingLine) ∨
    text ++ "\n" = String.join (listed.map settingLine)

/-- Some of the lines, in any order, are plain lines for different keys. -/
theorem ofText_listed (h : listed.Subperm c.entries) {text : String}
    (htext : IsTextOf text listed) :
    TomlTable.ofText text =
      .ok { entries := listed.map fun e => (e.1, .scalar e.2.scalar) } := by
  have hplain : ∀ e ∈ listed, e.1 ∈ settingNames ∧ e.2.Fits := by
    intro e he
    have hmem : e ∈ c.entries := h.subset he
    exact ⟨c.keys_entries.subset (List.mem_map_of_mem hmem), c.fits_of_mem_entries hmem⟩
  have hmap {β : Type} (f : PlainLine → β) (g : String × SettingValue → β)
      (hfg : ∀ e he, f (plainSetting e he) = g e) :
      (listed.pmap plainSetting hplain).map f = listed.map g := by
    rw [List.map_pmap, ← List.pmap_eq_map hplain]
    exact List.pmap_congr_left listed fun e _ he _ => hfg e he
  have hdocument : PlainLine.document (listed.pmap plainSetting hplain) =
      String.join (listed.map settingLine) :=
    congrArg String.join (hmap _ settingLine fun _ _ => rfl)
  have hwritten : Written (listed.pmap plainSetting hplain) text.toList := by
    rcases htext with heq | heq
    · rw [heq, ← hdocument]
      exact written_document _
    · apply written_of_append_break
      rw [hdocument, ← heq, String.toList_append]
      rfl
  have hkeys : (listed.pmap plainSetting hplain).map PlainLine.key = listed.map Prod.fst :=
    hmap _ _ fun _ _ => rfl
  have hentries : (listed.pmap plainSetting hplain).map PlainLine.entry =
      listed.map fun e => (e.1, .scalar e.2.scalar) :=
    hmap _ _ fun _ _ => rfl
  rw [TomlTable.ofText_plain hwritten (by rw [hkeys]; exact nodup_keys_of_subperm h), hentries]

/-- What is listed has the value that the settings give it. -/
theorem lookup_listed (h : listed.Subperm c.entries) (key : String) :
    listed.lookup key = if key ∈ listed.map Prod.fst then c.entries.lookup key else none := by
  split
  · next hkey =>
    obtain ⟨⟨name, v⟩, hmem, rfl⟩ := List.mem_map.1 hkey
    rw [lookup_of_mem (nodup_keys_of_subperm h) hmem,
      lookup_of_mem c.nodup_keys_entries (h.subset hmem)]
  · next hkey =>
    rw [List.lookup_eq_none_iff]
    rintro e he
    rw [bne_iff_ne]
    rintro rfl
    exact hkey (List.mem_map_of_mem he)

/-! ## The settings of a table -/

variable {t : TomlTable} {named : List String}

/-- The settings that are named, and the defaults of all others. -/
def Settings.restricted (c : Settings) (named : List String) : Settings where
  soundOff := if "nosound" ∈ named then c.soundOff else false
  bufferShift := if "sound_buffer" ∈ named then c.bufferShift else 0
  preferredRate := if "sample_rate_index" ∈ named then c.preferredRate else none
  preferredSize := if "sample_size_index" ∈ named then c.preferredSize else none
  preferredChannels := if "channel_count_index" ∈ named then c.preferredChannels else none
  volume := {
    main := {
      level := if "main_volume" ∈ named then c.volume.main.level else 0x0100
      muted := if "main_mute" ∈ named then c.volume.main.muted else false }
    speaker := {
      level := if "speaker_volume" ∈ named then c.volume.speaker.level else 0x0100
      muted := if "speaker_mute" ∈ named then c.volume.speaker.muted else false } }

/-- The table has the named ones among these settings. -/
def TomlTable.Lists (t : TomlTable) (c : Settings) (named : List String) : Prop :=
  ∀ key, t.find? key =
    if key ∈ named then (c.entries.lookup key).map fun v => .scalar v.scalar else none

theorem lists_listed (h : listed.Subperm c.entries) :
    TomlTable.Lists { entries := listed.map fun e => (e.1, .scalar e.2.scalar) } c
      (listed.map Prod.fst) := by
  intro key
  have hlookup := lookup_map_snd (fun v => TomlValue.scalar v.scalar) listed key
  rw [TomlTable.find?, hlookup, lookup_listed h]
  split <;> rfl

theorem TomlTable.Lists.flag?_eq (h : t.Lists c named) {key : String} {b : Bool}
    (hkey : c.entries.lookup key = some (.flag b)) :
    t.flag? key = .ok (if key ∈ named then some b else none) := by
  rw [TomlTable.flag?, h key, hkey]
  by_cases hnamed : key ∈ named
  · rw [if_pos hnamed, if_pos hnamed]
    rfl
  · rw [if_neg hnamed, if_neg hnamed]

/-- A number that is kept in a word of so many bits. -/
theorem TomlTable.Lists.number?_eq (h : t.Lists c named) {key : String} {ω : Type}
    {toNat : ω → Nat} {n? : Option ω}
    (hkey : c.entries.lookup key = n?.map fun n => .number (toNat n)) {bits : Nat}
    (hbits : ∀ n, toNat n < 1 <<< bits) :
    t.number? bits key = .ok ((if key ∈ named then n? else none).map toNat) := by
  rw [TomlTable.number?, h key, hkey]
  by_cases hnamed : key ∈ named
  · rw [if_pos hnamed, if_pos hnamed]
    cases n? with
    | none => rfl
    | some n =>
      have hn : ((0 : Int) ≤ toNat n && (toNat n : Int) < 1 <<< bits) = true := by
        rw [Bool.and_eq_true, decide_eq_true_eq, decide_eq_true_eq]
        exact ⟨by omega, by exact_mod_cast hbits n⟩
      exact if_pos hn
  · rw [if_neg hnamed, if_neg hnamed]
    rfl

/-- A word that was written is the word that is read, or else the default. -/
theorem getD_kept {ω : Type} {toNat : ω → Nat} {word : Nat → ω} (hword : ∀ n, word (toNat n) = n)
    (p : Prop) [Decidable p] (n default : ω) :
    (((if p then some n else none).map toNat).map word).getD default =
      if p then n else default := by
  split
  · exact hword n
  · rfl

theorem map_kept {ω : Type} {toNat : ω → Nat} {word : Nat → ω} (hword : ∀ n, word (toNat n) = n)
    (n? : Option ω) : (n?.map toNat).map word = n? := by
  cases n? with
  | none => rfl
  | some n => exact congrArg some (hword n)

theorem TomlTable.Lists.ofTable_eq (h : t.Lists c named) :
    Settings.ofTable t = .ok (c.restricted named) := by
  obtain ⟨hoff, hshift, hrate, hsize, hchannels, hmain, hspeaker, hmainMute, hspeakerMute⟩ :=
    c.lookup_entries
  have hhalved : t.number? 32 "sound_buffer" =
      .ok ((if "sound_buffer" ∈ named then some c.bufferShift else none).map UInt32.toNat) :=
    h.number?_eq hshift UInt32.toNat_lt
  have hindex {key : String} {i? : Option UInt64}
      (hkey : c.entries.lookup key = i?.map (.number ·.toNat)) :
      t.number? 64 key = .ok ((if key ∈ named then i? else none).map UInt64.toNat) :=
    h.number?_eq hkey UInt64.toNat_lt
  have hlevel {key : String} {level : UInt16}
      (hkey : c.entries.lookup key = some (.number level.toNat)) :
      t.number? 16 key = .ok ((if key ∈ named then some level else none).map UInt16.toNat) :=
    h.number?_eq hkey UInt16.toNat_lt
  simp only [Settings.ofTable]
  rw [h.flag?_eq hoff, hhalved, hindex hrate, hindex hsize, hindex hchannels, hlevel hmain,
    h.flag?_eq hmainMute, hlevel hspeaker, h.flag?_eq hspeakerMute]
  have hflag (p : Prop) [Decidable p] (b : Bool) :
      (if p then some b else none).getD false = if p then b else false := by
    split <;> rfl
  simp only [bind, Except.bind, pure, Except.pure, hflag, map_kept @UInt64.ofNat_toNat,
    getD_kept @UInt32.ofNat_toNat, getD_kept @UInt16.ofNat_toNat]
  rfl

/-! ## The settings that come back -/

theorem read_listed (h : listed.Subperm c.entries) {text : String} (htext : IsTextOf text listed) :
    Settings.read text = .ok (c.restricted (listed.map Prod.fst)) := by
  rw [Settings.read, ofText_listed h htext]
  exact (lists_listed h).ofTable_eq

end Listed

namespace Settings

/-- A document holds these settings. It is accepted just if the halving and both levels are within
range, and else refused for the first of these three that is not. -/
structure ReadsAs (text : String) (s : Settings) : Prop where
  read : Settings.read text = .ok s
  accepted : Settings.ofText text = .ok s ↔
    s.bufferShift ≤ 12 ∧ s.volume.main.level ≤ 256 ∧ s.volume.speaker.level ≤ 256
  refused_shift : 12 < s.bufferShift →
    Settings.ofText text = .error (.badSettings (SettingsFlaw.bufferShift s.bufferShift).message)
  refused_main : s.bufferShift ≤ 12 → 256 < s.volume.main.level →
    Settings.ofText text =
      .error (.badSettings (SettingsFlaw.mainLevel s.volume.main.level).message)
  refused_speaker : s.bufferShift ≤ 12 → s.volume.main.level ≤ 256 →
    256 < s.volume.speaker.level →
    Settings.ofText text =
      .error (.badSettings (SettingsFlaw.speakerLevel s.volume.speaker.level).message)

theorem ReadsAs.of_read {text : String} {s : Settings} (h : Settings.read text = .ok s) :
    ReadsAs text s := by
  have htext : ofText text = s.check >>= fun _ => .ok s := by
    rw [ofText, h]
    rfl
  have haccepted : ofText text = .ok s ↔ s.flaw? = none := by
    rw [htext, check]
    cases s.flaw? with
    | none => exact ⟨fun _ => rfl, fun _ => rfl⟩
    | some flaw => exact ⟨nofun, nofun⟩
  have hrefused {flaw : SettingsFlaw} (hflaw : s.flaw? = some flaw) :
      ofText text = .error (.badSettings flaw.message) := by
    rw [htext, check, hflaw]
    rfl
  refine ⟨h, haccepted.trans s.flaw?_eq_none_iff, ?_, ?_, ?_⟩
  · intro hshift
    apply hrefused
    rw [flaw?]
    exact if_pos hshift
  · intro hshift hmain
    have hnoShift : ¬ s.bufferShift > greatestShift := UInt32.not_lt.2 hshift
    apply hrefused
    rw [flaw?, if_neg hnoShift]
    exact if_pos hmain
  · intro hshift hmain hspeaker
    have hnoShift : ¬ s.bufferShift > greatestShift := UInt32.not_lt.2 hshift
    have hnoMain : ¬ s.volume.main.level > fullLevel := UInt16.not_lt.2 hmain
    apply hrefused
    rw [flaw?, if_neg hnoShift, if_neg hnoMain]
    exact if_pos hspeaker

/-- All lines together leave nothing to the defaults. -/
theorem restricted_entries (c : Settings) : c.restricted (c.entries.map Prod.fst) = c := by
  obtain ⟨off, shift, rate, size, channels, volume⟩ := c
  cases rate <;> cases size <;> cases channels <;> simp [restricted, entries]

/-- Any of the lines that settings are written as, in any order and with or without the last line
break, are a document that holds what they say, and the default of each setting that no line names.
All lines of settings within range give the settings back. -/
theorem readsAs_listed (c : Settings) :
    (∀ (listed : List (String × SettingValue)) (text : String), listed.Subperm c.entries →
      IsTextOf text listed → ReadsAs text (c.restricted (listed.map Prod.fst))) ∧
    (c.bufferShift ≤ 12 → c.volume.main.level ≤ 256 → c.volume.speaker.level ≤ 256 →
      ofText c.text = .ok c) := by
  have hlisted (listed : List (String × SettingValue)) (text : String)
      (h : listed.Subperm c.entries) (htext : IsTextOf text listed) :
      ReadsAs text (c.restricted (listed.map Prod.fst)) :=
    .of_read (read_listed h htext)
  refine ⟨hlisted, fun hshift hmain hspeaker => ?_⟩
  have hall := hlisted c.entries c.text (List.Subperm.refl _) (.inl rfl)
  rw [c.restricted_entries] at hall
  exact hall.accepted.2 ⟨hshift, hmain, hspeaker⟩

/-- Three lines in another order, of which the last has no line break: the greatest index there is
is read, and the halving is refused before the level. Settings within range, with one preference of
three, come back. -/
theorem readsAs_listed_three_lines :
    ReadsAs "main_volume = 65535\nsample_rate_index = 18446744073709551615\nsound_buffer = 13"
        { bufferShift := 13, preferredRate := some 18446744073709551615,
          volume.main.level := 65535 } ∧
      ofText "main_volume = 65535\nsample_rate_index = 18446744073709551615\nsound_buffer = 13" =
        .error (.badSettings "sound_buffer 13 exceeds 12") ∧
      ofText (text { preferredChannels := some 0, volume.main.level := 128 }) =
        .ok { preferredChannels := some 0, volume.main.level := 128 } := by
  have hread := (readsAs_listed {
      soundOff := true, bufferShift := 13, preferredRate := some 18446744073709551615,
      volume.main.level := 65535 }).1
    [("main_volume", .number 65535), ("sample_rate_index", .number 18446744073709551615),
      ("sound_buffer", .number 13)]
    "main_volume = 65535\nsample_rate_index = 18446744073709551615\nsound_buffer = 13"
    (List.subperm_of_subset (by decide) (by decide)) (.inr (by decide))
  exact ⟨hread, hread.refused_shift (by decide),
    (readsAs_listed { preferredChannels := some 0, volume.main.level := 128 }).2
      (by decide) (by decide) (by decide)⟩

end Settings

end GuestAudio
