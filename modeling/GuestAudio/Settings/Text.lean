import GuestAudio.Settings
import GuestAudio.Toml.Reader

set_option autoImplicit false

/-! # The text of settings

Settings are written as a TOML document, one line for each setting that has a value
(`Settings.text`), and read from one (`Settings.read`). A document may hold other keys; a setting it
does not name takes its default. `Settings.ofText` accepts only documents whose settings are all
within range. -/

namespace GuestAudio

/-- The value of a setting, as a document holds it. -/
inductive SettingValue
  | flag (b : Bool)
  | number (n : Nat)
deriving Repr, DecidableEq

def SettingValue.text : SettingValue → String
  | flag b => if b then "true" else "false"
  | number n => toString n

/-- The line for a setting. -/
def settingLine (setting : String × SettingValue) : String :=
  setting.1 ++ " = " ++ setting.2.text ++ "\n"

namespace Settings

/-- The settings that have a value, by their names. -/
def entries (s : Settings) : List (String × SettingValue) :=
  let index (name : String) (i? : Option UInt64) : List (String × SettingValue) :=
    (i?.map fun i => (name, .number i.toNat)).toList
  [("nosound", .flag s.soundOff), ("sound_buffer", .number s.bufferShift.toNat)] ++
    index "sample_rate_index" s.preferredRate ++
    index "sample_size_index" s.preferredSize ++
    index "channel_count_index" s.preferredChannels ++
    [("main_volume", .number s.volume.main.level.toNat),
      ("speaker_volume", .number s.volume.speaker.level.toNat),
      ("main_mute", .flag s.volume.main.muted), ("speaker_mute", .flag s.volume.speaker.muted)]

/-- The settings as a document. -/
def text (s : Settings) : String := String.join (s.entries.map settingLine)

end Settings

/-! ## Reading -/

namespace TomlTable

/-- A truth value, if the table names it. -/
def flag? (t : TomlTable) (key : String) : Except TomlError (Option Bool) :=
  match t.find? key with
  | none => .ok none
  | some (.scalar (.boolean b)) => .ok (some b)
  | some _ => .error (.wrongType key)

/-- A number without a sign that fits a word of `bits` bits, if the table names it. -/
def number? (t : TomlTable) (bits : Nat) (key : String) : Except TomlError (Option Nat) :=
  match t.find? key with
  | none => .ok none
  | some (.scalar (.integer n)) =>
      if 0 ≤ n && n < 1 <<< bits then .ok (some n.toNat) else .error (.outOfRange key)
  | some _ => .error (.wrongType key)

end TomlTable

namespace Settings

/-- The settings that a table holds. -/
def ofTable (t : TomlTable) : Except TomlError Settings := do
  let flag (key : String) : Except TomlError Bool := do
    return (← t.flag? key).getD false
  let index (key : String) : Except TomlError (Option UInt64) := do
    return (← t.number? 64 key).map UInt64.ofNat
  let level (key : String) : Except TomlError UInt16 := do
    return ((← t.number? 16 key).map UInt16.ofNat).getD fullLevel
  return {
    soundOff := ← flag "nosound"
    bufferShift := ((← t.number? 32 "sound_buffer").map UInt32.ofNat).getD 0
    preferredRate := ← index "sample_rate_index"
    preferredSize := ← index "sample_size_index"
    preferredChannels := ← index "channel_count_index"
    volume := {
      main := { level := ← level "main_volume", muted := ← flag "main_mute" }
      speaker := { level := ← level "speaker_volume", muted := ← flag "speaker_mute" } } }

/-- The settings that a document holds, within range or not. -/
def read (text : String) : Except TomlError Settings := do
  ofTable (← TomlTable.ofText text)

/-- The settings that a document holds, if they are within range. -/
def ofText (text : String) : Except OutputError Settings := do
  let s ← (read text).mapError .unreadableSettings
  s.check
  return s

end Settings

end GuestAudio
