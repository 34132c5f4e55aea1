import GuestAudio.OutputError

set_option autoImplicit false

/-! # Log records

Operations do not print: what they would tell the user is part of their answer, as a list of
`Record`s in the order in which they arose. `Logged α` is a value with such a list. -/

namespace GuestAudio

/-- How serious a record is. -/
inductive Level
  | warning
  | error
deriving Repr, DecidableEq

/-- Something worth telling the user. -/
inductive Record
  /-- A preferred index is outside its list; the last entry is used. -/
  | preferenceOutOfRange (list : MenuList) (index last : Nat)
  /-- A request was raised while the response to an earlier one is outstanding. -/
  | requestOutstanding
  /-- The device could not be opened. -/
  | noOutput (cause : OutputError)
  /-- The format is changed although sources are active. -/
  | changedWhileActive (sources : Nat)
  /-- The device refused a stream with a fixed buffer size. -/
  | fixedBufferRefused (frames : UInt32) (cause : OutputError)
  /-- The start-up chime cannot be read. -/
  | chimeUnreadable (file : String) (cause : OutputError)
  /-- The start-up chime cannot be played. -/
  | chimeFailed (cause : OutputError)
  /-- Trouble with the running output stream. -/
  | streamTrouble (cause : RunningError)
  /-- Trouble with the chime's stream. -/
  | chimeStreamTrouble (cause : RunningError)
deriving Repr, DecidableEq

namespace Record

def level : Record → Level
  | streamTrouble _ => .error
  | chimeStreamTrouble _ => .error
  | _ => .warning

def message : Record → String
  | preferenceOutOfRange list index last =>
      "Preferred " ++ list.name ++ " index " ++ toString index ++ " out of range, using " ++
        toString last
  | requestOutstanding => "Audio interrupt requested while a response is still outstanding"
  | noOutput cause => "No audio output available: " ++ cause.message
  | changedWhileActive sources =>
      "Audio format changed with " ++ toString sources ++ " active source(s)"
  | fixedBufferRefused frames cause =>
      toString frames ++ "-frame buffer refused (" ++ cause.message ++
        "), retrying with host default"
  | chimeUnreadable file cause => "Startup sound " ++ file ++ " not played: " ++ cause.message
  | chimeFailed cause => "Startup sound failed: " ++ cause.message
  | streamTrouble cause => "Audio stream error: " ++ cause.message
  | chimeStreamTrouble cause => "Startup sound stream error: " ++ cause.message

end Record

/-- Records in the order in which they arose. -/
abbrev Log := List Record

/-- The texts of the records of one level. -/
def Log.texts (log : Log) (level : Level) : List String :=
  (log.filter fun r => r.level == level).map Record.message

/-- A value, and what was logged on the way to it. -/
structure Logged (α : Type) where
  value : α
  log : Log := []

namespace Logged

instance : Monad Logged where
  pure a := { value := a }
  bind x f :=
    let y := f x.value
    { value := y.value, log := x.log ++ y.log }

/-- Log one record. -/
def tell (r : Record) : Logged Unit := { value := (), log := [r] }

@[simp] theorem value_pure {α : Type} (a : α) : (pure a : Logged α).value = a := rfl

@[simp] theorem log_pure {α : Type} (a : α) : (pure a : Logged α).log = [] := rfl

@[simp] theorem value_bind {α β : Type} (x : Logged α) (f : α → Logged β) :
    (x >>= f).value = (f x.value).value := rfl

@[simp] theorem log_bind {α β : Type} (x : Logged α) (f : α → Logged β) :
    (x >>= f).log = x.log ++ (f x.value).log := rfl

end Logged

end GuestAudio
