import GuestAudio.ListReader
import GuestAudio.Toml.Number

set_option autoImplicit false

/-! # Dates and times of a TOML document

A date, a time of day, or a date and a time with the offset of its zone or without. Seconds may be
left out, and a minute may have a sixty-first one. Days are those of the Gregorian calendar. -/

namespace GuestAudio

/-- A reader of a document's text. -/
abbrev TextReader := ListReader Char TomlError

namespace TextReader

/-- Take a given character. -/
def expect (c : Char) : TextReader Unit := fun cs =>
  match cs with
  | d :: rest => if d = c then .ok ((), rest) else .error .malformed
  | [] => .error .malformed

/-- Take a given character, if it comes next; say whether it did. -/
def skipOver (c : Char) : TextReader Bool := fun cs =>
  match cs with
  | d :: rest => if d = c then .ok (true, rest) else .ok (false, cs)
  | [] => .ok (false, [])

/-- Take characters while they satisfy a condition. -/
def takeWhile (p : Char → Bool) : TextReader (List Char) := fun cs =>
  .ok (cs.takeWhile p, cs.dropWhile p)

/-- A decimal number of exactly so many digits, that continues a value. -/
def fixedDigits (value : Nat) : Nat → TextReader Nat
  | 0 => pure value
  | n + 1 => fun cs =>
      match cs with
      | [] => .error .malformed
      | c :: rest =>
          match digitValue? 10 c with
          | none => .error .malformed
          | some digit => fixedDigits (value * 10 + digit) n rest

end TextReader

open ListReader TextReader

def isLeapYear (year : Nat) : Bool := year % 4 = 0 && (year % 100 ≠ 0 || year % 400 = 0)

def daysInMonth (year month : Nat) : Nat :=
  if month = 2 then if isLeapYear year then 29 else 28
  else if month ∈ [4, 6, 9, 11] then 30
  else 31

def TomlDate.read : TextReader TomlDate := do
  let year ← fixedDigits 0 4
  expect '-'
  let month ← fixedDigits 0 2
  expect '-'
  let day ← fixedDigits 0 2
  require (1 ≤ month && month ≤ 12 && 1 ≤ day && day ≤ daysInMonth year month) .malformed
  return { year, month, day }

/-- The nanoseconds that decimal places of a second amount to; places from the tenth on are cut. -/
def nanoseconds (places : List Char) : Nat :=
  let places := places.take 9 ++ List.replicate (9 - places.length) '0'
  places.foldl (fun n c => n * 10 + (digitValue? 10 c).getD 0) 0

def TomlTime.read : TextReader TomlTime := do
  let hour ← fixedDigits 0 2
  expect ':'
  let minute ← fixedDigits 0 2
  let hasSecond ← skipOver ':'
  let second ← if hasSecond then fixedDigits 0 2 else pure 0
  let hasFraction ← if hasSecond then skipOver '.' else pure false
  let places ← if hasFraction then takeWhile fun c => (digitValue? 10 c).isSome else pure []
  require (!hasFraction || !places.isEmpty) .malformed
  require (hour ≤ 23 && minute ≤ 59 && second ≤ 60) .malformed
  return { hour, minute, second, nanosecond := nanoseconds places }

/-- The hours and minutes of an offset, in minutes. -/
def readOffsetMinutes : TextReader Nat := do
  let hours ← fixedDigits 0 2
  expect ':'
  let minutes ← fixedDigits 0 2
  require (hours ≤ 23 && minutes ≤ 59) .malformed
  return hours * 60 + minutes

/-- The minutes by which a zone is ahead, if a zone is given. -/
def readOffset : TextReader (Option Int) := fun cs =>
  match cs with
  | 'Z' :: rest | 'z' :: rest => .ok (some 0, rest)
  | '+' :: rest => ((some ∘ signed false) <$> readOffsetMinutes) rest
  | '-' :: rest => ((some ∘ signed true) <$> readOffsetMinutes) rest
  | _ => .ok (none, cs)

/-- Take the sign between a date and its time, if a time follows. A blank is one only if a digit
comes after it. -/
def skipTimeSign : TextReader Bool := fun cs =>
  match cs with
  | 'T' :: rest | 't' :: rest => .ok (true, rest)
  | ' ' :: c :: rest =>
      if (digitValue? 10 c).isSome then .ok (true, c :: rest) else .ok (false, cs)
  | _ => .ok (false, cs)

/-- A date, and the time that follows it, if any. -/
def TomlDateTime.readFromDate : TextReader TomlDateTime := do
  let date ← TomlDate.read
  if ← skipTimeSign then
    let time ← TomlTime.read
    return .both date time (← readOffset)
  else
    return .date date

def TomlDateTime.read : TextReader TomlDateTime :=
  TomlDateTime.readFromDate <|> .time <$> TomlTime.read

end GuestAudio
