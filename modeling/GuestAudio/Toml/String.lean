import GuestAudio.Toml.DateTime

set_option autoImplicit false

/-! # Strings of a TOML document

A string stands between quotes or between apostrophes, single or threefold. Only quotes know
escapes, and only threefold marks may hold line breaks (`StringStyle`). A string between threefold
marks may end in one or two marks of its own. -/

namespace GuestAudio

/-- Characters that stand for themselves everywhere: the tab, and all but the control characters. -/
def isTextChar (c : Char) : Bool :=
  c = '\t' || (' ' ≤ c && c ≠ '\x7f')

def isSpace (c : Char) : Bool := c = ' ' || c = '\t'

/-- How a string is written. -/
structure StringStyle where
  /-- The mark at both ends. -/
  mark : Char
  /-- A backslash begins an escape. -/
  escapes : Bool
  /-- The mark is threefold. -/
  multiline : Bool
deriving Repr, DecidableEq

/-- What the next character of a string belongs to. -/
inductive StringPart
  | text
  /-- An escape, after its backslash. -/
  | escape
  /-- The digits of an escape: how many are still to come, and the code point so far. -/
  | codePoint (digits value : Nat)
  /-- Blanks between a backslash and the line break that it hides. -/
  | hiddenBreak
  /-- Blanks and line breaks after a hidden one. -/
  | hiddenBlanks
deriving Repr, DecidableEq

/-- The character that an escape of one letter stands for. -/
def escapedChar? (c : Char) : Option Char :=
  match c with
  | 'b' => some '\x08'
  | 't' => some '\t'
  | 'n' => some '\n'
  | 'f' => some '\x0c'
  | 'r' => some '\r'
  | 'e' => some '\x1b'
  | '"' => some '"'
  | '\\' => some '\\'
  | _ => none

/-- The number of digits after an escape that gives a code point. -/
def codePointDigits? (c : Char) : Option Nat :=
  match c with
  | 'x' => some 2
  | 'u' => some 4
  | 'U' => some 8
  | _ => none

/-- The character with a code point. -/
def charOf? (n : Nat) : Option Char := if n.isValidChar then some (Char.ofNat n) else none

/-- Whether a line break begins here. -/
def atLineBreak : List Char → Bool
  | '\n' :: _ => true
  | '\r' :: '\n' :: _ => true
  | _ => false

/-- The text after a line break, if one begins here. -/
def dropLineBreak : List Char → List Char
  | '\n' :: cs => cs
  | '\r' :: '\n' :: cs => cs
  | cs => cs

namespace StringStyle

/-- Marks that are left over before the last three, of as many as there are: two at most. -/
def spareMarks (style : StringStyle) (cs : List Char) : Nat :=
  min 2 ((cs.takeWhile (· = style.mark)).length - 3)

/-- Read up to the closing mark. The characters read come last first. -/
def readBody (style : StringStyle) (sofar : List Char) :
    StringPart → List Char → Except TomlError (List Char × List Char)
  | _, [] => .error .malformed
  | .escape, c :: cs =>
      match escapedChar? c, codePointDigits? c with
      | some d, _ => readBody style (d :: sofar) .text cs
      | none, some n => readBody style sofar (.codePoint n 0) cs
      | none, none =>
          -- a backslash at the end of a line hides the break and the blanks after it
          if !style.multiline then .error .malformed
          else if isSpace c || atLineBreak (c :: cs) then
            readBody style sofar (if c = '\n' then .hiddenBlanks else .hiddenBreak) cs
          else .error .malformed
  | .codePoint digits value, c :: cs =>
      match digitValue? 16 c with
      | none => .error .malformed
      | some digit =>
          let value := value * 16 + digit
          if 1 < digits then readBody style sofar (.codePoint (digits - 1) value) cs
          else
            match charOf? value with
            | some d => readBody style (d :: sofar) .text cs
            | none => .error .malformed
  | .hiddenBreak, c :: cs =>
      if c = '\n' then readBody style sofar .hiddenBlanks cs
      else if isSpace c || atLineBreak (c :: cs) then readBody style sofar .hiddenBreak cs
      else .error .malformed
  | part, c :: cs =>
      if part = .hiddenBlanks && (isSpace c || c = '\n' || atLineBreak (c :: cs)) then
        readBody style sofar .hiddenBlanks cs
      else if c = style.mark then
        if !style.multiline then .ok (sofar, cs)
        else
          match cs with
          | d :: e :: rest =>
              -- up to two marks right before the closing three belong to the string
              if d = style.mark && e = style.mark then
                let spare := style.spareMarks (c :: cs)
                .ok (List.replicate spare style.mark ++ sofar, rest.drop spare)
              else readBody style (c :: sofar) .text cs
          | _ => .error .malformed
      else if c = '\\' && style.escapes then readBody style sofar .escape cs
      else if isTextChar c || (style.multiline && atLineBreak (c :: cs)) then
        readBody style (c :: sofar) .text cs
      else .error .malformed

/-- Read a string from after its opening mark to the end of its closing mark. -/
def read (style : StringStyle) : TextReader String := fun cs => do
  let (chars, rest) ← style.readBody [] .text cs
  return (String.ofList chars.reverse, rest)

end StringStyle

end GuestAudio
