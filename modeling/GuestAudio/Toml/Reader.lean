import GuestAudio.Toml.String
import GuestAudio.Toml.Table

set_option autoImplicit false

/-! # Reading a TOML document

A document is read line by line (`TomlLine.read?`); a line may go on over line breaks inside a
string, an array or an inline table. Inside an inline table they may also stand on either side of
the mark between a key and its value, but never within a key. The lines are then put together by
`TomlDocument.ofLines`.
Values are nested eighty deep at most, and fewer than eighty tables may lead to a key
(`maxDepth`). -/

namespace GuestAudio

open ListReader TextReader

/-- How deep values may be nested, and what the tables that lead to a key stay below. -/
def maxDepth : Nat := 80

/-! ## Between values -/

def skipSpaces : TextReader Unit := do
  let _ ← takeWhile isSpace

/-- Pass over a comment, if one begins here. -/
def skipComment : TextReader Unit := fun cs =>
  match cs with
  | '#' :: rest => .ok ((), rest.dropWhile isTextChar)
  | _ => .ok ((), cs)

/-- Pass over a line break, or the end of the text. -/
def endLine : TextReader Unit := fun cs =>
  match cs with
  | [] => .ok ((), [])
  | '\n' :: rest | '\r' :: '\n' :: rest => .ok ((), rest)
  | _ => .error .malformed

/-- Pass over what may stand after the last value of a line, and over its end. -/
def finishLine : TextReader Unit := do
  skipSpaces
  skipComment
  endLine

/-- Pass over spaces, comments and line breaks. -/
def skipBlanks : TextReader Unit :=
  iterate .malformed
    (fun _ => do
      skipSpaces
      if atLineBreak (← get) || (← get).head? = some '#' then
        skipComment
        endLine
        return .again ()
      else
        return .done ())
    ()

/-! ## Keys -/

def isBareKeyChar (c : Char) : Bool := c.isAlphanum || c = '_' || c = '-'

/-- A string between single marks. -/
def readLineString (mark : Char) (escapes : Bool) : TextReader String := do
  expect mark
  StringStyle.read { mark, escapes, multiline := false }

/-- One part of a key. -/
def readKeyPart : TextReader String := do
  match (← get).head? with
  | some '"' => readLineString '"' true
  | some '\'' => readLineString '\'' false
  | _ =>
      let name ← takeWhile isBareKeyChar
      require (!name.isEmpty) .malformed
      return String.ofList name

/-- A key, whose parts are joined by points. -/
def KeyPath.read : TextReader KeyPath :=
  iterate .malformed
    (fun parents => do
      skipSpaces
      let name ← readKeyPart
      skipSpaces
      if ← skipOver '.' then
        return .again (parents ++ [name])
      else
        require (parents.length < maxDepth) .tooDeep
        return .done { parents, name })
    []

/-! ## Values -/

/-- Whether a character belongs to a word: a number or a truth value. -/
def isWordChar (c : Char) : Bool := !(isSpace c || c ∈ ['\n', '\r', '#', ',', ']', '\x7d'])

/-- A string; a line break right after threefold marks is not part of it. -/
def readString (mark : Char) (escapes : Bool) : TextReader String := do
  let cs ← get
  if cs.take 3 = [mark, mark, mark] then
    set (dropLineBreak (cs.drop 3))
    StringStyle.read { mark, escapes, multiline := true }
  else
    readLineString mark escapes

def readWord : TextReader TomlScalar := do
  let word ← takeWhile isWordChar
  if word = ['t', 'r', 'u', 'e'] then return .boolean true
  else if word = ['f', 'a', 'l', 's', 'e'] then return .boolean false
  else TomlScalar.ofNumber word

def TomlScalar.read : TextReader TomlScalar := do
  match (← get).head? with
  | some '"' => return .string (← readString '"' true)
  | some '\'' => return .string (← readString '\'' false)
  | _ => .dateTime <$> TomlDateTime.read <|> readWord

/-- The parts of a list, up to its closing mark. Commas stand between them, and may stand after the
last one. -/
def readParts {α : Type} (closing : Char) (part : TextReader α) : TextReader (List α) :=
  iterate .malformed
    (fun parts => do
      skipBlanks
      if ← skipOver closing then
        return .done parts
      else
        let a ← part
        skipBlanks
        if ← skipOver ',' then
          return .again (parts ++ [a])
        else
          expect closing
          return .done (parts ++ [a]))
    []

/-- A key with its value, and a mark between them. `skipBetween` passes over what may stand before
and after the mark. -/
def readEntry (skipBetween : TextReader Unit) (value : TextReader TomlValue) :
    TextReader (KeyPath × TomlValue) := do
  let key ← KeyPath.read
  skipBetween
  expect '='
  skipBetween
  return (key, ← value)

/-- A value nested at most so deep. -/
def TomlValue.read : Nat → TextReader TomlValue
  | 0 => do
      match (← get).head? with
      | some '[' | some '\x7b' => throw .tooDeep
      | _ => .scalar <$> TomlScalar.read
  | depth + 1 => do
      match (← get).head? with
      | some '[' =>
          expect '['
          return .array (← readParts ']' (TomlValue.read depth))
      | some '\x7b' =>
          expect '\x7b'
          let entries ← readParts '\x7d' (readEntry skipBlanks (TomlValue.read depth))
          return (← TomlTable.ofEntries entries).toValue
      | _ => .scalar <$> TomlScalar.read

/-! ## Lines -/

/-- The header of a table, or of the next table of an array of tables. -/
def TomlLine.readHeader : TextReader TomlLine := do
  expect '['
  let isElement ← skipOver '['
  let key ← KeyPath.read
  expect ']'
  if isElement then
    expect ']'
    return .element key
  else
    return .header key

/-- A line, and nothing if it is blank. -/
def TomlLine.read? : TextReader (Option TomlLine) := do
  skipSpaces
  let cs ← get
  if cs = [] || atLineBreak cs || cs.head? = some '#' then
    finishLine
    return none
  else if cs.head? = some '[' then
    let line ← readHeader
    finishLine
    return line
  else
    let (key, v) ← readEntry skipSpaces (TomlValue.read maxDepth)
    finishLine
    return some (.entry key v)

/-- All lines, with the blank ones left out. -/
def TomlLine.readAll : TextReader (List TomlLine) :=
  iterate .malformed
    (fun lines => do
      if (← get) = [] then
        return .done lines
      else
        let line? ← TomlLine.read?
        return .again (lines ++ line?.toList))
    []

/-- The table that a document defines. A byte order mark at its start is passed over. -/
def TomlTable.ofText (text : String) : Except TomlError TomlTable := do
  let cs :=
    match text.toList with
    | '\ufeff' :: cs => cs
    | cs => cs
  let (lines, _) ← TomlLine.readAll cs
  TomlDocument.ofLines lines

end GuestAudio
