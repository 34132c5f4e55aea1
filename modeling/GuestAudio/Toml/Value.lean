set_option autoImplicit false

/-! # Values of a TOML document

Scalars, arrays, and tables. A table remembers how it came to be (`TableOrigin`), because that says
who may still add to it. The tables of an array of tables are kept apart from the last one, the only
one that is still open. A text from which no values can be read is refused for one of the causes of
`TomlError`. -/

namespace GuestAudio

/-- A number that is not an integer. -/
inductive TomlFloat
  /-- The significand, times this power of ten. -/
  | finite (significand exponent : Int)
  | infinite (negative : Bool)
  | notANumber
deriving Repr, DecidableEq

structure TomlDate where
  year : Nat
  month : Nat
  day : Nat
deriving Repr, DecidableEq

structure TomlTime where
  hour : Nat
  minute : Nat
  second : Nat
  nanosecond : Nat
deriving Repr, DecidableEq

/-- A date, a time of day, or both. -/
inductive TomlDateTime
  | date (date : TomlDate)
  | time (time : TomlTime)
  /-- A date and a time, and the minutes by which its zone is ahead, if it has one. -/
  | both (date : TomlDate) (time : TomlTime) (offset? : Option Int)
deriving Repr, DecidableEq

inductive TomlScalar
  | string (text : String)
  | integer (n : Int)
  | float (x : TomlFloat)
  | boolean (b : Bool)
  | dateTime (d : TomlDateTime)
deriving Repr, DecidableEq

/-- How a table came to be. -/
inductive TableOrigin
  /-- By a header of its own; the document itself counts as such. -/
  | header
  /-- By the header of a table inside it. -/
  | implied
  /-- By a key of several parts. -/
  | dotted
  /-- By braces. -/
  | inline
deriving Repr, DecidableEq

inductive TomlValue
  | scalar (s : TomlScalar)
  | array (items : List TomlValue)
  | table (origin : TableOrigin) (entries : List (String × TomlValue))
  /-- An array of tables that grows by headers: all tables but the last, and the last. -/
  | tables (earlier : List (List (String × TomlValue))) (last : List (String × TomlValue))
deriving Repr

/-- A table: its entries, oldest first. -/
structure TomlTable where
  origin : TableOrigin := .header
  entries : List (String × TomlValue) := []
deriving Repr

/-- A key: the tables that lead to it, and its name in the last of them. -/
structure KeyPath where
  parents : List String
  name : String
deriving Repr, DecidableEq

/-! ## Why a document is refused -/

/-- Why a document, or a field wanted of it, cannot be read. -/
inductive TomlError
  /-- The text does not follow the grammar. -/
  | malformed
  /-- A number is beyond what a reader can hold. -/
  | numberTooLarge
  /-- Arrays or tables are nested too deeply, or a key has too many parts. -/
  | tooDeep
  /-- A key, or a table under a header, is defined twice. -/
  | duplicateKey (key : String)
  /-- A key or header would add to something that is not an open table. -/
  | closedTable (key : String)
  /-- The value of a wanted field has another type. -/
  | wrongType (key : String)
  /-- The value of a wanted field is outside the field's range. -/
  | outOfRange (key : String)
deriving Repr, DecidableEq

def TomlError.message : TomlError → String
  | malformed => "the text is not a TOML document"
  | numberTooLarge => "a number is too large"
  | tooDeep => "values are nested too deeply"
  | duplicateKey key => "duplicate key " ++ key
  | closedTable key => "cannot add to the value of " ++ key
  | wrongType key => "wrong type for " ++ key
  | outOfRange key => "value out of range for " ++ key

end GuestAudio
