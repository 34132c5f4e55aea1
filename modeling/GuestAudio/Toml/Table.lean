import GuestAudio.Toml.Value

set_option autoImplicit false

/-! # Tables of a TOML document

A document is a list of lines, which are added one after the other to a table. Everything is defined
once: a key is new to its table, and a table has one header at most (`TomlTable.insert`,
`TomlTable.openTable`, `TomlTable.openElement`). Keys of several parts add only to tables that such
keys opened, and nothing adds to an inline table. -/

namespace GuestAudio

namespace TomlTable

def toValue (t : TomlTable) : TomlValue := .table t.origin t.entries

/-- The value of a key. -/
def find? (t : TomlTable) (key : String) : Option TomlValue := t.entries.lookup key

/-- Add an entry for a new key. -/
def add (t : TomlTable) (key : String) (v : TomlValue) : Except TomlError TomlTable :=
  if (t.find? key).isSome then .error (.duplicateKey key)
  else .ok { t with entries := t.entries ++ [(key, v)] }

/-- Give a key that is there another value. -/
def replace (t : TomlTable) (key : String) (v : TomlValue) : TomlTable :=
  { t with entries := t.entries.map fun entry => if entry.1 = key then (key, v) else entry }

/-- Change the table at the end of a path, that opens tables of one origin on its way. Paths lead
into the last table of an array of tables, and never into an inline table. Dotted ones do not pass
through tables that have a header. -/
def alter (opened : TableOrigin) (change : TomlTable → Except TomlError TomlTable) :
    List String → TomlTable → Except TomlError TomlTable
  | [], t => change t
  | key :: path, t =>
      match t.find? key with
      | none => do
          let inner ← alter opened change path { origin := opened }
          t.add key inner.toValue
      | some (.table origin entries) =>
          if origin = .inline || (opened = .dotted && origin = .header) then
            .error (.closedTable key)
          else do
            let inner ← alter opened change path { origin, entries }
            return t.replace key inner.toValue
      | some (.tables earlier last) => do
          -- only the last table of the array is still open
          let inner ← alter opened change path { entries := last }
          return t.replace key (.tables earlier inner.entries)
      | some (.scalar _) | some (.array _) => .error (.closedTable key)

/-- Add a value under a key, which may have several parts. -/
def insert (t : TomlTable) (key : KeyPath) (v : TomlValue) : Except TomlError TomlTable :=
  t.alter .dotted
    (fun inner =>
      if key.parents ≠ [] && inner.origin ≠ .dotted then .error (.closedTable key.name)
      else inner.add key.name v)
    key.parents

/-- Define a table by its header. One that is only implied so far is defined by it too. -/
def openTable (t : TomlTable) (key : KeyPath) : Except TomlError TomlTable :=
  t.alter .implied
    (fun inner =>
      match inner.find? key.name with
      | none => inner.add key.name (.table .header [])
      | some (.table .implied entries) => .ok (inner.replace key.name (.table .header entries))
      | some _ => .error (.duplicateKey key.name))
    key.parents

/-- Start the next table of an array of tables. -/
def openElement (t : TomlTable) (key : KeyPath) : Except TomlError TomlTable :=
  t.alter .implied
    (fun inner =>
      match inner.find? key.name with
      | none => inner.add key.name (.tables [] [])
      | some (.tables earlier last) =>
          .ok (inner.replace key.name (.tables (earlier ++ [last]) []))
      | some _ => .error (.duplicateKey key.name))
    key.parents

/-- An inline table with these entries. -/
def ofEntries (entries : List (KeyPath × TomlValue)) : Except TomlError TomlTable := do
  let t ← entries.foldlM (fun t entry => t.insert entry.1 entry.2) ({} : TomlTable)
  return { t with origin := .inline }

theorem find?_add {t t' : TomlTable} {key : String} {v : TomlValue} (h : t.add key v = .ok t')
    (k : String) : t'.find? k = if k = key then some v else t.find? k := by
  unfold add at h
  split at h
  · cases h
  · rename_i hnew
    cases h
    simp only [find?, List.lookup_append] at hnew ⊢
    by_cases hk : k = key
    · subst hk
      rw [Option.not_isSome_iff_eq_none.1 hnew, if_pos rfl, List.lookup_cons_self]
      rfl
    · have hkey : (k == key) = false := beq_eq_false_iff_ne.2 hk
      rw [if_neg hk, List.lookup_cons, hkey]
      cases t.entries.lookup k <;> rfl

end TomlTable

/-- A line that defines something. -/
inductive TomlLine
  /-- A key with a value, in the table of the header above it. -/
  | entry (key : KeyPath) (v : TomlValue)
  /-- The header of a table. -/
  | header (key : KeyPath)
  /-- The header of the next table of an array of tables. -/
  | element (key : KeyPath)
deriving Repr

/-- A document up to some line. -/
structure TomlDocument where
  root : TomlTable := {}
  /-- The path to the table of the last header. -/
  current : List String := []
deriving Repr

namespace TomlDocument

/-- Add the next line. -/
def add (d : TomlDocument) : TomlLine → Except TomlError TomlDocument
  | .entry key v => do
      return { d with root := ← d.root.alter .implied (·.insert key v) d.current }
  | .header key => do
      return { root := ← d.root.openTable key, current := key.parents ++ [key.name] }
  | .element key => do
      return { root := ← d.root.openElement key, current := key.parents ++ [key.name] }

/-- The table that lines define. -/
def ofLines (lines : List TomlLine) : Except TomlError TomlTable := do
  return (← lines.foldlM add ({} : TomlDocument)).root

end TomlDocument

end GuestAudio
