import GuestAudio.Proofs.Toml.Words

set_option autoImplicit false

/-! # Documents of plain lines

A `PlainLine` gives a bare key one word for its value. A document of such lines, with no key in two
of them, reads as the table of exactly their entries in their order (`TomlTable.ofText_plain`). The
line break after the last line may be missing. -/

namespace GuestAudio

open ListReader TextReader

/-- A line that gives a bare key a scalar, spelt as one word. -/
structure PlainLine where
  key : String
  word : String
  scalar : TomlScalar
  key_ne_nil : key.toList ≠ []
  key_bare : ∀ c ∈ key.toList, isBareKeyChar c = true
  spells : Spells word.toList scalar

namespace PlainLine

/-- The line as it is written, without its line break. -/
def text (l : PlainLine) : String := l.key ++ " = " ++ l.word

/-- What the line defines. -/
def entry (l : PlainLine) : String × TomlValue := (l.key, .scalar l.scalar)

def toLine (l : PlainLine) : TomlLine := .entry { parents := [], name := l.key } (.scalar l.scalar)

theorem toList_text (l : PlainLine) :
    l.text.toList = l.key.toList ++ ' ' :: '=' :: ' ' :: l.word.toList := by
  simp [text, String.toList_append]

/-- A line begins with its key. -/
theorem exists_toList_text_eq_cons (l : PlainLine) :
    ∃ c cs, l.text.toList = c :: cs ∧ isBareKeyChar c = true := by
  obtain ⟨c, cs, hkey⟩ := List.exists_cons_of_ne_nil l.key_ne_nil
  refine ⟨c, cs ++ ' ' :: '=' :: ' ' :: l.word.toList, ?_, ?_⟩
  · rw [toList_text, hkey]
    rfl
  · apply l.key_bare
    rw [hkey]
    exact List.mem_cons_self

end PlainLine

/-! ## One line -/

theorem isSpace_of_isBareKeyChar {c : Char} (h : isBareKeyChar c = true) : isSpace c = false := by
  simp only [isSpace, Bool.or_eq_false_iff, decide_eq_false_iff_not]
  exact ⟨ne_of_apply_true h (by decide), ne_of_apply_true h (by decide)⟩

/-- There is nothing to pass over in front of a character that is no blank. -/
theorem skipSpaces_cons {c : Char} (hc : isSpace c = false) (cs : List Char) :
    skipSpaces (c :: cs) = .ok ((), c :: cs) := by
  have hdrop : (c :: cs).dropWhile isSpace = c :: cs :=
    List.dropWhile_cons_of_neg (by rw [hc]; decide)
  show Except.ok ((), (c :: cs).dropWhile isSpace) = _
  rw [hdrop]

theorem skipSpaces_blank {c : Char} (hc : isSpace c = false) (cs : List Char) :
    skipSpaces (' ' :: c :: cs) = .ok ((), c :: cs) :=
  skipSpaces_cons hc cs

theorem readKeyPart_bare {c : Char} {cs rest : List Char}
    (hbare : ∀ d ∈ c :: cs, isBareKeyChar d = true)
    (hrest : ∀ d ∈ rest.head?, isBareKeyChar d = false) :
    readKeyPart (c :: cs ++ rest) = .ok (String.ofList (c :: cs), rest) := by
  have hmark {d : Char} (hd : isBareKeyChar d = false) : c ≠ d :=
    ne_of_apply_true (hbare c List.mem_cons_self) hd
  have hquote : c ≠ '"' := hmark (by decide)
  have happos : c ≠ '\'' := hmark (by decide)
  have hstep : readKeyPart (c :: cs ++ rest) =
      (do
        let name ← TextReader.takeWhile isBareKeyChar
        require (!name.isEmpty) .malformed
        return String.ofList name) (c :: cs ++ rest) := by
    rw [readKeyPart, bind_apply_of_ok (get_apply _)]
    simp [hquote, happos]
  rw [hstep, bind_apply_of_ok (takeWhile_append hbare hrest)]
  rfl

/-- A bare key with a blank and the mark after it. -/
theorem KeyPath.read_bare {c : Char} {cs : List Char}
    (hbare : ∀ d ∈ c :: cs, isBareKeyChar d = true) (rest : List Char) :
    KeyPath.read (c :: cs ++ ' ' :: '=' :: rest) =
      .ok ({ parents := [], name := String.ofList (c :: cs) }, '=' :: rest) := by
  have hstart : skipSpaces (c :: cs ++ ' ' :: '=' :: rest) =
      .ok ((), c :: cs ++ ' ' :: '=' :: rest) :=
    skipSpaces_cons (isSpace_of_isBareKeyChar (hbare c List.mem_cons_self)) _
  have hname : readKeyPart (c :: cs ++ ' ' :: '=' :: rest) =
      .ok (String.ofList (c :: cs), ' ' :: '=' :: rest) :=
    readKeyPart_bare hbare fun d hd => by cases hd; decide
  apply iterate_of_done
  rw [bind_apply_of_ok hstart, bind_apply_of_ok hname,
    bind_apply_of_ok (skipSpaces_blank (by decide) _)]
  rfl

theorem TomlValue.read_scalar (depth : Nat) {c : Char} (hbracket : c ≠ '[') (hbrace : c ≠ '\x7b')
    (cs : List Char) :
    TomlValue.read depth (c :: cs) = (TomlValue.scalar <$> TomlScalar.read) (c :: cs) := by
  cases depth with
  | zero =>
    rw [TomlValue.read, bind_apply_of_ok (get_apply _)]
    simp [hbracket, hbrace]
  | succ depth =>
    rw [TomlValue.read, bind_apply_of_ok (get_apply _)]
    simp [hbracket, hbrace]

theorem finishLine_of_endsLine {rest : List Char} (h : EndsLine rest) :
    finishLine rest = .ok ((), rest.tail) := by
  cases h with
  | text => rfl
  | line rest => rfl

namespace PlainLine

variable (l : PlainLine)

theorem readEntry_append {rest : List Char} (hrest : EndsLine rest) :
    readEntry skipSpaces (TomlValue.read maxDepth) (l.text.toList ++ rest) =
      .ok (({ parents := [], name := l.key }, .scalar l.scalar), rest) := by
  obtain ⟨c, cs, hkey⟩ := List.exists_cons_of_ne_nil l.key_ne_nil
  obtain ⟨d, ds, hword, hspace, hbracket, hbrace⟩ := l.spells.starts
  have hbare : ∀ e ∈ c :: cs, isBareKeyChar e = true := by
    rw [← hkey]
    exact l.key_bare
  have hname : String.ofList (c :: cs) = l.key := by rw [← hkey, String.ofList_toList]
  have hscalar : TomlScalar.read (d :: (ds ++ rest)) = .ok (l.scalar, rest) := by
    rw [← List.cons_append, ← hword]
    exact l.spells.read rest hrest
  have hvalue : TomlValue.read maxDepth (d :: (ds ++ rest)) = .ok (.scalar l.scalar, rest) := by
    rw [TomlValue.read_scalar maxDepth hbracket hbrace, map_eq_pure_bind, bind_apply_of_ok hscalar]
    rfl
  have hmark : expect '=' ('=' :: ' ' :: d :: (ds ++ rest)) = .ok ((), ' ' :: d :: (ds ++ rest)) :=
    rfl
  have htext : l.text.toList ++ rest =
      c :: cs ++ ' ' :: '=' :: ' ' :: d :: (ds ++ rest) := by
    rw [toList_text, hkey, hword, List.append_assoc]
    rfl
  rw [htext, readEntry, bind_apply_of_ok (KeyPath.read_bare hbare _),
    bind_apply_of_ok (skipSpaces_cons (by decide) _), bind_apply_of_ok hmark,
    bind_apply_of_ok (skipSpaces_blank hspace _), bind_apply_of_ok hvalue, hname]
  rfl

/-- A plain line is read as what it says, with its line break. -/
theorem read?_append {rest : List Char} (hrest : EndsLine rest) :
    TomlLine.read? (l.text.toList ++ rest) = .ok (some l.toLine, rest.tail) := by
  obtain ⟨c, cs, htext, hc⟩ := l.exists_toList_text_eq_cons
  have hmark {d : Char} (hd : isBareKeyChar d = false) : c ≠ d := ne_of_apply_true hc hd
  have hbreak : atLineBreak (c :: (cs ++ rest)) = false := by
    rw [atLineBreak]
    · exact fun _ h => hmark (by decide) (List.cons.inj h).1
    · exact fun _ h => hmark (by decide) (List.cons.inj h).1
  have hcomment : c ≠ '#' := hmark (by decide)
  have hbracket : c ≠ '[' := hmark (by decide)
  have hentry := l.readEntry_append hrest
  rw [htext, List.cons_append] at hentry ⊢
  rw [TomlLine.read?, bind_apply_of_ok (skipSpaces_cons (isSpace_of_isBareKeyChar hc) _),
    bind_apply_of_ok (get_apply _)]
  simp only [reduceCtorEq, decide_false, hbreak, List.head?_cons, Option.some.injEq, hcomment,
    hbracket, Bool.or_self, Bool.false_eq_true, if_false]
  rw [bind_apply_of_ok hentry, bind_apply_of_ok (finishLine_of_endsLine hrest)]
  rfl

end PlainLine

/-! ## A document -/

/-- Keep the definition that a line amounts to, after those of earlier lines. -/
def TomlLine.keep (earlier : List TomlLine) :
    TextReader (Round (List TomlLine) (List TomlLine)) := do
  if (← get) = [] then
    return .done earlier
  else
    let line? ← TomlLine.read?
    return .again (earlier ++ line?.toList)

theorem TomlLine.readAll_eq : TomlLine.readAll = iterate .malformed TomlLine.keep [] := rfl

theorem PlainLine.keep_append (l : PlainLine) {rest : List Char} (hrest : EndsLine rest)
    (earlier : List TomlLine) :
    TomlLine.keep earlier (l.text.toList ++ rest) =
      .ok (.again (earlier ++ [l.toLine]), rest.tail) := by
  have hne : l.text.toList ++ rest ≠ [] := by simp [PlainLine.toList_text]
  rw [TomlLine.keep, bind_apply_of_ok (get_apply _)]
  simp only [hne, if_false]
  rw [bind_apply_of_ok (l.read?_append hrest)]
  rfl

theorem PlainLine.length_tail_lt (l : PlainLine) (rest : List Char) :
    rest.tail.length < (l.text.toList ++ rest).length := by
  simp only [List.length_tail, List.length_append, PlainLine.toList_text, List.length_cons]
  omega

/-- Lines as they stand in a text, each before its line break. The last one may go without. -/
inductive Written : List PlainLine → List Char → Prop
  | none : Written [] []
  | last (l : PlainLine) : Written [l] l.text.toList
  | line (l : PlainLine) {lines : List PlainLine} {cs : List Char} (h : Written lines cs) :
      Written (l :: lines) (l.text.toList ++ '\n' :: cs)

namespace Written

variable {lines : List PlainLine} {cs : List Char}

theorem iterate_keep (h : Written lines cs) (earlier : List TomlLine) :
    iterate .malformed TomlLine.keep earlier cs =
      .ok (earlier ++ lines.map PlainLine.toLine, []) := by
  induction h generalizing earlier with
  | none =>
    rw [iterate_of_done rfl, List.map_nil, List.append_nil]
  | last l =>
    have hkeep := l.keep_append .text earlier
    have hshort := l.length_tail_lt []
    rw [List.append_nil] at hkeep hshort
    rw [iterate_of_again hkeep hshort, iterate_of_done rfl]
    rfl
  | line l h ih =>
    rw [iterate_of_again (l.keep_append (.line _) earlier) (l.length_tail_lt _),
      List.tail_cons, ih, List.map_cons, List.append_assoc, List.singleton_append]

theorem readAll (h : Written lines cs) :
    TomlLine.readAll cs = .ok (lines.map PlainLine.toLine, []) := by
  rw [TomlLine.readAll_eq]
  exact h.iterate_keep []

/-- No byte order mark stands in front of a key. -/
theorem ne_byteOrderMark (h : Written lines cs) (rest : List Char) : cs ≠ '\ufeff' :: rest := by
  have hline (l : PlainLine) (more : List Char) : l.text.toList ++ more ≠ '\ufeff' :: rest := by
    obtain ⟨c, cs, htext, hc⟩ := l.exists_toList_text_eq_cons
    rw [htext]
    intro heq
    exact ne_of_apply_true hc (by decide) (List.cons.inj heq).1
  cases h with
  | none => exact fun heq => List.cons_ne_nil _ _ heq.symm
  | last l =>
    rw [← List.append_nil l.text.toList]
    exact hline l []
  | line l h => exact hline l _

end Written

theorem PlainLine.add_of_new {t : TomlTable} {l : PlainLine} (hnew : t.find? l.key = none) :
    t.add l.key (.scalar l.scalar) = .ok { t with entries := t.entries ++ [l.entry] } := by
  rw [TomlTable.add, hnew]
  rfl

/-- A line without a header above it adds to the outermost table. -/
theorem TomlDocument.add_toLine {t : TomlTable} {l : PlainLine} (hnew : t.find? l.key = none) :
    TomlDocument.add { root := t } l.toLine =
      .ok { root := { t with entries := t.entries ++ [l.entry] } } := by
  have hinsert : t.insert { parents := [], name := l.key } (.scalar l.scalar) =
      .ok { t with entries := t.entries ++ [l.entry] } := by
    rw [TomlTable.insert, TomlTable.alter, ← PlainLine.add_of_new hnew]
    rfl
  rw [PlainLine.toLine, TomlDocument.add, TomlTable.alter, hinsert]
  rfl

theorem TomlDocument.foldlM_add_toLine {lines : List PlainLine}
    (hnodup : (lines.map PlainLine.key).Nodup) {t : TomlTable}
    (hnew : ∀ l ∈ lines, t.find? l.key = none) :
    (lines.map PlainLine.toLine).foldlM TomlDocument.add { root := t } =
      .ok { root := { t with entries := t.entries ++ lines.map PlainLine.entry } } := by
  induction lines generalizing t with
  | nil =>
    rw [List.map_nil, List.map_nil, List.append_nil]
    rfl
  | cons l lines ih =>
    rw [List.map_cons, List.nodup_cons] at hnodup
    rw [List.forall_mem_cons] at hnew
    have hrest : ∀ m ∈ lines,
        TomlTable.find? { t with entries := t.entries ++ [l.entry] } m.key = none := by
      intro m hm
      have hkey : m.key ≠ l.key := by
        intro h
        exact hnodup.1 (h ▸ List.mem_map_of_mem hm)
      rw [TomlTable.find?_add (PlainLine.add_of_new hnew.1), if_neg hkey]
      exact hnew.2 m hm
    rw [List.map_cons, List.foldlM_cons, add_toLine hnew.1]
    show (lines.map PlainLine.toLine).foldlM TomlDocument.add _ = _
    rw [ih hnodup.2 hrest, List.map_cons, List.append_assoc, List.singleton_append]

/-- A text of plain lines, no two of them for one key, is the table of what the lines say. -/
theorem TomlTable.ofText_plain {lines : List PlainLine} {text : String}
    (h : Written lines text.toList) (hnodup : (lines.map PlainLine.key).Nodup) :
    TomlTable.ofText text = .ok { entries := lines.map PlainLine.entry } := by
  have hlines : TomlDocument.ofLines (lines.map PlainLine.toLine) =
      .ok { entries := lines.map PlainLine.entry } := by
    have hfold := TomlDocument.foldlM_add_toLine hnodup (t := {}) fun l _ => rfl
    rw [TomlDocument.ofLines, hfold]
    rfl
  simp only [TomlTable.ofText]
  split
  · next cs hcs => exact absurd hcs (h.ne_byteOrderMark cs)
  · rw [h.readAll]
    exact hlines

/-! ## Texts -/

/-- The lines, each with its line break. -/
def PlainLine.document (lines : List PlainLine) : String :=
  String.join (lines.map fun l => l.text ++ "\n")

theorem PlainLine.toList_document_cons (l : PlainLine) (lines : List PlainLine) :
    (PlainLine.document (l :: lines)).toList =
      l.text.toList ++ '\n' :: (PlainLine.document lines).toList := by
  simp [PlainLine.document, String.toList_append]

theorem written_document (lines : List PlainLine) :
    Written lines (PlainLine.document lines).toList := by
  induction lines with
  | nil => exact .none
  | cons l lines ih =>
    rw [PlainLine.toList_document_cons]
    exact .line l ih

/-- The last line break may be missing. -/
theorem written_of_append_break {lines : List PlainLine} {cs : List Char}
    (h : cs ++ ['\n'] = (PlainLine.document lines).toList) : Written lines cs := by
  induction lines generalizing cs with
  | nil => simp [PlainLine.document] at h
  | cons l lines ih =>
    rw [PlainLine.toList_document_cons] at h
    cases lines with
    | nil =>
      have hlast : cs = l.text.toList := List.append_cancel_right h
      rw [hlast]
      exact .last l
    | cons m lines =>
      -- the break at the end is that of the lines from the second on
      have hne : (PlainLine.document (m :: lines)).toList ≠ [] := by
        simp [PlainLine.toList_document_cons]
      obtain ⟨ds, d, hds⟩ := List.eq_nil_or_concat _ |>.resolve_left hne
      rw [hds, List.concat_eq_append, ← List.cons_append, ← List.append_assoc] at h
      obtain ⟨rfl, hd⟩ := List.append_inj' h rfl
      have hrest : ds ++ ['\n'] = (PlainLine.document (m :: lines)).toList := by
        rw [hds, List.concat_eq_append, hd]
      exact .line l (ih hrest)

end GuestAudio
