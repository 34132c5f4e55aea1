import GuestAudio.Toml.Reader

set_option autoImplicit false

/-! # Words of a TOML document

What a scalar that is written as one word reads as: a number in decimal digits, or a truth value.
A word `Spells` its scalar if a reader takes exactly the word, as long as a line break or the end of
the text follows. Every number of at most 128 bits is spelt by the digits that `toString` gives it
(`spells_number`). A reader tries a date and a time of day before it takes a word, so that part of
the argument is that plain digits are neither. -/

namespace GuestAudio

open ListReader TextReader

theorem ne_of_apply_true {α : Type} {p : α → Bool} {a b : α} (ha : p a = true)
    (hb : p b = false) : a ≠ b := by
  rintro rfl
  rw [ha] at hb
  cases hb

/-! ## Digits -/

theorem digitValue?_of_isDigit {c : Char} (h : c.isDigit = true) :
    digitValue? 10 c = some (c.toNat - '0'.toNat) := by
  have hbounds : '0' ≤ c ∧ c ≤ '9' := by
    simp only [Char.isDigit, Bool.and_eq_true, decide_eq_true_eq] at h
    exact h
  have hle : c.toNat ≤ '9'.toNat := hbounds.2
  have hlt : c.toNat - '0'.toNat < 10 := by
    simp only [Char.reduceToNat] at hle ⊢
    omega
  simp only [digitValue?, hbounds, decide_true, Bool.and_self, if_true, hlt]

theorem digitValue?_eq_none {c : Char} (h : c.isDigit = false) : digitValue? 10 c = none := by
  have hbounds : ('0' ≤ c && c ≤ '9') = false := h
  simp only [digitValue?, hbounds, Bool.false_eq_true, if_false]
  -- what is left are letters, which count from ten on
  split
  · exact if_neg (by omega)
  · split
    · exact if_neg (by omega)
    · exact if_neg (by omega)

theorem moreDigits?_of_isDigit {cs : List Char} (h : ∀ c ∈ cs, c.isDigit = true) (value : Nat) :
    moreDigits? 10 value cs = some (Nat.ofDigitChars 10 cs value) := by
  induction cs generalizing value with
  | nil => rfl
  | cons c cs ih =>
    rw [List.forall_mem_cons] at h
    have hunderscore : c ≠ '_' := ne_of_apply_true h.1 (by decide)
    rw [moreDigits?, digitValue?_of_isDigit h.1, Option.bind_eq_bind, Option.bind_some, ih h.2,
      Nat.ofDigitChars_cons, Nat.mul_comm]
    exact fun _ _ hc => absurd hc hunderscore

theorem digits?_of_isDigit {cs : List Char} (hne : cs ≠ []) (h : ∀ c ∈ cs, c.isDigit = true) :
    digits? 10 cs = some (Nat.ofDigitChars 10 cs 0) := by
  cases cs with
  | nil => exact absurd rfl hne
  | cons c cs =>
    rw [List.forall_mem_cons] at h
    rw [digits?, digitValue?_of_isDigit h.1, Option.bind_eq_bind, Option.bind_some,
      moreDigits?_of_isDigit h.2, Nat.ofDigitChars_cons, Nat.mul_zero, Nat.zero_add]

/-! ## Numbers as they are written -/

/-- Only zero is written with a zero at its front. -/
theorem toDigits_eq_cons_of_ne_zero {n : Nat} (hn : n ≠ 0) :
    ∃ c cs, Nat.toDigits 10 n = c :: cs ∧ c ≠ '0' := by
  induction n using Nat.strongRecOn with
  | ind n ih =>
    by_cases hlt : n < 10
    · refine ⟨n.digitChar, [], Nat.toDigits_of_lt_base hlt, ?_⟩
      rw [ne_eq, Nat.digitChar_eq_zero]
      exact hn
    · obtain ⟨c, cs, hcs, hc⟩ := ih (n / 10) (by omega) (by omega)
      refine ⟨c, cs ++ [(n % 10).digitChar], ?_, hc⟩
      rw [Nat.toDigits_of_base_le (by decide) (by omega), hcs]
      rfl

theorem decimal?_toDigits (n : Nat) : decimal? (Nat.toDigits 10 n) = some n := by
  have hdigits : digits? 10 (Nat.toDigits 10 n) = some n := by
    have hdigit : ∀ c ∈ Nat.toDigits 10 n, c.isDigit = true := fun c =>
      Nat.isDigit_of_mem_toDigits (by decide) (by decide)
    rw [digits?_of_isDigit Nat.toDigits_ne_nil hdigit, Nat.ofDigitChars_ten_toDigits]
  by_cases hn : n = 0
  · subst hn
    rfl
  · obtain ⟨c, cs, hcs, hc⟩ := toDigits_eq_cons_of_ne_zero hn
    rw [decimal?]
    · exact hdigits
    · intro d ds hds
      rw [hcs] at hds
      exact hc (List.cons.inj hds).1

theorem integer?_toDigits (n : Nat) : integer? (Nat.toDigits 10 n) = some n := by
  have hdigit : ∀ c ∈ Nat.toDigits 10 n, c.isDigit = true := fun c =>
    Nat.isDigit_of_mem_toDigits (by decide) (by decide)
  -- neither the letter of another radix nor a sign is a digit
  have hother {c : Char} (hc : c.isDigit = false) : c ∉ Nat.toDigits 10 n := fun hmem =>
    ne_of_apply_true (hdigit c hmem) hc rfl
  unfold integer?
  split
  · next h => exact absurd (h ▸ by simp) (hother (c := 'x') (by decide))
  · next h => exact absurd (h ▸ by simp) (hother (c := 'o') (by decide))
  · next h => exact absurd (h ▸ by simp) (hother (c := 'b') (by decide))
  · have hsign : splitSign (Nat.toDigits 10 n) = (false, Nat.toDigits 10 n) := by
      unfold splitSign
      split
      · next h => exact absurd (h ▸ by simp) (hother (c := '-') (by decide))
      · next h => exact absurd (h ▸ by simp) (hother (c := '+') (by decide))
      · rfl
    rw [hsign]
    simp only [decimal?_toDigits]
    rfl

theorem TomlScalar.ofNumber_toDigits {n : Nat} (hn : n < 1 <<< 128) :
    TomlScalar.ofNumber (Nat.toDigits 10 n) = .ok (.integer n) := by
  have hfits : integerFits n = true := by
    simp only [integerFits, Bool.and_eq_true, decide_eq_true_eq]
    exact ⟨by omega, by exact_mod_cast hn⟩
  unfold TomlScalar.ofNumber
  rw [integer?_toDigits]
  exact if_pos hfits

/-! ## Neither dates nor times -/

/-- Digits that neither a digit nor a given mark follows are not the part before such a mark. -/
theorem TextReader.fixedDigits_expect {α : Type} {mark : Char} (hmark : mark.isDigit = false)
    {digits rest : List Char} (hdigits : ∀ c ∈ digits, c.isDigit = true)
    (hrest : ∀ c ∈ rest.head?, c.isDigit = false ∧ c ≠ mark) (f : Nat → Unit → TextReader α)
    (value n : Nat) :
    (fixedDigits value n >>= fun m => expect mark >>= f m) (digits ++ rest) =
      .error .malformed := by
  induction n generalizing value digits with
  | zero =>
    have hexpect : expect mark (digits ++ rest) = .error .malformed := by
      rcases digits with _ | ⟨c, digits⟩
      · rcases rest with _ | ⟨c, rest⟩
        · rfl
        · exact if_neg (hrest c rfl).2
      · exact if_neg (ne_of_apply_true (hdigits c List.mem_cons_self) hmark)
    have hdone : fixedDigits value 0 (digits ++ rest) = .ok (value, digits ++ rest) := rfl
    rw [bind_apply_of_ok hdone, bind_apply_of_error hexpect]
  | succ n ih =>
    rcases digits with _ | ⟨c, digits⟩
    · rcases rest with _ | ⟨c, rest⟩
      · rfl
      · refine bind_apply_of_error ?_ _
        simp only [List.nil_append, fixedDigits, digitValue?_eq_none (hrest c rfl).1]
    · rw [List.forall_mem_cons] at hdigits
      have hnext := ih hdigits.2 (value * 10 + (c.toNat - '0'.toNat))
      rw [bind_apply] at hnext ⊢
      simp only [List.cons_append, fixedDigits, digitValue?_of_isDigit hdigits.1]
      exact hnext

/-- A date has a hyphen after its first digits, and a time of day a colon. -/
theorem TomlDateTime.read_eq_error {digits rest : List Char}
    (hdigits : ∀ c ∈ digits, c.isDigit = true)
    (hrest : ∀ c ∈ rest.head?, c.isDigit = false ∧ c ≠ '-' ∧ c ≠ ':') :
    TomlDateTime.read (digits ++ rest) = .error .malformed := by
  have hdate : TomlDate.read (digits ++ rest) = .error .malformed :=
    fixedDigits_expect (by decide) hdigits (fun c hc => ⟨(hrest c hc).1, (hrest c hc).2.1⟩) _ 0 4
  have htime : TomlTime.read (digits ++ rest) = .error .malformed :=
    fixedDigits_expect (by decide) hdigits (fun c hc => ⟨(hrest c hc).1, (hrest c hc).2.2⟩) _ 0 2
  have hfrom : TomlDateTime.readFromDate (digits ++ rest) = .error .malformed := by
    rw [TomlDateTime.readFromDate, bind_apply_of_error hdate]
  rw [TomlDateTime.read, orElse_apply_of_error hfrom, map_eq_pure_bind, bind_apply_of_error htime]

/-! ## Words and what they spell -/

/-- Nothing more stands on the line: a line break follows, or the end of the text. -/
inductive EndsLine : List Char → Prop
  | text : EndsLine []
  | line (rest : List Char) : EndsLine ('\n' :: rest)

theorem EndsLine.of_mem_head? {rest : List Char} (h : EndsLine rest) {c : Char}
    (hc : c ∈ rest.head?) : c = '\n' := by
  cases h with
  | text => cases hc
  | line rest => exact (Option.some.inj hc).symm

theorem TextReader.takeWhile_append {p : Char → Bool} {cs rest : List Char}
    (hcs : ∀ c ∈ cs, p c = true) (hrest : ∀ c ∈ rest.head?, p c = false) :
    TextReader.takeWhile p (cs ++ rest) = .ok (cs, rest) := by
  rw [TextReader.takeWhile, List.takeWhile_append_of_pos hcs, List.dropWhile_append_of_pos hcs]
  rcases rest with _ | ⟨c, rest⟩
  · rw [List.takeWhile_nil, List.dropWhile_nil, List.append_nil]
  · have hc : ¬ p c = true := by
      rw [hrest c rfl]
      decide
    rw [List.takeWhile_cons_of_neg hc, List.dropWhile_cons_of_neg hc, List.append_nil]

/-- The scalar that a word stands for. -/
def wordScalar (word : List Char) : Except TomlError TomlScalar :=
  if word = ['t', 'r', 'u', 'e'] then .ok (.boolean true)
  else if word = ['f', 'a', 'l', 's', 'e'] then .ok (.boolean false)
  else TomlScalar.ofNumber word

theorem readWord_append {word rest : List Char} (hword : ∀ c ∈ word, isWordChar c = true)
    (hrest : EndsLine rest) {s : TomlScalar} (hs : wordScalar word = .ok s) :
    readWord (word ++ rest) = .ok (s, rest) := by
  have hstop : ∀ c ∈ rest.head?, isWordChar c = false := by
    intro c hc
    rw [hrest.of_mem_head? hc]
    decide
  rw [readWord, bind_apply_of_ok (takeWhile_append hword hstop)]
  unfold wordScalar at hs
  split
  · next h =>
    rw [if_pos h] at hs
    cases hs
    rfl
  · next h =>
    rw [if_neg h] at hs
    split
    · next h' =>
      rw [if_pos h'] at hs
      cases hs
      rfl
    · next h' =>
      rw [if_neg h'] at hs
      show (TomlScalar.ofNumber word >>= fun s => pure (s, rest)) = _
      rw [hs]
      rfl

/-- A word and the scalar that it stands for, as long as nothing more stands on the line. -/
structure Spells (word : List Char) (s : TomlScalar) : Prop where
  /-- Neither a blank nor an array nor an inline table begins where the word does. -/
  starts : ∃ c cs, word = c :: cs ∧ isSpace c = false ∧ c ≠ '[' ∧ c ≠ '\x7b'
  read : ∀ rest, EndsLine rest → TomlScalar.read (word ++ rest) = .ok (s, rest)

/-- What begins with neither quote is a date, a time of day or a word. -/
theorem TomlScalar.read_cons {c : Char} (hquote : c ≠ '"') (happos : c ≠ '\'') (cs : List Char) :
    TomlScalar.read (c :: cs) =
      (TomlScalar.dateTime <$> TomlDateTime.read <|> readWord) (c :: cs) := by
  rw [TomlScalar.read, bind_apply_of_ok (get_apply _)]
  simp [hquote, happos]

theorem isWordChar_of_isAlphanum {c : Char} (h : c.isAlphanum = true) : isWordChar c = true := by
  have hspace : isSpace c = false := by
    simp only [isSpace, Bool.or_eq_false_iff, decide_eq_false_iff_not]
    exact ⟨ne_of_apply_true h (by decide), ne_of_apply_true h (by decide)⟩
  have hend : c ∉ ['\n', '\r', '#', ',', ']', '\x7d'] := by
    intro hmem
    have hnone : ['\n', '\r', '#', ',', ']', '\x7d'].all (!·.isAlphanum) = true := by decide
    have hno := List.all_eq_true.1 hnone c hmem
    rw [h] at hno
    cases hno
  simp [isWordChar, hspace, hend]

/-- A word of letters and digits that is no date spells its scalar. -/
theorem spells_of_wordScalar {c : Char} {cs : List Char} {s : TomlScalar}
    (hword : ∀ d ∈ c :: cs, d.isAlphanum = true)
    (hdate : ∀ rest, EndsLine rest → TomlDateTime.read (c :: cs ++ rest) = .error .malformed)
    (hs : wordScalar (c :: cs) = .ok s) : Spells (c :: cs) s := by
  have hmark {d : Char} (hd : d.isAlphanum = false) : c ≠ d :=
    ne_of_apply_true (hword c List.mem_cons_self) hd
  constructor
  · have hspace : isSpace c = false := by
      simp only [isSpace, Bool.or_eq_false_iff, decide_eq_false_iff_not]
      exact ⟨hmark (by decide), hmark (by decide)⟩
    exact ⟨c, cs, rfl, hspace, hmark (by decide), hmark (by decide)⟩
  · intro rest hrest
    have hnoDate : (TomlScalar.dateTime <$> TomlDateTime.read) (c :: cs ++ rest) =
        .error .malformed := by
      rw [map_eq_pure_bind, bind_apply_of_error (hdate rest hrest)]
    rw [List.cons_append, TomlScalar.read_cons (hmark (by decide)) (hmark (by decide)),
      ← List.cons_append, orElse_apply_of_error hnoDate,
      readWord_append (fun d hd => isWordChar_of_isAlphanum (hword d hd)) hrest hs]

theorem spells_boolean (b : Bool) :
    Spells (if b then "true" else "false").toList (.boolean b) := by
  have hspell {c : Char} {cs : List Char} (hword : ∀ d ∈ c :: cs, d.isAlphanum = true)
      (hfirst : c.isDigit = false) (hs : wordScalar (c :: cs) = .ok (.boolean b)) :
      Spells (c :: cs) (.boolean b) := by
    refine spells_of_wordScalar hword (fun rest _ => ?_) hs
    rw [← List.nil_append (c :: cs ++ rest)]
    refine TomlDateTime.read_eq_error (List.forall_mem_nil _) fun d hd => ?_
    cases hd
    have hmark {d : Char} (hd : d.isAlphanum = false) : c ≠ d :=
      ne_of_apply_true (hword c List.mem_cons_self) hd
    exact ⟨hfirst, hmark (by decide), hmark (by decide)⟩
  cases b with
  | true => exact hspell (List.all_eq_true.1 rfl) (by decide) rfl
  | false => exact hspell (List.all_eq_true.1 rfl) (by decide) rfl

theorem spells_number {n : Nat} (hn : n < 1 <<< 128) :
    Spells (toString n).toList (.integer n) := by
  have hdigit : ∀ c ∈ Nat.toDigits 10 n, c.isDigit = true := fun c =>
    Nat.isDigit_of_mem_toDigits (by decide) (by decide)
  have hscalar : wordScalar (Nat.toDigits 10 n) = .ok (.integer n) := by
    have hletter {cs : List Char} (hcs : cs.all Char.isDigit = false) :
        Nat.toDigits 10 n ≠ cs := by
      rintro rfl
      rw [List.all_eq_true.2 hdigit] at hcs
      cases hcs
    rw [wordScalar, if_neg (hletter (by decide)), if_neg (hletter (by decide)),
      TomlScalar.ofNumber_toDigits hn]
  rw [Nat.toString_eq_ofList_toDigits, String.toList_ofList]
  obtain ⟨c, cs, hcs⟩ := List.exists_cons_of_ne_nil (Nat.toDigits_ne_nil (n := n) (b := 10))
  rw [hcs] at hdigit hscalar ⊢
  refine spells_of_wordScalar (fun d hd => ?_) (fun rest hrest => ?_) hscalar
  · rw [Char.isAlphanum, hdigit d hd, Bool.or_true]
  · refine TomlDateTime.read_eq_error hdigit fun d hd => ?_
    rw [hrest.of_mem_head? hd]
    decide

end GuestAudio
