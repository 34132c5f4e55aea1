import GuestAudio.Proofs.Wav.Acceptance
import GuestAudio.Proofs.Wav.Decoding

set_option autoImplicit false

/-! # Readers that stop where they should

A reader reads a value *from* a string of bytes (`ReadsFrom`) if it takes all of it and nothing of
what comes after, and if every proper prefix of it is too short. An `Exact` reader reads from some
string whatever it reads. Readers that follow one another read from the strings one after the other
(`ReadsFrom.bind`), so that all readers made of `take`, `skip`, `number` and `require` are exact:
those of format chunks and those of samples. Only `skipUpTo` is not, as it takes what there is. -/

namespace GuestAudio

open ListReader

namespace ByteReader

variable {α β : Type}

/-- What comes after `front` is left, and less than all of `front` is too short. -/
structure ReadsFrom (r : ByteReader α) (front : Bytes) (a : α) : Prop where
  append : ∀ rest, r (front ++ rest) = .ok (a, rest)
  take : ∀ n < front.length, r (front.take n) = .error .tooShort

/-- Whatever is read is read from the bytes that are gone. -/
def Exact (r : ByteReader α) : Prop :=
  ∀ bytes a rest, r bytes = .ok (a, rest) → ∃ front, bytes = front ++ rest ∧ r.ReadsFrom front a

/-! ## One reader after the other -/

/-- A proper prefix of two pieces is cut in the first of them, or in the second. -/
theorem cut_cases {front next : Bytes} {n : Nat} (hn : n < (front ++ next).length) :
    (n < front.length ∧ (front ++ next).take n = front.take n) ∨
      ∃ m < next.length, (front ++ next).take n = front ++ next.take m := by
  rcases Nat.lt_or_ge n front.length with hlt | hge
  · exact .inl ⟨hlt, List.take_append_of_le_length (Nat.le_of_lt hlt)⟩
  · rw [List.length_append] at hn
    refine .inr ⟨n - front.length, by omega, ?_⟩
    rw [List.take_append, List.take_of_length_le hge]

theorem ReadsFrom.bind {r : ByteReader α} {f : α → ByteReader β} {front next : Bytes} {a : α}
    {b : β} (hr : r.ReadsFrom front a) (hf : (f a).ReadsFrom next b) :
    (r >>= f).ReadsFrom (front ++ next) b := by
  constructor
  · intro rest
    rw [List.append_assoc, bind_apply_of_ok (hr.append _), hf.append]
  · intro n hn
    rcases cut_cases hn with ⟨hlt, hcut⟩ | ⟨m, hm, hcut⟩
    · rw [hcut]
      exact bind_apply_of_error (hr.take n hlt) f
    · rw [hcut, bind_apply_of_ok (hr.append _)]
      exact hf.take m hm

theorem ReadsFrom.map {r : ByteReader α} {front : Bytes} {a : α} (hr : r.ReadsFrom front a)
    (f : α → β) : ReadsFrom (do return f (← r)) front (f a) := by
  constructor
  · intro rest
    exact bind_apply_of_ok (hr.append rest) _
  · intro n hn
    exact bind_apply_of_error (hr.take n hn) _

theorem readsFrom_pure (a : α) : (pure a : ByteReader α).ReadsFrom [] a where
  append _ := rfl
  take n hn := absurd hn (Nat.not_lt_zero n)

theorem exact_pure (a : α) : Exact (pure a : ByteReader α) := by
  intro bytes b rest h
  cases h
  exact ⟨[], rfl, readsFrom_pure a⟩

theorem exact_throw (e : WavError) : Exact (throw e : ByteReader α) := by
  intro bytes a rest h
  cases h

theorem Exact.bind {r : ByteReader α} {f : α → ByteReader β} (hr : r.Exact)
    (hf : ∀ a, (f a).Exact) : (r >>= f).Exact := by
  intro bytes b rest h
  obtain ⟨a, between, hread, hrest⟩ := bind_apply_eq_ok_iff.1 h
  obtain ⟨front, rfl, hfront⟩ := hr bytes a between hread
  obtain ⟨next, rfl, hnext⟩ := hf a between b rest hrest
  exact ⟨front ++ next, (List.append_assoc _ _ _).symm, hfront.bind hnext⟩

theorem ReadsFrom.of_require {f : Unit → ByteReader β} {front : Bytes} {b : β} {condition : Bool}
    (hcondition : condition = true) (e : WavError) (h : (f ()).ReadsFrom front b) :
    ReadsFrom (require condition e >>= f) front b := by
  subst hcondition
  exact h

theorem exact_require (condition : Bool) (e : WavError) : Exact (require condition e) := by
  unfold require
  split
  · exact exact_pure ()
  · exact exact_throw e

/-! ## Pieces and numbers -/

theorem take_of_short {n : Nat} {bytes : Bytes} (h : bytes.length < n) :
    take n bytes = .error .tooShort := by
  rw [take, splitExactly_eq, if_neg (Nat.not_le.2 h)]

theorem readsFrom_take {n : Nat} {front : Bytes} (h : front.length = n) :
    (take n).ReadsFrom front front where
  append rest := take_append rest h
  take k hk := by
    apply take_of_short
    rw [List.length_take]
    omega

theorem exact_take (n : Nat) : Exact (take n) := by
  intro bytes front rest h
  obtain ⟨hlength, hbytes⟩ := length_of_take h
  exact ⟨front, hbytes, readsFrom_take hlength⟩

theorem exact_skip (n : Nat) : Exact (skip n) :=
  (exact_take n).bind fun _ => exact_pure ()

theorem readsFrom_number {n : Nat} {front : Bytes} (h : front.length = n) :
    (number n).ReadsFrom front (littleEndian front) :=
  (readsFrom_take h).map littleEndian

theorem exists_of_number {n v : Nat} {bytes rest : Bytes} (h : number n bytes = .ok (v, rest)) :
    ∃ front, front.length = n ∧ bytes = front ++ rest ∧ littleEndian front = v := by
  obtain ⟨front, between, htake, h⟩ := bind_apply_eq_ok_iff.1 h
  cases h
  obtain ⟨hlength, hbytes⟩ := length_of_take htake
  exact ⟨front, hlength, hbytes, rfl⟩

theorem exact_number (n : Nat) : Exact (number n) := by
  intro bytes v rest h
  obtain ⟨front, hlength, hbytes, rfl⟩ := exists_of_number h
  exact ⟨front, hbytes, readsFrom_number hlength⟩

theorem Exact.replicate {r : ByteReader α} (hr : r.Exact) (n : Nat) : (r.replicate n).Exact := by
  induction n with
  | zero => exact exact_pure []
  | succ n ih => exact hr.bind fun _ => ih.bind fun _ => exact_pure _

/-! ## Readers of one width -/

/-- Whatever is read takes `n` bytes. -/
def OfWidth (r : ByteReader α) (n : Nat) : Prop :=
  ∀ bytes a rest, r bytes = .ok (a, rest) → bytes.length = n + rest.length

theorem ofWidth_throw (e : WavError) (n : Nat) : OfWidth (throw e : ByteReader α) n := by
  intro bytes a rest h
  cases h

theorem ofWidth_number (n : Nat) : (number n).OfWidth n := by
  intro bytes v rest h
  obtain ⟨front, hlength, rfl, -⟩ := exists_of_number h
  rw [List.length_append, hlength]

theorem OfWidth.map {r : ByteReader α} {n : Nat} (hr : r.OfWidth n) (f : α → β) :
    OfWidth (do return f (← r)) n := by
  intro bytes b rest h
  obtain ⟨a, between, hread, h⟩ := bind_apply_eq_ok_iff.1 h
  cases h
  exact hr bytes a rest hread

theorem OfWidth.replicate {r : ByteReader α} {width : Nat} (hr : r.OfWidth width) (n : Nat) :
    (r.replicate n).OfWidth (n * width) := by
  induction n with
  | zero =>
    intro bytes xs rest h
    cases h
    rw [Nat.zero_mul, Nat.zero_add]
  | succ n ih =>
    intro bytes xs rest h
    obtain ⟨x, between, others, hx, hothers, rfl⟩ := exists_of_replicate_succ h
    rw [hr _ _ _ hx, ih _ _ _ hothers, Nat.succ_mul]
    omega

end ByteReader

open ByteReader

/-! ## Format chunks -/

namespace WavSpec

theorem exact_readInteger (length : Nat) (spec : WavSpec) :
    (readInteger length spec).Exact := by
  unfold readInteger
  refine (exact_require _ _).bind fun _ => ?_
  split
  · exact exact_pure _
  · refine (exact_skip _).bind fun _ => (exact_require _ _).bind fun _ => ?_
    split
    · exact (exact_skip _).bind fun _ => exact_pure _
    · exact exact_pure _

theorem exact_readFloat (length : Nat) (spec : WavSpec) : (readFloat length spec).Exact := by
  have hlast : Exact (do
      require (spec.bits == 32) (.illFormed .notFloatBits)
      pure { spec with encoding := .float } : ByteReader WavSpec) :=
    (exact_require _ _).bind fun _ => exact_pure _
  unfold readFloat
  refine (exact_require _ _).bind fun _ => ?_
  split
  · exact (exact_number _).bind fun _ => (exact_require _ _).bind fun _ => hlast
  · exact hlast

theorem exact_readExtensible (length : Nat) (spec : WavSpec) :
    (readExtensible length spec).Exact := by
  unfold readExtensible
  exact (exact_require _ _).bind fun _ => (exact_number _).bind fun _ =>
    (exact_require _ _).bind fun _ => (exact_number _).bind fun _ =>
    (exact_skip _).bind fun _ => (exact_take _).bind fun _ =>
    (exact_require _ _).bind fun _ => exact_pure _

theorem exact_read (length : Nat) : (WavSpec.read length).Exact := by
  unfold WavSpec.read
  refine (exact_require _ _).bind fun _ => (exact_number _).bind fun _ =>
    (exact_number _).bind fun _ => (exact_number _).bind fun _ =>
    (exact_number _).bind fun _ => (exact_number _).bind fun _ =>
    (exact_number _).bind fun _ => (exact_require _ _).bind fun _ =>
    (exact_require _ _).bind fun _ => (exact_require _ _).bind fun _ =>
    (exact_require _ _).bind fun _ => (exact_require _ _).bind fun _ => ?_
  split
  · exact exact_readInteger _ _
  · split
    · exact exact_readFloat _ _
    · split
      · exact exact_readExtensible _ _
      · exact exact_throw _

/-! ## Samples

A sample is read from as many bytes as the layout gives it, whatever it is read into. -/

theorem exact_readByte : readByte.Exact := (exact_number 1).bind fun _ => exact_pure _

theorem exact_readSigned (bytes bits : Nat) : (readSigned bytes bits).Exact :=
  (exact_number bytes).bind fun _ => exact_pure _

theorem exact_readIntegerSample (spec : WavSpec) (room : Nat) :
    (spec.readIntegerSample room).Exact := by
  unfold readIntegerSample
  split
  · exact exact_readByte
  · split
    · exact exact_throw _
    · split
      · exact exact_readSigned _ _
      · exact exact_throw _

theorem exact_readFloatSample (spec : WavSpec) : spec.readFloatSample.Exact := by
  unfold readFloatSample
  split
  · exact (exact_number 4).bind fun _ => exact_pure _
  · split
    · exact exact_throw _
    · exact exact_throw _

theorem ofWidth_readIntegerSample (spec : WavSpec) (room : Nat) :
    (spec.readIntegerSample room).OfWidth spec.sampleBytes := by
  unfold readIntegerSample
  split
  · next hbytes _ =>
    rw [hbytes]
    exact (ofWidth_number 1).map _
  · split
    · exact ofWidth_throw _ _
    · split
      · exact (ofWidth_number _).map _
      · exact ofWidth_throw _ _

theorem ofWidth_readFloatSample (spec : WavSpec) :
    spec.readFloatSample.OfWidth spec.sampleBytes := by
  unfold readFloatSample
  split
  · next hbytes _ =>
    rw [hbytes]
    exact (ofWidth_number 4).map _
  · split
    · exact ofWidth_throw _ _
    · exact ofWidth_throw _ _

end WavSpec

end GuestAudio
