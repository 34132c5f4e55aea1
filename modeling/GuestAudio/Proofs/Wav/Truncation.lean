import GuestAudio.Proofs.Wav.ExactReading

set_option autoImplicit false

/-! # Files that were cut

A file that decoding accepts is read up to the end of its data and no further, and every byte up to
there is needed (`Sound.ofWav_prefix`). All readers on the way are exact but the one for fact
chunks, which takes what there is of four bytes: when the file ends within them, nothing is left for
the next chunk, and that is what is too short. -/

namespace GuestAudio

open ListReader ByteReader

/-! ## Chunks before the data -/

/-- Before there is a chunk, there are no data. -/
theorem readUntilData_nil (spec? : Option WavSpec) : readUntilData spec? [] = .error .tooShort := by
  have hchunk : readChunk spec? [] = .error .tooShort := rfl
  rw [readUntilData]
  split <;> simp_all

theorem readUntilData_of_error {spec? : Option WavSpec} {bytes : Bytes} {e : WavError}
    (h : readChunk spec? bytes = .error e) : readUntilData spec? bytes = .error e := by
  rw [readUntilData]
  split <;> simp_all

/-- The search for the data goes on after `front`, and less than all of `front` is too short for
    it. -/
structure PassesOver (spec? : Option WavSpec) (front : Bytes) (spec?' : Option WavSpec) : Prop where
  append : ∀ rest, readUntilData spec? (front ++ rest) = readUntilData spec?' rest
  take : ∀ n < front.length, readUntilData spec? (front.take n) = .error .tooShort

theorem PassesOver.readsFrom {spec? spec?' : Option WavSpec} {front next : Bytes}
    {x : WavSpec × Nat} (hfront : PassesOver spec? front spec?')
    (hnext : ReadsFrom (readUntilData spec?') next x) :
    ReadsFrom (readUntilData spec?) (front ++ next) x := by
  constructor
  · intro rest
    rw [List.append_assoc, hfront.append, hnext.append]
  · intro n hn
    rcases cut_cases hn with ⟨hlt, hcut⟩ | ⟨m, hm, hcut⟩
    · rw [hcut]
      exact hfront.take n hlt
    · rw [hcut, hfront.append]
      exact hnext.take m hm

theorem exact_readNamedChunk (spec? : Option WavSpec) {name : Bytes}
    (hname : name ≠ tagBytes "fact") : (readNamedChunk spec? name).Exact := by
  unfold readNamedChunk
  refine (exact_number _).bind fun length => ?_
  split
  · exact (WavSpec.exact_read _).bind fun _ => exact_pure _
  · split
    · split
      · exact exact_pure _
      · exact exact_throw _
    · exact (exact_skip _).bind fun _ => exact_pure _

/-- A chunk has a name and a length. -/
theorem readChunk_of_short (spec? : Option WavSpec) {bytes : Bytes} (h : bytes.length < 8) :
    readChunk spec? bytes = .error .tooShort := by
  by_cases hname : bytes.length < 4
  · exact bind_apply_of_error (take_of_short hname) _
  · have hfront : (bytes.take 4).length = 4 := List.length_take_of_le (Nat.not_lt.1 hname)
    have hrest : (bytes.drop 4).length < 4 := by
      rw [List.length_drop]
      omega
    rw [← List.take_append_drop 4 bytes, readChunk, bind_apply, take_append _ hfront]
    exact bind_apply_of_error (bind_apply_of_error (take_of_short hrest) _) _

/-- Of the four bytes of a fact chunk those are taken that there are. -/
theorem readUntilData_fact (spec? : Option WavSpec) {length : Bytes} (hlength : length.length = 4)
    (rest : Bytes) :
    readUntilData spec? (tagBytes "fact" ++ (length ++ rest)) =
      readUntilData spec? (rest.drop 4) := by
  have hname : (tagBytes "fact").length = 4 := rfl
  have hother : tagBytes "fact" ≠ tagBytes "fmt " := by decide
  apply readUntilData_of_more
  rw [readChunk, bind_apply_of_ok (take_append _ hname), readNamedChunk,
    bind_apply_of_ok ((readsFrom_number hlength).append _), if_neg hother, if_pos rfl]
  rfl

/-- A fact chunk is passed over, and where it is cut short nothing is left for the next chunk. -/
theorem passesOver_fact (spec? : Option WavSpec) {length body : Bytes} (hlength : length.length = 4)
    (hbody : body.length = 4) :
    PassesOver spec? (tagBytes "fact" ++ (length ++ body)) spec? := by
  have hname : (tagBytes "fact").length = 4 := rfl
  constructor
  · intro rest
    rw [List.append_assoc, List.append_assoc, readUntilData_fact spec? hlength,
      List.drop_left' hbody]
  · intro n hn
    rw [← List.append_assoc] at hn ⊢
    rcases cut_cases hn with ⟨hshort, hcut⟩ | ⟨m, hm, hcut⟩
    · rw [List.length_append, hname, hlength] at hshort
      rw [hcut]
      apply readUntilData_of_error
      apply readChunk_of_short
      exact Nat.lt_of_le_of_lt (List.length_take_le n _) hshort
    · have hnone : (body.take m).drop 4 = [] := by
        rw [List.drop_eq_nil_iff, List.length_take]
        omega
      rw [hcut, List.append_assoc, readUntilData_fact spec? hlength, hnone, readUntilData_nil]

theorem readsFrom_readChunk {spec? : Option WavSpec} {name front : Bytes} {c : WavChunk}
    (hname : name.length = 4) (h : ReadsFrom (readNamedChunk spec? name) front c) :
    ReadsFrom (readChunk spec?) (name ++ front) c :=
  (readsFrom_take hname).bind h

/-- A chunk after which something follows is passed over. -/
theorem passesOver_of_readChunk {spec? spec?' : Option WavSpec} {bytes rest : Bytes}
    (h : readChunk spec? bytes = .ok (.more spec?', rest)) (hrest : rest ≠ []) :
    ∃ front, bytes = front ++ rest ∧ PassesOver spec? front spec?' := by
  obtain ⟨name, between, htake, hnamed⟩ := bind_apply_eq_ok_iff.1 h
  obtain ⟨hname, rfl⟩ := length_of_take htake
  by_cases hfact : name = tagBytes "fact"
  · subst hfact
    obtain ⟨n, between', hnumber, hfact⟩ := bind_apply_eq_ok_iff.1 hnamed
    obtain ⟨length, hlength, rfl, -⟩ := exists_of_number hnumber
    cases hfact
    have hbody : (between'.take 4).length = 4 := by
      apply List.length_take_of_le
      by_contra hless
      exact hrest (List.drop_of_length_le (by omega))
    refine ⟨tagBytes "fact" ++ (length ++ between'.take 4), ?_, passesOver_fact spec? hlength hbody⟩
    rw [List.append_assoc, List.append_assoc, List.take_append_drop]
  · obtain ⟨front, rfl, hfront⟩ := exact_readNamedChunk spec? hfact between _ rest hnamed
    have hchunk := readsFrom_readChunk hname hfront
    refine ⟨name ++ front, (List.append_assoc _ _ _).symm, ?_, ?_⟩
    · intro after
      exact readUntilData_of_more (hchunk.append after)
    · intro n hn
      exact readUntilData_of_error (hchunk.take n hn)

/-! ## The data chunk -/

/-- A data chunk is read down to its data. -/
theorem readsFrom_of_readChunk {spec? : Option WavSpec} {bytes rest : Bytes} {spec : WavSpec}
    {length : Nat} (h : readChunk spec? bytes = .ok (.data spec length, rest)) :
    bytes = tagBytes "data" ++ bytesOf 4 length ++ rest ∧
      ReadsFrom (readChunk spec?) (tagBytes "data" ++ bytesOf 4 length) (.data spec length) := by
  obtain ⟨name, between, htake, hnamed⟩ := bind_apply_eq_ok_iff.1 h
  obtain ⟨hname, rfl⟩ := length_of_take htake
  obtain ⟨n, between', hnumber, hbody⟩ := bind_apply_eq_ok_iff.1 hnamed
  obtain ⟨four, hfour, rfl, rfl⟩ := exists_of_number hnumber
  have hback : bytesOf 4 (littleEndian four) = four := hfour ▸ bytesOf_littleEndian four
  -- of the four sorts of chunks only one gives data
  split at hbody
  · obtain ⟨_, _, -, hbody⟩ := bind_apply_eq_ok_iff.1 hbody
    cases hbody
  · split at hbody
    · obtain ⟨_, _, -, hbody⟩ := bind_apply_eq_ok_iff.1 hbody
      cases hbody
    · split at hbody
      · next hfact hdata =>
        split at hbody
        · next spec' =>
          cases hbody
          subst hdata
          rw [hback]
          refine ⟨(List.append_assoc _ _ _).symm, readsFrom_readChunk hname ?_⟩
          obtain ⟨front, hfront, hreads⟩ := exact_readNamedChunk _ hfact _ _ _ hnamed
          cases List.append_cancel_right hfront
          exact hreads
        · cases hbody
      · obtain ⟨_, _, -, hbody⟩ := bind_apply_eq_ok_iff.1 hbody
        cases hbody

/-- The data follow the name and the length of their chunk, and up to there every byte is
    needed. -/
theorem readsFrom_of_readUntilData {spec? : Option WavSpec} {bytes rest : Bytes} {spec : WavSpec}
    {length : Nat} (h : readUntilData spec? bytes = .ok ((spec, length), rest)) :
    ∃ before, bytes = before ++ (tagBytes "data" ++ bytesOf 4 length) ++ rest ∧
      ReadsFrom (readUntilData spec?) (before ++ (tagBytes "data" ++ bytesOf 4 length))
        (spec, length) := by
  fun_induction readUntilData spec? bytes with
  | case1 => cases h
  | case2 spec? bytes spec?' between hchunk ih =>
    have hne : between ≠ [] := by
      rintro rfl
      rw [readUntilData_nil] at h
      cases h
    obtain ⟨front, rfl, hfront⟩ := passesOver_of_readChunk hchunk hne
    obtain ⟨before, rfl, hdata⟩ := ih h
    refine ⟨front ++ before, by simp only [List.append_assoc], ?_⟩
    rw [List.append_assoc]
    exact hfront.readsFrom hdata
  | case3 spec? bytes spec' length' rest' hchunk =>
    cases h
    obtain ⟨hbytes, hdata⟩ := readsFrom_of_readChunk hchunk
    refine ⟨[], hbytes, ?_, ?_⟩
    · intro after
      exact readUntilData_of_data (hdata.append after)
    · intro n hn
      exact readUntilData_of_error (hdata.take n hn)

/-- The header ends where the data start, the length of which stands before them, and up to there
    every byte is needed. -/
theorem WavHeader.readsFrom_of_read {file data : Bytes} {header : WavHeader}
    (h : WavHeader.read file = .ok (header, data)) :
    ∃ before,
      let front :=
        before ++ (tagBytes "data" ++ bytesOf 4 (header.sampleCount * header.spec.sampleBytes))
      file = front ++ data ∧ ReadsFrom WavHeader.read front header := by
  obtain ⟨riff, bytes₁, hriff, h⟩ := bind_apply_eq_ok_iff.1 h
  obtain ⟨_, bytes₂, hriffTag, h⟩ := bind_apply_eq_ok_iff.1 h
  obtain ⟨_, bytes₃, hskip, h⟩ := bind_apply_eq_ok_iff.1 h
  obtain ⟨wave, bytes₄, hwave, h⟩ := bind_apply_eq_ok_iff.1 h
  obtain ⟨_, bytes₅, hwaveTag, h⟩ := bind_apply_eq_ok_iff.1 h
  obtain ⟨⟨spec, length⟩, bytes₆, hdata, h⟩ := bind_apply_eq_ok_iff.1 h
  obtain ⟨_, bytes₇, hsamples, h⟩ := bind_apply_eq_ok_iff.1 h
  obtain ⟨_, bytes₈, hframes, h⟩ := bind_apply_eq_ok_iff.1 h
  cases h
  obtain ⟨hisRiff, rfl⟩ := require_apply_eq_ok_iff.1 hriffTag
  obtain ⟨hisWave, rfl⟩ := require_apply_eq_ok_iff.1 hwaveTag
  obtain ⟨hwhole, rfl⟩ := require_apply_eq_ok_iff.1 hsamples
  obtain ⟨heven, rfl⟩ := require_apply_eq_ok_iff.1 hframes
  obtain ⟨four, hfour, hreadsFour⟩ := exact_skip 4 _ _ _ hskip
  obtain ⟨before, hbefore, hreadsData⟩ := readsFrom_of_readUntilData hdata
  have hlength : length / spec.sampleBytes * spec.sampleBytes = length :=
    Nat.div_mul_cancel (Nat.dvd_of_mod_eq_zero (beq_iff_eq.1 hwhole))
  refine ⟨riff ++ (four ++ (wave ++ before)), ?_, ?_⟩
  · rw [hlength, (length_of_take hriff).2, hfour, (length_of_take hwave).2, hbefore]
    simp only [List.append_assoc]
  · have hread : ReadsFrom WavHeader.read (riff ++ (four ++ (wave ++
        ((before ++ (tagBytes "data" ++ bytesOf 4 length)) ++ []))))
        { spec, sampleCount := length / spec.sampleBytes } :=
      (readsFrom_take (length_of_take hriff).1).bind (.of_require hisRiff _
        (hreadsFour.bind ((readsFrom_take (length_of_take hwave).1).bind (.of_require hisWave _
          (hreadsData.bind (.of_require hwhole _ (.of_require heven _ (readsFrom_pure _))))))))
    rw [hlength]
    simpa only [List.append_assoc, List.append_nil] using hread

/-! ## The samples -/

namespace WavHeader

variable (header : WavHeader)

/-- The reader of all samples, if they are whole numbers, into this room for each. -/
def integers (room : Nat) : ByteReader (List Binary32) := do
  return (← (header.spec.readIntegerSample room).replicate header.sampleCount).map fun x =>
    Binary32.ofScaled x (header.spec.bits - 1)

/-- The reader of all samples, if they are floating-point numbers. -/
def floats : ByteReader (List Binary32) := header.spec.readFloatSample.replicate header.sampleCount

/-- The bytes of all samples. -/
def dataLength : Nat := header.sampleCount * header.spec.sampleBytes

theorem exact_integers (room : Nat) : (header.integers room).Exact :=
  ((header.spec.exact_readIntegerSample room).replicate _).bind fun _ => exact_pure _

theorem ofWidth_integers (room : Nat) : (header.integers room).OfWidth header.dataLength :=
  ((header.spec.ofWidth_readIntegerSample room).replicate _).map _

theorem exact_floats : header.floats.Exact := header.spec.exact_readFloatSample.replicate _

theorem ofWidth_floats : header.floats.OfWidth header.dataLength :=
  header.spec.ofWidth_readFloatSample.replicate _

end WavHeader

/-- What a reader reads, without what it leaves, in the words of those who decode. -/
def ByteReader.decode {α : Type} (r : ByteReader α) (bytes : Bytes) : Except OutputError α :=
  match r bytes with
  | .error e => .error (.unreadableSound e)
  | .ok (a, _) => .ok a

theorem ByteReader.exists_of_decode {α : Type} {r : ByteReader α} {bytes : Bytes} {a : α}
    (h : r.decode bytes = .ok a) : ∃ rest, r bytes = .ok (a, rest) := by
  unfold decode at h
  split at h
  · cases h
  · next rest hread =>
    cases h
    exact ⟨rest, hread⟩

namespace WavHeader

theorem decodeSamples_integers {header : WavHeader} {room : Nat}
    (hencoding : header.spec.encoding = .integer)
    (hroom : (header.spec.bits, room) ∈ [(8, 1), (16, 2), (24, 4), (32, 4)]) :
    header.decodeSamples = (header.integers room).decode := by
  funext data
  simp only [List.mem_cons, Prod.mk.injEq, List.not_mem_nil, or_false] at hroom
  rcases hroom with ⟨hbits, rfl⟩ | ⟨hbits, rfl⟩ | ⟨hbits, rfl⟩ | ⟨hbits, rfl⟩
  all_goals
    simp only [decodeSamples, hencoding, hbits, ByteReader.decode, integers, bind_apply]
    cases (header.spec.readIntegerSample _).replicate header.sampleCount data <;> rfl

theorem decodeSamples_floats {header : WavHeader} (hencoding : header.spec.encoding = .float) :
    header.decodeSamples = header.floats.decode := by
  funext data
  simp only [decodeSamples, hencoding, ByteReader.decode, floats]
  cases header.spec.readFloatSample.replicate header.sampleCount data <;> rfl

/-- Whole numbers of which some data are accepted have a width that there is room for. -/
theorem exists_room {header : WavHeader} {data : Bytes} {xs : List Binary32}
    (hencoding : header.spec.encoding = .integer) (h : header.decodeSamples data = .ok xs) :
    ∃ room, header.decodeSamples = (header.integers room).decode := by
  obtain ⟨room, hroom⟩ : ∃ room,
      (header.spec.bits, room) ∈ [(8, 1), (16, 2), (24, 4), (32, 4)] := by
    simp only [decodeSamples, hencoding] at h
    split at h
    case h_1 hbits => exact ⟨1, by simp [hbits]⟩
    case h_2 hbits => exact ⟨2, by simp [hbits]⟩
    case h_3 hbits => exact ⟨4, by simp [hbits]⟩
    case h_4 hbits => exact ⟨4, by simp [hbits]⟩
    case h_5 => cases h
  exact ⟨room, decodeSamples_integers hencoding hroom⟩

/-- A layout of which some data are accepted has a reader for all data. -/
theorem exists_reader {header : WavHeader} {data : Bytes} {xs : List Binary32}
    (h : header.decodeSamples data = .ok xs) :
    ∃ r : ByteReader (List Binary32), r.Exact ∧ r.OfWidth header.dataLength ∧
      header.decodeSamples = r.decode := by
  cases hencoding : header.spec.encoding with
  | integer =>
    obtain ⟨room, hdecode⟩ := exists_room hencoding h
    exact ⟨_, header.exact_integers room, header.ofWidth_integers room, hdecode⟩
  | float =>
    exact ⟨_, header.exact_floats, header.ofWidth_floats, decodeSamples_floats hencoding⟩

end WavHeader

/-! ## The file -/

/-- The sound of a header and samples. -/
def Sound.ofSamples (header : WavHeader) (xs : List Binary32) : Sound where
  sampleRate := header.spec.sampleRate
  channels := header.spec.channels
  samples := xs.toArray

/-- There are no channels, or there is no rate. -/
def WavSpec.Refused (spec : WavSpec) : Prop := spec.channels = 0 ∨ spec.sampleRate = 0

namespace Sound

theorem ofWav_of_read_error {file : Bytes} {e : WavError} (h : WavHeader.read file = .error e) :
    ofWav file = .error (.unreadableSound e) := by
  unfold ofWav
  rw [h]

/-- A file whose header is accepted is decoded as its data are. -/
theorem ofWav_of_read {file data : Bytes} {header : WavHeader}
    (h : WavHeader.read file = .ok (header, data)) (hkept : ¬header.spec.Refused) :
    ofWav file = (header.decodeSamples data).map (ofSamples header) := by
  have hchannels : ¬(header.spec.channels = 0 ∨ header.spec.sampleRate = 0) := hkept
  unfold ofWav
  rw [h]
  dsimp only
  rw [if_neg hchannels]
  cases header.decodeSamples data <;> rfl

/-- An accepted file has a header and samples that are accepted. -/
theorem exists_of_ofWav {file : Bytes} {s : Sound} (h : ofWav file = .ok s) :
    ∃ header data xs, WavHeader.read file = .ok (header, data) ∧ ¬header.spec.Refused ∧
      header.decodeSamples data = .ok xs ∧ s = ofSamples header xs := by
  unfold ofWav at h
  split at h
  · cases h
  · next header data hread =>
    split at h
    · cases h
    · next hkept =>
      obtain ⟨xs, hxs, h⟩ := bind_eq_ok_iff.1 h
      cases h
      exact ⟨header, data, xs, hread, hkept, hxs, rfl⟩

section Parts

variable {header : WavHeader} {front payload : Bytes} {r : ByteReader (List Binary32)}
  {xs : List Binary32}

theorem ofWav_append (hkept : ¬header.spec.Refused) (hdecode : header.decodeSamples = r.decode)
    (hfront : ReadsFrom WavHeader.read front header) (hpayload : r.ReadsFrom payload xs)
    (rest : Bytes) : ofWav (front ++ payload ++ rest) = .ok (ofSamples header xs) := by
  rw [List.append_assoc, ofWav_of_read (hfront.append _) hkept, hdecode, ByteReader.decode,
    hpayload.append]
  rfl

theorem ofWav_take (hkept : ¬header.spec.Refused) (hdecode : header.decodeSamples = r.decode)
    (hfront : ReadsFrom WavHeader.read front header) (hpayload : r.ReadsFrom payload xs) {n : Nat}
    (hn : n < (front ++ payload).length) :
    ofWav ((front ++ payload).take n) = .error (.unreadableSound .tooShort) := by
  rcases cut_cases hn with ⟨hlt, hcut⟩ | ⟨m, hm, hcut⟩
  · -- the header is cut
    rw [hcut]
    exact ofWav_of_read_error (hfront.take n hlt)
  · -- the data are cut
    rw [hcut, ofWav_of_read (hfront.append _) hkept, hdecode, ByteReader.decode,
      hpayload.take m hm]
    rfl

end Parts

/-- **A file that was cut is never taken for a shorter sound.** The data of an accepted file are in
    a data chunk, at the end of its header, and what matters of the file ends where they end: files
    that agree up to there are decoded to the same sound, and a file that was cut anywhere before is
    refused as too short. -/
theorem ofWav_prefix {file : Bytes} {s : Sound} (h : ofWav file = .ok s) :
    ∃ before payload trailer header,
      file = before ++ chunkBytes (tagBytes "data") payload ++ trailer ∧
      WavHeader.read file = .ok (header, payload ++ trailer) ∧
      let p := (before ++ chunkBytes (tagBytes "data") payload).length
      (∀ other : Bytes, other.take p = file.take p → ofWav other = .ok s) ∧
      ∀ n < p, ofWav (file.take n) = .error (.unreadableSound .tooShort) := by
  obtain ⟨header, data, xs, hread, hkept, hxs, rfl⟩ := exists_of_ofWav h
  obtain ⟨before, hfile, hfront⟩ := WavHeader.readsFrom_of_read hread
  obtain ⟨r, hexact, hwidth, hdecode⟩ := WavHeader.exists_reader hxs
  rw [hdecode] at hxs
  obtain ⟨trailer, hr⟩ := ByteReader.exists_of_decode hxs
  obtain ⟨payload, rfl, hpayload⟩ := hexact _ _ _ hr
  have hlength : payload.length = header.dataLength := by
    have hwhole := hwidth _ _ _ hr
    rw [List.length_append] at hwhole
    omega
  -- the header with the payload is what comes before the data chunk, and the chunk
  have hneeded : before ++ chunkBytes (tagBytes "data") payload =
      before ++ (tagBytes "data" ++ bytesOf 4 header.dataLength) ++ payload := by
    rw [chunkBytes, hlength]
    simp only [List.append_assoc]
  have hall : file = before ++ chunkBytes (tagBytes "data") payload ++ trailer := by
    rw [hneeded, List.append_assoc]
    exact hfile
  refine ⟨before, payload, trailer, header, hall, hread, ?_, ?_⟩
  · intro other hother
    rw [hall, List.take_left, hneeded] at hother
    rw [← List.take_append_drop _ other, hother]
    exact ofWav_append hkept hdecode hfront hpayload _
  · intro n hn
    rw [hall, List.take_append_of_le_length (Nat.le_of_lt hn)]
    rw [hneeded] at hn ⊢
    exact ofWav_take hkept hdecode hfront hpayload hn

/-- Two samples of 16 bits, with a chunk to skip, a long form of the format chunk, a fact chunk that
    lies about its length, and a byte after the data, which end at the 72nd byte. -/
theorem ofWav_prefix_fact :
    let file : Bytes :=
      [0x52, 0x49, 0x46, 0x46, 0, 0, 0, 0, 0x57, 0x41, 0x56, 0x45,
        0x4c, 0x49, 0x53, 0x54, 2, 0, 0, 0, 7, 8,
        0x66, 0x6d, 0x74, 0x20, 18, 0, 0, 0,
        1, 0, 1, 0, 0x80, 0xbb, 0, 0, 0, 0x77, 1, 0, 2, 0, 16, 0, 0, 0,
        0x66, 0x61, 0x63, 0x74, 9, 0, 0, 0, 2, 0, 0, 0,
        0x64, 0x61, 0x74, 0x61, 4, 0, 0, 0, 0, 0x40, 0, 0x80, 0xff]
    let s : Sound := ⟨48000, 1, #[⟨0x3f000000⟩, ⟨0xbf800000⟩]⟩
    ofWav file = .ok s ∧ (∀ other : Bytes, other.take 72 = file.take 72 → ofWav other = .ok s) ∧
      ∀ n < 72, ofWav (file.take n) = .error (.unreadableSound .tooShort) := by
  intro file s
  have hsound : ofWav file = .ok s := by decide +kernel
  have hneeded : ofWav (file.take 72) = .ok s := by decide +kernel
  have hcut : ofWav (file.take 71) = .error (.unreadableSound .tooShort) := by decide +kernel
  obtain ⟨before, payload, -, -, -, -, hsame, hshort⟩ := ofWav_prefix hsound
  have hend : (before ++ chunkBytes (tagBytes "data") payload).length = 72 := by
    apply Nat.le_antisymm
    · by_contra hmore
      have hrefused := hshort 72 (Nat.not_le.1 hmore)
      rw [hneeded] at hrefused
      cases hrefused
    · by_contra hless
      have haccepted := hsame (file.take 71) (by rw [List.take_take, Nat.min_eq_left (by omega)])
      rw [hcut] at haccepted
      cases haccepted
  rw [hend] at hsame hshort
  exact ⟨hsound, hsame, hshort⟩

end Sound

end GuestAudio
