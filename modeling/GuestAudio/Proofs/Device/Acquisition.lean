import GuestAudio.Device.Soundcard
import GuestAudio.Proofs.Device.BestRange

set_option autoImplicit false

/-! # Opening a sound card

Every step on the way to a session can fail, and two of them have a second way: the default setup
stands in for a range that suits, and a buffer of any size for one of a fixed size. The steps are
described here apart from the program that takes them: what is chosen (`OutputDevice.Chooses`), what
streams the device is asked for and builds (`demands` and `built`), and by what cause a request is
refused (`Soundcard.Refuses`). The program does just what they describe, no stream stays alive but
the one that it returns (`Soundcard.live_acquire`), and what it opens is of one format throughout
(`Soundcard.acquire_stepwise`). -/

namespace GuestAudio

/-! ## Choosing -/

/-- The setup can be taken as it is: its buffers can be filled, and it has a channel. -/
structure DeviceSetup.Feedable (setup : DeviceSetup) : Prop where
  fillable : setup.sample.native?.isSome = true
  channels : setup.channels ≠ 0

theorem fallbackChoice_of_feedable {setup : DeviceSetup} (h : setup.Feedable) (r : OutputRequest) :
    fallbackChoice setup r = .ok {
      sampleRate := setup.sampleRate
      channels := setup.channels
      sample := setup.sample
      frames := setup.buffer.blockFrames r.frames } := by
  unfold fallbackChoice
  rw [sampleRank_eq, if_pos h.fillable, if_neg]
  simpa using h.channels

theorem fallbackChoice_of_not_feedable {setup : DeviceSetup} (h : ¬setup.Feedable)
    (r : OutputRequest) :
    fallbackChoice setup r = .error (.unfitSamples (setup.sample.name ++ " with " ++
      toString setup.channels ++ " channel(s)")) := by
  unfold fallbackChoice
  rw [sampleRank_eq, if_pos]
  by_cases hfillable : setup.sample.native?.isSome = true
  · by_cases hchannels : setup.channels = 0
    · simp [hchannels]
    · exact absurd ⟨hfillable, hchannels⟩ h
  · simp [hfillable]

namespace OutputDevice

/-- What is chosen for a request: the best of the supported ranges, or the default setup if none of
    them suits. -/
inductive Chooses (d : OutputDevice) (r : OutputRequest) : StreamChoice → Prop
  | best {ranges : List SetupRange} {choice : StreamChoice} (listed : d.ranges = .ok ranges)
      (best : bestChoice? ranges r = some choice) : Chooses d r choice
  | fallback {ranges : List SetupRange} {setup : DeviceSetup} (listed : d.ranges = .ok ranges)
      (unsuited : bestChoice? ranges r = none) (known : d.defaultSetup = .ok setup)
      (feedable : setup.Feedable) :
      Chooses d r {
        sampleRate := setup.sampleRate
        channels := setup.channels
        sample := setup.sample
        frames := setup.buffer.blockFrames r.frames }

/-- Why nothing is chosen for a request. -/
inductive Unsuitable (d : OutputDevice) (r : OutputRequest) : OutputError → Prop
  | unlisted {cause : RangesError} (unlisted : d.ranges = .error cause) :
      Unsuitable d r (.ofRangesError cause)
  | unknown {ranges : List SetupRange} {cause : DefaultSetupError} (listed : d.ranges = .ok ranges)
      (unsuited : bestChoice? ranges r = none) (unknown : d.defaultSetup = .error cause) :
      Unsuitable d r (.ofDefaultSetupError cause)
  | unfit {ranges : List SetupRange} {setup : DeviceSetup} (listed : d.ranges = .ok ranges)
      (unsuited : bestChoice? ranges r = none) (known : d.defaultSetup = .ok setup)
      (unfit : ¬setup.Feedable) :
      Unsuitable d r (.unfitSamples (setup.sample.name ++ " with " ++ toString setup.channels ++
        " channel(s)"))

variable {d : OutputDevice} {r : OutputRequest} {choice : StreamChoice}

theorem choose_of_listed {ranges : List SetupRange} (h : d.ranges = .ok ranges)
    (r : OutputRequest) :
    d.choose r =
      match bestChoice? ranges r with
      | some choice => .ok choice
      | none => d.defaultSetup.mapError .ofDefaultSetupError >>= (fallbackChoice · r) := by
  unfold choose
  rw [h]
  rfl

theorem choose_of_chooses (h : d.Chooses r choice) : d.choose r = .ok choice := by
  cases h with
  | best listed best => rw [choose_of_listed listed, best]
  | fallback listed unsuited known feedable =>
    rw [choose_of_listed listed, unsuited, known]
    exact fallbackChoice_of_feedable feedable r

theorem choose_of_unsuitable {cause : OutputError} (h : d.Unsuitable r cause) :
    d.choose r = .error cause := by
  cases h with
  | unlisted unlisted =>
    unfold choose
    rw [unlisted]
    rfl
  | unknown listed unsuited unknown =>
    rw [choose_of_listed listed, unsuited, unknown]
    rfl
  | unfit listed unsuited known unfit =>
    rw [choose_of_listed listed, unsuited, known]
    exact fallbackChoice_of_not_feedable unfit r

variable (d r) in
/-- Something is chosen, or there is a cause why not. -/
theorem chooses_or_unsuitable :
    (∃ choice, d.Chooses r choice) ∨ ∃ cause, d.Unsuitable r cause := by
  cases listed : d.ranges with
  | error cause => exact .inr ⟨_, .unlisted listed⟩
  | ok ranges =>
    cases best : bestChoice? ranges r with
    | some choice => exact .inl ⟨choice, .best listed best⟩
    | none =>
      cases known : d.defaultSetup with
      | error cause => exact .inr ⟨_, .unknown listed best known⟩
      | ok setup =>
        by_cases feedable : setup.Feedable
        · exact .inl ⟨_, .fallback listed best known feedable⟩
        · exact .inr ⟨_, .unfit listed best known feedable⟩

/-- Samples that are chosen are of a sort with which buffers can be filled. -/
theorem Chooses.fillable (h : d.Chooses r choice) :
    ∃ sampleType, choice.sample.native? = some sampleType := by
  rw [← Option.isSome_iff_exists]
  cases h with
  | best listed best =>
    obtain ⟨range, ⟨hsuits, -⟩, rfl⟩ := bestChoice?_eq_some_iff.1 best
    exact hsuits.fillable
  | fallback listed unsuited known feedable => exact feedable.fillable

/-! ## Building and starting -/

variable (d)

/-- Why the device refuses the stream that it is asked for after `n` others, if it does. -/
def refusal? (n : Nat) : Option BuildError := d.builds[n]?.join

/-- Why the next stream does not start, if it does not. -/
def failure? : Option StartError := d.starts.head?.join

/-- The device after it was asked for `n` streams. -/
def afterBuilds (n : Nat) : OutputDevice := { d with builds := d.builds.drop n }

@[simp] theorem refusal?_afterBuilds (n k : Nat) :
    (d.afterBuilds n).refusal? k = d.refusal? (n + k) := by
  rw [refusal?, afterBuilds, List.getElem?_drop]
  rfl

@[simp] theorem afterBuilds_afterBuilds (n k : Nat) :
    (d.afterBuilds n).afterBuilds k = d.afterBuilds (n + k) := by
  simp [afterBuilds]

@[simp] theorem failure?_afterBuilds (n : Nat) : (d.afterBuilds n).failure? = d.failure? := rfl

/-- The buffer sizes that the device is asked for: any, if it refuses the fixed one. -/
def demands (frames : UInt32) : List BufferDemand :=
  if d.refusal? 0 = none then [.fixed frames] else [.fixed frames, .any]

/-- The buffer sizes with which the device builds a stream: those that it does not refuse. -/
def built (frames : UInt32) : List BufferDemand :=
  ((d.demands frames).zipIdx.filter fun demand => d.refusal? demand.2 = none).map Prod.fst

/-- The buffer size of the one stream that is built, or why there is none. -/
def granted (frames : UInt32) : Except BuildError BufferDemand :=
  match d.refusal? 0, d.refusal? 1 with
  | none, _ => .ok (.fixed frames)
  | some _, none => .ok .any
  | some _, some cause => .error cause

variable {d}

theorem exists_granted (h : d.refusal? 0 = none ∨ d.refusal? 1 = none) (frames : UInt32) :
    ∃ buffer, d.granted frames = .ok buffer := by
  unfold granted
  cases hfixed : d.refusal? 0 with
  | none => exact ⟨_, rfl⟩
  | some cause =>
    rcases h with h | h
    · cases hfixed.symm.trans h
    · rw [h]
      exact ⟨_, rfl⟩

theorem build_eq (d : OutputDevice) :
    d.build = ((d.refusal? 0).elim (.ok ()) .error, d.afterBuilds 1) := by
  obtain ⟨hostName, name?, ranges, defaultSetup, builds, starts⟩ := d
  cases builds with
  | nil => rfl
  | cons answer rest => cases answer <;> rfl

theorem start_eq (d : OutputDevice) :
    d.start = (d.failure?.elim (.ok ()) .error, { d with starts := d.starts.drop 1 }) := by
  obtain ⟨hostName, name?, ranges, defaultSetup, builds, starts⟩ := d
  cases starts with
  | nil => rfl
  | cons answer rest => cases answer <;> rfl

theorem built_eq (frames : UInt32) : d.built frames = (d.granted frames).toOption.toList := by
  unfold built demands granted
  cases hfixed : d.refusal? 0 with
  | none => simp [List.zipIdx, hfixed, Except.toOption]
  | some cause =>
    cases hany : d.refusal? 1 with
    | none => simp [List.zipIdx, hfixed, hany, Except.toOption]
    | some cause => simp [List.zipIdx, hfixed, hany, Except.toOption]

end OutputDevice

/-! ## What comes of a choice -/

namespace StreamChoice

variable (choice : StreamChoice)

/-- The setup of a stream with a buffer of this size. -/
def setup (buffer : BufferDemand) : StreamSetup where
  sampleRate := choice.sampleRate
  channels := choice.channels
  buffer := buffer
  sample := choice.sample

/-- The format of a session with samples of this layout. -/
def format (layout : WireLayout) : OutputFormat where
  sampleRate := choice.sampleRate
  layout := layout
  channels := choice.channels
  framesPerBlock := choice.frames

/-- A stream in a format, with a buffer of this size. -/
def stream (sampleType : NativeType) (format : OutputFormat) (buffer : BufferDemand) :
    OutputStream where
  setup := choice.setup buffer
  sampleType := sampleType
  playback := .ofFormat format

end StreamChoice

namespace OutputDevice

variable {d : OutputDevice} {r : OutputRequest} {choice : StreamChoice} {sampleType : NativeType}

/-- The device after it was asked for streams, and for one that it built to be started. -/
def after (d : OutputDevice) (frames : UInt32) : OutputDevice :=
  { d with
    builds := d.builds.drop (d.demands frames).length
    starts := d.starts.drop (d.built frames).length }

/-- What is told if the device refuses the fixed buffer size. -/
def warnings (d : OutputDevice) (frames : UInt32) : Log :=
  (d.refusal? 0).toList.map fun cause => .fixedBufferRefused frames (.ofBuildError cause)

theorem buildFor_eq (hfill : choice.sample.native? = some sampleType) (buffer : BufferDemand)
    (format : OutputFormat) :
    d.buildFor choice buffer format = {
      result := (d.refusal? 0).elim (.ok (choice.stream sampleType format buffer)) fun cause =>
        .error (.ofBuildError cause)
      device := d.afterBuilds 1
      tried := [choice.setup buffer] } := by
  simp only [buildFor, hfill, build_eq]
  cases d.refusal? 0 <;> rfl

/-- The device is asked for a stream of any buffer size only if it refuses the fixed one. -/
theorem buildEither_eq (hfill : choice.sample.native? = some sampleType) (format : OutputFormat) :
    d.buildEither choice format = {
      value := {
        result :=
          match d.granted choice.frames with
          | .ok buffer => .ok (choice.stream sampleType format buffer)
          | .error cause => .error (.ofBuildError cause)
        device := d.afterBuilds (d.demands choice.frames).length
        tried := (d.demands choice.frames).map choice.setup }
      log := d.warnings choice.frames } := by
  unfold buildEither granted demands warnings
  rw [buildFor_eq hfill]
  cases hfixed : d.refusal? 0 with
  | none => rfl
  | some first =>
    simp only [Option.elim_some, buildFor_eq hfill, refusal?_afterBuilds, afterBuilds_afterBuilds]
    cases hany : d.refusal? 1 with
    | none => rfl
    | some second => rfl

/-- The answer to a request for which a setup was chosen. -/
def answer (d : OutputDevice) (r : OutputRequest) (choice : StreamChoice)
    (sampleType : NativeType) : Except OutputError (Session OutputStream) :=
  match d.granted choice.frames, d.failure? with
  | .error cause, _ => .error (.ofBuildError cause)
  | .ok _, some cause => .error (.ofStartError cause)
  | .ok buffer, none => .ok {
      format := choice.format r.layout
      driver := d.driverName
      stream := choice.stream sampleType (choice.format r.layout) buffer }

end OutputDevice

namespace Soundcard

variable {card : Soundcard} {r : OutputRequest} {d : OutputDevice} {choice : StreamChoice}

/-- The setups of the streams that an answer holds: one in a session, and none in an error. -/
def held (answer : Except OutputError (Session OutputStream)) : List StreamSetup :=
  answer.toOption.toList.map (·.stream.setup)

theorem acquire_of_missing (h : card.device? = none) (r : OutputRequest) :
    card.acquire r = (pure (.error .deviceMissing), card) := by
  simp only [acquire, h]

theorem acquire_of_unsuitable (hd : card.device? = some d) {cause : OutputError}
    (h : d.Unsuitable r cause) : card.acquire r = (pure (.error cause), card) := by
  simp only [acquire, hd, OutputDevice.choose_of_unsuitable h]

theorem acquire_of_chooses (hd : card.device? = some d) (h : d.Chooses r choice)
    {sampleType : NativeType} (hfill : choice.sample.native? = some sampleType) :
    card.acquire r = (⟨d.answer r choice sampleType, d.warnings choice.frames⟩, {
      device? := some (d.after choice.frames)
      tried := card.tried ++ (d.demands choice.frames).map choice.setup
      live := held (d.answer r choice sampleType) ++ card.live }) := by
  simp only [acquire, hd, OutputDevice.choose_of_chooses h, OutputDevice.buildEither_eq hfill]
  unfold OutputDevice.answer OutputDevice.after
  rw [OutputDevice.built_eq]
  cases d.granted choice.frames with
  | error cause => rfl
  | ok buffer =>
    simp only [OutputDevice.start_eq, OutputDevice.failure?_afterBuilds]
    cases d.failure? with
    | none => rfl
    | some cause =>
      -- the stream that is given up is the newest of those alive
      exact Prod.ext rfl (drop_of_live rfl)

variable (card r) in
/-- Without a choice the request is refused and the card left as it is; else a choice is made of
    samples with which buffers can be filled. -/
theorem unchosen_or_chooses :
    (∃ cause, card.acquire r = (pure (.error cause), card)) ∨
      ∃ d choice sampleType, card.device? = some d ∧ d.Chooses r choice ∧
        choice.sample.native? = some sampleType := by
  cases device : card.device? with
  | none => exact .inl ⟨_, acquire_of_missing device r⟩
  | some d =>
    rcases d.chooses_or_unsuitable r with ⟨choice, chosen⟩ | ⟨cause, unsuitable⟩
    · obtain ⟨sampleType, hfill⟩ := chosen.fillable
      exact .inr ⟨d, choice, sampleType, rfl, chosen, hfill⟩
    · exact .inl ⟨cause, acquire_of_unsuitable device unsuitable⟩

/-- What is alive afterwards is what was before, and the stream that the answer holds. -/
theorem live_acquire (card : Soundcard) (r : OutputRequest) :
    (card.acquire r).2.live = held (card.acquire r).1.value ++ card.live := by
  rcases unchosen_or_chooses card r with
    ⟨cause, hrefused⟩ | ⟨d, choice, sampleType, device, chosen, hfill⟩
  · rw [hrefused]
    rfl
  · rw [acquire_of_chooses device chosen hfill]

/-! ## Every step -/

/-- Every step succeeds: there is a device, something is chosen, a stream is built, and starts. -/
structure Opens (card : Soundcard) (r : OutputRequest) (d : OutputDevice) (choice : StreamChoice) :
    Prop where
  device : card.device? = some d
  chosen : d.Chooses r choice
  built : d.refusal? 0 = none ∨ d.refusal? 1 = none
  started : d.failure? = none

/-- Why a request is refused: the steps before the one that fails succeed. -/
inductive Refuses (card : Soundcard) (r : OutputRequest) : OutputError → Prop
  | missing (missing : card.device? = none) : Refuses card r .deviceMissing
  | unsuitable {d : OutputDevice} {cause : OutputError} (device : card.device? = some d)
      (unsuitable : d.Unsuitable r cause) : Refuses card r cause
  | unbuilt {d : OutputDevice} {choice : StreamChoice} {first second : BuildError}
      (device : card.device? = some d) (chosen : d.Chooses r choice)
      (fixed : d.refusal? 0 = some first) (any : d.refusal? 1 = some second) :
      Refuses card r (.ofBuildError second)
  | unstarted {d : OutputDevice} {choice : StreamChoice} {cause : StartError}
      (device : card.device? = some d) (chosen : d.Chooses r choice)
      (built : d.refusal? 0 = none ∨ d.refusal? 1 = none) (unstarted : d.failure? = some cause) :
      Refuses card r (.ofStartError cause)

variable (card r) in
theorem opens_or_refuses : (∃ d choice, card.Opens r d choice) ∨ ∃ cause, card.Refuses r cause := by
  cases device : card.device? with
  | none => exact .inr ⟨_, .missing device⟩
  | some d =>
    rcases d.chooses_or_unsuitable r with ⟨choice, chosen⟩ | ⟨cause, unsuitable⟩
    · by_cases built : d.refusal? 0 = none ∨ d.refusal? 1 = none
      · cases started : d.failure? with
        | none => exact .inl ⟨d, choice, device, chosen, built, started⟩
        | some cause => exact .inr ⟨_, .unstarted device chosen built started⟩
      · rw [not_or] at built
        obtain ⟨first, fixed⟩ := Option.ne_none_iff_exists'.1 built.1
        obtain ⟨second, any⟩ := Option.ne_none_iff_exists'.1 built.2
        exact .inr ⟨_, .unbuilt device chosen fixed any⟩
    · exact .inr ⟨cause, .unsuitable device unsuitable⟩

theorem value_of_refuses {cause : OutputError} (h : card.Refuses r cause) :
    (card.acquire r).1.value = .error cause := by
  cases h with
  | missing missing =>
    rw [acquire_of_missing missing]
    rfl
  | unsuitable device unsuitable =>
    rw [acquire_of_unsuitable device unsuitable]
    rfl
  | unbuilt device chosen fixed any =>
    obtain ⟨sampleType, hfill⟩ := chosen.fillable
    rw [acquire_of_chooses device chosen hfill, OutputDevice.answer, OutputDevice.granted, fixed,
      any]
  | @unstarted d choice cause device chosen built unstarted =>
    obtain ⟨sampleType, hfill⟩ := chosen.fillable
    obtain ⟨buffer, hgranted⟩ := OutputDevice.exists_granted built choice.frames
    rw [acquire_of_chooses device chosen hfill, OutputDevice.answer, hgranted, unstarted]

theorem value_of_opens (h : card.Opens r d choice) :
    ∃ session, (card.acquire r).1.value = .ok session := by
  obtain ⟨sampleType, hfill⟩ := h.chosen.fillable
  obtain ⟨buffer, hgranted⟩ := OutputDevice.exists_granted h.built choice.frames
  rw [acquire_of_chooses h.device h.chosen hfill, OutputDevice.answer, hgranted, h.started]
  exact ⟨_, rfl⟩

variable (card r) in
theorem acquire_opens_iff :
    (∃ session, (card.acquire r).1.value = .ok session) ↔ ∃ d choice, card.Opens r d choice := by
  constructor
  · rintro ⟨session, hsession⟩
    rcases opens_or_refuses card r with hopens | ⟨cause, hrefuses⟩
    · exact hopens
    · rw [value_of_refuses hrefuses] at hsession
      cases hsession
  · rintro ⟨d, choice, hopens⟩
    exact value_of_opens hopens

theorem acquire_eq_error_iff {cause : OutputError} :
    (card.acquire r).1.value = .error cause ↔ card.Refuses r cause := by
  refine ⟨fun hcause => ?_, value_of_refuses⟩
  rcases opens_or_refuses card r with ⟨d, choice, hopens⟩ | ⟨cause', hrefuses⟩
  · obtain ⟨session, hsession⟩ := value_of_opens hopens
    rw [hsession] at hcause
    cases hcause
  · rw [value_of_refuses hrefuses] at hcause
    cases hcause
    exact hrefuses

/-- Without a choice nothing is logged, and nothing is asked of the device. -/
theorem acquire_of_unchosen (h : ∀ d choice, card.device? = some d → ¬d.Chooses r choice) :
    (card.acquire r).1.log = [] ∧ (card.acquire r).2 = card := by
  rcases unchosen_or_chooses card r with ⟨cause, hrefused⟩ | ⟨d, choice, -, device, chosen, -⟩
  · rw [hrefused]
    exact ⟨rfl, rfl⟩
  · exact absurd chosen (h d choice device)

end Soundcard

/-- A session is one for a choice. All that know the format of its blocks agree on it: the session
    itself, the filler, the two buffers of one block each, and the device. -/
structure Session.GrantedFor (session : Session OutputStream) (d : OutputDevice) (r : OutputRequest)
    (choice : StreamChoice) : Prop where
  format : session.format = {
    sampleRate := choice.sampleRate
    layout := r.layout
    channels := choice.channels
    framesPerBlock := choice.frames }
  driver : session.driver = d.driverName
  filler : session.stream.playback.filler.format = session.format
  scratch : session.stream.playback.filler.scratch =
    List.replicate session.format.blockBytes session.format.silence
  wire : session.stream.playback.wire =
    List.replicate session.format.blockBytes session.format.silence
  sampleRate : session.stream.setup.sampleRate = session.format.sampleRate
  channels : session.stream.setup.channels = session.format.channels
  sample : session.stream.setup.sample = choice.sample
  sampleType : choice.sample.native? = some session.stream.sampleType
  buffer : d.built choice.frames = [session.stream.setup.buffer]

theorem Session.GrantedFor.playback {session : Session OutputStream} {d : OutputDevice}
    {r : OutputRequest} {choice : StreamChoice} (h : session.GrantedFor d r choice) :
    session.stream.playback = .ofFormat session.format := by
  have hfiller : session.stream.playback.filler = .ofFormat session.format :=
    congr (congrArg BlockFiller.mk h.filler) h.scratch
  exact congr (congrArg Playback.mk hfiller) h.wire

namespace Soundcard

variable {card : Soundcard} {r : OutputRequest} {d : OutputDevice} {choice : StreamChoice}

theorem grantedFor_of_answer {sampleType : NativeType} {session : Session OutputStream}
    (hfill : choice.sample.native? = some sampleType)
    (h : d.answer r choice sampleType = .ok session) : session.GrantedFor d r choice := by
  unfold OutputDevice.answer at h
  cases hgranted : d.granted choice.frames with
  | error cause =>
    rw [hgranted] at h
    cases h
  | ok buffer =>
    have hbuilt : d.built choice.frames = [buffer] := by
      rw [OutputDevice.built_eq, hgranted]
      rfl
    cases hstart : d.failure? with
    | some cause =>
      rw [hgranted, hstart] at h
      cases h
    | none =>
      rw [hgranted, hstart] at h
      cases h
      exact {
        format := rfl
        driver := rfl
        filler := rfl
        scratch := rfl
        wire := rfl
        sampleRate := rfl
        channels := rfl
        sample := rfl
        sampleType := hfill
        buffer := hbuilt }

/-- A session is opened by steps that all succeed, and is one for what was chosen. -/
theorem exists_grantedFor {session : Session OutputStream}
    (h : (card.acquire r).1.value = .ok session) :
    ∃ d choice, card.Opens r d choice ∧ session.GrantedFor d r choice := by
  obtain ⟨d, choice, hopens⟩ := (acquire_opens_iff card r).1 ⟨session, h⟩
  obtain ⟨sampleType, hfill⟩ := hopens.chosen.fillable
  rw [acquire_of_chooses hopens.device hopens.chosen hfill] at h
  exact ⟨d, choice, hopens, grantedFor_of_answer hfill h⟩

theorem held_answer (sampleType : NativeType) :
    held (d.answer r choice sampleType) =
      if d.failure? = none then (d.built choice.frames).map choice.setup else [] := by
  unfold OutputDevice.answer
  rw [OutputDevice.built_eq]
  cases d.granted choice.frames with
  | error cause =>
    cases d.failure? with
    | none => rfl
    | some cause => rfl
  | ok buffer =>
    cases d.failure? with
    | none => rfl
    | some cause => rfl

/-- The default setup does not matter if the ranges cannot be listed, or one of them suits. -/
theorem acquire_withDefault (hd : card.device? = some d)
    (h : (∃ cause, d.ranges = .error cause) ∨
      ∃ ranges choice, d.ranges = .ok ranges ∧ bestChoice? ranges r = some choice)
    (defaultSetup : Except DefaultSetupError DeviceSetup) :
    (({ card with device? := some { d with defaultSetup } } : Soundcard).acquire r).1 =
      (card.acquire r).1 := by
  rcases h with ⟨cause, unlisted⟩ | ⟨ranges, choice, listed, best⟩
  · rw [acquire_of_unsuitable (d := { d with defaultSetup }) rfl (.unlisted unlisted),
      acquire_of_unsuitable hd (.unlisted unlisted)]
  · have chosen : d.Chooses r choice := .best listed best
    obtain ⟨sampleType, hfill⟩ := chosen.fillable
    rw [acquire_of_chooses (d := { d with defaultSetup }) rfl (.best listed best) hfill,
      acquire_of_chooses hd chosen hfill]
    rfl

/-- **The first step that fails is the answer, and no later one is taken.** A request opens a
    session just if every step succeeds, and is refused for the first that fails, or for the second
    stream if both are refused. Without a choice the device is asked for nothing; its default setup
    is read only if its ranges are listed and none suits. With a choice it is asked for a stream of
    the fixed buffer size; for another one only if it refuses this, which is told; and to start a
    stream only if it built one. A stream that is built and starts is held by the session, whose
    format is that of the choice and of all that the stream fills; nothing else is held, and no
    other stream that was built stays alive. -/
theorem acquire_stepwise (card : Soundcard) (r : OutputRequest) :
    let answer := (card.acquire r).1.value
    let log := (card.acquire r).1.log
    ((∃ session, answer = .ok session) ↔ ∃ d choice, card.Opens r d choice) ∧
    (∀ cause, answer = .error cause ↔ card.Refuses r cause) ∧
    (∀ cause, answer = .error cause → (card.acquire r).2.live = card.live) ∧
    (∀ session, answer = .ok session →
      (card.acquire r).2.live = session.stream.setup :: card.live) ∧
    ((∀ d choice, card.device? = some d → ¬d.Chooses r choice) →
      log = [] ∧ (card.acquire r).2 = card) ∧
    (∀ d choice, card.device? = some d → d.Chooses r choice →
      log = d.warnings choice.frames ∧
      (card.acquire r).2 = {
        device? := some (d.after choice.frames)
        tried := card.tried ++ (d.demands choice.frames).map choice.setup
        live := held answer ++ card.live } ∧
      held answer = (if d.failure? = none then (d.built choice.frames).map choice.setup else []) ∧
      ∀ session, answer = .ok session → session.GrantedFor d r choice) ∧
    ∀ d defaultSetup, card.device? = some d →
      ((∃ cause, d.ranges = .error cause) ∨
        ∃ ranges choice, d.ranges = .ok ranges ∧ bestChoice? ranges r = some choice) →
      (({ card with device? := some { d with defaultSetup } } : Soundcard).acquire r).1 =
        (card.acquire r).1 := by
  have hlive := live_acquire card r
  refine ⟨acquire_opens_iff card r, fun cause => acquire_eq_error_iff, ?_, ?_, acquire_of_unchosen,
    ?_, ?_⟩
  · intro cause hrefused
    rw [hlive, hrefused]
    rfl
  · intro session hopened
    rw [hlive, hopened]
    rfl
  · intro d choice device chosen
    obtain ⟨sampleType, hfill⟩ := chosen.fillable
    rw [acquire_of_chooses device chosen hfill]
    exact ⟨rfl, rfl, held_answer sampleType, fun session => grantedFor_of_answer hfill⟩
  · intro d defaultSetup device hunread
    exact acquire_withDefault device hunread defaultSetup

/-- Nothing that the device offers suits, and it refuses a fixed size of the 512 frames that its
    default setup allows. -/
theorem acquire_stepwise_second_build :
    let device : OutputDevice := {
      hostName := "host"
      name? := some "card"
      ranges := .ok [⟨1, 8000, 22049, .unknown, .u8⟩]
      defaultSetup := .ok ⟨2, 44100, .range 64 512, .f32⟩
      builds := [some .tooManyStreams] }
    let answered := Soundcard.acquire { device? := some device } ⟨22050, .byte, 1, 1024⟩
    ∃ session, answered.1.value = .ok session ∧ session.format = ⟨44100, .byte, 2, 512⟩ ∧
      session.driver = "host/card" ∧ session.stream.playback.wire.length = 1024 ∧
      answered.1.log = [.fixedBufferRefused 512
        (.streamRefused "Adding a new stream ID would cause an overflow")] ∧
      answered.2.tried =
        [⟨44100, 2, .fixed 512, .f32⟩, ⟨44100, 2, .any, .f32⟩] ∧
      answered.2.live = [⟨44100, 2, .any, .f32⟩] ∧
      held answered.1.value = [⟨44100, 2, .any, .f32⟩] := by
  intro device answered
  let choice : StreamChoice := ⟨44100, 2, .f32, 512⟩
  have feedable : DeviceSetup.Feedable ⟨2, 44100, .range 64 512, .f32⟩ := ⟨rfl, by decide⟩
  have chosen : device.Chooses ⟨22050, .byte, 1, 1024⟩ choice := .fallback rfl rfl rfl feedable
  obtain ⟨hopens, -, -, -, -, hchosen, -⟩ :=
    acquire_stepwise { device? := some device } ⟨22050, .byte, 1, 1024⟩
  obtain ⟨session, hsession⟩ := hopens.2 ⟨device, choice, rfl, chosen, .inr rfl, rfl⟩
  obtain ⟨hlog, hcard, hheld, hgranted⟩ := hchosen device choice rfl chosen
  have hformat := (hgranted session hsession).format
  refine ⟨session, hsession, hformat, (hgranted session hsession).driver, ?_, hlog, ?_, ?_, hheld⟩
  · rw [(hgranted session hsession).wire, hformat]
    exact List.length_replicate
  · rw [hcard]
    rfl
  · rw [hcard, hheld]
    rfl

end Soundcard

end GuestAudio
