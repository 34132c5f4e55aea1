import GuestAudio.Guest.Queued
import GuestAudio.Proofs.Block.GuestSide
import GuestAudio.Proofs.Device.Acquisition

set_option autoImplicit false

/-! # Channels of a session

A session whose format has a channel and a frame can be fed for good: a callback of its stream comes
to its end wherever the guest's side of it does (`Session.Feedable`, `Session.NeverFaults`). Without
a channel a block has no samples, the buffer for its wire bytes is empty, and the first sample that
the device asks for is out of bounds.

A session has a frame always, and a channel unless the request asks for none and a range that the
device lists suits it. Only the default setup is looked at for its channels
(`Soundcard.acquire_channels`). -/

namespace GuestAudio

/-! ## Channels of a choice -/

/-- The request asks for no channel, and a range that the device lists suits it. -/
structure Soundcard.OffersNoChannel (card : Soundcard) (r : OutputRequest) : Prop where
  unasked : r.channels = 0
  suits : ∃ d ranges, card.device? = some d ∧ d.ranges = .ok ranges ∧
    ∃ range ∈ ranges, range.Suits r

namespace OutputDevice.Chooses

variable {d : OutputDevice} {r : OutputRequest} {choice : StreamChoice}

theorem frames_ne_zero (h : d.Chooses r choice) : choice.frames ≠ 0 := by
  rcases h with ⟨-, best⟩ | ⟨-, -, -, -⟩
  · obtain ⟨range, -, rfl⟩ := bestChoice?_eq_some_iff.1 best
    exact blockFrames_ne_zero _ _
  · exact blockFrames_ne_zero _ _

/-- The default setup is taken only with a channel. -/
theorem channels_eq_zero_iff (h : d.Chooses r choice) :
    choice.channels = 0 ↔
      r.channels = 0 ∧ ∃ ranges, d.ranges = .ok ranges ∧ ∃ range ∈ ranges, range.Suits r := by
  rcases h with ⟨listed, best⟩ | ⟨listed, unsuited, -, feedable⟩
  · obtain ⟨range, ⟨hsuits, earlier, later, hranges, -⟩, rfl⟩ := bestChoice?_eq_some_iff.1 best
    have hmem : range ∈ earlier ++ range :: later := by simp
    exact ⟨fun h => ⟨h, _, listed, range, hranges ▸ hmem, hsuits⟩, fun h => h.1⟩
  · constructor
    · intro h
      exact absurd h feedable.channels
    · rintro ⟨-, ranges, hranges, range, hmem, hsuits⟩
      rw [listed] at hranges
      cases hranges
      exact absurd hsuits (bestChoice?_eq_none_iff.1 unsuited range hmem)

end OutputDevice.Chooses

/-! ## Sessions that can be fed -/

/-- A block of the session's format has samples, and the stream's buffers have room for it. -/
structure Session.Feedable (session : Session OutputStream) : Prop where
  samples : 0 < session.format.blockSamples
  fits : session.stream.playback.Fits session.format

namespace Soundcard

variable {card : Soundcard} {r : OutputRequest} {session : Session OutputStream}

theorem framesPerBlock_of_acquire (h : (card.acquire r).1.value = .ok session) :
    session.format.framesPerBlock ≠ 0 := by
  obtain ⟨d, choice, hopens, hgranted⟩ := exists_grantedFor h
  rw [hgranted.format]
  exact hopens.chosen.frames_ne_zero

theorem channels_of_acquire (h : (card.acquire r).1.value = .ok session) :
    session.format.channels = 0 ↔ card.OffersNoChannel r := by
  obtain ⟨d, choice, hopens, hgranted⟩ := exists_grantedFor h
  rw [hgranted.format]
  refine hopens.chosen.channels_eq_zero_iff.trans ⟨?_, ?_⟩
  · rintro ⟨unasked, ranges, suits⟩
    exact ⟨unasked, d, ranges, hopens.device, suits⟩
  · rintro ⟨unasked, d', ranges, hd', suits⟩
    cases hopens.device.symm.trans hd'
    exact ⟨unasked, ranges, suits⟩

theorem playback_of_acquire (h : (card.acquire r).1.value = .ok session) :
    session.stream.playback = .ofFormat session.format := by
  obtain ⟨d, choice, -, hgranted⟩ := exists_grantedFor h
  exact hgranted.playback

/-- A sound card that is asked for a channel, or has one by default, grants what can be fed. -/
theorem feedable_of_acquire (hr : ¬card.OffersNoChannel r)
    (h : (card.acquire r).1.value = .ok session) : session.Feedable := by
  have hframes : 0 < session.format.framesPerBlock.toNat :=
    Nat.pos_of_ne_zero fun hzero => framesPerBlock_of_acquire h (UInt32.toNat_inj.1 hzero)
  have hchannels : 0 < session.format.channels.toNat :=
    Nat.pos_of_ne_zero fun hzero => hr ((channels_of_acquire h).1 (UInt16.toNat_inj.1 hzero))
  constructor
  · exact (OutputFormat.blockSamples_pos_iff _).2 ⟨hframes, hchannels⟩
  · rw [playback_of_acquire h]
    exact Playback.fits_ofFormat _

end Soundcard

/-! ## Feeding a stream -/

variable {γ : Type} {handler : InterruptHandler γ}

namespace Session.Feedable

variable {session : Session OutputStream} {m : Machine γ}

/-- Once the guest's side of a buffer has come to its end, the buffer is filled. -/
theorem feed (h : session.Feedable) (hv : m.volume.InRange)
    (buffer : List session.stream.sampleType.Sample) {answers : List (Option (Option GuestBlock))}
    {guest : γ} {shared : SharedState} {log : Log}
    (hattend : m.shared.attendEach handler (session.format.blocksFor buffer.length) m.guest =
      .ok ⟨(answers, guest, shared), log⟩) :
    ∃ stream : OutputStream, ({ session with stream } : Session OutputStream).Feedable ∧
      session.stream.feed handler m buffer =
        .ok ⟨(session.format.samplesFor session.stream.sampleType m.volume answers
          (pieceLengths session.format.blockSamples buffer.length), stream,
          { m with shared, guest }), log⟩ := by
  obtain ⟨playback, hplayback, hrender⟩ :=
    Playback.render_of_attendEach h.samples h.fits hv buffer hattend
  refine ⟨{ session.stream with playback }, ⟨h.samples, hplayback⟩, ?_⟩
  rw [OutputStream.feed, hrender]
  rfl

theorem feed_error (h : session.Feedable) (hv : m.volume.InRange)
    (buffer : List session.stream.sampleType.Sample) {halt : Halt}
    (hattend : m.shared.attendEach handler (session.format.blocksFor buffer.length) m.guest =
      .error halt) : session.stream.feed handler m buffer = .error halt := by
  rw [OutputStream.feed, Playback.render_of_attendEach_error h.samples h.fits hv buffer hattend]
  rfl

end Session.Feedable

/-! ## A stream for good -/

/-- What becomes of a stream in callbacks, while the volume is in range. -/
inductive OutputStream.Becomes (handler : InterruptHandler γ) (s : OutputStream) :
    OutputStream → Prop
  | fresh : Becomes handler s s
  | fed {t u : OutputStream} {m m' : Machine γ} {buffer samples : List t.sampleType.Sample}
      {log : Log} (earlier : Becomes handler s t) (volume : m.volume.InRange)
      (feed : t.feed handler m buffer = .ok ⟨(samples, u, m'), log⟩) : Becomes handler s u

/-- The callback fills its buffer wherever the guest's side of it comes to its end; and where it
    does not, the guest's own code ends early, or has posted nothing to collect. -/
structure OutputStream.Completes (f : OutputFormat) (handler : InterruptHandler γ)
    (s : OutputStream) (m : Machine γ) (buffer : List s.sampleType.Sample) : Prop where
  fills : ∀ attended,
    m.shared.attendEach handler (f.blocksFor buffer.length) m.guest = .ok attended →
      ∃ filled, s.feed handler m buffer = .ok filled ∧ filled.value.1.length = buffer.length
  halts : ∀ halt, s.feed handler m buffer = .error halt →
    halt = .parked ∨ ∃ guest s fault, handler.run guest s = .error fault ∧ halt = .fault fault

/-- Every callback of the session's stream, whatever the ones before it left behind, fills its
    buffer but for the guest. -/
def Session.NeverFaults (session : Session OutputStream) : Prop :=
  ∀ {γ : Type} (handler : InterruptHandler γ) (s : OutputStream) (m : Machine γ)
    (buffer : List s.sampleType.Sample), session.stream.Becomes handler s → m.volume.InRange →
      s.Completes session.format handler m buffer

namespace Session.Feedable

variable {session : Session OutputStream}

theorem completes (h : session.Feedable) {m : Machine γ} (hv : m.volume.InRange)
    (buffer : List session.stream.sampleType.Sample) :
    session.stream.Completes session.format handler m buffer := by
  constructor
  · rintro ⟨⟨answers, guest, shared⟩, log⟩ hattend
    obtain ⟨stream, -, hfeed⟩ := h.feed hv buffer hattend
    refine ⟨_, hfeed, ?_⟩
    have hcount := (SharedState.length_of_attendEach hattend).trans
      (OutputFormat.blocksFor_eq_length_chunks h.samples buffer)
    rw [← map_length_chunks h.samples buffer, OutputFormat.length_samplesFor _ _ _ hcount,
      flatten_chunks]
  · intro halt hfeed
    cases hattend :
        m.shared.attendEach handler (session.format.blocksFor buffer.length) m.guest with
    | error halt' =>
      rw [h.feed_error hv buffer hattend] at hfeed
      cases hfeed
      exact SharedState.halt_of_attendEach hattend
    | ok attended =>
      obtain ⟨stream, -, hfed⟩ := h.feed hv buffer hattend
      rw [hfed] at hfeed
      cases hfeed

/-- Buffers for a block stay so. -/
theorem becomes (h : session.Feedable) {s : OutputStream}
    (hs : session.stream.Becomes handler s) :
    ({ session with stream := s } : Session OutputStream).Feedable := by
  induction hs with
  | fresh => exact h
  | @fed t u m m' buffer samples log earlier volume feed ih =>
    cases hattend :
        m.shared.attendEach handler (session.format.blocksFor buffer.length) m.guest with
    | error halt =>
      rw [ih.feed_error volume buffer hattend] at feed
      cases feed
    | ok attended =>
      obtain ⟨stream, hstream, hfed⟩ := ih.feed volume buffer hattend
      rw [hfed] at feed
      cases feed
      exact hstream

theorem neverFaults (h : session.Feedable) : session.NeverFaults :=
  fun _ _ _ buffer hs hv => (h.becomes hs).completes hv buffer

end Session.Feedable

/-! ## A stream without channels -/

theorem SharedState.attendEach_of_idle {s : SharedState} (h : s.status.hasSource = false) (n : Nat)
    (guest : γ) :
    s.attendEach handler n guest = .ok ⟨(List.replicate n none, guest, s), []⟩ := by
  induction n with
  | zero => rfl
  | succ n ih =>
    rw [attendEach, attend_of_idle h, ok_bind]
    dsimp only
    rw [ih]
    rfl

/-- Without room for wire bytes the first sample is out of bounds. -/
theorem OutputStream.feed_of_no_room {s : OutputStream} (h : s.playback.wire = [])
    (m : Machine γ) {buffer : List s.sampleType.Sample} (hbuffer : buffer ≠ []) :
    s.feed handler m buffer = .error (.fault .outOfBounds) := by
  have hchunk : 0 < s.playback.filler.format.chunkSamples := Nat.le_max_right _ _
  have hpiece : (buffer.take s.playback.filler.format.chunkSamples).length *
      s.playback.filler.format.layout.sampleBytes ≠ 0 := by
    have hlength := List.length_pos_iff.2 hbuffer
    have hbytes := s.playback.filler.format.layout.sampleBytes_pos
    rw [List.length_take]
    exact Nat.mul_ne_zero (by omega) (by omega)
  rw [feed, Playback.render, chunks_of_ne_nil hchunk hbuffer, Playback.renderAll,
    Playback.renderBlock, h, slice_of_length_lt (Nat.pos_of_ne_zero hpiece)]
  rfl

theorem Session.not_neverFaults {session : Session OutputStream}
    (hplayback : session.stream.playback = .ofFormat session.format)
    (hchannels : session.format.channels = 0) : ¬session.NeverFaults := by
  intro h
  have hwire : session.stream.playback.wire = [] := by
    rw [hplayback, Playback.ofFormat, OutputFormat.blockBytes, OutputFormat.frameBytes, hchannels]
    rfl
  -- no source is active, so that the guest's side comes to its end
  let m : Machine QueuedGuest := { shared := {}, volume := .full, guest := {} }
  obtain ⟨filled, hfilled, -⟩ :=
    (h QueuedGuest.handler _ m [session.stream.sampleType.ofWire session.format.layout 0] .fresh
      Volume.inRange_full).fills _ (SharedState.attendEach_of_idle rfl _ m.guest)
  rw [OutputStream.feed_of_no_room hwire m (List.cons_ne_nil _ [])] at hfilled
  cases hfilled

/-! ## Every session -/

/-- **A session has a channel unless none was asked for and a range offers none.** Whatever is
    asked of a sound card and whatever it offers, a session that opens has a frame. Where the
    request asks for no channel and a range that suits it is listed, it has no channel, and its
    callbacks can fault; in all other cases it has one, and its callbacks fill buffers of any length
    but for the guest. A default setup without a channel is refused. -/
theorem Soundcard.acquire_channels (card : Soundcard) (r : OutputRequest) :
    (∀ session, (card.acquire r).1.value = .ok session →
      session.format.framesPerBlock ≠ 0 ∧
      (session.format.channels ≠ 0 ↔ ¬card.OffersNoChannel r) ∧
      (session.NeverFaults ↔ ¬card.OffersNoChannel r)) ∧
    ∀ d ranges setup, card.device? = some d → d.ranges = .ok ranges →
      (∀ range ∈ ranges, ¬range.Suits r) → d.defaultSetup = .ok setup → setup.channels = 0 →
        (card.acquire r).1.value =
          .error (.unfitSamples (setup.sample.name ++ " with 0 channel(s)")) := by
  constructor
  · intro session h
    refine ⟨framesPerBlock_of_acquire h, not_congr (channels_of_acquire h), ?_, ?_⟩
    · intro hnever hoffers
      exact Session.not_neverFaults (playback_of_acquire h) ((channels_of_acquire h).2 hoffers)
        hnever
    · intro hoffers
      exact (feedable_of_acquire hoffers h).neverFaults
  · intro d ranges setup hd listed unsuited known hchannels
    have unfit : ¬setup.Feedable := fun feedable => feedable.channels hchannels
    have hcause :=
      OutputDevice.Unsuitable.unfit listed (bestChoice?_eq_none_iff.2 unsuited) known unfit
    have hmessage : setup.sample.name ++ " with " ++ toString setup.channels ++ " channel(s)" =
        setup.sample.name ++ " with 0 channel(s)" := by
      rw [hchannels, String.append_assoc, String.append_assoc]
      rfl
    rw [acquire_of_unsuitable hd hcause, hmessage]
    rfl

/-- The device lists a range without channels, and has none by default. Asked for two channels it
    grants them, and asked for one it refuses. -/
theorem Soundcard.acquire_channels_stereo :
    let device : OutputDevice := {
      name? := some "card"
      ranges := .ok [⟨0, 8000, 96000, .range 64 2048, .i16⟩, ⟨2, 8000, 96000, .range 0 0, .f32⟩]
      defaultSetup := .ok ⟨0, 44100, .unknown, .i16⟩ }
    let card : Soundcard := { device? := some device }
    (∃ session, (card.acquire ⟨44100, .word, 2, 0⟩).1.value = .ok session ∧
      session.format.framesPerBlock ≠ 0 ∧ session.format.channels ≠ 0 ∧ session.NeverFaults) ∧
    (card.acquire ⟨44100, .word, 1, 512⟩).1.value =
      .error (.unfitSamples (DeviceSample.i16.name ++ " with 0 channel(s)")) := by
  intro device card
  constructor
  · obtain ⟨session, hsession⟩ :
        ∃ session, (card.acquire ⟨44100, .word, 2, 0⟩).1.value = .ok session := ⟨_, rfl⟩
    obtain ⟨hframes, hchannels, hnever⟩ :=
      (acquire_channels card ⟨44100, .word, 2, 0⟩).1 session hsession
    have hoffers : ¬card.OffersNoChannel ⟨44100, .word, 2, 0⟩ :=
      fun h => absurd h.unasked (by decide)
    exact ⟨session, hsession, hframes, hchannels.2 hoffers, hnever.2 hoffers⟩
  · refine (acquire_channels card ⟨44100, .word, 1, 512⟩).2 device _ _ rfl rfl ?_ rfl rfl
    intro range hmem hsuits
    simp only [List.mem_cons, List.not_mem_nil, or_false] at hmem
    rcases hmem with rfl | rfl
    · exact absurd hsuits.channels (by decide)
    · exact absurd hsuits.channels (by decide)

/-- Asked for no channel, the device offers a range without channels, where its default setup would
    be refused. The first sample that is asked for is out of bounds. -/
theorem Soundcard.acquire_without_channels :
    let device : OutputDevice := {
      name? := some "card"
      ranges := .ok [⟨0, 8000, 96000, .range 64 2048, .i16⟩]
      defaultSetup := .ok ⟨0, 44100, .unknown, .i16⟩ }
    ∃ session,
      (Soundcard.acquire { device? := some device } ⟨44100, .word, 0, 512⟩).1.value = .ok session ∧
      session.format = ⟨44100, .word, 0, 512⟩ ∧
      ∀ sample : session.stream.sampleType.Sample,
        session.stream.feed QueuedGuest.handler { shared := {}, volume := .full, guest := {} }
          [sample] = .error (.fault .outOfBounds) :=
  ⟨_, rfl, rfl, fun _ => OutputStream.feed_of_no_room rfl _ (List.cons_ne_nil _ [])⟩

end GuestAudio
