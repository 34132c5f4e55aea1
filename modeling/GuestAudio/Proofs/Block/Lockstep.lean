import GuestAudio.Proofs.Block.GuestSide
import GuestAudio.Proofs.System.Course

set_option autoImplicit false

/-! # The guest does not see the volume

Take two runs of fills, in which the guest and its ports do the same, and in which volumes and mutes
are set in different ways and at different points. What the guest and everyone else on its side see
stays in lockstep: the interrupts, the blocks that the fills collect, the status, the rendezvous,
the fills that are idle, and where a run comes to a halt (`volume_unseen`). For all of this follows
from the guest's side of the fills alone, in which there is no volume
(`Rig.trace_eq_guestTrace`).

A volume that is set while a fill waits for the guest is the one that the fill reads afterwards, so
it may as well have been set before the fill. -/

namespace GuestAudio

variable {γ : Type}

/-! ## Watching the guest -/

/-- A guest, with a record of its interrupts. What its mixer is asked is part of the guest. -/
structure Watched (γ : Type) where
  guest : γ
  /-- Interrupts raised. -/
  interrupts : Nat := 0
  /-- What each interrupt left in the slot, to be collected by its fill. -/
  left : List (Option GuestBlock) := []

/-- The guest and its record after a fill in which it gave this answer, if it was asked. -/
def Watched.after (w : Watched γ) (answer? : Option (Option GuestBlock)) (guest : γ) :
    Watched γ where
  guest
  interrupts := w.interrupts + if answer?.isSome then 1 else 0
  left := w.left ++ answer?.toList

/-- The guest takes the interrupt as ever, and the record grows by it. -/
def InterruptHandler.watched (handler : InterruptHandler γ) : InterruptHandler (Watched γ) where
  run w s := do
    let (guest, s) ← handler.run w.guest s
    return ({ guest, interrupts := w.interrupts + 1, left := w.left ++ [s.rendezvous.slot] }, s)

/-- Watching the guest changes nothing, and the record grows by what is collected. -/
theorem SharedState.attend_watched (handler : InterruptHandler γ) (w : Watched γ)
    (s : SharedState) :
    s.attend handler.watched w = (s.attend handler w.guest).map fun x =>
      ⟨(x.value.1, w.after x.value.1 x.value.2.1, x.value.2.2), x.log⟩ := by
  cases hsource : s.status.hasSource with
  | false =>
    rw [attend_of_idle hsource, attend_of_idle hsource]
    simp [Except.map, Watched.after]
  | true =>
    rw [attend, attend, if_pos hsource, if_pos hsource, obtain, obtain]
    dsimp only
    cases hrun : handler.run w.guest { s with rendezvous := s.rendezvous.ask.value } with
    | error fault =>
      have hwatched : handler.watched.run w { s with rendezvous := s.rendezvous.ask.value } =
          .error fault := by
        simp only [InterruptHandler.watched, hrun]
        rfl
      rw [hwatched]
      rfl
    | ok ran =>
      obtain ⟨guest, s'⟩ := ran
      have hwatched : handler.watched.run w { s with rendezvous := s.rendezvous.ask.value } =
          .ok ({ guest, interrupts := w.interrupts + 1
                 left := w.left ++ [s'.rendezvous.slot] }, s') := by
        simp only [InterruptHandler.watched, hrun]
        rfl
      rw [hwatched]
      cases hposts : s'.rendezvous.posts with
      | zero =>
        simp only [liftM_ok, ok_bind, collect_of_posts_eq_zero hposts]
        rfl
      | succ n =>
        simp only [liftM_ok, ok_bind, collect_of_posts_eq_succ hposts]
        rfl

/-! ## Runs of fills -/

/-- What can happen to a filler and its guest. -/
inductive RigEvent (γ : Type)
  | fill (region : Bytes)
  | shared (step : SharedStep γ)
  | volume (change : VolumeChange)

/-- What of an event concerns the guest. -/
inductive GuestEvent (γ : Type)
  | fill
  | shared (step : SharedStep γ)

/-- A fill and a step on the shared state concern the guest, but not where the fill is to. -/
def RigEvent.seen? : RigEvent γ → Option (GuestEvent γ)
  | fill _ => some .fill
  | shared step => some (.shared step)
  | volume _ => none

/-- A filler, and what it works on. -/
structure Rig (γ : Type) where
  filler : BlockFiller
  machine : Machine (Watched γ)

/-- What the guest's side sees after an event. -/
structure Glimpse (γ : Type) where
  guest : Watched γ
  shared : SharedState
  /-- The event was a fill, and no source was active. -/
  isIdle : Bool := false
  log : Log := []

namespace Rig

/-- Change the volume or a mute. -/
def changeVolume (r : Rig γ) (change : VolumeChange) : Rig γ :=
  { r with machine := { r.machine with volume := r.machine.volume.apply change } }

/-- The rig after a step on the shared state. -/
def withShared (r : Rig γ) (guest : γ) (shared : SharedState) : Rig γ :=
  { r with machine := { r.machine with guest := { r.machine.guest with guest }, shared } }

/-- What the guest's side sees after each event that concerns it, up to the first that does not
    come to its end. -/
def trace (handler : InterruptHandler γ) :
    List (RigEvent γ) → Rig γ → List (Except Halt (Glimpse γ))
  | [], _ => []
  | .fill region :: rest, r =>
      match r.filler.fill handler.watched r.machine region with
      | .error halt => [.error halt]
      | .ok ⟨filled, log⟩ =>
          .ok {
            guest := filled.machine.guest
            shared := filled.machine.shared
            isIdle := filled.outcome = .idle
            log } :: trace handler rest { filler := filled.filler, machine := filled.machine }
  | .shared step :: rest, r =>
      match step.apply r.machine.guest.guest r.machine.shared with
      | .error fault => [.error (.fault fault)]
      | .ok (guest, shared) =>
          .ok { guest := { r.machine.guest with guest }, shared } ::
            trace handler rest (r.withShared guest shared)
  | .volume change :: rest, r => trace handler rest (r.changeVolume change)

end Rig

/-- What the guest's side sees of the events that concern it, of which the fills are no more than
    their guest's side. -/
def guestTrace (handler : InterruptHandler γ) :
    List (GuestEvent γ) → Watched γ → SharedState → List (Except Halt (Glimpse γ))
  | [], _, _ => []
  | .fill :: rest, w, s =>
      match s.attend handler.watched w with
      | .error halt => [.error halt]
      | .ok ⟨(answer?, guest, shared), log⟩ =>
          .ok { guest, shared, isIdle := answer?.isNone, log } ::
            guestTrace handler rest guest shared
  | .shared step :: rest, w, s =>
      match step.apply w.guest s with
      | .error fault => [.error (.fault fault)]
      | .ok (guest, shared) =>
          .ok { guest := { w with guest }, shared } ::
            guestTrace handler rest { w with guest } shared

/-! ## Lockstep -/

/-- A region is idle just if no source is active. -/
theorem outcome_regionFor (w : WireLayout) (channels : UInt16) (blockBytes : Nat)
    (hasSource : Bool) (answer : Option GuestBlock) (v : Volume) (length : Nat) :
    (regionFor w channels blockBytes hasSource answer v length).1 = .idle ↔ hasSource = false := by
  cases hasSource with
  | false => simp [regionFor]
  | true =>
    cases answer with
    | none => simp [regionFor, soundFor]
    | some block =>
      simp only [regionFor, soundFor, if_true]
      split <;> simp

/-- What the guest's side sees of a run follows from the guest's side of its fills. -/
theorem Rig.trace_eq_guestTrace (handler : InterruptHandler γ) (events : List (RigEvent γ))
    {r : Rig γ} (hv : r.machine.volume.InRange) :
    r.trace handler events =
      guestTrace handler (events.filterMap RigEvent.seen?) r.machine.guest r.machine.shared := by
  induction events generalizing r with
  | nil => rfl
  | cons event rest ih =>
    cases event with
    | fill region =>
      simp only [List.filterMap_cons, RigEvent.seen?]
      rw [trace, guestTrace]
      cases hattend : r.machine.shared.attend handler.watched r.machine.guest with
      | error halt => rw [BlockFiller.fill_of_attend_error hattend]
      | ok attended =>
        obtain ⟨⟨answer?, guest, shared⟩, log⟩ := attended
        obtain ⟨scratch, -, hfill⟩ := BlockFiller.fill_of_attend (f := r.filler) hv hattend region
        have hidle := outcome_regionFor r.filler.format.layout r.filler.format.channels
          r.filler.scratch.length answer?.isSome answer?.join r.machine.volume region.length
        have hrest := ih (r := {
          filler := { r.filler with scratch }
          machine := { r.machine with shared, guest } }) hv
        rw [hfill]
        dsimp only
        rw [hrest, decide_eq_decide.2 hidle]
        cases answer? <;> rfl
    | shared step =>
      simp only [List.filterMap_cons, RigEvent.seen?]
      rw [trace, guestTrace]
      cases happly : step.apply r.machine.guest.guest r.machine.shared with
      | error fault => rfl
      | ok applied =>
        obtain ⟨guest, shared⟩ := applied
        exact congrArg _ (ih (r := r.withShared guest shared) hv)
    | volume change =>
      rw [List.filterMap_cons_none rfl, trace]
      exact ih (hv.apply change)

/-- **The guest does not see the volume.** Two runs with the same guest and the same events on its
    side are seen alike from there, whatever volumes and mutes are set in them and wherever their
    fills go to. And a fill raises the interrupt exactly once if a source is active when it starts,
    and collects what that interrupt leaves; else it does not raise it, and is idle. -/
theorem volume_unseen (handler : InterruptHandler γ) :
    (∀ (r₁ r₂ : Rig γ) (events₁ events₂ : List (RigEvent γ)),
      r₁.machine.volume.InRange → r₂.machine.volume.InRange →
      r₁.machine.guest = r₂.machine.guest → r₁.machine.shared = r₂.machine.shared →
      events₁.filterMap RigEvent.seen? = events₂.filterMap RigEvent.seen? →
        r₁.trace handler events₁ = r₂.trace handler events₂) ∧
    ∀ (r : Rig γ) (region : Bytes), r.machine.volume.InRange →
      (r.machine.shared.status.hasSource = false →
        ∃ filled, r.filler.fill handler.watched r.machine region = .ok ⟨filled, []⟩ ∧
          filled.outcome = .idle ∧ filled.machine = r.machine) ∧
      (r.machine.shared.status.hasSource = true →
        ∀ filled log, r.filler.fill handler.watched r.machine region = .ok ⟨filled, log⟩ →
          ∃ answer, filled.machine.guest.interrupts = r.machine.guest.interrupts + 1 ∧
            filled.machine.guest.left = r.machine.guest.left ++ [answer] ∧
            (filled.outcome, filled.region) = regionFor r.filler.format.layout
              r.filler.format.channels r.filler.scratch.length true answer r.machine.volume
              region.length ∧
            filled.outcome ≠ .idle) := by
  refine ⟨?_, fun r region hv => ⟨fun hsource => ?_, fun hsource filled log hfilled => ?_⟩⟩
  · intro r₁ r₂ events₁ events₂ hv₁ hv₂ hguest hshared hevents
    rw [Rig.trace_eq_guestTrace handler events₁ hv₁, Rig.trace_eq_guestTrace handler events₂ hv₂,
      hguest, hshared, hevents]
  · exact ⟨_, BlockFiller.fill_of_idle hsource region, rfl, rfl⟩
  · cases hattend : r.machine.shared.attend handler r.machine.guest.guest with
    | error halt =>
      have hwatched := SharedState.attend_watched handler r.machine.guest r.machine.shared
      rw [hattend] at hwatched
      rw [BlockFiller.fill_of_attend_error hwatched] at hfilled
      cases hfilled
    | ok attended =>
      obtain ⟨⟨answer?, guest, shared⟩, log'⟩ := attended
      have hwatched := SharedState.attend_watched handler r.machine.guest r.machine.shared
      rw [hattend] at hwatched
      have hasked := SharedState.isSome_of_attend hattend
      obtain ⟨answer, rfl⟩ := Option.isSome_iff_exists.1 (hasked.trans hsource)
      obtain ⟨scratch, -, hfill⟩ := BlockFiller.fill_of_attend (f := r.filler) hv hwatched region
      rw [hfill] at hfilled
      cases hfilled
      refine ⟨answer, rfl, rfl, rfl, ?_⟩
      intro hidle
      have := (outcome_regionFor _ _ _ _ _ _ _).1 hidle
      cases this

/-- One run is muted for its second fill and turned down for its third, in which no source is left;
    the other is at full volume, on a device of another format. -/
theorem volume_unseen_muted :
    let shared : SharedState := {}
    let guest : Watched QueuedGuest :=
      { guest := { queue := [some ⟨1, 16, 1, [1, 2]⟩, some ⟨1, 16, 1, [3, 4]⟩] } }
    let muted : Rig QueuedGuest :=
      { filler := .ofFormat ⟨44100, .word, 1, 1⟩, machine := { shared, volume := .full, guest } }
    let loud : Rig QueuedGuest :=
      { filler := .ofFormat ⟨8000, .byte, 2, 4⟩, machine := { shared, volume := .full, guest } }
    let quietEvents : List (RigEvent QueuedGuest) :=
      [.shared .addSource, .shared (.attachMixer 1), .fill [9, 9], .volume (.main (.mute true)),
        .fill [9, 9], .shared .removeSource, .volume (.speaker (.level 0)), .fill [9, 9]]
    let loudEvents : List (RigEvent QueuedGuest) :=
      [.shared .addSource, .shared (.attachMixer 1), .fill [], .fill [7, 7, 7],
        .shared .removeSource, .fill [7]]
    (muted.machine.volume.InRange ∧ loud.machine.volume.InRange ∧
      muted.machine.guest = loud.machine.guest ∧ muted.machine.shared = loud.machine.shared ∧
      quietEvents.filterMap RigEvent.seen? = loudEvents.filterMap RigEvent.seen?) ∧
    muted.trace QueuedGuest.handler quietEvents = loud.trace QueuedGuest.handler loudEvents ∧
    ((loud.trace QueuedGuest.handler loudEvents).map fun x =>
      x.toOption.map fun seen => (seen.guest.interrupts, seen.guest.left.length, seen.isIdle)) =
      [some (0, 0, false), some (0, 0, false), some (1, 1, false), some (2, 2, false),
        some (2, 2, false), some (2, 2, true)] := by
  intro shared guest muted loud quietEvents loudEvents
  have hv : Volume.full.InRange := Volume.inRange_full
  refine ⟨⟨hv, hv, rfl, rfl, rfl⟩,
    (volume_unseen QueuedGuest.handler).1 muted loud quietEvents loudEvents hv hv rfl rfl rfl, ?_⟩
  decide +kernel

end GuestAudio
