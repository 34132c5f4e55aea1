import GuestAudio.Guest.Rendezvous
import Mathlib.Data.List.Infix

set_option autoImplicit false

/-! # The rendezvous and its history

What a rendezvous holds, and what each call of it returns, follows from the calls made before. The
posts are the answers less the collections. The slot holds the block of the latest answer, unless an
answer was collected after it; so a second answer replaces a first one that nobody collected, and
the post that is left over brings nothing. The two flags tell whether a block was asked for since
they were last cleared.

This holds for calls in any order, also those of a guest that answers without being asked, twice, or
with the flag still up (`exists_transcript`). If the audio side asks only after it has collected the
answer to its last request, no request finds another one outstanding
(`log_eq_nil_of_inTurn`). -/

namespace GuestAudio

namespace Rendezvous

/-! ## Calls and replies -/

/-- A call of the rendezvous. -/
inductive Call
  | ask
  | takeInterrupt
  | answer (block : Option GuestBlock)
  | collect
deriving Repr, DecidableEq

/-- What a call returns. -/
inductive Reply
  | done
  /-- Whether the interrupt flag was up. -/
  | raised (flag : Bool)
  /-- The answer that was collected. -/
  | collected (block : Option GuestBlock)
deriving Repr, DecidableEq

namespace Call

def isAnswer : Call → Bool
  | answer _ => true
  | _ => false

def isCollect : Call → Bool
  | collect => true
  | _ => false

def isTakeInterrupt : Call → Bool
  | takeInterrupt => true
  | _ => false

/-- The block of an answer that has one. -/
def block? : Call → Option GuestBlock
  | answer block => block
  | _ => none

end Call

/-- The block that a reply hands over. -/
def Reply.block? : Reply → Option GuestBlock
  | collected block => block
  | _ => none

/-- What came of calls: a reply to each, the rendezvous afterwards, and what was logged. -/
structure Transcript where
  replies : List Reply := []
  rendezvous : Rendezvous := .idle
  log : Log := []
deriving Repr, DecidableEq

/-- Make one more call. To collect with nothing posted is to wait. -/
def Transcript.perform (t : Transcript) : Call → Run Transcript
  | .ask =>
      let asked := t.rendezvous.ask
      return {
        replies := t.replies ++ [.done]
        rendezvous := asked.value
        log := t.log ++ asked.log }
  | .takeInterrupt =>
      let (flag, rendezvous) := t.rendezvous.takeInterrupt
      return { t with replies := t.replies ++ [.raised flag], rendezvous }
  | .answer block => do
      let rendezvous ← t.rendezvous.answer block
      return { t with replies := t.replies ++ [.done], rendezvous }
  | .collect =>
      match t.rendezvous.collect? with
      | none => .error .parked
      | some (block, rendezvous) =>
          return { t with replies := t.replies ++ [.collected block], rendezvous }

/-- Make calls, one after the other, on a rendezvous at which nothing has happened yet. -/
def transcript (calls : List Call) : Run Transcript := calls.foldlM Transcript.perform {}

/-! ## What the history says -/

/-- The last of the calls to satisfy a condition. -/
def lastCall? (p : Call → Bool) (calls : List Call) : Option Call := calls.reverse.find? p

/-- A block was asked for, and no call of the given kind was made since. -/
def askedSince (p : Call → Bool) (calls : List Call) : Bool :=
  lastCall? (fun call => call = .ask || p call) calls = some .ask

/-- The block of the latest answer, unless an answer was collected since. -/
def latestBlock (calls : List Call) : Option GuestBlock :=
  (lastCall? (fun call => call.isAnswer || call.isCollect) calls).bind Call.block?

/-- What a call returns after these calls. -/
def Call.replyAfter (call : Call) (earlier : List Call) : Reply :=
  match call with
  | .ask | .answer _ => .done
  | .takeInterrupt => .raised (askedSince isTakeInterrupt earlier)
  | .collect => .collected (latestBlock earlier)

/-- At every point there are as many answers as collections, or more, but fewer more than a 32-bit
    word can count. -/
def Admissible (calls : List Call) : Prop :=
  ∀ earlier, earlier <+: calls →
    earlier.countP Call.isCollect ≤ earlier.countP Call.isAnswer ∧
      earlier.countP Call.isAnswer < earlier.countP Call.isCollect + (1 <<< 32)

instance (calls : List Call) : Decidable (Admissible calls) :=
  decidable_of_iff (∀ earlier ∈ calls.inits,
      earlier.countP Call.isCollect ≤ earlier.countP Call.isAnswer ∧
        earlier.countP Call.isAnswer < earlier.countP Call.isCollect + (1 <<< 32))
    (forall_congr' fun earlier => imp_congr_left (List.mem_inits earlier calls))

/-- The audio side asks only while it does not wait, and collects only while it does. -/
def inTurn : (waiting : Bool) → List Call → Bool
  | _, [] => true
  | waiting, .ask :: rest => !waiting && inTurn true rest
  | waiting, .collect :: rest => waiting && inTurn false rest
  | waiting, _ :: rest => inTurn waiting rest

theorem lastCall?_concat (p : Call → Bool) (calls : List Call) (call : Call) :
    lastCall? p (calls ++ [call]) = if p call then some call else lastCall? p calls := by
  rw [lastCall?, List.reverse_concat, List.find?_cons]
  cases p call <;> rfl

theorem askedSince_concat (p : Call → Bool) (calls : List Call) (call : Call) :
    askedSince p (calls ++ [call]) =
      if call = .ask then true else if p call then false else askedSince p calls := by
  by_cases hask : call = .ask
  · simp [askedSince, lastCall?_concat, hask]
  · cases hp : p call <;> simp [askedSince, lastCall?_concat, hask, hp]

/-! ## The transcript reflects the history -/

/-- What the transcript of these calls holds is what their history says. -/
structure Transcript.Reflects (t : Transcript) (calls : List Call) : Prop where
  posts : t.rendezvous.posts + calls.countP Call.isCollect = calls.countP Call.isAnswer
  slot : t.rendezvous.slot = latestBlock calls
  posted : t.rendezvous.slot ≠ none → 0 < t.rendezvous.posts
  interrupt : t.rendezvous.interrupt = askedSince Call.isTakeInterrupt calls
  awaiting : t.rendezvous.awaiting = askedSince Call.isCollect calls
  length : t.replies.length = calls.length
  replies : ∀ earlier call later, calls = earlier ++ call :: later →
    t.replies[earlier.length]? = some (call.replyAfter earlier)
  once : List.Sublist (t.replies.filterMap Reply.block? ++ t.rendezvous.slot.toList)
    (calls.filterMap Call.block?)

namespace Transcript.Reflects

variable {t : Transcript} {calls : List Call}

theorem start : ({} : Transcript).Reflects [] := by
  constructor <;> simp [idle, latestBlock, lastCall?, askedSince]

/-- One more reply is what the history says of one more call. -/
theorem replies_concat (h : t.Reflects calls) {call : Call} {reply : Reply}
    (hreply : reply = call.replyAfter calls) :
    ∀ earlier call' later, calls ++ [call] = earlier ++ call' :: later →
      (t.replies ++ [reply])[earlier.length]? = some (call'.replyAfter earlier) := by
  intro earlier call' later hcalls
  rcases List.eq_nil_or_concat later with rfl | ⟨later, last, rfl⟩
  · obtain ⟨rfl, hcall⟩ := List.append_inj' hcalls rfl
    cases hcall
    rw [← h.length, List.getElem?_concat_length, hreply]
  · rw [List.concat_eq_append, ← List.cons_append, ← List.append_assoc] at hcalls
    obtain ⟨hcalls, -⟩ := List.append_inj' hcalls rfl
    have hlt : earlier.length < t.replies.length := by
      rw [h.length, hcalls, List.length_append, List.length_cons]
      omega
    rw [List.getElem?_append_left hlt]
    exact h.replies earlier call' later hcalls

theorem ask (h : t.Reflects calls) :
    ∃ t', t.perform .ask = .ok t' ∧ t'.Reflects (calls ++ [.ask]) := by
  refine ⟨_, rfl, ?_⟩
  constructor
  case posts => simpa [value_ask, Call.isCollect, Call.isAnswer] using h.posts
  case slot =>
    simpa [value_ask, latestBlock, lastCall?_concat, Call.isCollect, Call.isAnswer] using h.slot
  case posted => simpa [value_ask] using h.posted
  case interrupt => simp [value_ask, askedSince_concat]
  case awaiting => simp [value_ask, askedSince_concat]
  case length => simp [h.length]
  case replies => exact h.replies_concat rfl
  case once => simpa [value_ask, List.filterMap_cons, Reply.block?, Call.block?] using h.once

theorem takeInterrupt (h : t.Reflects calls) :
    ∃ t', t.perform .takeInterrupt = .ok t' ∧ t'.Reflects (calls ++ [.takeInterrupt]) := by
  refine ⟨_, rfl, ?_⟩
  constructor
  case posts =>
    simpa [Rendezvous.takeInterrupt, Call.isCollect, Call.isAnswer] using h.posts
  case slot =>
    simpa [Rendezvous.takeInterrupt, latestBlock, lastCall?_concat, Call.isCollect,
      Call.isAnswer] using h.slot
  case posted => exact h.posted
  case interrupt => simp [askedSince_concat, Call.isTakeInterrupt]
  case awaiting =>
    simpa [Rendezvous.takeInterrupt, askedSince_concat, Call.isCollect] using h.awaiting
  case length => simp [h.length]
  case replies => exact h.replies_concat (congrArg Reply.raised h.interrupt)
  case once =>
    simpa [Rendezvous.takeInterrupt, List.filterMap_cons, Reply.block?, Call.block?] using h.once

theorem answer (h : t.Reflects calls) (block : Option GuestBlock)
    (hcount : calls.countP Call.isAnswer + 1 < calls.countP Call.isCollect + (1 <<< 32)) :
    ∃ t', t.perform (.answer block) = .ok t' ∧ t'.Reflects (calls ++ [.answer block]) := by
  have hposts := h.posts
  have hfits : t.rendezvous.posts + 1 < 1 <<< 32 := by omega
  refine ⟨{ t with
    replies := t.replies ++ [.done]
    rendezvous := { t.rendezvous with slot := block, posts := t.rendezvous.posts + 1 } }, ?_, ?_⟩
  · simp only [perform, answer_of_lt hfits, liftM_ok, ok_bind]
    rfl
  constructor
  case posts =>
    simp only [List.countP_append, List.countP_singleton, Call.isCollect, Call.isAnswer]
    simp only [Bool.false_eq_true, if_false, if_true]
    omega
  case slot => simp [latestBlock, lastCall?_concat, Call.isAnswer, Call.block?]
  case posted => exact fun _ => Nat.succ_pos _
  case interrupt => simpa [askedSince_concat, Call.isTakeInterrupt] using h.interrupt
  case awaiting => simpa [askedSince_concat, Call.isCollect] using h.awaiting
  case length => simp [h.length]
  case replies => exact h.replies_concat rfl
  case once =>
    -- the block that was in the slot, if any, is lost, and the new one takes its place
    have hkept := (List.sublist_append_left _ t.rendezvous.slot.toList).trans h.once
    cases block with
    | none => simpa [List.filterMap_cons, Reply.block?, Call.block?] using hkept
    | some b =>
      simpa [List.filterMap_cons, Reply.block?, Call.block?] using hkept.append (.refl [b])

theorem collect (h : t.Reflects calls)
    (hcount : calls.countP Call.isCollect < calls.countP Call.isAnswer) :
    ∃ t', t.perform .collect = .ok t' ∧ t'.Reflects (calls ++ [.collect]) := by
  have hposts := h.posts
  obtain ⟨n, hn⟩ := Nat.exists_eq_add_one_of_ne_zero (n := t.rendezvous.posts) (by omega)
  refine ⟨{ t with
    replies := t.replies ++ [.collected t.rendezvous.slot]
    rendezvous := { t.rendezvous with awaiting := false, posts := n, slot := none } }, ?_, ?_⟩
  · simp only [perform, collect?, hn]
    rfl
  constructor
  case posts =>
    simp only [List.countP_append, List.countP_singleton, Call.isCollect, Call.isAnswer]
    simp only [Bool.false_eq_true, if_false, if_true]
    omega
  case slot => simp [latestBlock, lastCall?_concat, Call.isCollect, Call.isAnswer, Call.block?]
  case posted => exact fun hslot => absurd rfl hslot
  case interrupt => simpa [askedSince_concat, Call.isTakeInterrupt] using h.interrupt
  case awaiting => simp [askedSince_concat, Call.isCollect]
  case length => simp [h.length]
  case replies => exact h.replies_concat (congrArg Reply.collected h.slot)
  case once =>
    -- the block passes from the slot to the reply
    have hmoved : (t.replies ++ [Reply.collected t.rendezvous.slot]).filterMap Reply.block? =
        t.replies.filterMap Reply.block? ++ t.rendezvous.slot.toList := by
      rw [List.filterMap_append]
      cases t.rendezvous.slot <;> rfl
    have honce := h.once
    rw [← hmoved] at honce
    simpa only [Option.toList_none, List.append_nil, List.filterMap_append] using
      honce.trans (List.sublist_append_left _ _)

/-- An admissible call can be made, and is reflected. -/
theorem perform (h : t.Reflects calls) {call : Call} (hcalls : Admissible (calls ++ [call])) :
    ∃ t', t.perform call = .ok t' ∧ t'.Reflects (calls ++ [call]) := by
  have hcounts := hcalls _ List.prefix_rfl
  simp only [List.countP_append, List.countP_singleton] at hcounts
  cases call with
  | ask => exact h.ask
  | takeInterrupt => exact h.takeInterrupt
  | answer block =>
    simp only [Call.isAnswer, Call.isCollect, if_true, Bool.false_eq_true, if_false] at hcounts
    exact h.answer block (by omega)
  | collect =>
    simp only [Call.isAnswer, Call.isCollect, if_true, Bool.false_eq_true, if_false] at hcounts
    exact h.collect (by omega)

end Transcript.Reflects

/-- Admissible calls can all be made, and their transcript is what their history says. -/
theorem exists_transcript {calls : List Call} (hcalls : Admissible calls) :
    ∃ t, transcript calls = .ok t ∧ t.Reflects calls := by
  induction calls using List.reverseRecOn with
  | nil => exact ⟨{}, rfl, .start⟩
  | append_singleton calls call ih =>
    obtain ⟨t, ht, hreflects⟩ :=
      ih fun earlier hinitial => hcalls earlier (hinitial.trans (List.prefix_append _ _))
    obtain ⟨t', ht', hreflects'⟩ := hreflects.perform hcalls
    refine ⟨t', ?_, hreflects'⟩
    unfold transcript at ht ⊢
    rw [List.foldlM_append, ht, ok_bind, List.foldlM_cons, ht']
    rfl

/-! ## Requests in turn -/

/-- If the audio side asks only while it does not wait, no request finds another one outstanding,
    whatever the guest does in between. -/
theorem log_eq_nil_of_inTurn {calls : List Call} {t t' : Transcript}
    (hturn : inTurn t.rendezvous.awaiting calls = true) (hlog : t.log = [])
    (hrun : calls.foldlM Transcript.perform t = .ok t') : t'.log = [] := by
  induction calls generalizing t with
  | nil =>
    cases hrun
    exact hlog
  | cons call rest ih =>
    rw [List.foldlM_cons] at hrun
    obtain ⟨next, hnext, hrun⟩ := bind_eq_ok_iff.1 hrun
    cases call with
    | ask =>
      cases hnext
      simp only [inTurn, Bool.and_eq_true, Bool.not_eq_true'] at hturn
      refine ih ?_ ?_ hrun
      · simpa [value_ask] using hturn.2
      · simp [log_ask, hturn.1, hlog]
    | takeInterrupt =>
      cases hnext
      refine ih ?_ ?_ hrun
      · exact hturn
      · exact hlog
    | answer block =>
      obtain ⟨r, hanswer, hnext⟩ := bind_eq_ok_iff.1 hnext
      obtain ⟨posts, -, hanswer⟩ := bind_eq_ok_iff.1 (liftM_eq_ok_iff.1 hanswer)
      cases hanswer
      cases hnext
      refine ih ?_ ?_ hrun
      · exact hturn
      · exact hlog
    | collect =>
      simp only [inTurn, Bool.and_eq_true] at hturn
      cases hposts : t.rendezvous.posts with
      | zero => simp [Transcript.perform, collect?, hposts] at hnext
      | succ n =>
        simp only [Transcript.perform, collect?, hposts] at hnext
        cases hnext
        refine ih ?_ ?_ hrun
        · exact hturn.2
        · exact hlog

end Rendezvous

end GuestAudio
