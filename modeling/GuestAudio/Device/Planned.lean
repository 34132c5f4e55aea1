import GuestAudio.Block.Filler
import GuestAudio.Device.Output

set_option autoImplicit false

/-! # A host with planned answers

A host without a device. Its answers to requests are planned: the request is granted, perhaps with
some of its fields changed, or an error is returned. It keeps count of the requests and of the
sessions that ended. Its stream is a block filler, from which blocks are pulled by hand. -/

namespace GuestAudio

/-- A planned answer. -/
inductive PlannedAnswer
  | refuse (cause : OutputError)
  /-- Grant the request with these fields in place of its own. -/
  | grant (sampleRate : Option UInt32) (layout : Option WireLayout) (channels : Option UInt16)
      (frames : Option UInt32) (driver : String)
deriving Repr, DecidableEq

/-- The answers to come, and what was asked so far. -/
structure PlannedHost where
  /-- The answers to come. Once they are used up, each request is granted as it is. -/
  plan : List PlannedAnswer := []
  /-- All requests, the last one first. -/
  requests : List OutputRequest := []
  /-- Sessions that ended. -/
  released : Nat := 0
deriving Repr, DecidableEq

namespace PlannedHost

/-- The name of the driver of a request that is granted as it is. -/
def defaultDriver : String := "fake"

/-- Take the next answer and record the request. -/
def acquire (h : PlannedHost) (r : OutputRequest) :
    Logged (Except OutputError (Session BlockFiller)) × PlannedHost :=
  let answer := h.plan.headD (.grant none none none none defaultDriver)
  let h := { h with plan := h.plan.tail, requests := r :: h.requests }
  match answer with
  | .refuse cause => (pure (.error cause), h)
  | .grant sampleRate layout channels frames driver =>
      let format := OutputFormat.ofRequest {
        sampleRate := sampleRate.getD r.sampleRate
        layout := layout.getD r.layout
        channels := channels.getD r.channels
        frames := frames.getD r.frames }
      (pure (.ok { format, driver, stream := BlockFiller.ofFormat format }), h)

/-- Count the session. -/
def release (h : PlannedHost) (_ : Session BlockFiller) : PlannedHost :=
  { h with released := h.released + 1 }

/-- The host's operations. -/
def host : OutputHost PlannedHost BlockFiller where
  acquire := acquire
  release := release

end PlannedHost

end GuestAudio
