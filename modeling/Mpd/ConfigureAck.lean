import Mpd.Ipcp.Request
import Mpd.Lcp.Recorded

/-! The Configure-Acks of LCP and IPCP against the requests that they answer. -/

set_option autoImplicit false

namespace Mpd

/-- Every Configure-Ack with which the FSM answers the request repeats its payload. -/
def AckRepeats {Layer : Type} (T : FsmType Layer) (id : UInt8) (bp : Bytes)
    (w : FsmWorld Layer) : Prop :=
  ∀ id' payload, FsmAct.output .configAck id' payload ∈ newActs w (fsmRecvConfigReq T id bp w) →
    payload = bp

/-- The extractor leaves nothing of the payload, and all of it fits into a buffer. -/
def fullyExtracted (bp : Bytes) : Prop :=
  (fsmExtractOptions fsmMaxOpts bp).2 = [] ∧ bp.length ≤ fsmBufferSize

/-- Both protocols repeat the request exactly when they do not acknowledge every option
that they find in it, or find all of it and have room for it. -/
theorem ackRepeats_iff (depth : Nat) (id : UInt8) (bp : Bytes) (link : FsmWorld Link)
    (bund : FsmWorld Bund) :
    (AckRepeats (lcpType depth) id bp link ↔
      (link.fsm.state.answersConfigReq = true →
        lcpAnswers.acksAll bp (configReqStart (lcpType depth) link) → fullyExtracted bp)) ∧
    (AckRepeats (ipcpType depth) id bp bund ↔
      (bund.fsm.state.answersConfigReq = true →
        ipcpAnswers.acksAll bp (configReqStart (ipcpType depth) bund) → fullyExtracted bp)) := by
  constructor
  · exact configAck_repeats_iff (T := lcpType depth) lcpAnswers (lcpFrame_silent.lcpType depth)
      id bp link
  · exact configAck_repeats_iff (T := ipcpType depth) ipcpAnswers (ipcpType_silent depth) id bp
      bund

/-- A byte after the last option is not in the Ack. -/
theorem not_ackRepeats_trailing :
    ¬ ∀ (depth : Nat) (id : UInt8) (bp : Bytes) (w : FsmWorld Link),
      AckRepeats (lcpType depth) id bp w := by
  intro repeats
  have sent := repeats 2 7 [1] (lcpAfterRequest []) 7 [] (by decide)
  exact absurd sent (by decide)

end Mpd
