import Mpd.Fsm.Acknowledgement
import Mpd.Auth.Work
import Mpd.Lcp.Phase
import Mpd.Lcp.Request

/-! Relations that only the negotiation of LCP can break: the phases of the link, its
authentication and its bundle leave the options alone, however deep they re-enter. -/

set_option autoImplicit false

namespace Mpd

/-- The state of LCP without what the phases of the link write to. -/
def LcpState.options (lcp : LcpState) : LcpState :=
  { lcp with phase := .dead, need_reset := false, peer_ident := [] }

structure Link.SameOptions (before after : Link) : Prop where
  env : after.env = before.env
  type : after.type = before.type
  originate : after.originate = before.originate
  conf : after.conf = before.conf
  self_discrim : after.self_discrim = before.self_discrim
  lcp : after.lcp.options = before.lcp.options

/-- A relation that changes of an FSM and of a link outside the options respect, and that
the two handlers respect that work on the options. -/
structure LcpFrame (R : FsmWorld Link → FsmWorld Link → Prop) : Prop where
  refl : ∀ w, R w w
  trans : ∀ {first second third}, R first second → R second third → R first third
  counters : ∀ w fsm, R w { w with fsm }
  emit : ∀ act w, act.Quiet → R w (w.emit act)
  layer : ∀ w l, w.layer.SameOptions l → R w { w with layer := l }
  configure : ∀ w, R w (lcpConfigure w)
  decodeConfig : ∀ options mode w, mode ≠ .req → R w (lcpDecodeConfig options mode w)

/-- Where the states are not tracked there is nothing more to know of a call. -/
theorem within_of_untracked {Layer : Type} {R : FsmWorld Layer → FsmWorld Layer → Prop}
    {before after : FsmWorld Layer} (related : R before after) : Within False R before after :=
  ⟨related, False.elim⟩

namespace LcpFrame

variable {R : FsmWorld Link → FsmWorld Link → Prop}

theorem note (h : LcpFrame R) (act : LinkAct) (w : FsmWorld Link) : R w (w.note act) :=
  h.layer w _ ⟨rfl, rfl, rfl, rfl, rfl, rfl⟩

theorem setAuth (h : LcpFrame R) (auth : Auth) (w : FsmWorld Link) : R w (w.setAuth auth) :=
  h.layer w _ ⟨rfl, rfl, rfl, rfl, rfl, rfl⟩

theorem setLcp (h : LcpFrame R) (lcp : LcpState) (w : FsmWorld Link)
    (same : lcp.options = w.layer.lcp.options) : R w (w.setLcp lcp) :=
  h.layer w _ ⟨rfl, rfl, rfl, rfl, rfl, same⟩

theorem authWork (h : LcpFrame R) {before after : FsmWorld Link} (work : AuthWork before after) :
    R before after := by
  obtain ⟨auth, randoms, trace, same⟩ := work.layer
  rw [same]
  exact h.layer before _ ⟨rfl, rfl, rfl, rfl, rfl, rfl⟩

theorem authStop (h : LcpFrame R) (w : FsmWorld Link) : R w (authStop w) := h.setAuth _ w

theorem bundLeave (h : LcpFrame R) (w : FsmWorld Link) : R w (bundLeave w) :=
  h.layer w _ ⟨rfl, rfl, rfl, rfl, rfl, rfl⟩

theorem bundJoin (h : LcpFrame R) (w : FsmWorld Link) : R w (bundJoin w) :=
  h.layer w _ ⟨rfl, rfl, rfl, rfl, rfl, rfl⟩

theorem lcpLeavePhase (h : LcpFrame R) (old new : LcpPhase) (w : FsmWorld Link) :
    R w (lcpLeavePhase old new w) := by
  unfold Mpd.lcpLeavePhase
  split
  · split_ifs
    · exact h.authWork (.authCleanup w)
    · exact h.refl w
  · split_ifs
    · exact h.trans (h.bundLeave w) (h.authWork (.authCleanup _))
    · exact h.authWork (.authCleanup w)
  · exact h.refl w

theorem lcpLayerDown (h : LcpFrame R) (w : FsmWorld Link) : R w (lcpLayerDown w) := by
  unfold Mpd.lcpLayerDown
  dsimp only
  split_ifs
  · exact h.trans (h.authStop w) (h.setLcp _ _ rfl)
  · exact h.authStop w

theorem lcpLayerStart (h : LcpFrame R) (w : FsmWorld Link) : R w (lcpLayerStart w) := by
  unfold Mpd.lcpLayerStart
  split_ifs
  · exact h.refl w
  · exact h.note _ w

theorem lcpLayerFinish (h : LcpFrame R) (w : FsmWorld Link) : R w (lcpLayerFinish w) := by
  unfold Mpd.lcpLayerFinish
  dsimp only
  split_ifs
  · exact h.authStop w
  · exact h.trans (h.authStop w) (h.note _ _)

theorem lcpRecvIdent (h : LcpFrame R) (bp : Bytes) (w : FsmWorld Link) :
    R w (lcpRecvIdent bp w) := by
  unfold Mpd.lcpRecvIdent
  split_ifs
  · exact h.refl w
  · exact h.setLcp _ w rfl

theorem lcpRecvProtoRej (h : LcpFrame R) (proto : UInt16) (bp : Bytes) (w : FsmWorld Link) :
    R w (lcpRecvProtoRej proto bp w).2 := by
  unfold Mpd.lcpRecvProtoRej
  dsimp only
  split_ifs
  · exact h.note _ w
  · exact h.refl w

/-- LCP respects the relation as soon as its `NewState` handler does. -/
theorem lcpTypeWith (h : LcpFrame R)
    {newState : FsmState → FsmState → FsmWorld Link → FsmWorld Link}
    (entered : ∀ old new w, R w (newState old new w)) :
    Respects (lcpTypeWith newState) False (fun _ => True) R where
  refl := h.refl
  trans := h.trans
  counters w fsm _ := h.counters w fsm
  emit := h.emit
  newState new w _ _ := h.trans (entered w.fsm.state new w) (h.counters _ _)
  opened w _ _ := h.trans (entered w.fsm.state .opened w) (h.counters _ _)
  layerUp := h.refl
  layerDown w := within_of_untracked (h.lcpLayerDown w)
  layerStart w := within_of_untracked (h.lcpLayerStart w)
  layerFinish w := within_of_untracked (h.lcpLayerFinish w)
  buildConfigReq w := within_of_untracked (h.refl w)
  decodeConfig options mode w other := within_of_untracked (h.decodeConfig options mode w other)
  configure w := within_of_untracked (h.configure w)
  unConfigure w := within_of_untracked (h.refl w)
  sendTerminateReq w := within_of_untracked (h.refl w)
  sendTerminateAck w := within_of_untracked (h.refl w)
  failure _ w := within_of_untracked (h.refl w)

section Reentrant

variable {T : FsmType Link} (h : LcpFrame R) (inner : Respects T False (fun _ => True) R)
include h inner

theorem sendIdent (w : FsmWorld Link) :
    R w (match w.layer.conf.ident with
      | some ident => fsmSendIdent T ident w
      | none => w) := by
  split
  · exact inner.fsmSendInformation (by simp) _ w
  · exact h.refl w

theorem lcpAnnounce (w : FsmWorld Link) : R w (lcpAnnounce T w) := by
  have named := sendIdent h inner w
  unfold Mpd.lcpAnnounce
  dsimp only
  split_ifs
  · exact h.trans named (inner.fsmSendInformation (by simp) _ _)
  · exact named

theorem lcpEnterNetwork (w : FsmWorld Link) : R w (lcpEnterNetwork T w) := by
  have joined := h.trans (lcpAnnounce h inner w) (h.bundJoin _)
  unfold Mpd.lcpEnterNetwork
  dsimp only
  split_ifs
  · exact joined
  · exact h.trans joined (inner.fsmFailure _ _)

theorem lcpEnterPhase {authenticate : FsmWorld Link → FsmWorld Link}
    (starts : ∀ w, R w (authenticate w)) (new : LcpPhase) (w : FsmWorld Link) :
    R w (lcpEnterPhase T authenticate new w) := by
  have checked : R w (if w.layer.lcp.phase.mayEnter new then w
      else w.note (.abort .lcpNewPhase)) := by
    split_ifs
    · exact h.refl w
    · exact h.note _ w
  unfold Mpd.lcpEnterPhase
  dsimp only
  generalize (if w.layer.lcp.phase.mayEnter new then w
    else w.note (.abort .lcpNewPhase)) = w' at checked
  have left := h.trans (h.trans checked (h.setLcp { w'.layer.lcp with phase := new } w' rfl))
    (h.lcpLeavePhase w.layer.lcp.phase new _)
  split
  · split_ifs
    · exact h.trans left (starts _)
    · exact h.trans (h.trans left (h.note _ _)) (starts _)
  · exact h.trans left (lcpEnterNetwork h inner _)
  · exact left

theorem lcpAuthResult (success : Bool) (w : FsmWorld Link) : R w (lcpAuthResult T success w) := by
  unfold Mpd.lcpAuthResult
  split_ifs
  · exact lcpEnterPhase h inner h.refl .network w
  · exact h.refl w
  · exact inner.fsmFailure _ w

theorem authStart (w : FsmWorld Link) : R w (authStart T w) := by
  have negotiated : R w (authNegotiated w) := h.setAuth _ w
  unfold Mpd.authStart
  dsimp only
  split_ifs
  · exact h.trans negotiated (lcpAuthResult h inner true _)
  · exact h.trans negotiated (h.authWork (.authStartBoth _))

theorem lcpNewState (old new : FsmState) (w : FsmWorld Link) : R w (lcpNewState T old new w) := by
  unfold Mpd.lcpNewState
  dsimp only
  split
  · exact h.note _ w
  · exact h.trans (lcpEnterPhase h inner (authStart h inner) _ w) (h.note _ _)
  · exact h.trans (h.note _ w) (h.note _ _)

end Reentrant

/-- LCP respects the relation however deep its phases re-enter the FSM. -/
theorem lcpType (h : LcpFrame R) (depth : Nat) :
    Respects (lcpType depth) False (fun _ => True) R := by
  induction depth with
  | zero => exact h.lcpTypeWith fun _ _ w => h.note .overflow w
  | succ depth inner => exact h.lcpTypeWith (lcpNewState h inner)

/-- So does the whole of LCP, where decoding a request does. -/
theorem lcpTypeAll (h : LcpFrame R)
    (acknowledge : ∀ id payload w, R w (w.emit (.output .configAck id payload)))
    (buffers : ∀ (w : FsmWorld Link) (ack nak rej : Bytes), R w { w with ack, nak, rej })
    (decodeRequest : ∀ options w, R w (lcpDecodeConfig options .req w)) (depth : Nat) :
    RespectsAll (Mpd.lcpType depth) False (fun _ => True) R where
  toRespects := h.lcpType depth
  acknowledge
  buffers
  decodeRequest options w := within_of_untracked (decodeRequest options w)
  recvCodeRej := nofun
  recvProtoRej := by
    intro handler found proto bp w
    cases found
    exact within_of_untracked (h.lcpRecvProtoRej proto bp w)
  recvResetReq _ _ w := within_of_untracked (h.refl w)
  recvResetAck _ _ w := within_of_untracked (h.refl w)
  recvIdent bp w := within_of_untracked (h.lcpRecvIdent bp w)
  recvDiscReq _ w := within_of_untracked (h.refl w)
  recvTimeRemain _ w := within_of_untracked (h.refl w)
  recvVendor _ w := within_of_untracked (h.refl w)

end LcpFrame

end Mpd
