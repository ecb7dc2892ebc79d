import Mpd.Fsm.Identifiers
import Mpd.Lcp.Negotiation
import Mpd.Link.Init

/-! The callbacks of LCP number nothing. The one that fails its own FSM in the middle of a
change of state is `NewState`, where the bundle refuses a link; it does so on the way to
Opened, before the state is written, so that no Terminate-Request is sent for it. -/

set_option autoImplicit false

namespace Mpd

section Callbacks

theorem keepsState_note (act : LinkAct) (w : FsmWorld Link) : KeepsState w (w.note act) :=
  keepsState_of_same rfl rfl

theorem AuthWork.keepsState {before after : FsmWorld Link} (work : AuthWork before after) :
    KeepsState before after := by
  obtain ⟨auth, randoms, trace, same⟩ := work.layer
  rw [same]
  exact keepsState_of_same rfl rfl

theorem Negotiates.keepsState {before after : FsmWorld Link} (writes : Negotiates before after) :
    KeepsState before after := by
  obtain ⟨conf, fsm⟩ := writes.fsm
  exact ⟨⟨by rw [writes.log], by rw [writes.log], by rw [fsm]⟩, by rw [fsm]⟩

theorem keepsState_lcpLayerDown (w : FsmWorld Link) : KeepsState w (lcpLayerDown w) := by
  unfold lcpLayerDown
  dsimp only
  split_ifs <;> exact keepsState_of_same rfl rfl

theorem keepsState_lcpLayerStart (w : FsmWorld Link) : KeepsState w (lcpLayerStart w) := by
  unfold lcpLayerStart
  split_ifs <;> exact keepsState_of_same rfl rfl

theorem keepsState_lcpLayerFinish (w : FsmWorld Link) : KeepsState w (lcpLayerFinish w) := by
  unfold lcpLayerFinish
  dsimp only
  split_ifs <;> exact keepsState_of_same rfl rfl

theorem keepsState_lcpRecvIdent (bp : Bytes) (w : FsmWorld Link) :
    KeepsState w (lcpRecvIdent bp w) := by
  unfold lcpRecvIdent
  split_ifs <;> exact keepsState_of_same rfl rfl

theorem keepsState_lcpRecvProtoRej (proto : UInt16) (bp : Bytes) (w : FsmWorld Link) :
    KeepsState w (lcpRecvProtoRej proto bp w).2 := by
  unfold lcpRecvProtoRej
  dsimp only
  split_ifs <;> exact keepsState_of_same rfl rfl

theorem keepsState_lcpLeavePhase (old new : LcpPhase) (w : FsmWorld Link) :
    KeepsState w (lcpLeavePhase old new w) := by
  unfold lcpLeavePhase
  split
  · split_ifs <;> exact keepsState_of_same rfl rfl
  · split_ifs <;> exact keepsState_of_same rfl rfl
  · exact .refl w

theorem keepsState_lcpAnnounce (T : FsmType Link) (w : FsmWorld Link) :
    KeepsState w (lcpAnnounce T w) := by
  unfold lcpAnnounce
  cases w.layer.conf.ident with
  | none =>
      dsimp only
      split_ifs
      · exact keepsState_fsmSendInformation _ (by simp) (by simp) _ w
      · exact .refl w
  | some ident =>
      have named : KeepsState w (fsmSendIdent T ident w) :=
        keepsState_fsmSendInformation _ (by simp) (by simp) _ w
      dsimp only
      split_ifs
      · exact named.trans (keepsState_fsmSendInformation _ (by simp) (by simp) _ _)
      · exact named

end Callbacks

/-- The states in which a failure of the FSM sends nothing that is numbered. -/
def FsmState.unacknowledged : FsmState → Bool
  | .reqSent | .ackRcvd | .ackSent => true
  | _ => false

theorem unacknowledged_of_authenticate {old new : FsmState}
    (shift : lcpPhaseShift old new = .enter .authenticate) : old.unacknowledged = true := by
  cases old <;> cases new <;> simp_all [lcpPhaseShift, FsmState.unacknowledged]

theorem lcpPhaseShift_ne_network {old new : FsmState} :
    lcpPhaseShift old new ≠ .enter .network := by
  cases old <;> cases new <;> simp [lcpPhaseShift]

section NewState

variable {newState : FsmState → FsmState → FsmWorld Link → FsmWorld Link}
  (entered : ∀ new w, KeepsNumber w (newState w.fsm.state new w))
include entered

/-- As soon as the `NewState` handler numbers nothing, LCP does not. -/
theorem lcpTypeWith_numbersNothing : NumbersNothing (lcpTypeWith newState) where
  newState := entered
  layerUp w := .refl w
  layerDown w := (keepsState_lcpLayerDown w).identifiers
  layerStart w := (keepsState_lcpLayerStart w).identifiers
  layerFinish w := (keepsState_lcpLayerFinish w).identifiers
  buildConfigReq w := .refl w
  decodeConfig options mode w := (lcpDecodeConfig_negotiates options mode w).keepsState
  configure w := (lcpConfigure_negotiates w).keepsState.identifiers
  unConfigure w := .refl w
  sendTerminateReq w := .refl w
  sendTerminateAck w := .refl w
  recvCodeRej _ absent := nomatch absent
  recvProtoRej := by
    intro handler found proto bp w
    cases found
    exact (keepsState_lcpRecvProtoRej proto bp w).identifiers
  failure _ w := .refl w
  recvResetReq _ _ w := .refl w
  recvResetAck _ _ w := .refl w
  recvIdent bp w := (keepsState_lcpRecvIdent bp w).identifiers
  recvDiscReq _ w := .refl w
  recvTimeRemain _ w := .refl w
  recvVendor _ w := .refl w

theorem keepsNumber_fsmNewState_lcp (new : FsmState) (w : FsmWorld Link) :
    KeepsNumber w (fsmNewState (lcpTypeWith newState) new w) :=
  (entered new w).trans ⟨rfl, rfl, rfl⟩

/-- A failure before the request is acknowledged ends in Stopped and uses no identifier. -/
theorem keepsNumber_fsmFailure_lcp (reason : FsmFail) {w : FsmWorld Link}
    (early : w.fsm.state.unacknowledged = true) :
    KeepsNumber w (fsmFailure (lcpTypeWith newState) reason w) := by
  have stopped := keepsNumber_fsmNewState_lcp entered .stopped w
  have finished (w : FsmWorld Link) :
      KeepsNumber w (fsmLayerFinishActive (lcpTypeWith newState) w) := by
    unfold fsmLayerFinishActive
    split_ifs
    · exact .refl w
    · exact ((keepsState_call .finish w).trans (keepsState_lcpLayerFinish _)).toKeepsNumber
  have ended : KeepsNumber w (fsmUnConfigure (lcpTypeWith newState)
      (fsmLayerFinishActive (lcpTypeWith newState)
        (fsmNewState (lcpTypeWith newState) .stopped w))) :=
    (stopped.trans (finished _)).trans (keepsState_call .unConfigure _).toKeepsNumber
  change KeepsNumber w (fsmShutDown (lcpTypeWith newState) w)
  unfold fsmShutDown
  cases state : w.fsm.state with
  | reqSent | ackRcvd | ackSent => exact ended
  | _ => simp [state, FsmState.unacknowledged] at early

theorem keepsNumber_lcpEnterNetwork {w : FsmWorld Link}
    (early : w.fsm.state.unacknowledged = true) :
    KeepsNumber w (lcpEnterNetwork (lcpTypeWith newState) w) := by
  have announced := keepsState_lcpAnnounce (lcpTypeWith newState) w
  have joined : KeepsState w (bundJoin (lcpAnnounce (lcpTypeWith newState) w)) :=
    announced.trans (keepsState_of_same rfl rfl)
  unfold lcpEnterNetwork
  dsimp only
  split_ifs
  · exact joined.toKeepsNumber
  · exact joined.toKeepsNumber.trans
      (keepsNumber_fsmFailure_lcp entered _ (by rw [joined.state]; exact early))

/-- Only the phases AUTHENTICATE and NETWORK do more than to write to the link. -/
theorem keepsNumber_lcpEnterPhase {authenticate : FsmWorld Link → FsmWorld Link} {new : LcpPhase}
    {w : FsmWorld Link} (starts : new = .authenticate → ∀ w', KeepsState w w' →
      KeepsNumber w (authenticate w'))
    (early : new = .network → w.fsm.state.unacknowledged = true) :
    KeepsNumber w (lcpEnterPhase (lcpTypeWith newState) authenticate new w) := by
  have checked : KeepsState w (if w.layer.lcp.phase.mayEnter new then w
      else w.note (.abort .lcpNewPhase)) := by
    split_ifs
    · exact .refl w
    · exact keepsState_note _ w
  unfold lcpEnterPhase
  dsimp only
  generalize (if w.layer.lcp.phase.mayEnter new then w
    else w.note (.abort .lcpNewPhase)) = w' at checked
  have written : KeepsState w (w'.setLcp { w'.layer.lcp with phase := new }) :=
    checked.trans (keepsState_of_same rfl rfl)
  have left := written.trans (keepsState_lcpLeavePhase w.layer.lcp.phase new _)
  cases new with
  | authenticate =>
      dsimp only
      split_ifs
      · exact starts rfl _ left
      · exact starts rfl _ (left.trans (keepsState_note _ _))
  | network =>
      exact left.toKeepsNumber.trans
        (keepsNumber_lcpEnterNetwork entered (by rw [left.state]; exact early rfl))
  | dead | establish | terminate => exact left.toKeepsNumber

theorem keepsNumber_authStart {w : FsmWorld Link}
    (early : w.fsm.state.unacknowledged = true) :
    KeepsNumber w (authStart (lcpTypeWith newState) w) := by
  have negotiated : KeepsState w (authNegotiated w) := keepsState_of_same rfl rfl
  unfold authStart
  dsimp only
  split_ifs
  · refine negotiated.toKeepsNumber.trans ?_
    rw [lcpAuthResult, if_pos rfl]
    split_ifs
    · exact keepsNumber_lcpEnterPhase entered nofun fun _ => early
    · exact .refl _
  · exact negotiated.toKeepsNumber.trans (AuthWork.authStartBoth _).keepsState.toKeepsNumber

theorem keepsNumber_lcpNewState (new : FsmState) (w : FsmWorld Link) :
    KeepsNumber w (lcpNewState (lcpTypeWith newState) w.fsm.state new w) := by
  unfold lcpNewState
  dsimp only
  refine KeepsNumber.trans ?_ (keepsState_note _ _).toKeepsNumber
  split
  · exact .refl w
  · rename_i phase shift
    refine keepsNumber_lcpEnterPhase entered ?_ ?_
    · rintro rfl w' kept
      refine kept.toKeepsNumber.trans (keepsNumber_authStart entered ?_)
      rw [kept.state]
      exact unacknowledged_of_authenticate shift
    · rintro rfl
      exact absurd shift lcpPhaseShift_ne_network
  · exact (keepsState_note _ w).toKeepsNumber

end NewState

instance lcpType_numbersNothing (depth : Nat) : NumbersNothing (lcpType depth) := by
  refine lcpTypeWith_numbersNothing ?_
  induction depth with
  | zero => exact fun _ w => (keepsState_note .overflow w).toKeepsNumber
  | succ depth inner => exact keepsNumber_lcpNewState inner

/-- LCP in Req-Sent has sent the Configure-Request before its request identifier. -/
theorem identifiers_reqSent :
    lastConfigReq (fsmRun (lcpType 1) (lcpInit .bare).layer [.open, .up]).log =
      some ((fsmRun (lcpType 1) (lcpInit .bare).layer [.open, .up]).fsm.reqid - 1) := by
  refine (identifiers_of_respectsNumbering (lcpType 1) (lcpInit .bare).layer [.open, .up] ?_).1 _ []
    (List.append_nil _).symm (by decide +kernel)
  refine ⟨⟨?_, ?_⟩, ⟨?_, ?_⟩, trivial⟩
  · exact fun id ⟨_, _, _, received, _⟩ => nomatch received
  · exact fun bp sent => nomatch sent
  · exact fun id ⟨_, _, _, received, _⟩ => nomatch received
  · exact fun bp sent => nomatch sent

end Mpd
