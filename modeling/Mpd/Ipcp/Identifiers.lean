import Mpd.Fsm.Identifiers
import Mpd.Ipcp.Request

/-! The callbacks of IPCP number nothing. Its layer handlers fail their own FSM where the
interface cannot be configured, which sends a Terminate-Request at most. -/

set_option autoImplicit false

namespace Mpd

theorem SetsBund.keepsState {before after : FsmWorld Bund} (sets : SetsBund before after) :
    KeepsState before after := by
  obtain ⟨layer, rfl⟩ := sets
  exact keepsState_of_same rfl rfl

theorem keepsState_ipcpDecodeSupported (mode : FsmMode) (meaning : IpcpOpt) (opt : FsmOption)
    (w : FsmWorld Bund) : KeepsState w (ipcpDecodeSupported mode meaning opt w) := by
  by_cases answer : mode ≠ .req
  · exact (ipcpDecodeSupported_setsBund answer meaning opt w).keepsState
  rw [not_not] at answer
  subst answer
  have server (peerip : UInt32) (learn : UInt32 → IpcpState → IpcpState) :
      KeepsState w (ipcpDecodeServer peerip learn .req opt w) := by
    unfold ipcpDecodeServer
    dsimp only
    split_ifs
    · exact keepsState_fsmRej opt w
    · exact keepsState_fsmNak _ w
    · exact keepsState_fsmAck opt w
  have stored (ipcp : IpcpState) : KeepsState w (w.setIpcp ipcp) := keepsState_of_same rfl rfl
  cases meaning with
  | ipaddr =>
      simp only [ipcpDecodeSupported, ipcpDecodeIpaddr]
      split_ifs
      · exact (stored _).trans (keepsState_fsmAck opt _)
      · exact keepsState_fsmNak _ w
  | compproto =>
      simp only [ipcpDecodeSupported, ipcpDecodeCompproto]
      split_ifs
      · exact keepsState_fsmRej opt w
      · exact (stored _).trans (keepsState_fsmAck opt _)
      · exact keepsState_fsmNak _ w
  | primarydns | primarynbns | secondarydns | secondarynbns =>
      unfold ipcpDecodeSupported
      apply server

theorem keepsState_ipcpDecodeOption (mode : FsmMode) (opt : FsmOption) (w : FsmWorld Bund) :
    KeepsState w (ipcpDecodeOption mode opt w) := by
  unfold ipcpDecodeOption
  split
  · split_ifs
    · exact keepsState_fsmRej opt w
    · exact .refl w
  · exact keepsState_ipcpDecodeSupported mode _ opt w

/-- IPCP numbers nothing as soon as its layer handlers do not. -/
theorem ipcpTypeWith_numbersNothing {layerUp layerDown : FsmWorld Bund → FsmWorld Bund}
    (up : ∀ w, KeepsIdentifiers w (layerUp w)) (down : ∀ w, KeepsIdentifiers w (layerDown w)) :
    NumbersNothing (ipcpTypeWith layerUp layerDown) where
  newState _ w := .refl w
  layerUp := up
  layerDown := down
  layerStart _ := keepsIdentifiers_of_same rfl rfl
  layerFinish w := (bundNcpsFinish_setsBund w).keepsState.identifiers
  buildConfigReq w := .refl w
  decodeConfig options mode w := keepsState_foldl (keepsState_ipcpDecodeOption mode) options w
  configure _ := keepsIdentifiers_of_same rfl rfl
  unConfigure w := (ipcpUnConfigure_setsBund w).keepsState.identifiers
  sendTerminateReq w := .refl w
  sendTerminateAck w := .refl w
  recvCodeRej _ absent := nomatch absent
  recvProtoRej _ absent := nomatch absent
  failure _ w := .refl w
  recvResetReq _ _ w := .refl w
  recvResetAck _ _ w := .refl w
  recvIdent _ w := .refl w
  recvDiscReq _ w := .refl w
  recvTimeRemain _ w := .refl w
  recvVendor _ w := .refl w

theorem ifaceFrame_identifiers : IfaceFrame KeepsIdentifiers where
  refl := .refl
  trans := .trans
  setIface _ _ := keepsIdentifiers_of_same rfl rfl
  configured _ _ := keepsIdentifiers_of_same rfl rfl

instance ipcpType_numbersNothing (depth : Nat) : NumbersNothing (ipcpType depth) := by
  have layers := ifaceFrame_identifiers.ipcpLayerWithin
    (fun _ => keepsIdentifiers_of_same rfl rfl) (fun _ => keepsIdentifiers_of_same rfl rfl)
    (fun up down reason w =>
      have inner := ipcpTypeWith_numbersNothing up down
      keeps_fsmFailure _ w reason) depth
  exact ipcpTypeWith_numbersNothing (layers true) (layers false)

end Mpd
