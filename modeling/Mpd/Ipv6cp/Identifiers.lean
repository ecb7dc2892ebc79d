import Mpd.Fsm.Identifiers
import Mpd.Ipv6cp.Layer

/-! The callbacks of IPV6CP number nothing, as those of IPCP. -/

set_option autoImplicit false

namespace Mpd.Ipv6cp

theorem keepsState_ipv6cpDecodeOption (mode : FsmMode) (opt : FsmOption) (w : FsmWorld Ipv6Bund) :
    KeepsState w (ipv6cpDecodeOption mode opt w) := by
  have stored (layer : Ipv6Bund) : KeepsState w { w with layer } := keepsState_of_same rfl rfl
  unfold ipv6cpDecodeOption decodeIntident
  split
  · split_ifs
    · exact keepsState_fsmRej opt w
    · exact .refl w
  · cases mode with
    | req =>
        dsimp only
        split_ifs
        · exact (stored _).trans (keepsState_fsmNak _ _)
        · exact (stored _).trans (keepsState_fsmNak _ _)
        · exact (stored _).trans (keepsState_fsmAck opt _)
    | nak | rej => exact stored _
    | nop => exact .refl w

/-- IPV6CP numbers nothing as soon as its layer handlers do not. -/
theorem ipv6cpTypeWith_numbersNothing
    {layerUp layerDown : FsmWorld Ipv6Bund → FsmWorld Ipv6Bund}
    (up : ∀ w, Mpd.KeepsIdentifiers w (layerUp w))
    (down : ∀ w, Mpd.KeepsIdentifiers w (layerDown w)) :
    NumbersNothing (ipv6cpTypeWith layerUp layerDown) where
  newState _ w := .refl w
  layerUp := up
  layerDown := down
  layerStart _ := keepsIdentifiers_of_same rfl rfl
  layerFinish w := by
    change Mpd.KeepsIdentifiers w (bundNcpsFinish w)
    unfold bundNcpsFinish
    dsimp only
    split_ifs <;> exact keepsIdentifiers_of_same rfl rfl
  buildConfigReq w := .refl w
  decodeConfig options mode w := keepsState_foldl (keepsState_ipv6cpDecodeOption mode) options w
  configure _ := keepsIdentifiers_of_same rfl rfl
  unConfigure w := .refl w
  sendTerminateReq w := .refl w
  sendTerminateAck w := .refl w
  recvCodeRej _ absent := nomatch absent
  recvProtoRej _ absent := nomatch absent
  failure _ w := .refl w
  recvResetReq _ _ w := .refl w
  recvResetAck _ _ w := .refl w
  recvIdent _ w := .refl w
  recvDiscReq _ w := .refl w
  recvTimeRemain _ w := .refl w
  recvVendor _ w := .refl w

theorem ifaceFrame_identifiers : IfaceFrame Mpd.KeepsIdentifiers where
  refl := .refl
  trans := .trans
  setIface _ _ := keepsIdentifiers_of_same rfl rfl
  configured _ _ := keepsIdentifiers_of_same rfl rfl
  enabled _ _ := keepsIdentifiers_of_same rfl rfl

instance ipv6cpType_numbersNothing (depth : Nat) : NumbersNothing (ipv6cpType depth) := by
  have layers := ifaceFrame_identifiers.ipv6cpLayerWithin
    (fun _ => keepsIdentifiers_of_same rfl rfl)
    (fun up down reason w =>
      have inner := ipv6cpTypeWith_numbersNothing up down
      keeps_fsmFailure _ w reason) depth
  exact ipv6cpTypeWith_numbersNothing (layers true) (layers false)

end Mpd.Ipv6cp
