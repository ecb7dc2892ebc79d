import Mpd.Fsm.Acknowledgement
import Mpd.Ipcp.Layer

/-! How IPCP answers a Configure-Request, and what its handlers leave alone. -/

set_option autoImplicit false

namespace Mpd

def ipcpAcksSupported (b : Bund) (opt : FsmOption) : IpcpOpt → Bool
  | .ipaddr => ipcpTakesAddr b (ipcpOptAddr opt)
  | .compproto =>
      (b.ipcp.conf.options.acceptable ipcpConfVjcomp || b.params.vjc_enable) &&
        ((ipcpOptVjcomp opt).proto == protoVjcomp && (ipcpOptVjcomp opt).handles)
  | .primarydns | .primarynbns | .secondarydns | .secondarynbns => ipcpOptAddr opt != 0

def ipcpAcks (b : Bund) (opt : FsmOption) : Bool :=
  (opt.meaning? gIpcpConfOpts).any (ipcpAcksSupported b opt)

def ipcpRecordSupported (opt : FsmOption) (ipcp : IpcpState) : IpcpOpt → IpcpState
  | .ipaddr => { ipcp with peer_addr := ipcpOptAddr opt }
  | .compproto => { ipcp with peer_comp := ipcpOptVjcomp opt }
  | .primarydns | .primarynbns | .secondarydns | .secondarynbns => ipcp

def ipcpRecord (opt : FsmOption) (b : Bund) : Bund :=
  { b with ipcp := ((opt.meaning? gIpcpConfOpts).map (ipcpRecordSupported opt b.ipcp)).getD b.ipcp }

section Server

variable {peerip : UInt32} {learn : UInt32 → IpcpState → IpcpState} {opt : FsmOption}
  {w : FsmWorld Bund}

theorem ipcpDecodeServer_of_set (set : ipcpOptAddr opt ≠ 0) :
    ipcpDecodeServer peerip learn .req opt w = fsmAck opt w := by
  simp only [ipcpDecodeServer, set, if_false]

theorem ipcpDecodeServer_of_unset (unset : ipcpOptAddr opt = 0) :
    (∃ other, ipcpDecodeServer peerip learn .req opt w = fsmNak other w) ∨
      ∃ other, ipcpDecodeServer peerip learn .req opt w = fsmRej other w := by
  simp only [ipcpDecodeServer, unset, if_true]
  split_ifs
  · exact .inr ⟨opt, rfl⟩
  · exact .inl ⟨_, rfl⟩

end Server

section Supported

variable {opt : FsmOption} {w : FsmWorld Bund}

theorem ipcpDecodeSupported_of_acks {meaning : IpcpOpt}
    (acks : ipcpAcksSupported w.layer opt meaning = true) :
    ipcpDecodeSupported .req meaning opt w =
      fsmAck opt (w.setIpcp (ipcpRecordSupported opt w.layer.ipcp meaning)) := by
  cases meaning with
  | ipaddr =>
      have takes : ipcpTakesAddr w.layer (ipcpOptAddr opt) = true := acks
      simp only [ipcpDecodeSupported, ipcpDecodeIpaddr, takes, if_true]
      rfl
  | compproto =>
      simp only [ipcpAcksSupported, Bool.and_eq_true] at acks
      have allowed : (!w.layer.ipcp.conf.options.acceptable ipcpConfVjcomp &&
          !w.layer.params.vjc_enable) = false := by
        rw [← Bool.not_or, acks.1]
        rfl
      simp only [ipcpDecodeSupported, ipcpDecodeCompproto, allowed, acks.2.1, acks.2.2,
        Bool.false_eq_true, Bool.and_self, if_false, if_true]
      rfl
  | _ =>
      simp only [ipcpDecodeSupported]
      exact ipcpDecodeServer_of_set (by simpa [ipcpAcksSupported] using acks)

theorem ipcpDecodeSupported_of_refuses {meaning : IpcpOpt}
    (refuses : ipcpAcksSupported w.layer opt meaning = false) :
    (∃ other, ipcpDecodeSupported .req meaning opt w = fsmNak other w) ∨
      ∃ other, ipcpDecodeSupported .req meaning opt w = fsmRej other w := by
  cases meaning with
  | ipaddr =>
      have denies : ipcpTakesAddr w.layer (ipcpOptAddr opt) = false := refuses
      simp only [ipcpDecodeSupported, ipcpDecodeIpaddr, denies, Bool.false_eq_true, if_false]
      exact .inl ⟨_, rfl⟩
  | compproto =>
      simp only [ipcpDecodeSupported, ipcpDecodeCompproto]
      split_ifs with denied fits
      · exact .inr ⟨_, rfl⟩
      · have allowed : (w.layer.ipcp.conf.options.acceptable ipcpConfVjcomp ||
            w.layer.params.vjc_enable) = true := by
          rw [← Bool.not_or, Bool.not_eq_true', Bool.not_eq_false] at denied
          exact denied
        simp only [ipcpAcksSupported, allowed, fits, Bool.and_self] at refuses
        cases refuses
      · exact .inl ⟨_, rfl⟩
  | _ =>
      simp only [ipcpDecodeSupported]
      exact ipcpDecodeServer_of_unset (by simpa [ipcpAcksSupported] using refuses)

/-- The verdict on an option does not depend on the options before it. -/
theorem ipcpAcks_record (opt other : FsmOption) (b : Bund) :
    ipcpAcks (ipcpRecord opt b) other = ipcpAcks b other := by
  have conf : (ipcpRecord opt b).ipcp.conf = b.ipcp.conf ∧
      (ipcpRecord opt b).ipcp.peer_allow = b.ipcp.peer_allow := by
    unfold ipcpRecord
    cases opt.meaning? gIpcpConfOpts with
    | none => exact ⟨rfl, rfl⟩
    | some meaning => cases meaning <;> exact ⟨rfl, rfl⟩
  have supported : ipcpAcksSupported (ipcpRecord opt b) other = ipcpAcksSupported b other := by
    funext meaning
    cases meaning with
    | ipaddr => simp only [ipcpAcksSupported, ipcpTakesAddr, conf.1, conf.2]
    | compproto =>
        simp only [ipcpAcksSupported, conf.1]
        rfl
    | _ => rfl
  rw [ipcpAcks, ipcpAcks, supported]

end Supported

theorem ipcpDecodeOption_of_acks {opt : FsmOption} {w : FsmWorld Bund}
    (acks : ipcpAcks w.layer opt = true) :
    ipcpDecodeOption .req opt w = fsmAck opt { w with layer := ipcpRecord opt w.layer } := by
  unfold ipcpAcks at acks
  unfold ipcpDecodeOption ipcpRecord
  cases meaning : opt.meaning? gIpcpConfOpts with
  | none => simp [meaning] at acks
  | some supported =>
      rw [meaning, Option.any_some] at acks
      exact ipcpDecodeSupported_of_acks acks

theorem ipcpDecodeOption_of_refuses {opt : FsmOption} {w : FsmWorld Bund}
    (refuses : ipcpAcks w.layer opt = false) :
    (∃ other, ipcpDecodeOption .req opt w = fsmNak other w) ∨
      ∃ other, ipcpDecodeOption .req opt w = fsmRej other w := by
  unfold ipcpAcks at refuses
  unfold ipcpDecodeOption
  cases meaning : opt.meaning? gIpcpConfOpts with
  | none => exact .inr ⟨opt, rfl⟩
  | some supported =>
      rw [meaning, Option.any_some] at refuses
      exact ipcpDecodeSupported_of_refuses refuses

/-- IPCP answers option by option. -/
def ipcpAnswers : AnswersOptions ipcpDecodeConfig where
  start w := w
  answer := ipcpDecodeOption .req
  acks := ipcpAcks
  record := ipcpRecord
  decode _ _ := rfl
  startSilent := .refl
  acked _ _ := ipcpDecodeOption_of_acks
  refused _ _ := ipcpDecodeOption_of_refuses
  stable option l other _ := ipcpAcks_record option other l

section Silent

/-- The call wrote to nothing but the bundle. -/
def SetsBund (before after : FsmWorld Bund) : Prop := ∃ layer, after = { before with layer }

theorem SetsBund.silent {before after : FsmWorld Bund} (sets : SetsBund before after) :
    Silent before after := by
  obtain ⟨layer, rfl⟩ := sets
  exact silent_of_same rfl rfl rfl rfl

theorem setIface_silent (iface : Iface) (w : FsmWorld Bund) : Silent w (w.setIface iface) :=
  silent_of_same rfl rfl rfl rfl

theorem ipcpUnConfigure_setsBund (w : FsmWorld Bund) : SetsBund w (ipcpUnConfigure w) := by
  unfold ipcpUnConfigure
  dsimp only
  split_ifs <;> exact ⟨_, rfl⟩

theorem bundNcpsFinish_setsBund (w : FsmWorld Bund) : SetsBund w (bundNcpsFinish w) := by
  unfold bundNcpsFinish
  dsimp only
  split_ifs <;> exact ⟨_, rfl⟩

theorem ipcpDecodeSupported_setsBund {mode : FsmMode} (answer : mode ≠ .req) (meaning : IpcpOpt)
    (opt : FsmOption) (w : FsmWorld Bund) :
    SetsBund w (ipcpDecodeSupported mode meaning opt w) := by
  cases mode with
  | req => exact absurd rfl answer
  | nop => cases meaning <;> exact ⟨w.layer, rfl⟩
  | rej => cases meaning <;> exact ⟨_, rfl⟩
  | nak =>
      cases meaning with
      | ipaddr =>
          simp only [ipcpDecodeSupported, ipcpDecodeIpaddr]
          split_ifs
          · exact ⟨_, rfl⟩
          · exact ⟨w.layer, rfl⟩
      | compproto =>
          simp only [ipcpDecodeSupported, ipcpDecodeCompproto]
          split_ifs
          · exact ⟨_, rfl⟩
          · exact ⟨w.layer, rfl⟩
      | _ => exact ⟨_, rfl⟩

theorem ipcpDecodeConfig_setsBund (options : List FsmOption) {mode : FsmMode}
    (answer : mode ≠ .req) (w : FsmWorld Bund) : SetsBund w (ipcpDecodeConfig options mode w) := by
  have one (opt : FsmOption) (w : FsmWorld Bund) : SetsBund w (ipcpDecodeOption mode opt w) := by
    unfold ipcpDecodeOption
    split
    · rw [if_neg answer]
      exact ⟨w.layer, rfl⟩
    · exact ipcpDecodeSupported_setsBund answer _ opt w
  unfold ipcpDecodeConfig
  induction options generalizing w with
  | nil => exact ⟨w.layer, rfl⟩
  | cons opt options ih =>
      obtain ⟨_, first⟩ := one opt w
      obtain ⟨layer, rest⟩ := ih (ipcpDecodeOption mode opt w)
      exact ⟨layer, by rw [List.foldl_cons, rest, first]⟩

/-- IPCP sends no Configure-Ack of its own as soon as its layer handlers do not. -/
theorem ipcpTypeWith_silent {layerUp layerDown : FsmWorld Bund → FsmWorld Bund}
    (up : ∀ w, Silent w (layerUp w)) (down : ∀ w, Silent w (layerDown w)) :
    Respects (ipcpTypeWith layerUp layerDown) False (fun _ => True) Silent where
  refl := .refl
  trans := .trans
  counters _ _ _ := silent_of_same rfl rfl rfl rfl
  emit _ w quiet := silent_emit quiet w
  newState _ _ _ _ := silent_of_same rfl rfl rfl rfl
  opened _ _ _ := silent_of_same rfl rfl rfl rfl
  layerUp := up
  layerDown w := ⟨down w, False.elim⟩
  layerStart _ := ⟨silent_of_same rfl rfl rfl rfl, False.elim⟩
  layerFinish w := ⟨(bundNcpsFinish_setsBund w).silent, False.elim⟩
  buildConfigReq w := ⟨.refl w, False.elim⟩
  decodeConfig options _ w answer :=
    ⟨(ipcpDecodeConfig_setsBund options answer w).silent, False.elim⟩
  configure _ := ⟨silent_of_same rfl rfl rfl rfl, False.elim⟩
  unConfigure w := ⟨(ipcpUnConfigure_setsBund w).silent, False.elim⟩
  sendTerminateReq w := ⟨.refl w, False.elim⟩
  sendTerminateAck w := ⟨.refl w, False.elim⟩
  failure _ w := ⟨.refl w, False.elim⟩

theorem ifaceFrame_silent : IfaceFrame Silent where
  refl := .refl
  trans := .trans
  setIface := setIface_silent
  configured _ _ := silent_of_same rfl rfl rfl rfl

/-- IPCP sends no Configure-Ack of its own, however deep its layer handlers re-enter. -/
theorem ipcpType_silent (depth : Nat) :
    Respects (ipcpType depth) False (fun _ => True) Silent := by
  have layers := ifaceFrame_silent.ipcpLayerWithin (fun _ => silent_of_same rfl rfl rfl rfl)
    (fun _ => silent_of_same rfl rfl rfl rfl)
    (fun up down => (ipcpTypeWith_silent up down).fsmFailure) depth
  exact ipcpTypeWith_silent (layers true) (layers false)

end Silent

end Mpd
