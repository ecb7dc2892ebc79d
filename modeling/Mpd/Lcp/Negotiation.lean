import Mpd.Lcp.Frame

/-! What the decoding of options writes to. -/

set_option autoImplicit false

namespace Mpd

structure LcpState.SameAuth (before after : LcpState) : Prop where
  want_auth : after.want_auth = before.want_auth
  want_alg : after.want_alg = before.want_alg
  want_protos : after.want_protos = before.want_protos
  peer_auth : after.peer_auth = before.peer_auth
  peer_alg : after.peer_alg = before.peer_alg
  peer_protos : after.peer_protos = before.peer_protos

theorem LcpState.SameAuth.refl (lcp : LcpState) : lcp.SameAuth lcp :=
  ⟨rfl, rfl, rfl, rfl, rfl, rfl⟩

/-- The call wrote nothing but the state of LCP, and drew magic numbers. -/
def SetsLcp (change : LcpState → LcpState → Prop) (before after : FsmWorld Link) : Prop :=
  ∃ lcp magics, after = { before with layer := { before.layer with lcp, magics } } ∧
    change before.layer.lcp lcp

namespace SetsLcp

variable {change : LcpState → LcpState → Prop}

theorem setLcp (w : FsmWorld Link) {lcp : LcpState} (changed : change w.layer.lcp lcp) :
    SetsLcp change w (w.setLcp lcp) :=
  ⟨lcp, w.layer.magics, rfl, changed⟩

theorem refl (w : FsmWorld Link) (unchanged : change w.layer.lcp w.layer.lcp) :
    SetsLcp change w w :=
  ⟨w.layer.lcp, w.layer.magics, rfl, unchanged⟩

end SetsLcp

structure LcpState.OtherOption (before after : LcpState) : Prop
    extends LcpState.SameAuth before after where
  phase : after.phase = before.phase

theorem LcpState.OtherOption.refl (lcp : LcpState) : lcp.OtherOption lcp := ⟨.refl lcp, rfl⟩

section Supported

variable (opt : FsmOption) (w : FsmWorld Link)

theorem lcpRefuse_of_answer {mode : FsmMode} (answer : mode ≠ .req) : lcpRefuse mode opt w = w :=
  if_neg answer

/-- Outside of a request every option but the authentication leaves that alone. -/
theorem lcpDecodeSupported_setsLcp {mode : FsmMode} (answer : mode ≠ .req) {meaning : LcpOpt}
    (other : meaning ≠ .authproto) :
    SetsLcp LcpState.OtherOption w (lcpDecodeSupported mode meaning opt w) := by
  have same := SetsLcp.refl w (LcpState.OtherOption.refl w.layer.lcp)
  cases mode with
  | req => exact absurd rfl answer
  | nop =>
      cases meaning with
      | endpointdisc =>
          simp only [lcpDecodeSupported, lcpDecodeEndpointdisc, lcpRefuse_of_answer opt w answer]
          split_ifs <;> exact same
      | authproto => exact absurd rfl other
      | _ => exact same
  | rej =>
      cases meaning with
      | endpointdisc =>
          simp only [lcpDecodeSupported, lcpDecodeEndpointdisc, lcpRefuse_of_answer opt w answer]
          split_ifs
          · exact same
          · exact .setLcp w ⟨⟨rfl, rfl, rfl, rfl, rfl, rfl⟩, rfl⟩
      | authproto => exact absurd rfl other
      | _ => exact .setLcp w ⟨⟨rfl, rfl, rfl, rfl, rfl, rfl⟩, rfl⟩
  | nak =>
      cases meaning with
      | mru =>
          simp only [lcpDecodeSupported, lcpDecodeMru]
          split_ifs
          · exact .setLcp w ⟨⟨rfl, rfl, rfl, rfl, rfl, rfl⟩, rfl⟩
          · exact .setLcp w ⟨⟨rfl, rfl, rfl, rfl, rfl, rfl⟩, rfl⟩
          · exact same
      | mrru =>
          simp only [lcpDecodeSupported, lcpDecodeMrru]
          split_ifs <;> exact .setLcp w ⟨⟨rfl, rfl, rfl, rfl, rfl, rfl⟩, rfl⟩
      | shortseqnum =>
          simp only [lcpDecodeSupported, lcpDecodeShortseq]
          split_ifs
          · exact .setLcp w ⟨⟨rfl, rfl, rfl, rfl, rfl, rfl⟩, rfl⟩
          · exact .setLcp w ⟨⟨rfl, rfl, rfl, rfl, rfl, rfl⟩, rfl⟩
          · exact same
      | endpointdisc =>
          simp only [lcpDecodeSupported, lcpDecodeEndpointdisc, lcpRefuse_of_answer opt w answer]
          split_ifs
          · exact same
          · exact .setLcp w ⟨⟨rfl, rfl, rfl, rfl, rfl, rfl⟩, rfl⟩
      | magicnum => exact ⟨_, _, rfl, ⟨⟨rfl, rfl, rfl, rfl, rfl, rfl⟩, rfl⟩⟩
      | authproto => exact absurd rfl other
      | _ => exact .setLcp w ⟨⟨rfl, rfl, rfl, rfl, rfl, rfl⟩, rfl⟩

theorem lcpDecodeAuthproto_setsLcp {mode : FsmMode} (answer : mode ≠ .req) :
    SetsLcp (fun before after => after.phase = before.phase) w (lcpDecodeAuthproto mode opt w) := by
  cases mode with
  | req => exact absurd rfl answer
  | nop => exact .refl w rfl
  | rej =>
      simp only [lcpDecodeAuthproto]
      split_ifs <;> exact .setLcp w rfl
  | nak =>
      simp only [lcpDecodeAuthproto]
      split
      · exact .refl w rfl
      · rename_i authProto _
        by_cases enabled : w.layer.conf.options.enabled authProto.conf = true
        · rw [if_pos enabled]
          exact .setLcp w rfl
        · rw [if_neg enabled]
          split <;> exact .setLcp w rfl

end Supported

/-- The call wrote to the state of LCP, but not to the phase; it wrote to the option
buffers and to the configuration of the FSM. -/
structure Negotiates (before after : FsmWorld Link) : Prop where
  fsm : ∃ conf, after.fsm = { before.fsm with conf }
  layer : ∃ lcp magics, after.layer = { before.layer with lcp, magics } ∧
    lcp.phase = before.layer.lcp.phase
  log : after.log = before.log

namespace Negotiates

theorem refl (w : FsmWorld Link) : Negotiates w w :=
  ⟨⟨w.fsm.conf, rfl⟩, ⟨w.layer.lcp, w.layer.magics, rfl, rfl⟩, rfl⟩

theorem trans {first second third : FsmWorld Link} (left : Negotiates first second)
    (right : Negotiates second third) : Negotiates first third := by
  obtain ⟨⟨_, leftFsm⟩, ⟨_, _, leftLayer, leftPhase⟩, leftLog⟩ := left
  obtain ⟨⟨conf, rightFsm⟩, ⟨lcp, magics, rightLayer, rightPhase⟩, rightLog⟩ := right
  refine ⟨⟨conf, by rw [rightFsm, leftFsm]⟩, ⟨lcp, magics, by rw [rightLayer, leftLayer], ?_⟩,
    rightLog.trans leftLog⟩
  rw [rightPhase, leftLayer, leftPhase]

theorem of_setsLcp {change : LcpState → LcpState → Prop} {before after : FsmWorld Link}
    (sets : SetsLcp change before after)
    (phase : ∀ lcp lcp', change lcp lcp' → lcp'.phase = lcp.phase) : Negotiates before after := by
  obtain ⟨lcp, magics, rfl, changed⟩ := sets
  exact ⟨⟨before.fsm.conf, rfl⟩, ⟨lcp, magics, rfl, phase _ _ changed⟩, rfl⟩

theorem buffers (w : FsmWorld Link) (ack nak rej : Bytes) :
    Negotiates w { w with ack, nak, rej } :=
  ⟨⟨w.fsm.conf, rfl⟩, ⟨w.layer.lcp, w.layer.magics, rfl, rfl⟩, rfl⟩

end Negotiates

theorem lcpConfigure_negotiates (w : FsmWorld Link) : Negotiates w (lcpConfigure w) := by
  unfold lcpConfigure
  dsimp only
  split_ifs <;> exact ⟨⟨_, rfl⟩, ⟨_, _, rfl, rfl⟩, rfl⟩

theorem lcpForget_negotiates (w : FsmWorld Link) : Negotiates w (lcpForget w) := by
  unfold lcpForget
  split_ifs
  · exact lcpConfigure_negotiates w
  · exact ⟨⟨_, rfl⟩, ⟨_, w.layer.magics, rfl, rfl⟩, rfl⟩

theorem refuses_negotiates {before after : FsmWorld Link} (refuses : Refuses before after) :
    Negotiates before after := by
  rcases refuses with ⟨other, same⟩ | ⟨other, same⟩
  · rw [same, fsmNak_eq]
    exact .buffers before _ _ _
  · rw [same, fsmRej_eq]
    exact .buffers before _ _ _

theorem lcpDecodeOption_setsLcp {mode : FsmMode} (answer : mode ≠ .req) (opt : FsmOption)
    (w : FsmWorld Link) :
    SetsLcp (fun before after => after.phase = before.phase) w (lcpDecodeOption mode opt w) := by
  unfold lcpDecodeOption
  split
  · simp only [lcpRefuse, answer, if_false]
    exact .refl w rfl
  · rename_i meaning _
    by_cases other : meaning = .authproto
    · rw [other]
      exact lcpDecodeAuthproto_setsLcp opt w answer
    · obtain ⟨lcp, magics, same, changed⟩ := lcpDecodeSupported_setsLcp opt w answer other
      exact ⟨lcp, magics, same, changed.phase⟩

theorem lcpDecodeOption_negotiates (mode : FsmMode) (opt : FsmOption) (w : FsmWorld Link) :
    Negotiates w (lcpDecodeOption mode opt w) := by
  by_cases answer : mode = .req
  · subst answer
    cases verdict : lcpAcks w.layer opt with
    | true =>
        rw [lcpDecodeOption_of_acks verdict, fsmAck_eq]
        exact ⟨⟨w.fsm.conf, rfl⟩, ⟨_, w.layer.magics, rfl, rfl⟩, rfl⟩
    | false => exact refuses_negotiates (lcpDecodeOption_of_refuses verdict)
  · exact .of_setsLcp (lcpDecodeOption_setsLcp answer opt w) fun _ _ phase => phase

inductive OptionEffect (mode : FsmMode) (opt : FsmOption) (w : FsmWorld Link) : Link → Prop
  | recorded (asked : mode = .req) (acks : lcpAcks w.layer opt = true) :
      OptionEffect mode opt w (w.withPeer (lcpRecord opt w.layer.lcp.toLcpPeer)).layer
  | kept : OptionEffect mode opt w w.layer
  | auth (answer : mode ≠ .req) (means : opt.meaning? gLcpConfOpts = some .authproto) :
      OptionEffect mode opt w (lcpDecodeAuthproto mode opt w).layer
  | other (answer : mode ≠ .req) (lcp : LcpState) (magics : Nat)
      (changed : w.layer.lcp.OtherOption lcp) :
      OptionEffect mode opt w { w.layer with lcp, magics }

theorem optionEffect_lcpDecodeOption (mode : FsmMode) (opt : FsmOption) (w : FsmWorld Link) :
    OptionEffect mode opt w (lcpDecodeOption mode opt w).layer := by
  by_cases answer : mode = .req
  · subst answer
    cases verdict : lcpAcks w.layer opt with
    | true =>
        rw [lcpDecodeOption_of_acks verdict, fsmAck_eq]
        exact .recorded rfl verdict
    | false =>
        rcases lcpDecodeOption_of_refuses verdict with ⟨other, same⟩ | ⟨other, same⟩
        · rw [same, fsmNak_eq]
          exact .kept
        · rw [same, fsmRej_eq]
          exact .kept
  · unfold lcpDecodeOption
    split
    · rw [lcpRefuse_of_answer opt w answer]
      exact .kept
    · rename_i meaning means
      by_cases auth : meaning = .authproto
      · subst auth
        exact .auth answer means
      · obtain ⟨lcp, magics, same, changed⟩ := lcpDecodeSupported_setsLcp opt w answer auth
        rw [same]
        exact .other answer lcp magics changed

/-- What forgetting and decoding one option preserve, `LcpDecodeConfig` preserves. -/
theorem lcpDecodeConfig_preserves {P : FsmWorld Link → Prop} {mode : FsmMode}
    (forget : mode = .req → ∀ w, P w → P (lcpForget w))
    (decode : ∀ opt w, P w → P (lcpDecodeOption mode opt w)) (options : List FsmOption)
    {w : FsmWorld Link} (holds : P w) : P (lcpDecodeConfig options mode w) := by
  have begun : P (if mode = .req then lcpForget w else w) := by
    split_ifs with asked
    · exact forget asked w holds
    · exact holds
  unfold lcpDecodeConfig
  dsimp only
  generalize (if mode = .req then lcpForget w else w) = w' at begun
  induction options generalizing w' with
  | nil => exact begun
  | cons opt options ih => exact ih _ (decode opt w' begun)

/-- `LcpDecodeConfig` writes to nothing else, whatever it decodes. -/
theorem lcpDecodeConfig_negotiates (options : List FsmOption) (mode : FsmMode)
    (w : FsmWorld Link) : Negotiates w (lcpDecodeConfig options mode w) := by
  refine lcpDecodeConfig_preserves (P := Negotiates w) ?_ ?_ options (.refl w)
  · exact fun _ w' begun => begun.trans (lcpForget_negotiates w')
  · exact fun opt w' begun => begun.trans (lcpDecodeOption_negotiates mode opt w')

theorem lcpDecodeConfig_silent (options : List FsmOption) {mode : FsmMode} (answer : mode ≠ .req)
    (w : FsmWorld Link) : Silent w (lcpDecodeConfig options mode w) := by
  refine lcpDecodeConfig_preserves (P := Silent w) ?_ ?_ options (.refl w)
  · exact fun asked => absurd asked answer
  · intro opt w' begun
    obtain ⟨lcp, magics, same, -⟩ := lcpDecodeOption_setsLcp answer opt w'
    refine begun.trans ?_
    rw [same]
    exact silent_of_same rfl rfl rfl rfl

theorem lcpFrame_silent : LcpFrame Silent where
  refl := .refl
  trans := .trans
  counters _ _ := silent_of_same rfl rfl rfl rfl
  emit _ w quiet := silent_emit quiet w
  layer _ _ _ := silent_of_same rfl rfl rfl rfl
  configure := lcpConfigure_silent
  decodeConfig options _ w answer := lcpDecodeConfig_silent options answer w

end Mpd
