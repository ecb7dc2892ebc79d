import Mpd.Fsm.Acknowledgement
import Mpd.Lcp.Options

/-! How LCP answers a Configure-Request: the options that it acknowledges, and what
it records of them. -/

set_option autoImplicit false

namespace Mpd

/-- LCP accepts the authentication that the option asks for. -/
def lcpAcceptsAuth (options : OptInfo) (opt : FsmOption) : Bool :=
  ((authOptPos opt).bind (gLcpAuthProtos[·]?)).any fun authProto =>
    options.acceptable authProto.conf

def lcpAcksSupported (l : Link) (opt : FsmOption) : LcpOpt → Bool
  | .vendor | .callback => false
  | .mru => decide (¬ be16 (opt.byte 0) (opt.byte 1) < lcpMinMru)
  | .accmap => true
  | .authproto => lcpAcceptsAuth l.conf.options opt
  | .magicnum =>
      decide (l.lcp.want_magic ≠ 0) &&
        decide (be32 (opt.byte 0) (opt.byte 1) (opt.byte 2) (opt.byte 3) ≠ l.lcp.want_magic)
  | .protocomp => l.conf.options.acceptable linkConfProtocomp
  | .acfcomp => l.conf.options.acceptable linkConfAcfcomp
  | .mrru =>
      l.conf.options.enabled linkConfMultilink &&
        decide (¬ be16 (opt.byte 0) (opt.byte 1) < mpMinMrru)
  | .shortseqnum =>
      l.conf.options.enabled linkConfMultilink && l.conf.options.acceptable linkConfShortseq
  | .endpointdisc => decide (¬ (opt.len < 3 ∨ opt.len > maxDiscrim))

def lcpAcks (l : Link) (opt : FsmOption) : Bool :=
  (opt.meaning? gLcpConfOpts).any (lcpAcksSupported l opt)

def lcpRecordSupported (opt : FsmOption) (peer : LcpPeer) : LcpOpt → LcpPeer
  | .vendor | .callback => peer
  | .mru =>
      let mru := be16 (opt.byte 0) (opt.byte 1)
      { peer with peer_mru := if mru < peer.peer_mru then mru else peer.peer_mru }
  | .accmap =>
      { peer with peer_accmap := be32 (opt.byte 0) (opt.byte 1) (opt.byte 2) (opt.byte 3) }
  | .authproto =>
      { peer with
        peer_auth := authOptProto opt
        peer_alg := if authOptProto opt = protoChap then authOptAlg opt else peer.peer_alg }
  | .magicnum =>
      { peer with peer_magic := be32 (opt.byte 0) (opt.byte 1) (opt.byte 2) (opt.byte 3) }
  | .protocomp => { peer with peer_protocomp := true }
  | .acfcomp => { peer with peer_acfcomp := true }
  | .mrru => { peer with peer_mrru := be16 (opt.byte 0) (opt.byte 1) }
  | .shortseqnum => { peer with peer_shortseq := true }
  | .endpointdisc => { peer with peer_discrim := ⟨opt.byte 0, opt.data.tail⟩ }

def lcpRecord (opt : FsmOption) (peer : LcpPeer) : LcpPeer :=
  ((opt.meaning? gLcpConfOpts).map (lcpRecordSupported opt peer)).getD peer

def Link.withPeer (l : Link) (peer : LcpPeer) : Link :=
  { l with lcp := { l.lcp with toLcpPeer := peer } }

@[simp] theorem withPeer_peer (l : Link) (peer : LcpPeer) :
    (l.withPeer peer).lcp.toLcpPeer = peer := rfl

@[simp] theorem lcpAcks_withPeer (l : Link) (peer : LcpPeer) (opt : FsmOption) :
    lcpAcks (l.withPeer peer) opt = lcpAcks l opt := by
  have supported : lcpAcksSupported (l.withPeer peer) opt = lcpAcksSupported l opt := by
    funext meaning
    cases meaning <;> rfl
  rw [lcpAcks, lcpAcks, supported]

def FsmWorld.withPeer (w : FsmWorld Link) (peer : LcpPeer) : FsmWorld Link :=
  { w with layer := w.layer.withPeer peer }

def Refuses (before after : FsmWorld Link) : Prop :=
  (∃ other, after = fsmNak other before) ∨ ∃ other, after = fsmRej other before

section Supported

variable {opt : FsmOption} {w : FsmWorld Link}

theorem lcpDecodeSupported_of_acks {meaning : LcpOpt}
    (acks : lcpAcksSupported w.layer opt meaning = true) :
    lcpDecodeSupported .req meaning opt w =
      fsmAck opt (w.withPeer (lcpRecordSupported opt w.layer.lcp.toLcpPeer meaning)) := by
  cases meaning with
  | vendor => exact nomatch acks
  | callback => exact nomatch acks
  | mru =>
      simp only [lcpAcksSupported, decide_eq_true_eq] at acks
      simp only [lcpDecodeSupported, lcpDecodeMru, acks, if_false]
      rfl
  | accmap => rfl
  | authproto =>
      have accepted : ((authOptPos opt).bind (gLcpAuthProtos[·]?)).any (fun authProto =>
        w.layer.conf.options.acceptable authProto.conf) = true := acks
      simp only [lcpDecodeSupported, lcpDecodeAuthproto, accepted, if_true]
      rfl
  | magicnum =>
      simp only [lcpAcksSupported, Bool.and_eq_true, decide_eq_true_eq] at acks
      simp only [lcpDecodeSupported, lcpDecodeMagicnum, acks.1, acks.2, if_false]
      rfl
  | protocomp =>
      have accepted : w.layer.conf.options.acceptable linkConfProtocomp = true := acks
      simp only [lcpDecodeSupported, lcpDecodeProtocomp, accepted, if_true]
      rfl
  | acfcomp =>
      have accepted : w.layer.conf.options.acceptable linkConfAcfcomp = true := acks
      simp only [lcpDecodeSupported, lcpDecodeAcfcomp, accepted, if_true]
      rfl
  | mrru =>
      simp only [lcpAcksSupported, Bool.and_eq_true, decide_eq_true_eq] at acks
      simp only [lcpDecodeSupported, lcpDecodeMrru, acks.1, acks.2, not_true, if_false]
      rfl
  | shortseqnum =>
      simp only [lcpAcksSupported, Bool.and_eq_true] at acks
      simp only [lcpDecodeSupported, lcpDecodeShortseq, acks.1, acks.2, not_true, or_self,
        if_false]
      rfl
  | endpointdisc =>
      simp only [lcpAcksSupported, decide_eq_true_eq] at acks
      simp only [lcpDecodeSupported, lcpDecodeEndpointdisc, acks, if_false]
      rfl

theorem lcpDecodeSupported_of_refuses {meaning : LcpOpt}
    (refuses : lcpAcksSupported w.layer opt meaning = false) :
    Refuses w (lcpDecodeSupported .req meaning opt w) := by
  cases meaning with
  | vendor => exact .inr ⟨opt, rfl⟩
  | callback => exact .inr ⟨opt, rfl⟩
  | mru =>
      simp only [lcpAcksSupported, decide_eq_false_iff_not, not_not] at refuses
      simp only [lcpDecodeSupported, lcpDecodeMru, refuses, if_true]
      exact .inl ⟨_, rfl⟩
  | accmap => exact nomatch refuses
  | authproto =>
      have denied : ((authOptPos opt).bind (gLcpAuthProtos[·]?)).any (fun authProto =>
        w.layer.conf.options.acceptable authProto.conf) = false := refuses
      simp only [lcpDecodeSupported, lcpDecodeAuthproto, denied, Bool.false_eq_true, if_false]
      split
      · exact .inl ⟨_, rfl⟩
      · exact .inr ⟨_, rfl⟩
  | magicnum =>
      simp only [lcpDecodeSupported, lcpDecodeMagicnum]
      split_ifs with unwanted same
      · exact .inr ⟨_, rfl⟩
      · exact .inl ⟨_, rfl⟩
      · simp [lcpAcksSupported, unwanted, same] at refuses
  | protocomp =>
      have denied : w.layer.conf.options.acceptable linkConfProtocomp = false := refuses
      simp only [lcpDecodeSupported, lcpDecodeProtocomp, denied, Bool.false_eq_true, if_false]
      exact .inr ⟨_, rfl⟩
  | acfcomp =>
      have denied : w.layer.conf.options.acceptable linkConfAcfcomp = false := refuses
      simp only [lcpDecodeSupported, lcpDecodeAcfcomp, denied, Bool.false_eq_true, if_false]
      exact .inr ⟨_, rfl⟩
  | mrru =>
      simp only [lcpDecodeSupported, lcpDecodeMrru]
      split_ifs with multilink small
      · exact .inl ⟨_, rfl⟩
      · simp [lcpAcksSupported, multilink, small] at refuses
      · exact .inr ⟨_, rfl⟩
  | shortseqnum =>
      simp only [lcpDecodeSupported, lcpDecodeShortseq]
      split_ifs with denied
      · exact .inr ⟨_, rfl⟩
      · simp only [not_or, not_not] at denied
        simp [lcpAcksSupported, denied.1, denied.2] at refuses
  | endpointdisc =>
      simp only [lcpAcksSupported, decide_eq_false_iff_not, not_not] at refuses
      simp only [lcpDecodeSupported, lcpDecodeEndpointdisc, refuses, if_true]
      exact .inr ⟨opt, rfl⟩

end Supported

theorem lcpDecodeOption_of_acks {opt : FsmOption} {w : FsmWorld Link}
    (acks : lcpAcks w.layer opt = true) :
    lcpDecodeOption .req opt w =
      fsmAck opt (w.withPeer (lcpRecord opt w.layer.lcp.toLcpPeer)) := by
  unfold lcpAcks at acks
  unfold lcpDecodeOption lcpRecord
  cases meaning : opt.meaning? gLcpConfOpts with
  | none => simp [meaning] at acks
  | some supported =>
      rw [meaning, Option.any_some] at acks
      exact lcpDecodeSupported_of_acks acks

theorem lcpDecodeOption_of_refuses {opt : FsmOption} {w : FsmWorld Link}
    (refuses : lcpAcks w.layer opt = false) : Refuses w (lcpDecodeOption .req opt w) := by
  unfold lcpAcks at refuses
  unfold lcpDecodeOption
  cases meaning : opt.meaning? gLcpConfOpts with
  | none => exact .inr ⟨opt, rfl⟩
  | some supported =>
      rw [meaning, Option.any_some] at refuses
      exact lcpDecodeSupported_of_refuses refuses

theorem lcpConfigure_silent (w : FsmWorld Link) : Silent w (lcpConfigure w) := by
  unfold lcpConfigure
  dsimp only
  split_ifs <;> exact silent_of_same rfl rfl rfl rfl

theorem lcpForget_silent (w : FsmWorld Link) : Silent w (lcpForget w) := by
  unfold lcpForget
  split_ifs
  · exact lcpConfigure_silent w
  · exact silent_of_same rfl rfl rfl rfl

/-- LCP answers option by option. -/
def lcpAnswers : AnswersOptions lcpDecodeConfig where
  start := lcpForget
  answer := lcpDecodeOption .req
  acks := lcpAcks
  record opt l := l.withPeer (lcpRecord opt l.lcp.toLcpPeer)
  decode _ _ := rfl
  startSilent := lcpForget_silent
  acked _ _ := lcpDecodeOption_of_acks
  refused _ _ := lcpDecodeOption_of_refuses
  stable _ _ _ _ := lcpAcks_withPeer _ _ _

def lcpRecordAll (options : List FsmOption) (peer : LcpPeer) : LcpPeer :=
  options.foldl (fun peer opt => lcpRecord opt peer) peer

theorem foldl_withPeer (options : List FsmOption) (l : Link) :
    options.foldl (fun l opt => l.withPeer (lcpRecord opt l.lcp.toLcpPeer)) l =
      l.withPeer (lcpRecordAll options l.lcp.toLcpPeer) := by
  induction options generalizing l with
  | nil => rfl
  | cons opt options ih => exact ih (l.withPeer (lcpRecord opt l.lcp.toLcpPeer))

/-- The peer's options after a request that is acknowledged option by option. -/
theorem peer_lcpDecodeConfig {options : List FsmOption} {w : FsmWorld Link}
    (acked : ∀ opt ∈ options, lcpAcks (lcpForget w).layer opt = true) :
    (lcpDecodeConfig options .req w).layer.lcp.toLcpPeer =
      lcpRecordAll options (lcpForget w).layer.lcp.toLcpPeer := by
  have answered := lcpAnswers.answerAll_of_acks (w := lcpForget w) acked
  have decoded : lcpDecodeConfig options .req w = lcpAnswers.answerAll options (lcpForget w) := rfl
  rw [decoded, answered]
  exact congrArg (fun l : Link => l.lcp.toLcpPeer) (foldl_withPeer options (lcpForget w).layer)

end Mpd
