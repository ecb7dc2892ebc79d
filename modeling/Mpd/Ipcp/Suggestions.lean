import Mpd.Fsm.Naks
import Mpd.Ipcp.Request
import Mpd.Lcp.Suggestions

/-! What IPCP suggests in a Configure-Nak passes the test of IPCP itself, where it has
an address for the peer. -/

set_option autoImplicit false

namespace Mpd

def ipcpServerFor (b : Bund) : IpcpOpt → UInt32
  | .primarydns => ipcpServer b.params.peer_dns.primary b.ipcp.conf.peer_dns.primary
  | .secondarydns => ipcpServer b.params.peer_dns.secondary b.ipcp.conf.peer_dns.secondary
  | .primarynbns => ipcpServer b.params.peer_nbns.primary b.ipcp.conf.peer_nbns.primary
  | .secondarynbns => ipcpServer b.params.peer_nbns.secondary b.ipcp.conf.peer_nbns.secondary
  | _ => 0

/-- The compression that IPCP asks for in place of another. -/
def ipcpOffersVjcomp : IpcpVjcomp := ⟨protoVjcomp, ipcpVjcompMaxMaxchan, 0⟩

/-- What IPCP suggests for a supported option that it does not acknowledge. -/
def ipcpSuggestsSupported (b : Bund) (opt : FsmOption) (meaning : IpcpOpt) : Option FsmOption :=
  match meaning with
  | .ipaddr => some (opt.overwrite (putBe32 b.ipcp.peer_addr))
  | .compproto =>
      if b.ipcp.conf.options.acceptable ipcpConfVjcomp || b.params.vjc_enable then
        some (opt.overwrite ipcpOffersVjcomp.bytes)
      else none
  | _ =>
      if ipcpServerFor b meaning = 0 then none
      else some (opt.overwrite (putBe32 (ipcpServerFor b meaning)))

/-- What IPCP suggests for an option that it does not acknowledge. -/
def ipcpSuggests (b : Bund) (opt : FsmOption) : Option FsmOption :=
  (opt.meaning? gIpcpConfOpts).bind (ipcpSuggestsSupported b opt)

section Answers

variable {opt : FsmOption} {w : FsmWorld Bund}

theorem ipcpDecodeServer_of_suggests {peerip : UInt32} {learn : UInt32 → IpcpState → IpcpState}
    (unset : ipcpOptAddr opt = 0) :
    ipcpDecodeServer peerip learn .req opt w =
      match (if peerip = 0 then none else some (opt.overwrite (putBe32 peerip))) with
      | some other => fsmNak other w
      | none => fsmRej opt w := by
  simp only [ipcpDecodeServer, unset, if_true]
  split_ifs <;> rfl

theorem ipcpDecodeSupported_of_suggests {meaning : IpcpOpt}
    (refuses : ipcpAcksSupported w.layer opt meaning = false) :
    ipcpDecodeSupported .req meaning opt w = match ipcpSuggestsSupported w.layer opt meaning with
      | some other => fsmNak other w
      | none => fsmRej opt w := by
  cases meaning with
  | ipaddr =>
      have denies : ipcpTakesAddr w.layer (ipcpOptAddr opt) = false := refuses
      simp only [ipcpDecodeSupported, ipcpDecodeIpaddr, denies, Bool.false_eq_true, if_false]
      rfl
  | compproto =>
      simp only [ipcpDecodeSupported, ipcpDecodeCompproto, ipcpSuggestsSupported, ← Bool.not_or]
      cases allowed : w.layer.ipcp.conf.options.acceptable ipcpConfVjcomp ||
          w.layer.params.vjc_enable with
      | false => simp only [Bool.not_false, Bool.false_eq_true, if_true, if_false]
      | true =>
          have unfit : ((ipcpOptVjcomp opt).proto == protoVjcomp &&
              (ipcpOptVjcomp opt).handles) = false := by
            simpa only [ipcpAcksSupported, allowed, Bool.true_and] using refuses
          simp only [Bool.not_true, unfit, Bool.false_eq_true, if_true, if_false]
          rfl
  | _ =>
      have unset : ipcpOptAddr opt = 0 := by simpa [ipcpAcksSupported] using refuses
      simp only [ipcpDecodeSupported]
      exact ipcpDecodeServer_of_suggests unset

def ipcpNaks : NaksOptions ipcpAnswers where
  suggests := ipcpSuggests
  answered opt w refuses := by
    change ipcpAcks w.layer opt = false at refuses
    change ipcpDecodeOption .req opt w = _
    unfold ipcpAcks at refuses
    unfold ipcpDecodeOption ipcpSuggests
    cases meaning : opt.meaning? gIpcpConfOpts with
    | none => rfl
    | some supported =>
        rw [meaning, Option.any_some] at refuses
        exact ipcpDecodeSupported_of_suggests refuses

end Answers

section Taken

variable {opt : FsmOption} {b : Bund}

def Bund.pretends (b : Bund) : Prop := b.ipcp.conf.options.enabled ipcpConfPretendip = true

/-- IPCP has an address for the peer that it takes, where it looks at addresses at all. -/
def OffersAddr (b : Bund) : Prop :=
  b.pretends ∨ ipAddrInRange b.ipcp.peer_allow b.ipcp.peer_addr = true ∧ b.ipcp.peer_addr ≠ 0

structure IpcpLocal where
  options : OptInfo
  peer_allow : URange
  vjc_enable : Bool
  deriving DecidableEq, Repr

def Bund.localConfig (b : Bund) : IpcpLocal :=
  ⟨b.ipcp.conf.options, b.ipcp.peer_allow, b.params.vjc_enable⟩

theorem localConfig_ipcpRecord (opt : FsmOption) (b : Bund) :
    (ipcpRecord opt b).localConfig = b.localConfig := by
  unfold ipcpRecord
  cases opt.meaning? gIpcpConfOpts with
  | none => rfl
  | some meaning => cases meaning <;> rfl

theorem offersAddr_ipcpRecord (acks : ipcpAcks b opt = true) (offers : OffersAddr b) :
    OffersAddr (ipcpRecord opt b) := by
  unfold ipcpAcks at acks
  unfold ipcpRecord
  cases means : opt.meaning? gIpcpConfOpts with
  | none => exact offers
  | some meaning =>
      rw [means, Option.any_some] at acks
      cases meaning with
      | ipaddr =>
          have takes : ipcpTakesAddr b (ipcpOptAddr opt) = true := acks
          simpa [ipcpTakesAddr, OffersAddr, Bund.pretends, or_comm, ipcpRecordSupported] using takes
      | _ => exact offers

theorem length_of_ipcpMeaning {meaning : IpcpOpt}
    (means : opt.meaning? gIpcpConfOpts = some meaning) : opt.data.length = 4 := by
  have sized : ∀ oi ∈ gIpcpConfOpts, oi.supported = some meaning →
      oi.minLen = 4 ∧ oi.maxLen = 4 := by
    cases meaning <;> decide
  exact length_of_supported means sized

theorem ipcpOptAddr_overwrite (ip : UInt32) (length : opt.data.length = 4) :
    ipcpOptAddr (opt.overwrite (putBe32 ip)) = ip :=
  magic_overwrite ip length

theorem ipcpAcks_of_suggests {other : FsmOption} {b' : Bund} (offers : OffersAddr b)
    (refuses : ipcpAcks b opt = false) (suggests : ipcpSuggests b opt = some other)
    (same : b'.localConfig = b.localConfig) : ipcpAcks b' other = true := by
  obtain ⟨meaning, means, suggested⟩ := Option.bind_eq_some_iff.mp suggests
  have options : b'.ipcp.conf.options = b.ipcp.conf.options := congrArg IpcpLocal.options same
  have peer_allow : b'.ipcp.peer_allow = b.ipcp.peer_allow := congrArg IpcpLocal.peer_allow same
  have vjc_enable : b'.params.vjc_enable = b.params.vjc_enable := congrArg IpcpLocal.vjc_enable same
  have length := length_of_ipcpMeaning means
  have server (value : UInt32) (set : ¬ value = 0)
      (found : some (opt.overwrite (putBe32 value)) = some other) : ipcpOptAddr other ≠ 0 := by
    obtain rfl := Option.some.inj found
    rw [ipcpOptAddr_overwrite value length]
    exact set
  unfold ipcpAcks at refuses ⊢
  rw [means, Option.any_some] at refuses
  cases meaning with
  | ipaddr =>
      obtain rfl := Option.some.inj suggested
      rw [FsmOption.meaning?_overwrite, means, Option.any_some]
      have denies : ipcpTakesAddr b (ipcpOptAddr opt) = false := refuses
      have honest : ¬ b.pretends := by
        intro pretends
        unfold Bund.pretends at pretends
        rw [ipcpTakesAddr, pretends, Bool.or_true] at denies
        cases denies
      obtain ⟨inRange, set⟩ := offers.resolve_left honest
      simp only [ipcpAcksSupported, ipcpTakesAddr, ipcpOptAddr_overwrite _ length, peer_allow,
        inRange, Bool.true_and]
      simp [set]
  | compproto =>
      simp only [ipcpSuggestsSupported] at suggested
      split_ifs at suggested with allowed
      obtain rfl := Option.some.inj suggested
      rw [FsmOption.meaning?_overwrite, means, Option.any_some]
      have offered : ipcpOptVjcomp (opt.overwrite ipcpOffersVjcomp.bytes) = ipcpOffersVjcomp := by
        have data := FsmOption.data_overwrite (show ipcpOffersVjcomp.bytes.length = _ from length.symm)
        simp only [ipcpOptVjcomp, FsmOption.byte, data]
        decide
      simp only [ipcpAcksSupported, options, vjc_enable, allowed, offered, Bool.true_and]
      decide
  | _ =>
      simp only [ipcpSuggestsSupported] at suggested
      split_ifs at suggested with unset
      have set := server _ unset suggested
      obtain rfl := Option.some.inj suggested
      rw [FsmOption.meaning?_overwrite, means, Option.any_some]
      simpa [ipcpAcksSupported] using set

def ipcpTakesSuggestions : TakesSuggestions ipcpNaks IpcpLocal where
  config := Bund.localConfig
  offers := OffersAddr
  config_record opt b _ := localConfig_ipcpRecord opt b
  offers_record _ _ acks offers := offersAddr_ipcpRecord acks offers
  taken offers refuses suggests same := ipcpAcks_of_suggests offers refuses suggests same

end Taken

section Runs

/-- The address for the peer lies in the range for it, but for pretended addresses and
ranges that hold no IPv4 address. -/
def AddrInRange (b : Bund) : Prop :=
  b.pretends ∨ b.ipcp.peer_allow.addr.family = .inet6 ∨
    ipAddrInRange b.ipcp.peer_allow b.ipcp.peer_addr = true

def Bund.hasPeerAddr (b : Bund) : Prop :=
  b.ipcp.peer_addr ≠ 0 ∧ b.ipcp.peer_allow.addr.family ≠ .inet6

theorem AddrInRange.offers {b : Bund} (within : AddrInRange b) (available : b.hasPeerAddr) :
    OffersAddr b := by
  rcases within with pretends | other | inRange
  · exact .inl pretends
  · exact absurd other available.2
  · exact .inr ⟨inRange, available.1⟩

/-- A range without an IPv4 address aside, its own address is in it. -/
theorem ipAddrInRange_self {range : URange} (family : range.addr.family ≠ .inet6) :
    ipAddrInRange range range.addr.ip4 = true := by
  unfold ipAddrInRange
  cases empty : uRangeempty range with
  | true => rfl
  | false =>
      have inet : range.addr.family = .inet := by
        unfold uRangeempty uAddrempty at empty
        cases kind : range.addr.family with
        | unspec => simp [kind] at empty
        | inet => rfl
        | inet6 => exact absurd kind family
      simp [inet]

theorem addrInRange_of_same {before after : Bund} (within : AddrInRange before)
    (conf : after.ipcp.conf = before.ipcp.conf)
    (peer_allow : after.ipcp.peer_allow = before.ipcp.peer_allow)
    (peer_addr : after.ipcp.peer_addr = before.ipcp.peer_addr) : AddrInRange after := by
  unfold AddrInRange Bund.pretends
  rw [conf, peer_allow, peer_addr]
  exact within

def KeepsRange (before after : FsmWorld Bund) : Prop :=
  AddrInRange before.layer → AddrInRange after.layer

theorem addrInRange_ipcpConfigure (w : FsmWorld Bund) : AddrInRange (ipcpConfigure w).layer := by
  have own : (ipcpConfigure w).layer.ipcp.peer_addr =
      (ipcpConfigure w).layer.ipcp.peer_allow.addr.ip4 := rfl
  unfold AddrInRange
  rw [own]
  by_cases family : (ipcpConfigure w).layer.ipcp.peer_allow.addr.family = .inet6
  · exact .inr (.inl family)
  · exact .inr (.inr (ipAddrInRange_self family))

theorem addrInRange_settle {w : FsmWorld Bund} (within : AddrInRange w.layer) :
    AddrInRange (w.setIpcp (ipcpSettle w.layer.ipcp)).layer := by
  rcases within with pretends | other | inRange
  · exact .inl pretends
  · exact .inr (.inl other)
  · refine .inr (.inr ?_)
    simp only [FsmWorld.setIpcp, ipcpSettle, inRange, Bool.true_or, if_true]

theorem ipcpUnConfigure_keepsRange (w : FsmWorld Bund) : KeepsRange w (ipcpUnConfigure w) := by
  intro within
  unfold ipcpUnConfigure
  dsimp only
  split_ifs <;> exact addrInRange_of_same within rfl rfl rfl

theorem addrInRange_ipcpRecord {opt : FsmOption} {b : Bund} (acks : ipcpAcks b opt = true)
    (within : AddrInRange b) : AddrInRange (ipcpRecord opt b) := by
  unfold ipcpAcks at acks
  unfold ipcpRecord
  cases means : opt.meaning? gIpcpConfOpts with
  | none => exact within
  | some meaning =>
      rw [means, Option.any_some] at acks
      cases meaning with
      | ipaddr =>
          have takes : ipcpTakesAddr b (ipcpOptAddr opt) = true := acks
          rcases Bool.or_eq_true_iff.mp takes with inRange | pretends
          · exact .inr (.inr (Bool.and_eq_true_iff.mp inRange).1)
          · exact .inl pretends
      | _ => exact within

/-- An answer to our own request has nothing to do with the address for the peer. -/
theorem ipcpDecodeSupported_keepsRange {mode : FsmMode} (answer : mode ≠ .req)
    (meaning : IpcpOpt) (opt : FsmOption) (w : FsmWorld Bund) :
    KeepsRange w (ipcpDecodeSupported mode meaning opt w) := by
  intro within
  cases mode with
  | req => exact absurd rfl answer
  | nop => cases meaning <;> exact within
  | rej => cases meaning <;> exact addrInRange_of_same within rfl rfl rfl
  | nak =>
      cases meaning with
      | ipaddr =>
          simp only [ipcpDecodeSupported, ipcpDecodeIpaddr]
          split_ifs
          · exact addrInRange_of_same within rfl rfl rfl
          · exact within
      | compproto =>
          simp only [ipcpDecodeSupported, ipcpDecodeCompproto]
          split_ifs
          · exact addrInRange_of_same within rfl rfl rfl
          · exact within
      | _ => exact addrInRange_of_same within rfl rfl rfl

theorem ipcpDecodeOption_keepsRange (mode : FsmMode) (opt : FsmOption) (w : FsmWorld Bund) :
    KeepsRange w (ipcpDecodeOption mode opt w) := by
  intro within
  by_cases answer : mode = .req
  · subst answer
    cases verdict : ipcpAcks w.layer opt with
    | true =>
        rw [ipcpDecodeOption_of_acks verdict, fsmAck_eq]
        exact addrInRange_ipcpRecord verdict within
    | false =>
        rcases ipcpDecodeOption_of_refuses verdict with ⟨other, same⟩ | ⟨other, same⟩
        · rw [same, fsmNak_eq]
          exact within
        · rw [same, fsmRej_eq]
          exact within
  · unfold ipcpDecodeOption
    split
    · rw [if_neg answer]
      exact within
    · exact ipcpDecodeSupported_keepsRange answer _ opt w within

theorem ipcpDecodeConfig_keepsRange (options : List FsmOption) (mode : FsmMode)
    (w : FsmWorld Bund) : KeepsRange w (ipcpDecodeConfig options mode w) := by
  unfold ipcpDecodeConfig
  induction options generalizing w with
  | nil => exact id
  | cons opt options ih =>
      intro within
      exact ih _ (ipcpDecodeOption_keepsRange mode opt w within)

theorem ipcpTypeWith_keepsRange {layerUp layerDown : FsmWorld Bund → FsmWorld Bund}
    (up : ∀ w, KeepsRange w (layerUp w)) (down : ∀ w, KeepsRange w (layerDown w)) :
    RespectsAll (ipcpTypeWith layerUp layerDown) False (fun _ => True) KeepsRange where
  refl _ := id
  trans left right within := right (left within)
  counters _ _ _ := id
  emit _ _ _ := id
  newState _ _ _ _ := id
  opened _ _ _ := id
  layerUp := up
  layerDown w := ⟨down w, False.elim⟩
  layerStart _ := ⟨fun within => addrInRange_of_same within rfl rfl rfl, False.elim⟩
  layerFinish w := by
    refine ⟨fun within => ?_, False.elim⟩
    change AddrInRange (bundNcpsFinish w).layer
    unfold bundNcpsFinish
    dsimp only
    split_ifs <;> exact addrInRange_of_same within rfl rfl rfl
  buildConfigReq _ := ⟨id, False.elim⟩
  decodeConfig options mode w _ := ⟨ipcpDecodeConfig_keepsRange options mode w, False.elim⟩
  configure w := ⟨fun _ => addrInRange_ipcpConfigure _, False.elim⟩
  unConfigure w := ⟨ipcpUnConfigure_keepsRange w, False.elim⟩
  sendTerminateReq _ := ⟨id, False.elim⟩
  sendTerminateAck _ := ⟨id, False.elim⟩
  failure _ _ := ⟨id, False.elim⟩
  acknowledge _ _ _ := id
  buffers _ _ _ _ := id
  decodeRequest options w := ⟨ipcpDecodeConfig_keepsRange options .req w, False.elim⟩
  recvCodeRej := nofun
  recvProtoRej := nofun
  recvResetReq _ _ _ := ⟨id, False.elim⟩
  recvResetAck _ _ _ := ⟨id, False.elim⟩
  recvIdent _ _ := ⟨id, False.elim⟩
  recvDiscReq _ _ := ⟨id, False.elim⟩
  recvTimeRemain _ _ := ⟨id, False.elim⟩
  recvVendor _ _ := ⟨id, False.elim⟩

theorem setIface_keepsRange (iface : Iface) (w : FsmWorld Bund) :
    KeepsRange w (w.setIface iface) := fun within => addrInRange_of_same within rfl rfl rfl

theorem ifaceFrame_keepsRange : IfaceFrame KeepsRange where
  refl _ := id
  trans left right within := right (left within)
  setIface := setIface_keepsRange
  configured _ _ within := addrInRange_of_same within rfl rfl rfl

theorem ipcpType_keepsRange (depth : Nat) :
    RespectsAll (ipcpType depth) False (fun _ => True) KeepsRange := by
  have layers := ifaceFrame_keepsRange.ipcpLayerWithin (fun _ => addrInRange_settle)
    (fun _ within => addrInRange_of_same within rfl rfl rfl)
    (fun up down => (ipcpTypeWith_keepsRange up down).toRespects.fsmFailure) depth
  exact ipcpTypeWith_keepsRange (layers true) (layers false)

def ipcpHistory (depth : Nat) (start : FsmWorld Bund) (events : List FsmEvent) : FsmWorld Bund :=
  Transition.run (fsmStep (ipcpType depth)) (ipcpConfigure start) events

theorem addrInRange_ipcpHistory (depth : Nat) (start : FsmWorld Bund) (events : List FsmEvent) :
    AddrInRange (ipcpHistory depth start events).layer := by
  have kept : ∀ state event, AddrInRange state.layer → True →
      AddrInRange (fsmStep (ipcpType depth) state event).layer := fun state event within _ =>
    (ipcpType_keepsRange depth).fsmStep state event (fun _ _ => trivial) within
  exact Transition.invariant_run _ kept (addrInRange_ipcpConfigure start)
    (Transition.meets_of_forall _ (fun _ _ => trivial) _ events)

end Runs

end Mpd
