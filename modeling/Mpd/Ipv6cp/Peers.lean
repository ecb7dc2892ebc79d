import Mpd.Fsm.Peers
import Mpd.Ipv6cp.Distinct

/-! Two ends of a link that negotiate IPV6CP with each other. -/

set_option autoImplicit false

namespace Mpd.Ipv6cp

open Agreement

section Orderly

variable {layerUp layerDown : FsmWorld Ipv6Bund → FsmWorld Ipv6Bund}

def outlook : Outlook Ipv6Bund Bytes Bytes where
  view := id
  asks w := fsmConfValue tyIntident w.layer.ipv6cp.myintid
  records w := w.layer.ipv6cp.hisintid

/-- A change of the bundle that leaves the identifiers alone. -/
theorem still_layer {w w' : FsmWorld Ipv6Bund} (fsm : w'.fsm = w.fsm) (log : w'.log = w.log)
    (myintid : w'.layer.ipv6cp.myintid = w.layer.ipv6cp.myintid)
    (hisintid : w'.layer.ipv6cp.hisintid = w.layer.ipv6cp.hisintid) : Still outlook w w' :=
  ⟨⟨⟨by rw [fsm], by rw [fsm], [], by simp [log], by simp⟩,
    congrArg (fsmConfValue tyIntident) myintid⟩, hisintid⟩

theorem proceeds_layer {w w' : FsmWorld Ipv6Bund} (fsm : w'.fsm = w.fsm) (log : w'.log = w.log)
    (myintid : w'.layer.ipv6cp.myintid = w.layer.ipv6cp.myintid)
    (hisintid : w'.layer.ipv6cp.hisintid = w.layer.ipv6cp.hisintid) : Proceeds outlook w w' :=
  (still_layer fsm log myintid hisintid).proceeds

theorem turns_ipv6cpDecodeConfig (options : List FsmOption) (mode : FsmMode)
    (w : FsmWorld Ipv6Bund) : Turns w (ipv6cpDecodeConfig options mode w) := by
  induction options using List.reverseRecOn with
  | nil => exact .refl w
  | append_singleton options opt ih =>
      rw [ipv6cpDecodeConfig_concat]
      refine ih.trans ?_
      generalize ipv6cpDecodeConfig options mode w = w'
      have same {after : FsmWorld Ipv6Bund} (fsm : after.fsm = w'.fsm) (log : after.log = w'.log) :
          Turns w' after :=
        ⟨by rw [fsm], by rw [fsm], [], by simp [log], by simp⟩
      unfold ipv6cpDecodeOption decodeIntident
      split
      · split_ifs
        · rw [fsmRej_eq]
          exact same rfl rfl
        · exact .refl w'
      · cases mode with
        | req =>
            dsimp only
            split_ifs
            · rw [fsmNak_eq]
              exact same rfl rfl
            · rw [fsmNak_eq]
              exact same rfl rfl
            · rw [fsmAck_eq]
              exact same rfl rfl
        | nak => exact same rfl rfl
        | rej => exact same rfl rfl
        | nop => exact .refl w'

theorem ipv6cpTypeWith_orderly
    (up : ∀ w, Proceeds outlook w (layerUp w)) (down : ∀ w, Proceeds outlook w (layerDown w))
    (kept : ∀ w, outlook.records (layerDown w) = outlook.records w) :
    Orderly (ipv6cpTypeWith layerUp layerDown) outlook where
  layer _ _ same :=
    ⟨congrArg (fun b : Ipv6Bund => fsmConfValue tyIntident b.ipv6cp.myintid) same,
      congrArg (fun b : Ipv6Bund => b.ipv6cp.hisintid) same⟩
  newState _ _ w := .refl _ w
  layerUp := up
  layerDown := down
  downRecords := kept
  layerStart _ := still_layer rfl rfl rfl rfl
  layerFinish w := by
    change Proceeds outlook w (bundNcpsFinish w)
    unfold bundNcpsFinish
    dsimp only
    split_ifs
    · exact proceeds_layer rfl rfl rfl rfl
    · exact proceeds_layer rfl rfl rfl rfl
  buildConfigReq w := .refl w
  built _ := rfl
  builtRecords _ := rfl
  decodeConfig options mode w := turns_ipv6cpDecodeConfig options mode w
  decodeAsks options mode w keeps := by
    refine congrArg (fsmConfValue tyIntident) ?_
    cases keeps with
    | inl request =>
        subst request
        exact ipv6cpDecodeConfig_req options w
    | inr own =>
        exact (ipv6cpDecodeConfig_keeps options (.inr own) w).myintid
  decodeRecords options mode w other := by
    cases mode with
    | req => exact absurd rfl other
    | nak => exact (ipv6cpDecodeConfig_nak options w).2.1
    | rej => exact (ipv6cpDecodeConfig_keeps options (.inl rfl) w).hisintid
    | nop => exact (ipv6cpDecodeConfig_keeps options (.inr rfl) w).hisintid
  configure w := ⟨rfl, rfl, [], by simp [ipv6cpTypeWith, ipv6cpConfigure, setIpv6cp], by simp⟩
  unConfigure w := .refl w
  sendTerminateReq w := .refl _ w
  sendTerminateAck w := .refl _ w
  recvCodeRej _ absent := nomatch absent
  recvProtoRej _ absent := nomatch absent
  failure _ w := .refl _ w
  recvResetReq _ _ w := .refl _ w
  recvResetAck _ _ w := .refl _ w
  recvIdent _ w := .refl _ w
  recvDiscReq _ w := .refl _ w
  recvTimeRemain _ w := .refl _ w
  recvVendor _ w := .refl _ w

theorem ifaceFrame_proceeds :
    IfaceFrame fun w w' => Proceeds outlook w w' ∧ KeepsIdentifiers w w' where
  refl w := ⟨.refl _ w, .refl w⟩
  trans left right := ⟨left.1.trans right.1, left.2.trans right.2⟩
  setIface iface w := ⟨proceeds_layer rfl rfl rfl rfl, setIface_keeps iface w⟩
  configured w _ := ⟨proceeds_layer rfl rfl rfl rfl, keepsIdentifiers_layer w rfl rfl⟩
  enabled w _ := ⟨proceeds_layer rfl rfl rfl rfl, keepsIdentifiers_layer w rfl rfl⟩

/-- The layer handlers of IPV6CP, which fail its FSM at most, keep to the course of its own. -/
theorem ipv6cpType_orderly (depth : Nat) : Orderly (ipv6cpType depth) outlook := by
  have layers := ifaceFrame_proceeds.ipv6cpLayerWithin
    (fun w => ⟨proceeds_layer rfl rfl rfl rfl, keepsIdentifiers_layer w rfl rfl⟩)
    (fun up down reason w =>
      ⟨(ipv6cpTypeWith_orderly (fun w => (up w).1) (fun w => (down w).1)
          fun w => (down w).2.hisintid).fsmFailure reason w,
        (ipv6cpTypeWith_unsettling (fun w => (up w).2) fun w => (down w).2).fsmFailure reason w⟩)
    depth
  exact ipv6cpTypeWith_orderly (fun w => (layers true w).1) (fun w => (layers false w).1)
    fun w => (layers false w).2.hisintid

end Orderly

section Identifiers

variable {depth : Nat} {w : FsmWorld Ipv6Bund} {event : FsmEvent} {bp : Bytes}

/-- A step that answers a request keeps our own identifier, and where it settles the FSM, the
peer is known by the last identifier of the request, which is neither zero nor our own. -/
theorem ipv6cp_answered (answered : answeredRequest (ipv6cpType depth) w event = some bp) :
    let w' := fsmStep (ipv6cpType depth) w event
    w'.layer.ipv6cp.myintid = w.layer.ipv6cp.myintid ∧
      (w'.fsm.state.settled = true → packetOptions bp ≠ [] →
        lastIdentifier (packetOptions bp) = some w'.layer.ipv6cp.hisintid ∧
          emptyIdentifier w'.layer.ipv6cp.hisintid = false ∧
          w'.layer.ipv6cp.hisintid ≠ w.layer.ipv6cp.myintid) := by
  have h := ipv6cpType_unsettling depth
  obtain ⟨id, stepped⟩ := fsmStep_of_answered answered
  dsimp only
  rw [stepped]
  let started := configReqStart (ipv6cpType depth) w
  let decoded := fsmDecodeBuffer (ipv6cpType depth) bp .req started
  have start : KeepsIdentifiers w started := by
    unfold started configReqStart
    split_ifs
    · exact h.fsmConfigure w
    · exact .refl w
  have own : decoded.layer.ipv6cp.myintid = w.layer.ipv6cp.myintid :=
    (ipv6cpDecodeConfig_req (packetOptions bp)
      { started with ack := [], nak := [], rej := [] }).trans start.myintid
  have negotiated : KeepsIdentifiers decoded (configReqDecoded (ipv6cpType depth) bp w) :=
    h.fsmRenegotiate _
  have verdict : decoded.fullyAcked = (configReqDecoded (ipv6cpType depth) bp w).fullyAcked := by
    simp only [FsmWorld.fullyAcked, negotiated.nak, negotiated.rej]
  cases acked : (configReqDecoded (ipv6cpType depth) bp w).fullyAcked with
  | false =>
      obtain ⟨kept, unsettled⟩ := h.refused id acked
      refine ⟨kept.myintid.trans (negotiated.myintid.trans own), fun settled => ?_⟩
      rw [unsettled] at settled
      cases settled
  | true =>
      have same := h.same_of_acked
        (fun w => (w.layer.ipv6cp.myintid, w.layer.ipv6cp.hisintid))
        (fun kept => Prod.ext kept.myintid kept.hisintid) (fun _ _ => rfl) id acked
      have hisintid := (congrArg Prod.snd same).trans negotiated.hisintid
      refine ⟨(congrArg Prod.fst same).trans (negotiated.myintid.trans own),
        fun _ nonempty => ?_⟩
      rw [acked] at verdict
      obtain ⟨contained, nonzero, distinct⟩ := fullyAcked_ipv6cpDecodeConfig nonempty
        (w := { started with ack := [], nak := [], rej := [] }) verdict
      dsimp only at hisintid
      rw [hisintid]
      exact ⟨contained, nonzero, fun same => distinct (same.trans start.myintid.symm)⟩

/-- Our own identifier changes only by a Configure-Nak, to one that the peer suggests. -/
theorem ipv6cp_unanswered (silent : answeredRequest (ipv6cpType depth) w event = none) :
    (fsmStep (ipv6cpType depth) w event).layer.ipv6cp.myintid = w.layer.ipv6cp.myintid ∨
      ∃ bp, lastIdentifier (packetOptions bp) =
        some (fsmStep (ipv6cpType depth) w event).layer.ipv6cp.myintid := by
  have h := ipv6cpType_unsettling depth
  cases taken : takenNak (ipv6cpType depth) w event with
  | none => exact .inl (h.fsmStep silent taken).myintid
  | some bp =>
      obtain ⟨stepped, -⟩ := fsmStep_of_takenNak taken
      obtain ⟨kept, -⟩ := h.afterNak bp w
      rw [← stepped] at kept
      have own := kept.myintid.trans (ipv6cpDecodeConfig_nak (packetOptions bp) w).1
      cases found : lastIdentifier (packetOptions bp) with
      | none =>
          rw [found] at own
          exact .inl own
      | some intid =>
          rw [found] at own
          exact .inr ⟨bp, found.trans (congrArg some own.symm)⟩

end Identifiers

section Peers

def requested (bp : Bytes) : Option Bytes := lastIdentifier (packetOptions bp)

theorem length_of_lastIdentifier {options : List FsmOption} {intid : Bytes}
    (last : lastIdentifier options = some intid) : intid.length = 8 := by
  obtain ⟨opt, found, rfl⟩ := Option.map_eq_some_iff.mp last
  have identifier := (List.mem_filter.mp (List.mem_of_getLast? found)).2
  simp only [isIdentifier, beq_iff_eq, FsmOption.meaning?, Option.bind_eq_some_iff] at identifier
  obtain ⟨oi, info, sized⟩ := identifier
  split_ifs at sized with outside
  have rows := List.mem_of_find?_eq_some info
  simp only [gIpv6cpConfOpts, List.mem_cons, List.not_mem_nil, or_false] at rows
  have length : opt.len = opt.data.length + 2 := rfl
  rcases rows with rfl | rfl
  · dsimp only at outside
    omega
  · cases sized

theorem requested_request {intid : Bytes} (length : intid.length = 8) :
    packetOptions (fsmConfValue tyIntident intid) ≠ [] ∧
      requested (fsmConfValue tyIntident intid) = some intid := by
  have options : packetOptions (fsmConfValue tyIntident intid) =
      [⟨tyIntident, intid, by omega⟩] := by
    have whole := List.take_of_length_le (Nat.le_of_eq length)
    have rest := List.drop_of_length_le (Nat.le_of_eq length)
    simp [packetOptions, fsmConfValue, fsmMaxOpts, fsmExtractOptions, length, whole, rest]
  have identifier : isIdentifier ⟨tyIntident, intid, by omega⟩ = true := by
    simp [isIdentifier, FsmOption.meaning?, fsmFindOptInfo, gIpv6cpConfOpts, tyIntident,
      FsmOption.len, length]
  rw [requested, options]
  exact ⟨List.cons_ne_nil _ _, by simp [lastIdentifier, identifier]⟩

def Identified (w : FsmWorld Ipv6Bund) : Prop := w.layer.ipv6cp.myintid.length = 8

theorem identified_fsmStep (depth : Nat) (w : FsmWorld Ipv6Bund) (event : FsmEvent)
    (identified : Identified w) : Identified (fsmStep (ipv6cpType depth) w event) := by
  unfold Identified at identified ⊢
  cases answered : answeredRequest (ipv6cpType depth) w event with
  | some bp =>
      rw [(ipv6cp_answered answered).1]
      exact identified
  | none =>
      obtain same | ⟨bp, taken⟩ := ipv6cp_unanswered answered
      · rw [same]
        exact identified
      · exact length_of_lastIdentifier taken

theorem identified_ipv6cpInit (ether : Option (Fin 6 → UInt8)) (b : Ipv6Bund) :
    Identified (ipv6cpInit ether b) := by
  cases ether with
  | some ether => rfl
  | none => rfl

theorem ipv6cp_checks (depth : Nat) :
    Checks (ipv6cpType depth) outlook Identified
      fun first second => requested first ≠ requested second := by
  intro w event bp identified acked settled
  have answered := Option.eq_some_of_filter_eq_some acked
  have own := (requested_request (identified_fsmStep depth w event identified)).2
  obtain ⟨myintid, peer⟩ := ipv6cp_answered answered
  change requested bp ≠ requested (fsmConfValue tyIntident _)
  rw [own]
  by_cases empty : packetOptions bp = []
  · simp [requested, empty, lastIdentifier]
  · obtain ⟨contained, -, distinct⟩ := peer settled empty
    rw [requested, contained, myintid]
    exact fun same => distinct (Option.some.inj same)

/-- The record of the peer is the last identifier of its request, and not zero. -/
def Knows (bp hisintid : Bytes) : Prop :=
  packetOptions bp ≠ [] →
    lastIdentifier (packetOptions bp) = some hisintid ∧ emptyIdentifier hisintid = false

theorem ipv6cp_notes (depth : Nat) : RecordsRight (ipv6cpType depth) outlook Knows := by
  intro w event bp acked nonempty
  obtain ⟨-, fullyAcked⟩ := Option.filter_eq_some_iff.mp acked
  let started := configReqStart (ipv6cpType depth) w
  let decoded := fsmDecodeBuffer (ipv6cpType depth) bp .req started
  have negotiated : KeepsIdentifiers decoded (configReqDecoded (ipv6cpType depth) bp w) :=
    (ipv6cpType_unsettling depth).fsmRenegotiate _
  have verdict : decoded.fullyAcked = true := by
    rw [← fullyAcked]
    simp only [FsmWorld.fullyAcked, negotiated.nak, negotiated.rej]
  obtain ⟨contained, nonzero, -⟩ := fullyAcked_ipv6cpDecodeConfig nonempty
    (w := { started with ack := [], nak := [], rej := [] }) verdict
  exact ⟨contained, nonzero⟩

variable {depth : Nat} {etherLeft etherRight : Option (Fin 6 → UInt8)}
  {bundLeft bundRight : Ipv6Bund} {events : List NetEvent}

def ipv6cpNet (depth : Nat) (etherLeft etherRight : Option (Fin 6 → UInt8))
    (bundLeft bundRight : Ipv6Bund) (events : List NetEvent) : Net Ipv6Bund :=
  netRun (ipv6cpType depth) (ipv6cpInit etherLeft bundLeft).layer
    (ipv6cpInit etherRight bundRight).layer events

def ipv6cpTimely (depth : Nat) (etherLeft etherRight : Option (Fin 6 → UInt8))
    (bundLeft bundRight : Ipv6Bund) (events : List NetEvent) : Prop :=
  TimelyRun (ipv6cpType depth) (ipv6cpInit etherLeft bundLeft).layer
    (ipv6cpInit etherRight bundRight).layer events

/-- Once both ends are Opened, each knows the other by its own identifier, which is not zero,
and the two identifiers are distinct. -/
theorem ipv6cp_peers
    (timely : ipv6cpTimely depth etherLeft etherRight bundLeft bundRight events)
    (opened : ∀ side, ((ipv6cpNet depth etherLeft etherRight bundLeft bundRight events).party
      side).world.fsm.state = .opened) :
    let ipv6cp (side : Side) :=
      ((ipv6cpNet depth etherLeft etherRight bundLeft bundRight events).party side).world.layer.ipv6cp
    (∀ side, (ipv6cp side).hisintid = (ipv6cp side.other).myintid ∧
        emptyIdentifier (ipv6cp side).hisintid = false) ∧
      (ipv6cp .left).myintid ≠ (ipv6cp .right).myintid := by
  have h := ipv6cpType_orderly depth
  have identified (side : Side) : Identified
      ((ipv6cpNet depth etherLeft etherRight bundLeft bundRight events).party side).world :=
    Net.parties_run (P := fun party => Identified party.world)
      (fun party _ event => identified_fsmStep depth party.world event)
      (identified_ipv6cpInit etherLeft bundLeft) (identified_ipv6cpInit etherRight bundRight)
      events side
  have asked (side : Side) := requested_request (identified side)
  refine ⟨fun side => ?_, ?_⟩
  · have accepted (side : Side) :
        ((ipv6cpNet depth etherLeft etherRight bundLeft bundRight events).party
          side).world.fsm.state.accepted = true := by
      rw [opened]
      rfl
    obtain ⟨verdict, heard, -, content⟩ := (Net.sound_run h timely).agreement
      (Net.told_run h _ _ events side.other) (accepted side.other)
    rw [Side.other_other] at heard
    obtain ⟨known, heard', knows⟩ := peers_recorded h (ipv6cp_notes depth) _ _ events side
      (by rw [← ipv6cpNet, opened]; rfl)
    obtain rfl : verdict = known := Option.some.inj (heard.symm.trans heard')
    obtain ⟨nonempty, own⟩ := asked side.other
    have current : verdict.content = outlook.asks
        ((ipv6cpNet depth etherLeft etherRight bundLeft bundRight events).party side.other).world :=
      content
    rw [current] at knows
    obtain ⟨contained, nonzero⟩ := knows nonempty
    exact ⟨Option.some.inj (contained.symm.trans own), nonzero⟩
  · have apart := peers_apart h (ipv6cp_checks depth) (fun apart => Ne.symm apart)
      (identified_fsmStep depth) (identified_ipv6cpInit etherLeft bundLeft)
      (identified_ipv6cpInit etherRight bundRight) timely opened
    intro same
    exact apart (congrArg (fun intid => requested (fsmConfValue tyIntident intid)) same)

def handshake : List NetEvent :=
  [.happen .left .open rfl, .happen .left .up rfl, .happen .right .open rfl, .happen .right .up rfl,
    .deliver .right (fun _ => 0), .deliver .left (fun _ => 0), .deliver .right (fun _ => 0),
    .deliver .left (fun _ => 0)]

theorem timely_handshake : ipv6cpTimely 3 (some fun _ => 1) (some fun _ => 2) plainBund plainBund
    handshake := by
  refine ⟨trivial, trivial, trivial, trivial, ?_, ?_, ?_, ?_, trivial⟩
  all_goals decide +kernel

theorem opened_handshake (side : Side) : ((ipv6cpNet 3 (some fun _ => 1) (some fun _ => 2) plainBund
    plainBund handshake).party side).world.fsm.state = .opened := by
  cases side <;> decide +kernel

theorem ipv6cp_peers_handshake :
    let ipv6cp (side : Side) := ((ipv6cpNet 3 (some fun _ => 1) (some fun _ => 2) plainBund
      plainBund handshake).party side).world.layer.ipv6cp
    (∀ side, (ipv6cp side).hisintid = (ipv6cp side.other).myintid ∧
        emptyIdentifier (ipv6cp side).hisintid = false) ∧
      (ipv6cp .left).myintid ≠ (ipv6cp .right).myintid :=
  ipv6cp_peers timely_handshake opened_handshake

theorem peers_agree_handshake :
    let net := ipv6cpNet 3 (some fun _ => 1) (some fun _ => 2) plainBund plainBund handshake
    ∃ verdict, (net.party .right).heard = some verdict ∧ verdict.accepted = true ∧
      outlook.view verdict.content = outlook.asks (net.party .left).world ∧
      ((net.party .right).world.fsm.state.settled = true →
        Knows verdict.content (outlook.records (net.party .right).world)) :=
  peers_agree (ipv6cpType_orderly 3) (ipv6cp_notes 3) timely_handshake
    (congrArg FsmState.accepted (opened_handshake .left))

end Peers

end Mpd.Ipv6cp
