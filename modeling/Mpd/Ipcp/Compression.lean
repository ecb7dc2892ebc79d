import Mpd.Fsm.Settled
import Mpd.Ipcp.Exclusive
import Mathlib.Data.List.Induction

/-! Van Jacobson compression towards the peer over whole histories of negotiation: what of the
requests of the peer is in force when IPCP is Opened. -/

set_option autoImplicit false

namespace Mpd.Ipcp

def vjcAllowed (b : Bund) : Bool :=
  b.ipcp.conf.options.acceptable ipcpConfVjcomp || b.params.vjc_enable

def packetOptions (bp : Bytes) : List FsmOption := (fsmExtractOptions fsmMaxOpts bp).1

def acceptableComp (allowed : Bool) (opt : FsmOption) : Bool :=
  opt.meaning? gIpcpConfOpts == some .compproto && allowed &&
    ((ipcpOptVjcomp opt).proto == protoVjcomp && (ipcpOptVjcomp opt).handles)

def lastComp (allowed : Bool) (options : List FsmOption) : Option IpcpVjcomp :=
  (options.filter (acceptableComp allowed)).getLast?.map ipcpOptVjcomp

theorem lastComp_concat (allowed : Bool) (options : List FsmOption) (opt : FsmOption) :
    lastComp allowed (options ++ [opt]) =
      if acceptableComp allowed opt then some (ipcpOptVjcomp opt) else lastComp allowed options := by
  unfold lastComp
  cases acceptable : acceptableComp allowed opt <;> simp [acceptable]

theorem lastComp_append (allowed : Bool) (first second : List FsmOption) :
    lastComp allowed (first ++ second) = (lastComp allowed second).or (lastComp allowed first) := by
  unfold lastComp
  rw [List.filter_append, List.getLast?_append, Option.map_or]

theorem proto_lastComp {allowed : Bool} {options : List FsmOption} {vj : IpcpVjcomp}
    (found : lastComp allowed options = some vj) : vj.proto = protoVjcomp := by
  obtain ⟨opt, last, rfl⟩ := Option.map_eq_some_iff.mp found
  have member := List.mem_of_getLast? last
  have acceptable := (List.mem_filter.mp member).2
  simp only [acceptableComp, Bool.and_eq_true, beq_iff_eq] at acceptable
  exact acceptable.2.1

/-- The call kept the compression and whether it is allowed, and did not settle the FSM. -/
structure KeepsCompression (before after : FsmWorld Bund) : Prop where
  peer_comp : after.layer.ipcp.peer_comp = before.layer.ipcp.peer_comp
  allowed : vjcAllowed after.layer = vjcAllowed before.layer
  settled : after.fsm.state.settled → before.fsm.state.settled

theorem KeepsCompression.refl (w : FsmWorld Bund) : KeepsCompression w w :=
  ⟨rfl, rfl, id⟩

theorem KeepsCompression.trans {first second third : FsmWorld Bund}
    (left : KeepsCompression first second) (right : KeepsCompression second third) :
    KeepsCompression first third :=
  ⟨right.peer_comp.trans left.peer_comp, right.allowed.trans left.allowed,
    fun settled => left.settled (right.settled settled)⟩

/-- A change of the bundle that leaves the compression alone. -/
theorem keepsCompression_layer {layer : Bund} (w : FsmWorld Bund)
    (peer_comp : layer.ipcp.peer_comp = w.layer.ipcp.peer_comp)
    (allowed : vjcAllowed layer = vjcAllowed w.layer) : KeepsCompression w { w with layer } :=
  ⟨peer_comp, allowed, id⟩

theorem setIface_keepsCompression (iface : Iface) (w : FsmWorld Bund) :
    KeepsCompression w (w.setIface iface) :=
  keepsCompression_layer w rfl rfl

section Decoding

theorem ipcpDecodeConfig_concat (options : List FsmOption) (opt : FsmOption) (mode : FsmMode)
    (w : FsmWorld Bund) :
    ipcpDecodeConfig (options ++ [opt]) mode w =
      ipcpDecodeOption mode opt (ipcpDecodeConfig options mode w) := by
  simp [ipcpDecodeConfig]

theorem ipcpDecodeSupported_keepsCompression {mode : FsmMode} (answer : mode ≠ .req)
    (meaning : IpcpOpt) (opt : FsmOption) (w : FsmWorld Bund) :
    KeepsCompression w (ipcpDecodeSupported mode meaning opt w) := by
  cases mode with
  | req => exact absurd rfl answer
  | nop => cases meaning <;> exact .refl w
  | rej => cases meaning <;> exact keepsCompression_layer w rfl rfl
  | nak =>
      cases meaning with
      | ipaddr =>
          simp only [ipcpDecodeSupported, ipcpDecodeIpaddr]
          split_ifs
          · exact keepsCompression_layer w rfl rfl
          · exact .refl w
      | compproto =>
          simp only [ipcpDecodeSupported, ipcpDecodeCompproto]
          split_ifs
          · exact keepsCompression_layer w rfl rfl
          · exact .refl w
      | _ => exact keepsCompression_layer w rfl rfl

/-- An answer to our own request has nothing to do with the compression towards the peer. -/
theorem ipcpDecodeConfig_keepsCompression (options : List FsmOption) {mode : FsmMode}
    (answer : mode ≠ .req) (w : FsmWorld Bund) :
    KeepsCompression w (ipcpDecodeConfig options mode w) := by
  induction options using List.reverseRecOn with
  | nil => exact .refl w
  | append_singleton options opt ih =>
      rw [ipcpDecodeConfig_concat]
      refine ih.trans ?_
      unfold ipcpDecodeOption
      split
      · rw [if_neg answer]
        exact .refl _
      · exact ipcpDecodeSupported_keepsCompression answer _ opt _

theorem peer_comp_ipcpRecord {opt : FsmOption} {b : Bund} (acks : ipcpAcks b opt = true) :
    (ipcpRecord opt b).ipcp.peer_comp =
      if acceptableComp (vjcAllowed b) opt then ipcpOptVjcomp opt else b.ipcp.peer_comp := by
  unfold ipcpAcks at acks
  unfold ipcpRecord acceptableComp
  cases meaning : opt.meaning? gIpcpConfOpts with
  | none => simp [meaning] at acks
  | some supported =>
      rw [meaning, Option.any_some] at acks
      cases supported with
      | compproto =>
          simp only [ipcpAcksSupported] at acks
          simp [vjcAllowed, acks, ipcpRecordSupported]
      | _ => rfl

theorem not_acceptableComp {opt : FsmOption} {b : Bund} (refuses : ipcpAcks b opt = false) :
    acceptableComp (vjcAllowed b) opt = false := by
  unfold ipcpAcks at refuses
  unfold acceptableComp
  cases meaning : opt.meaning? gIpcpConfOpts with
  | none => rfl
  | some supported =>
      rw [meaning, Option.any_some] at refuses
      cases supported with
      | compproto =>
          simp only [ipcpAcksSupported] at refuses
          simpa [vjcAllowed] using refuses
      | _ => rfl

/-- A request of any content leaves its last acceptable compression, if it has one, whether it
is acknowledged or not. -/
theorem ipcpDecodeConfig_req (options : List FsmOption) (w : FsmWorld Bund) :
    (ipcpDecodeConfig options .req w).layer.ipcp.peer_comp =
        (lastComp (vjcAllowed w.layer) options).getD w.layer.ipcp.peer_comp ∧
      vjcAllowed (ipcpDecodeConfig options .req w).layer = vjcAllowed w.layer := by
  induction options using List.reverseRecOn with
  | nil => exact ⟨rfl, rfl⟩
  | append_singleton options opt ih =>
      obtain ⟨peer_comp, allowed⟩ := ih
      rw [ipcpDecodeConfig_concat, lastComp_concat]
      generalize ipcpDecodeConfig options .req w = w' at peer_comp allowed ⊢
      cases verdict : ipcpAcks w'.layer opt with
      | true =>
          have recorded := peer_comp_ipcpRecord verdict
          rw [ipcpDecodeOption_of_acks verdict, fsmAck_eq]
          rw [allowed, peer_comp] at recorded
          refine ⟨recorded.trans ?_, ?_⟩
          · split_ifs <;> rfl
          · rw [← allowed]
            unfold ipcpRecord vjcAllowed
            cases opt.meaning? gIpcpConfOpts with
            | none => rfl
            | some meaning => cases meaning <;> rfl
      | false =>
          have other := not_acceptableComp verdict
          rw [allowed] at other
          rw [if_neg (by simp [other])]
          rcases ipcpDecodeOption_of_refuses verdict with ⟨other, same⟩ | ⟨other, same⟩
          · rw [same, fsmNak_eq]
            exact ⟨peer_comp, allowed⟩
          · rw [same, fsmRej_eq]
            exact ⟨peer_comp, allowed⟩

end Decoding

section Configure

theorem bundPoolGet_keeps {pool : Bytes} {b b' : Bund} {found : Option URange}
    (got : bundPoolGet pool b = (found, b')) : b'.params = b.params ∧ b'.ipcp = b.ipcp := by
  have same : (bundPoolGet pool b).2.params = b.params ∧ (bundPoolGet pool b).2.ipcp = b.ipcp := by
    unfold bundPoolGet
    dsimp only
    split <;> exact ⟨rfl, rfl⟩
  rw [got] at same
  exact same

theorem vjcAllowed_ipcpSelfRange (b : Bund) : vjcAllowed (ipcpSelfRange b) = vjcAllowed b := by
  unfold ipcpSelfRange
  dsimp only
  split_ifs
  · split <;> rename_i got
    · obtain ⟨params, -⟩ := bundPoolGet_keeps got
      simp only [vjcAllowed, params]
    · obtain ⟨params, ipcp⟩ := bundPoolGet_keeps got
      simp only [vjcAllowed, params, ipcp]
  · rfl

theorem vjcAllowed_ipcpPeerRange (b : Bund) : vjcAllowed (ipcpPeerRange b) = vjcAllowed b := by
  unfold ipcpPeerRange
  dsimp only
  split
  · rfl
  · split_ifs
    · split <;> rename_i got
      · obtain ⟨params, -⟩ := bundPoolGet_keeps got
        simp only [vjcAllowed, params]
      · obtain ⟨params, ipcp⟩ := bundPoolGet_keeps got
        simp only [vjcAllowed, params, ipcp]
    · split <;> rename_i got
      · obtain ⟨params, -⟩ := bundPoolGet_keeps got
        simp only [vjcAllowed, params]
      · obtain ⟨params, ipcp⟩ := bundPoolGet_keeps got
        simp only [vjcAllowed, params, ipcp]
    · rfl

theorem vjcAllowed_ipcpConfigure (w : FsmWorld Bund) :
    vjcAllowed (ipcpConfigure w).layer = vjcAllowed w.layer :=
  (vjcAllowed_ipcpPeerRange _).trans (vjcAllowed_ipcpSelfRange _)

end Configure

section Layer

/-- Everything of IPCP but `IpcpConfigure`, the decoding of a request and that of a
Configure-Nak leaves the compression alone. -/
theorem ipcpTypeWith_unsettling {layerUp layerDown : FsmWorld Bund → FsmWorld Bund}
    (up : ∀ w, KeepsCompression w (layerUp w)) (down : ∀ w, KeepsCompression w (layerDown w)) :
    Unsettling (ipcpTypeWith layerUp layerDown).unconfigured KeepsCompression where
  refl := .refl
  trans := .trans
  fsm _ _ settled := ⟨rfl, rfl, settled⟩
  emit _ _ := ⟨rfl, rfl, id⟩
  newState _ _ settled := ⟨rfl, rfl, settled⟩
  settled := KeepsCompression.settled
  layerUp := up
  layerDown := down
  layerStart w := keepsCompression_layer w rfl rfl
  layerFinish w := by
    change KeepsCompression w (bundNcpsFinish w)
    unfold bundNcpsFinish
    dsimp only
    split_ifs
    · exact keepsCompression_layer w rfl rfl
    · exact keepsCompression_layer w rfl rfl
  buildConfigReq := .refl
  decodeConfig options mode w other :=
    ipcpDecodeConfig_keepsCompression options (by rcases other with rfl | rfl <;> decide) w
  configure := .refl
  unConfigure w := by
    change KeepsCompression w (ipcpUnConfigure w)
    unfold ipcpUnConfigure
    dsimp only
    split_ifs <;> exact keepsCompression_layer w rfl rfl
  sendTerminateReq := .refl
  sendTerminateAck := .refl
  recvCodeRej _ absent := nomatch absent
  recvProtoRej _ absent := nomatch absent
  failure _ := .refl
  recvResetReq _ _ := .refl
  recvResetAck _ _ := .refl
  recvIdent _ := .refl
  recvDiscReq _ := .refl
  recvTimeRemain _ := .refl
  recvVendor _ := .refl

theorem ifaceFrame_keepsCompression : IfaceFrame KeepsCompression where
  refl := .refl
  trans := .trans
  setIface := setIface_keepsCompression
  configured w _ := keepsCompression_layer w rfl rfl

/-- The same however deep the layer handlers re-enter. -/
theorem ipcpType_unsettling (depth : Nat) :
    Unsettling (ipcpType depth).unconfigured KeepsCompression := by
  -- a failure never configures
  have layers := ifaceFrame_keepsCompression.ipcpLayerWithin
    (fun w => keepsCompression_layer w rfl rfl) (fun w => keepsCompression_layer w rfl rfl)
    (fun up down => (ipcpTypeWith_unsettling up down).fsmFailure) depth
  exact ipcpTypeWith_unsettling (layers true) (layers false)

end Layer

structure NgmVjcConfig where
  enableComp : Bool
  enableDecomp : Bool
  maxChannel : UInt8
  compressCID : UInt8
  deriving DecidableEq, Repr

def ipcpVjcConfig (ipcp : IpcpState) : NgmVjcConfig :=
  if ipcp.peer_comp.proto = protoVjcomp ∨ ipcp.want_comp.proto = protoVjcomp then
    { enableComp := ipcp.peer_comp.proto = protoVjcomp
      enableDecomp := ipcp.want_comp.proto = protoVjcomp
      maxChannel := ipcp.peer_comp.maxchan
      compressCID := ipcp.peer_comp.compcid }
  else ⟨false, false, 0, 0⟩

/-- `IpcpInit`: the whole state is zero but for its configuration. -/
def ipcpInitState (conf : IpcpConf) : IpcpState where
  conf
  want_addr := 0
  peer_addr := 0
  self_allow := ⟨⟨.unspec, 0, []⟩, 0⟩
  peer_allow := ⟨⟨.unspec, 0, []⟩, 0⟩
  self_ippool_used := false
  ippool_used := false
  peer_comp := ⟨0, 0, 0⟩
  want_comp := ⟨0, 0, 0⟩
  want_dns := ⟨0, 0⟩
  want_nbns := ⟨0, 0⟩
  peer_reject := 0

/-- IPCP with the requests of the peer that it decoded since `IpcpConfigure` last ran, and the
last request that it acknowledged. Both lists are no part of the program. -/
structure History where
  world : FsmWorld Bund
  requests : List Bytes
  lastAcked : Option Bytes

def historyStep (depth : Nat) (s : History) (event : FsmEvent) : History where
  world := fsmStep (ipcpType depth) s.world event
  requests :=
    match answeredRequest (ipcpType depth) s.world event with
    | some bp => (if s.world.fsm.state = .stopped then [] else s.requests) ++ [bp]
    | none => if configures s.world event then [] else s.requests
  lastAcked := (acknowledgedRequest (ipcpType depth) s.world event).or s.lastAcked

/-- A bundle of any configuration, right after `IpcpInit`. -/
def historyStart (b : Bund) : History where
  world := FsmWorld.init { b with ipcp := ipcpInitState b.ipcp.conf }
  requests := []
  lastAcked := none

def history (depth : Nat) (b : Bund) (events : List FsmEvent) : History :=
  Transition.run (historyStep depth) (historyStart b) events

def History.lastComp (s : History) (requests : List Bytes) : Option IpcpVjcomp :=
  Ipcp.lastComp (vjcAllowed s.world.layer) (requests.flatMap packetOptions)

def Records (comp : IpcpVjcomp) : Option IpcpVjcomp → Prop
  | some vj => comp = vj
  | none => comp.proto = 0

/-- The recorded compression is that of the requests since `IpcpConfigure`. The last of these
stands acknowledged where the FSM is settled. -/
structure HistoryInv (s : History) : Prop where
  recorded : Records s.world.layer.ipcp.peer_comp (s.lastComp s.requests)
  acked : s.world.fsm.state.settled → s.requests.getLast? = s.lastAcked ∧ s.lastAcked.isSome

theorem historyInv_start (b : Bund) : HistoryInv (historyStart b) :=
  ⟨rfl, nofun⟩

section Step

variable {depth : Nat} {s : History} {event : FsmEvent}

/-- A step that decodes no request and does not configure. -/
theorem historyInv_of_silent (inv : HistoryInv s)
    (silent : answeredRequest (ipcpType depth) s.world event = none)
    (stays : configures s.world event = false) : HistoryInv (historyStep depth s event) := by
  have kept := (ipcpType_unsettling depth).kept_of_silent silent stays fun bp _ =>
    ipcpDecodeConfig_keepsCompression (packetOptions bp) (by decide : FsmMode.nak ≠ .req) s.world
  have requests : (historyStep depth s event).requests = s.requests := by
    simp [historyStep, silent, stays]
  have last : (historyStep depth s event).lastAcked = s.lastAcked := by
    simp [historyStep, acknowledgedRequest, silent]
  constructor
  · have same : (historyStep depth s event).lastComp s.requests = s.lastComp s.requests :=
      congrArg (Ipcp.lastComp · _) kept.allowed
    have comp : (historyStep depth s event).world.layer.ipcp.peer_comp =
        s.world.layer.ipcp.peer_comp := kept.peer_comp
    rw [requests, same, comp]
    exact inv.recorded
  · intro settled
    rw [requests, last]
    exact inv.acked (kept.settled settled)

/-- `IpcpConfigure` forgets the compression, and the rest of its step leaves it at that. -/
theorem historyInv_of_configures (configured : configures s.world event = true) :
    HistoryInv (historyStep depth s event) := by
  obtain ⟨silent, kept⟩ := (ipcpType_unsettling depth).kept_of_configures configured
  have requests : (historyStep depth s event).requests = [] := by
    simp [historyStep, silent, configured]
  constructor
  · have off : (historyStep depth s event).world.layer.ipcp.peer_comp.proto = 0 :=
      congrArg (·.proto) kept.peer_comp
    rw [requests]
    exact off
  · intro settled
    have before := kept.settled settled
    cases before

theorem historyInv_of_answered (inv : HistoryInv s) {bp : Bytes}
    (answered : answeredRequest (ipcpType depth) s.world event = some bp) :
    HistoryInv (historyStep depth s event) := by
  let started := configReqStart (ipcpType depth) s.world
  let earlier := if s.world.fsm.state = .stopped then [] else s.requests
  have requests : (historyStep depth s event).requests = earlier ++ [bp] := by
    simp only [historyStep, answered]
    rfl
  -- a request that comes in Stopped finds the compression forgotten
  have start : vjcAllowed started.layer = vjcAllowed s.world.layer ∧
      Records started.layer.ipcp.peer_comp (s.lastComp earlier) := by
    unfold started earlier configReqStart
    split_ifs
    · exact ⟨vjcAllowed_ipcpConfigure _, rfl⟩
    · exact ⟨rfl, inv.recorded⟩
  obtain ⟨same, acked⟩ := (ipcpType_unsettling depth).same_of_answered
    (fun w => (w.layer.ipcp.peer_comp, vjcAllowed w.layer))
    (fun kept => Prod.ext kept.peer_comp kept.allowed) (fun _ _ => rfl) answered
  obtain ⟨peer_comp, allowed⟩ := ipcpDecodeConfig_req (packetOptions bp)
    { started with ack := [], nak := [], rej := [] }
  have comp : (historyStep depth s event).world.layer.ipcp.peer_comp =
      (lastComp (vjcAllowed started.layer) (packetOptions bp)).getD
        started.layer.ipcp.peer_comp := (congrArg Prod.fst same).trans peer_comp
  have allowedNow : vjcAllowed (historyStep depth s event).world.layer =
      vjcAllowed started.layer := (congrArg Prod.snd same).trans allowed
  constructor
  · have found : (historyStep depth s event).lastComp (earlier ++ [bp]) =
        (lastComp (vjcAllowed started.layer) (packetOptions bp)).or (s.lastComp earlier) := by
      simp only [History.lastComp, allowedNow, List.flatMap_append, List.flatMap_singleton,
        lastComp_append, start.1]
    rw [requests, found, comp]
    cases lastComp (vjcAllowed started.layer) (packetOptions bp) with
    | some vj => rfl
    | none => exact start.2
  · intro settled
    have last : (historyStep depth s event).lastAcked = some bp := by
      simp only [historyStep, acked settled, Option.some_or]
    rw [requests, last, List.getLast?_concat]
    exact ⟨rfl, rfl⟩

theorem historyInv_step (inv : HistoryInv s) : HistoryInv (historyStep depth s event) := by
  cases answered : answeredRequest (ipcpType depth) s.world event with
  | some bp => exact historyInv_of_answered inv answered
  | none =>
      cases configured : configures s.world event with
      | true => exact historyInv_of_configures configured
      | false => exact historyInv_of_silent inv answered configured

end Step

theorem historyInv_history (depth : Nat) (b : Bund) (events : List FsmEvent) :
    HistoryInv (history depth b events) :=
  Transition.invariant_run _ (fun _ _ inv _ => historyInv_step inv) (historyInv_start b)
    (Transition.meets_of_forall _ (fun _ _ => trivial) _ events)

def CompressesRight (s : History) : Prop :=
  ∃ bp ∈ s.lastAcked,
    match s.lastComp [bp] with
    | some vj => ipcpVjcConfig s.world.layer.ipcp =
        { ipcpVjcConfig s.world.layer.ipcp with
          enableComp := true, maxChannel := vj.maxchan, compressCID := vj.compcid }
    | none => (ipcpVjcConfig s.world.layer.ipcp).enableComp = false

/-- The last request carries an acceptable compression, or no earlier one since `IpcpConfigure`
does. -/
def NothingStale (s : History) : Prop :=
  (s.lastComp s.requests.getLast?.toList).isSome ∨ s.lastComp s.requests.dropLast = none

instance (s : History) : Decidable (NothingStale s) :=
  inferInstanceAs (Decidable (_ ∨ _))

theorem enableComp_ipcpVjcConfig (ipcp : IpcpState) :
    (ipcpVjcConfig ipcp).enableComp = decide (ipcp.peer_comp.proto = protoVjcomp) := by
  unfold ipcpVjcConfig
  split_ifs with either
  · rfl
  · exact (decide_eq_false (not_or.mp either).1).symm

theorem ipcpVjcConfig_of_proto {ipcp : IpcpState} (proto : ipcp.peer_comp.proto = protoVjcomp) :
    ipcpVjcConfig ipcp = { ipcpVjcConfig ipcp with
      enableComp := true, maxChannel := ipcp.peer_comp.maxchan
      compressCID := ipcp.peer_comp.compcid } := by
  unfold ipcpVjcConfig
  simp [proto]

/-- In an Opened IPCP the compression towards the peer is that of the last acknowledged request
exactly when that request carries one, or nothing was recorded before it. -/
theorem compressesRight_iff {depth : Nat} {b : Bund} {events : List FsmEvent}
    (opened : (history depth b events).world.fsm.state = .opened) :
    CompressesRight (history depth b events) ↔ NothingStale (history depth b events) := by
  obtain ⟨recorded, acked⟩ := historyInv_history depth b events
  generalize history depth b events = s at *
  obtain ⟨last, some⟩ := acked (by rw [opened]; rfl)
  obtain ⟨bp, found⟩ := Option.isSome_iff_exists.mp some
  rw [found] at last
  have split : s.requests = s.requests.dropLast ++ [bp] :=
    (List.dropLast_append_getLast? bp last).symm
  have both : s.lastComp s.requests = (s.lastComp [bp]).or (s.lastComp s.requests.dropLast) := by
    rw [split, List.dropLast_concat]
    simp only [History.lastComp, List.flatMap_append, List.flatMap_singleton, lastComp_append]
  rw [both] at recorded
  unfold CompressesRight NothingStale
  simp only [found, Option.mem_some_iff, exists_eq_left', last, Option.toList_some]
  cases own : s.lastComp [bp] with
  | some vj =>
      rw [own] at recorded
      have comp : s.world.layer.ipcp.peer_comp = vj := recorded
      have proto : s.world.layer.ipcp.peer_comp.proto = protoVjcomp := comp ▸ proto_lastComp own
      have right := ipcpVjcConfig_of_proto proto
      rw [comp] at right
      simpa using right
  | none =>
      simp only [Option.isSome_none, Bool.false_eq_true, false_or, enableComp_ipcpVjcConfig,
        decide_eq_false_iff_not]
      rw [own, Option.none_or] at recorded
      cases earlier : s.lastComp s.requests.dropLast with
      | none =>
          rw [earlier] at recorded
          have off : s.world.layer.ipcp.peer_comp.proto = 0 := recorded
          simp [off, protoVjcomp]
      | some vj =>
          rw [earlier] at recorded
          have comp : s.world.layer.ipcp.peer_comp = vj := recorded
          simp [comp, proto_lastComp earlier]

/-- Open, Up, and one request of the peer after the other, before our own is acknowledged. -/
def negotiated (requests : List Bytes) : History :=
  history 2 { Bund.pooled with params := { Bund.pooled.params with vjc_enable := true } }
    ([.open, .up] ++ requests.map (FsmEvent.receive .configReq 1) ++ [.receive .configAck 1 []])

def compRequest : Bytes := fsmConfValue IpcpOpt.compproto.num ipcpOffersVjcomp.bytes

theorem compressesRight_renewed : CompressesRight (negotiated [[], compRequest]) :=
  (compressesRight_iff (by decide)).mpr (by decide)

/-- What an earlier request asked for is still in force after one that does not ask for it. -/
example : (ipcpVjcConfig (negotiated [compRequest, []]).world.layer.ipcp).enableComp = true := by
  decide

end Mpd.Ipcp
