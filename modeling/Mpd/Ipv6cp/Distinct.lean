import Mpd.Fsm.Acknowledgement
import Mpd.Fsm.Settled
import Mpd.Ipv6cp.Layer
import Mpd.Transition
import Mathlib.Data.List.Induction

/-! The two interface identifiers of IPV6CP over whole histories of negotiation. -/

set_option autoImplicit false

namespace Mpd.Ipv6cp

def isIdentifier (opt : FsmOption) : Bool := opt.meaning? gIpv6cpConfOpts == some .intident

def lastIdentifier (options : List FsmOption) : Option Bytes :=
  (options.filter isIdentifier).getLast?.map (·.data)

def packetOptions (bp : Bytes) : List FsmOption := (fsmExtractOptions fsmMaxOpts bp).1

theorem lastIdentifier_concat (options : List FsmOption) (opt : FsmOption) :
    lastIdentifier (options ++ [opt]) =
      if isIdentifier opt then some opt.data else lastIdentifier options := by
  unfold lastIdentifier
  cases identifier : isIdentifier opt <;> simp [identifier]

/-- The call kept both identifiers and the verdict on a request, and did not settle the FSM. -/
structure KeepsIdentifiers (before after : FsmWorld Ipv6Bund) : Prop where
  myintid : after.layer.ipv6cp.myintid = before.layer.ipv6cp.myintid
  hisintid : after.layer.ipv6cp.hisintid = before.layer.ipv6cp.hisintid
  nak : after.nak = before.nak
  rej : after.rej = before.rej
  settled : after.fsm.state.settled → before.fsm.state.settled

theorem KeepsIdentifiers.refl (w : FsmWorld Ipv6Bund) : KeepsIdentifiers w w :=
  ⟨rfl, rfl, rfl, rfl, id⟩

theorem KeepsIdentifiers.trans {first second third : FsmWorld Ipv6Bund}
    (left : KeepsIdentifiers first second) (right : KeepsIdentifiers second third) :
    KeepsIdentifiers first third :=
  ⟨right.myintid.trans left.myintid, right.hisintid.trans left.hisintid,
    right.nak.trans left.nak, right.rej.trans left.rej, fun settled => left.settled (right.settled settled)⟩

/-- A change of the bundle that leaves the identifiers alone. -/
theorem keepsIdentifiers_layer {layer : Ipv6Bund} (w : FsmWorld Ipv6Bund)
    (myintid : layer.ipv6cp.myintid = w.layer.ipv6cp.myintid)
    (hisintid : layer.ipv6cp.hisintid = w.layer.ipv6cp.hisintid) :
    KeepsIdentifiers w { w with layer } :=
  ⟨myintid, hisintid, rfl, rfl, id⟩

theorem setIface_keeps (iface : Iface) (w : FsmWorld Ipv6Bund) :
    KeepsIdentifiers w (setIface iface w) :=
  keepsIdentifiers_layer w rfl rfl

section Decoding

theorem ipv6cpDecodeConfig_concat (options : List FsmOption) (opt : FsmOption) (mode : FsmMode)
    (w : FsmWorld Ipv6Bund) :
    ipv6cpDecodeConfig (options ++ [opt]) mode w =
      ipv6cpDecodeOption mode opt (ipv6cpDecodeConfig options mode w) := by
  simp [ipv6cpDecodeConfig]

theorem ipv6cpDecodeOption_keeps (opt : FsmOption) {mode : FsmMode}
    (other : mode = .rej ∨ mode = .nop) (w : FsmWorld Ipv6Bund) :
    KeepsIdentifiers w (ipv6cpDecodeOption mode opt w) := by
  unfold ipv6cpDecodeOption
  rcases other with rfl | rfl
  · split
    · exact .refl w
    · exact keepsIdentifiers_layer w rfl rfl
  · split
    · exact .refl w
    · exact .refl w

theorem ipv6cpDecodeConfig_keeps (options : List FsmOption) {mode : FsmMode}
    (other : mode = .rej ∨ mode = .nop) (w : FsmWorld Ipv6Bund) :
    KeepsIdentifiers w (ipv6cpDecodeConfig options mode w) := by
  induction options using List.reverseRecOn with
  | nil => exact .refl w
  | append_singleton options opt ih =>
      rw [ipv6cpDecodeConfig_concat]
      exact ih.trans (ipv6cpDecodeOption_keeps opt other _)

/-- A Configure-Nak makes its last identifier our own. -/
theorem ipv6cpDecodeConfig_nak (options : List FsmOption) (w : FsmWorld Ipv6Bund) :
    (ipv6cpDecodeConfig options .nak w).layer.ipv6cp.myintid =
        (lastIdentifier options).getD w.layer.ipv6cp.myintid ∧
      (ipv6cpDecodeConfig options .nak w).layer.ipv6cp.hisintid = w.layer.ipv6cp.hisintid ∧
      (ipv6cpDecodeConfig options .nak w).fsm = w.fsm := by
  induction options using List.reverseRecOn with
  | nil => exact ⟨rfl, rfl, rfl⟩
  | append_singleton options opt ih =>
      obtain ⟨myintid, hisintid, fsm⟩ := ih
      rw [ipv6cpDecodeConfig_concat, lastIdentifier_concat]
      unfold ipv6cpDecodeOption isIdentifier
      cases meaning : opt.meaning? gIpv6cpConfOpts with
      | none => exact ⟨myintid, hisintid, fsm⟩
      | some supported =>
          cases supported
          exact ⟨rfl, hisintid, fsm⟩

/-- The decoding of a request leaves our own identifier and the state alone. -/
theorem ipv6cpDecodeConfig_req (options : List FsmOption) (w : FsmWorld Ipv6Bund) :
    (ipv6cpDecodeConfig options .req w).layer.ipv6cp.myintid = w.layer.ipv6cp.myintid := by
  induction options using List.reverseRecOn with
  | nil => rfl
  | append_singleton options opt ih =>
      rw [ipv6cpDecodeConfig_concat, ← ih]
      generalize ipv6cpDecodeConfig options .req w = w'
      unfold ipv6cpDecodeOption decodeIntident
      split
      · rw [if_pos rfl, fsmRej_eq]
      · dsimp only
        split_ifs
        · rw [fsmNak_eq]
        · rw [fsmNak_eq]
        · rw [fsmAck_eq]
          rfl

/-- An option leaves no trace in the two buffers of refusal only if it carries an
identifier that IPV6CP takes over for the peer. -/
theorem fullyAcked_ipv6cpDecodeOption {opt : FsmOption} {w : FsmWorld Ipv6Bund}
    (acked : (ipv6cpDecodeOption .req opt w).fullyAcked = true) :
    w.fullyAcked = true ∧ isIdentifier opt = true ∧ emptyIdentifier opt.data = false ∧
      opt.data ≠ w.layer.ipv6cp.myintid ∧
      (ipv6cpDecodeOption .req opt w).layer.ipv6cp.hisintid = opt.data := by
  unfold ipv6cpDecodeOption isIdentifier at *
  cases meaning : opt.meaning? gIpv6cpConfOpts with
  | none =>
      simp only [meaning, if_true, fsmRej_eq] at acked
      simp [FsmWorld.fullyAcked, fsmAppend_ne_nil] at acked
  | some supported =>
      cases supported
      simp only [meaning, decodeIntident] at acked ⊢
      split_ifs at acked ⊢ with empty same
      · rw [fsmNak_eq] at acked
        simp [FsmWorld.fullyAcked, fsmAppend_ne_nil] at acked
      · rw [fsmNak_eq] at acked
        simp [FsmWorld.fullyAcked, fsmAppend_ne_nil] at acked
      · rw [fsmAck_eq] at acked ⊢
        exact ⟨acked, rfl, by simpa using empty, same, rfl⟩

/-- What IPV6CP knows of the peer after a request that it acknowledges: the last identifier
of the request, which is neither zero nor our own. -/
theorem fullyAcked_ipv6cpDecodeConfig {options : List FsmOption} {w : FsmWorld Ipv6Bund}
    (nonempty : options ≠ [])
    (acked : (ipv6cpDecodeConfig options .req w).fullyAcked = true) :
    let hisintid := (ipv6cpDecodeConfig options .req w).layer.ipv6cp.hisintid
    lastIdentifier options = some hisintid ∧ emptyIdentifier hisintid = false ∧
      hisintid ≠ w.layer.ipv6cp.myintid := by
  obtain ⟨options, opt, rfl⟩ := List.eq_nil_or_concat' options |>.resolve_left nonempty
  dsimp only
  rw [ipv6cpDecodeConfig_concat] at acked ⊢
  obtain ⟨-, identifier, nonzero, different, recorded⟩ := fullyAcked_ipv6cpDecodeOption acked
  rw [ipv6cpDecodeConfig_req] at different
  rw [recorded, lastIdentifier_concat, if_pos identifier]
  exact ⟨rfl, nonzero, different⟩

end Decoding

section Layer

theorem ipv6cpTypeWith_unsettling {layerUp layerDown : FsmWorld Ipv6Bund → FsmWorld Ipv6Bund}
    (up : ∀ w, KeepsIdentifiers w (layerUp w)) (down : ∀ w, KeepsIdentifiers w (layerDown w)) :
    Unsettling (ipv6cpTypeWith layerUp layerDown) KeepsIdentifiers where
  refl := .refl
  trans := .trans
  fsm _ _ settled := ⟨rfl, rfl, rfl, rfl, settled⟩
  emit _ _ := ⟨rfl, rfl, rfl, rfl, id⟩
  newState _ _ settled := ⟨rfl, rfl, rfl, rfl, settled⟩
  settled := KeepsIdentifiers.settled
  layerUp := up
  layerDown := down
  layerStart w := keepsIdentifiers_layer w rfl rfl
  layerFinish w := by
    change KeepsIdentifiers w (bundNcpsFinish w)
    unfold bundNcpsFinish
    dsimp only
    split_ifs
    · exact keepsIdentifiers_layer w rfl rfl
    · exact keepsIdentifiers_layer w rfl rfl
  buildConfigReq := .refl
  decodeConfig options _ w other := ipv6cpDecodeConfig_keeps options other w
  configure w := keepsIdentifiers_layer w rfl rfl
  unConfigure := .refl
  sendTerminateReq := .refl
  sendTerminateAck := .refl
  recvCodeRej _ absent := nomatch absent
  recvProtoRej _ absent := nomatch absent
  failure _ := .refl
  recvResetReq _ _ := .refl
  recvResetAck _ _ := .refl
  recvIdent _ := .refl
  recvDiscReq _ := .refl
  recvTimeRemain _ := .refl
  recvVendor _ := .refl

theorem ifaceFrame_keepsIdentifiers : IfaceFrame KeepsIdentifiers where
  refl := .refl
  trans := .trans
  setIface := setIface_keeps
  configured w _ := keepsIdentifiers_layer w rfl rfl
  enabled w _ := keepsIdentifiers_layer w rfl rfl

/-- No call of IPV6CP but the decoding of a request and of a Configure-Nak writes to the
identifiers, however deep its layer handlers re-enter. -/
theorem ipv6cpType_unsettling (depth : Nat) : Unsettling (ipv6cpType depth) KeepsIdentifiers := by
  have layers := ifaceFrame_keepsIdentifiers.ipv6cpLayerWithin
    (fun w => keepsIdentifiers_layer w rfl rfl)
    (fun up down => (ipv6cpTypeWith_unsettling up down).fsmFailure) depth
  exact ipv6cpTypeWith_unsettling (layers true) (layers false)

end Layer

structure History where
  world : FsmWorld Ipv6Bund
  lastAcked : Option Bytes

def historyStep (depth : Nat) (s : History) (event : FsmEvent) : History where
  world := fsmStep (ipv6cpType depth) s.world event
  lastAcked := (acknowledgedRequest (ipv6cpType depth) s.world event).or s.lastAcked

def historyStart (ether : Option (Fin 6 → UInt8)) (b : Ipv6Bund) : History where
  world := ipv6cpInit ether b
  lastAcked := none

/-- The identifier of the peer is that of the request, and neither zero nor our own. -/
structure PeerIdentified (s : History) : Prop where
  contained : ∃ bp, s.lastAcked = some bp ∧
    lastIdentifier (packetOptions bp) = some s.world.layer.ipv6cp.hisintid
  nonzero : emptyIdentifier s.world.layer.ipv6cp.hisintid = false
  distinct : s.world.layer.ipv6cp.hisintid ≠ s.world.layer.ipv6cp.myintid

/-- An answered request carries an option. A Configure-Nak that is taken does not end in
the identifier zero, nor in that of the peer while only our own request is outstanding. -/
structure Identifying (depth : Nat) (s : History) (event : FsmEvent) : Prop where
  request : ∀ bp, answeredRequest (ipv6cpType depth) s.world event = some bp →
    packetOptions bp ≠ []
  nak : ∀ bp, takenNak (ipv6cpType depth) s.world event = some bp →
    ∀ intid, lastIdentifier (packetOptions bp) = some intid → emptyIdentifier intid = false ∧
      (s.world.fsm.state = .ackSent → 0 < s.world.fsm.config →
        s.world.layer.ipv6cp.hisintid ≠ intid)

structure HistoryInv (s : History) : Prop where
  own : emptyIdentifier s.world.layer.ipv6cp.myintid = false
  peer : s.world.fsm.state.settled → PeerIdentified s

theorem historyInv_start (ether : Option (Fin 6 → UInt8)) (b : Ipv6Bund) :
    HistoryInv (historyStart ether b) := by
  refine ⟨?_, nofun⟩
  cases ether with
  | some ether => exact emptyIdentifier_etherIdentifier ether
  | none => exact emptyIdentifier_randomIdentifier _ _

section Step

variable {depth : Nat} {s : History} {event : FsmEvent}

/-- A step that keeps the identifiers and acknowledges nothing. -/
theorem historyInv_of_keeps (inv : HistoryInv s)
    (kept : KeepsIdentifiers s.world (fsmStep (ipv6cpType depth) s.world event))
    (silent : answeredRequest (ipv6cpType depth) s.world event = none) :
    HistoryInv (historyStep depth s event) := by
  refine ⟨?_, fun settled => ?_⟩
  · exact (congrArg emptyIdentifier kept.myintid).trans inv.own
  · obtain ⟨contained, nonzero, distinct⟩ := inv.peer (kept.settled settled)
    have acked : (historyStep depth s event).lastAcked = s.lastAcked := by
      simp [historyStep, acknowledgedRequest, silent]
    have hisintid : (historyStep depth s event).world.layer.ipv6cp.hisintid =
        s.world.layer.ipv6cp.hisintid := kept.hisintid
    have myintid : (historyStep depth s event).world.layer.ipv6cp.myintid =
        s.world.layer.ipv6cp.myintid := kept.myintid
    exact ⟨by rw [acked, hisintid]; exact contained, by rw [hisintid]; exact nonzero,
      by rw [hisintid, myintid]; exact distinct⟩

/-- An answered request either is acknowledged with an identifier of its own, or unsettles
the FSM. -/
theorem historyInv_of_answered (inv : HistoryInv s) {bp : Bytes}
    (answered : answeredRequest (ipv6cpType depth) s.world event = some bp)
    (nonempty : packetOptions bp ≠ []) : HistoryInv (historyStep depth s event) := by
  have h := ipv6cpType_unsettling depth
  let T := ipv6cpType depth
  obtain ⟨id, stepped⟩ := fsmStep_of_answered answered
  let started := configReqStart T s.world
  let decoded := fsmDecodeBuffer T bp .req started
  have start : KeepsIdentifiers s.world started := by
    unfold started configReqStart
    split_ifs
    · exact h.fsmConfigure s.world
    · exact .refl s.world
  have own : decoded.layer.ipv6cp.myintid = s.world.layer.ipv6cp.myintid :=
    (ipv6cpDecodeConfig_req (packetOptions bp)
      { started with ack := [], nak := [], rej := [] }).trans start.myintid
  have negotiated : KeepsIdentifiers decoded (configReqDecoded T bp s.world) := h.fsmRenegotiate _
  have verdict : decoded.fullyAcked = (configReqDecoded T bp s.world).fullyAcked := by
    simp only [FsmWorld.fullyAcked, negotiated.nak, negotiated.rej]
  cases acked : (configReqDecoded T bp s.world).fullyAcked with
  | false =>
      obtain ⟨kept, unsettled⟩ := h.refused id acked
      refine ⟨?_, fun settled => ?_⟩
      · change emptyIdentifier (fsmStep T s.world event).layer.ipv6cp.myintid = false
        rw [stepped, kept.myintid, negotiated.myintid, own]
        exact inv.own
      · change (fsmStep T s.world event).fsm.state.settled = true at settled
        rw [stepped, unsettled] at settled
        cases settled
  | true =>
      have same := h.same_of_acked
        (fun w => (w.layer.ipv6cp.myintid, w.layer.ipv6cp.hisintid))
        (fun kept => Prod.ext kept.myintid kept.hisintid) (fun _ _ => rfl) id acked
      rw [← stepped] at same
      have myintid : (historyStep depth s event).world.layer.ipv6cp.myintid =
          s.world.layer.ipv6cp.myintid :=
        (congrArg Prod.fst same).trans (negotiated.myintid.trans own)
      have hisintid : (historyStep depth s event).world.layer.ipv6cp.hisintid =
          decoded.layer.ipv6cp.hisintid := (congrArg Prod.snd same).trans negotiated.hisintid
      have last : (historyStep depth s event).lastAcked = some bp := by
        simp only [historyStep, acknowledgedRequest, answered, Option.filter_some]
        rw [if_pos acked, Option.some_or]
      rw [acked] at verdict
      obtain ⟨contained, nonzero, distinct⟩ := fullyAcked_ipv6cpDecodeConfig nonempty
        (w := { started with ack := [], nak := [], rej := [] }) verdict
      refine ⟨by rw [myintid]; exact inv.own, fun _ => ⟨⟨bp, last, ?_⟩, ?_, ?_⟩⟩
      · rw [hisintid]
        exact contained
      · rw [hisintid]
        exact nonzero
      · rw [hisintid, myintid, ← start.myintid]
        exact distinct

theorem historyInv_of_takenNak (inv : HistoryInv s) {bp : Bytes}
    (taken : takenNak (ipv6cpType depth) s.world event = some bp)
    (sound : Identifying depth s event) : HistoryInv (historyStep depth s event) := by
  have h := ipv6cpType_unsettling depth
  obtain ⟨stepped, silent⟩ := fsmStep_of_takenNak taken
  obtain ⟨kept, left⟩ := h.afterNak bp s.world
  obtain ⟨myintid, hisintid, fsm⟩ := ipv6cpDecodeConfig_nak (packetOptions bp) s.world
  rw [← stepped] at kept left
  have own := kept.myintid.trans myintid
  have peer := kept.hisintid.trans hisintid
  have last : (historyStep depth s event).lastAcked = s.lastAcked := by
    simp [historyStep, acknowledgedRequest, silent]
  have good := sound.nak bp taken
  constructor
  · change emptyIdentifier (fsmStep (ipv6cpType depth) s.world event).layer.ipv6cp.myintid = false
    rw [own]
    cases found : lastIdentifier (packetOptions bp) with
    | none => exact inv.own
    | some intid => exact (good intid found).1
  · intro settled
    obtain ⟨state, tries⟩ := left settled
    change (ipv6cpDecodeConfig (packetOptions bp) .nak s.world).fsm.state = _ at state
    change 0 < (ipv6cpDecodeConfig (packetOptions bp) .nak s.world).fsm.config at tries
    rw [fsm] at state tries
    obtain ⟨contained, nonzero, distinct⟩ := inv.peer (by rw [state]; rfl)
    refine ⟨?_, ?_, ?_⟩
    · obtain ⟨request, acked, identifier⟩ := contained
      exact ⟨request, last.trans acked, identifier.trans (congrArg some peer.symm)⟩
    · exact (congrArg emptyIdentifier peer).trans nonzero
    · change (fsmStep (ipv6cpType depth) s.world event).layer.ipv6cp.hisintid ≠
        (fsmStep (ipv6cpType depth) s.world event).layer.ipv6cp.myintid
      rw [peer, own]
      cases found : lastIdentifier (packetOptions bp) with
      | none => exact distinct
      | some intid => exact (good intid found).2 state tries

theorem historyInv_step (inv : HistoryInv s) (sound : Identifying depth s event) :
    HistoryInv (historyStep depth s event) := by
  cases answered : answeredRequest (ipv6cpType depth) s.world event with
  | some bp => exact historyInv_of_answered inv answered (sound.request bp answered)
  | none =>
      cases taken : takenNak (ipv6cpType depth) s.world event with
      | some bp => exact historyInv_of_takenNak inv taken sound
      | none =>
          have kept := (ipv6cpType_unsettling depth).fsmStep answered taken
          exact historyInv_of_keeps inv kept answered

end Step

def history (depth : Nat) (ether : Option (Fin 6 → UInt8)) (b : Ipv6Bund)
    (events : List FsmEvent) : History :=
  Transition.run (historyStep depth) (historyStart ether b) events

/-- In a history whose events all are identifying, an Opened IPV6CP knows the peer by the
identifier of the last request that it acknowledged, and the two identifiers are distinct. -/
theorem opened_identified {depth : Nat} {ether : Option (Fin 6 → UInt8)} {b : Ipv6Bund}
    {events : List FsmEvent}
    (sound : Transition.Meets (historyStep depth) (Identifying depth) (historyStart ether b) events)
    (opened : (history depth ether b events).world.fsm.state = .opened) :
    PeerIdentified (history depth ether b events) ∧
      emptyIdentifier (history depth ether b events).world.layer.ipv6cp.myintid = false := by
  have inv := Transition.invariant_run (historyStep depth)
    (fun _ _ inv sound => historyInv_step inv sound) (historyInv_start ether b) sound
  exact ⟨inv.peer (by rw [show (Transition.run (historyStep depth) (historyStart ether b)
    events).world.fsm.state = .opened from opened]; rfl), inv.own⟩

def plainBund : Ipv6Bund where
  env :=
    { random := fun n => UInt32.ofNat n
      ifaceIpIfaceUp := fun _ => true
      ifaceIpv6IfaceUp := fun _ => true }
  ipcpEnabled := false
  ipv6cpEnabled := true
  iface := { «open» := false, dod := false, up := false, ip_up := false, ipv6_up := false }
  ncpstarted := 0
  enableIPv6 := false
  ipv6cp := { myintid := [], hisintid := [], peer_reject := 0 }
  drawn := 0
  ifaceUps := 0
  trace := []

/-- Open, Up, and a request for the identifier, which is acknowledged. -/
def identifiedBy (intid : Bytes) : List FsmEvent :=
  [.open, .up, .receive .configReq 7 (fsmConfValue tyIntident intid)]

theorem opened_identified_plain :
    PeerIdentified (history 3 none plainBund
        (identifiedBy [2, 0, 0, 255, 254, 0, 0, 9] ++ [.receive .configAck 1 []])) ∧
      emptyIdentifier (history 3 none plainBund
        (identifiedBy [2, 0, 0, 255, 254, 0, 0, 9] ++ [.receive .configAck 1 []])).world.layer.ipv6cp.myintid =
          false := by
  have request : answeredRequest (ipv6cpType 3)
      (history 3 none plainBund [.open, .up]).world
      (.receive .configReq 7 (fsmConfValue tyIntident [2, 0, 0, 255, 254, 0, 0, 9])) =
        some (fsmConfValue tyIntident [2, 0, 0, 255, 254, 0, 0, 9]) := by decide
  refine opened_identified ⟨⟨nofun, nofun⟩, ⟨nofun, nofun⟩, ⟨?_, nofun⟩, ⟨nofun, nofun⟩, trivial⟩ (by decide)
  intro bp answered
  obtain rfl := Option.some.inj (request.symm.trans answered)
  decide

/-- The peer asks for an identifier, which is acknowledged, and naks ours with the same one. -/
theorem not_opened_identified_nak :
    ¬ ∀ (depth : Nat) (ether : Option (Fin 6 → UInt8)) (b : Ipv6Bund) (events : List FsmEvent),
      (history depth ether b events).world.fsm.state = .opened →
        PeerIdentified (history depth ether b events) ∧
          emptyIdentifier (history depth ether b events).world.layer.ipv6cp.myintid = false := by
  intro identified
  have same := (identified 3 none plainBund
    (identifiedBy [2, 0, 0, 255, 254, 0, 0, 9] ++
      [.receive .configNak 1 (fsmConfValue tyIntident [2, 0, 0, 255, 254, 0, 0, 9]),
        .receive .configAck 2 []]) (by decide)).1.distinct
  exact absurd (by decide) same

end Mpd.Ipv6cp
