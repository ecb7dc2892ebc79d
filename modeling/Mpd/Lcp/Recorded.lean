import Mpd.Lcp.Negotiation
import Mpd.Link.Init
import Mpd.Transition

/-! What LCP knows of the peer after a request that it acknowledges, against the history
of the negotiation before that request. -/

set_option autoImplicit false

namespace Mpd

/-- The world in which LCP has just decoded a request that came in. -/
def lcpDecoded (depth : Nat) (bp : Bytes) (w : FsmWorld Link) : FsmWorld Link :=
  fsmDecodeBuffer (lcpType depth) bp .req (configReqStart (lcpType depth) w)

/-- One of the options is an endpoint discriminator. -/
def carriesDiscrim (options : List FsmOption) : Prop :=
  ∃ opt ∈ options, opt.meaning? gLcpConfOpts = some .endpointdisc

/-- The discriminator that is still there when LCP comes to decode a request. -/
def leftoverDiscrim (w : FsmWorld Link) : Discrim :=
  if w.fsm.state = .stopped ∨ w.layer.lcp.need_reset = true then .null
  else w.layer.lcp.peer_discrim

theorem lcpRecord_discrim (opt : FsmOption) (peer : LcpPeer) (discrim : Discrim) :
    lcpRecord opt { peer with peer_discrim := discrim } =
      if opt.meaning? gLcpConfOpts = some .endpointdisc then lcpRecord opt peer
      else { lcpRecord opt peer with peer_discrim := discrim } := by
  unfold lcpRecord
  cases opt.meaning? gLcpConfOpts with
  | none => rfl
  | some meaning => cases meaning <;> rfl

theorem lcpRecordAll_of_carries {options : List FsmOption} (carries : carriesDiscrim options)
    (peer : LcpPeer) (discrim : Discrim) :
    lcpRecordAll options { peer with peer_discrim := discrim } = lcpRecordAll options peer := by
  induction options generalizing peer with
  | nil => simp [carriesDiscrim] at carries
  | cons opt options ih =>
      simp only [lcpRecordAll, List.foldl_cons, lcpRecord_discrim]
      split_ifs with first
      · rfl
      · obtain ⟨other, member, found⟩ := carries
        rcases List.mem_cons.mp member with rfl | member
        · exact absurd found first
        · exact ih ⟨other, member, found⟩ (lcpRecord opt peer)

theorem discrim_lcpRecordAll {options : List FsmOption} (lacks : ¬ carriesDiscrim options)
    (peer : LcpPeer) : (lcpRecordAll options peer).peer_discrim = peer.peer_discrim := by
  induction options generalizing peer with
  | nil => rfl
  | cons opt options ih =>
      have first : opt.meaning? gLcpConfOpts ≠ some .endpointdisc := fun found =>
        lacks ⟨opt, List.mem_cons_self, found⟩
      have rest : ¬ carriesDiscrim options := fun ⟨other, member, found⟩ =>
        lacks ⟨other, List.mem_cons_of_mem opt member, found⟩
      have one : (lcpRecord opt peer).peer_discrim = peer.peer_discrim := by
        have same := congrArg (·.peer_discrim) (lcpRecord_discrim opt peer peer.peer_discrim)
        rw [if_neg first] at same
        exact same
      exact (ih rest (lcpRecord opt peer)).trans one

theorem peer_lcpForget (w : FsmWorld Link) :
    (lcpForget w).layer.lcp.toLcpPeer =
      { lcpPeerDefaults w.layer with
        peer_discrim := if w.layer.lcp.need_reset then .null else w.layer.lcp.peer_discrim } := by
  unfold lcpForget
  split_ifs <;> rfl

theorem peer_lcpForget_configReqStart (depth : Nat) (w : FsmWorld Link) :
    (lcpForget (configReqStart (lcpType depth) w)).layer.lcp.toLcpPeer =
      { lcpPeerDefaults w.layer with peer_discrim := leftoverDiscrim w } := by
  have configured : (lcpForget (fsmConfigure (lcpType depth) w)).layer.lcp.toLcpPeer =
      { lcpPeerDefaults w.layer with peer_discrim := .null } := by
    change (lcpForget (lcpConfigure (w.emit (.call .configure)))).layer.lcp.toLcpPeer = _
    rw [peer_lcpForget]
    unfold lcpConfigure
    dsimp only
    split_ifs <;> rfl
  unfold configReqStart leftoverDiscrim
  by_cases stopped : w.fsm.state = .stopped
  · rw [if_pos stopped, if_pos (.inl stopped), configured]
  · rw [if_neg stopped, peer_lcpForget]
    simp only [stopped, false_or]

/-- What LCP records of a request that it acknowledges: the options of the request over
the defaults, and what was left of the discriminator. -/
theorem peer_lcpDecoded {depth : Nat} {bp : Bytes} {w : FsmWorld Link}
    (acked : (lcpDecoded depth bp w).fullyAcked = true) :
    (lcpDecoded depth bp w).layer.lcp.toLcpPeer =
      lcpRecordAll (fsmExtractOptions fsmMaxOpts bp).1
        { lcpPeerDefaults w.layer with peer_discrim := leftoverDiscrim w } := by
  have acks := (lcpAnswers.fullyAcked_fsmDecodeBuffer (T := lcpType depth) bp _).mp acked
  have recorded := peer_lcpDecodeConfig acks
  rw [peer_lcpForget] at recorded
  rw [← peer_lcpForget_configReqStart depth w, peer_lcpForget]
  exact recorded

structure KeepsConfiguration (before after : FsmWorld Link) : Prop where
  type : after.layer.type = before.layer.type
  conf : after.layer.conf = before.layer.conf

theorem Negotiates.keepsConfiguration {before after : FsmWorld Link}
    (negotiates : Negotiates before after) : KeepsConfiguration before after := by
  obtain ⟨lcp, magics, layer, -⟩ := negotiates.layer
  exact ⟨by rw [layer], by rw [layer]⟩

theorem lcpFrame_keepsConfiguration : LcpFrame KeepsConfiguration where
  refl _ := ⟨rfl, rfl⟩
  trans left right := ⟨right.type.trans left.type, right.conf.trans left.conf⟩
  counters _ _ := ⟨rfl, rfl⟩
  emit _ _ _ := ⟨rfl, rfl⟩
  layer _ _ same := ⟨same.type, same.conf⟩
  configure w := (lcpConfigure_negotiates w).keepsConfiguration
  decodeConfig options mode w _ := (lcpDecodeConfig_negotiates options mode w).keepsConfiguration

/-- What an LCP FSM knows after a history of negotiation that began with `LcpConfigure`. -/
def lcpHistory (depth : Nat) (start : FsmWorld Link) (events : List FsmEvent) : FsmWorld Link :=
  Transition.run (fsmStep (lcpType depth)) (lcpConfigure start) events

theorem lcpHistory_configuration (depth : Nat) (start : FsmWorld Link) (events : List FsmEvent) :
    KeepsConfiguration start (lcpHistory depth start events) := by
  have frame := lcpFrame_keepsConfiguration
  have respects := frame.lcpTypeAll (fun _ _ _ => ⟨rfl, rfl⟩) (fun _ _ _ _ => ⟨rfl, rfl⟩)
    (fun options w => (lcpDecodeConfig_negotiates options .req w).keepsConfiguration) depth
  have kept : ∀ state event, KeepsConfiguration start state → True →
      KeepsConfiguration start (fsmStep (lcpType depth) state event) := fun state event reached _ =>
    frame.trans reached (respects.fsmStep state event fun _ _ => trivial)
  exact Transition.invariant_run _ kept (frame.configure start)
    (Transition.meets_of_forall _ (fun _ _ => trivial) _ events)

/-- Two histories on one configuration that end with the same acknowledged request record
the same of the peer, exactly when the request carries a discriminator or the histories
left the same one behind. -/
theorem recordsAlike_iff {depth : Nat} {bp : Bytes} {first second : FsmWorld Link}
    (type : second.layer.type = first.layer.type) (conf : second.layer.conf = first.layer.conf)
    {before after : List FsmEvent}
    (firstAcked : (lcpDecoded depth bp (lcpHistory depth first before)).fullyAcked = true)
    (secondAcked : (lcpDecoded depth bp (lcpHistory depth second after)).fullyAcked = true) :
    (lcpDecoded depth bp (lcpHistory depth first before)).layer.lcp.toLcpPeer =
        (lcpDecoded depth bp (lcpHistory depth second after)).layer.lcp.toLcpPeer ↔
      carriesDiscrim (fsmExtractOptions fsmMaxOpts bp).1 ∨
        leftoverDiscrim (lcpHistory depth first before) =
          leftoverDiscrim (lcpHistory depth second after) := by
  have firstKept := lcpHistory_configuration depth first before
  have secondKept := lcpHistory_configuration depth second after
  have defaults : lcpPeerDefaults (lcpHistory depth second after).layer =
      lcpPeerDefaults (lcpHistory depth first before).layer := by
    unfold lcpPeerDefaults physGetMtu
    rw [firstKept.type, firstKept.conf, secondKept.type, secondKept.conf, type, conf]
  rw [peer_lcpDecoded firstAcked, peer_lcpDecoded secondAcked, defaults]
  constructor
  · intro same
    by_cases carries : carriesDiscrim (fsmExtractOptions fsmMaxOpts bp).1
    · exact .inl carries
    · have discrims := congrArg (·.peer_discrim) same
      simp only [discrim_lcpRecordAll carries] at discrims
      exact .inr discrims
  · intro condition
    rcases condition with carries | left
    · exact (lcpRecordAll_of_carries carries _ _).trans (lcpRecordAll_of_carries carries _ _).symm
    · rw [left]

def lcpAfterRequest (payload : Bytes) : FsmWorld Link :=
  lcpHistory 2 (lcpInit .bare) [.open, .up, .receive .configReq 1 payload]

theorem recordsAlike_carries :
    (lcpDecoded 2 [19, 4, 1, 65] (lcpAfterRequest [19, 4, 1, 66])).layer.lcp.toLcpPeer =
      (lcpDecoded 2 [19, 4, 1, 65] (lcpAfterRequest [])).layer.lcp.toLcpPeer :=
  (recordsAlike_iff rfl rfl (by decide) (by decide)).mpr
    (.inl ⟨⟨19, [1, 65], by decide⟩, by decide⟩)

/-- The discriminator of an earlier request is still there after one without any. -/
theorem not_recordsAlike_stale :
    ¬ ∀ (depth : Nat) (bp : Bytes) (first second : FsmWorld Link) (before after : List FsmEvent),
      second.layer.type = first.layer.type → second.layer.conf = first.layer.conf →
      (lcpDecoded depth bp (lcpHistory depth first before)).fullyAcked = true →
      (lcpDecoded depth bp (lcpHistory depth second after)).fullyAcked = true →
      (lcpDecoded depth bp (lcpHistory depth first before)).layer.lcp.toLcpPeer =
        (lcpDecoded depth bp (lcpHistory depth second after)).layer.lcp.toLcpPeer := by
  intro alike
  have same := alike 2 [] (lcpInit .bare) (lcpInit .bare)
    [.open, .up, .receive .configReq 1 [19, 4, 1, 66]] [.open, .up, .receive .configReq 1 []]
    rfl rfl (by decide) (by decide)
  exact absurd same (by decide)

end Mpd
