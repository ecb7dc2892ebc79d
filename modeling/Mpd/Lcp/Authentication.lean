import Mpd.Lcp.Negotiation
import Mpd.Transition

/-! The authentication that LCP asks for and the one that it accepts, under everything
that the peer naks and rejects. -/

set_option autoImplicit false

namespace Mpd

def NamesAuth (allowed : LcpAuthProto → Bool) (proto : UInt16) (alg : UInt8) : Prop :=
  ∃ entry ∈ gLcpAuthProtos, allowed entry = true ∧ entry.proto = proto ∧
    (proto = protoChap → entry.alg = alg)

/-- An authentication protocol is enabled, and nothing excuses us from asking for one. -/
def Link.demandsAuth (l : Link) : Prop :=
  (∃ entry ∈ gLcpAuthProtos, l.conf.options.enabled entry.conf = true) ∧
    ¬ (l.originate = .local ∧ l.conf.options.enabled linkConfNoOrigAuth = true)

/-- The peer cannot talk the link out of the authentication that it demands, nor into
one that it does not accept. -/
structure AuthHeld (l : Link) : Prop where
  wanted : l.demandsAuth →
    l.lcp.want_auth ≠ 0 ∧
      NamesAuth (fun entry => l.conf.options.enabled entry.conf) l.lcp.want_auth l.lcp.want_alg
  accepted : l.lcp.peer_auth ≠ 0 →
    NamesAuth (fun entry => l.conf.options.acceptable entry.conf) l.lcp.peer_auth l.lcp.peer_alg

/-- The list of protocols that are still to be asked for has only enabled entries. -/
def WantsEnabled (l : Link) : Prop :=
  ∀ entry, some entry ∈ l.lcp.want_protos →
    entry ∈ gLcpAuthProtos ∧ l.conf.options.enabled entry.conf = true

structure AuthInv (l : Link) : Prop extends AuthHeld l where
  candidates : WantsEnabled l

theorem proto_ne_zero {entry : LcpAuthProto} (listed : entry ∈ gLcpAuthProtos) :
    entry.proto ≠ 0 := by
  have table : ∀ entry ∈ gLcpAuthProtos, entry.proto ≠ 0 := by decide
  exact table entry listed

theorem lcpFindAuthProto_spec {proto : UInt16} {alg : UInt8} {pos : Nat} {entry : LcpAuthProto}
    (found : lcpFindAuthProto proto alg = some pos) (listed : gLcpAuthProtos[pos]? = some entry) :
    entry.proto = proto ∧ entry.alg = alg := by
  obtain ⟨below, matched, -⟩ := List.findIdx?_eq_some_iff_getElem.mp found
  rw [List.getElem?_eq_getElem below] at listed
  cases listed
  simpa using matched

/-- An authentication option that the table lists stands for the entry it is found at. -/
theorem namesAuth_of_authOptPos {allowed : LcpAuthProto → Bool} {opt : FsmOption}
    {entry : LcpAuthProto} (found : (authOptPos opt).bind (gLcpAuthProtos[·]?) = some entry)
    (allows : allowed entry = true) (alg : UInt8) :
    NamesAuth allowed (authOptProto opt)
      (if authOptProto opt = protoChap then authOptAlg opt else alg) := by
  obtain ⟨pos, position, listed⟩ := Option.bind_eq_some_iff.mp found
  unfold authOptPos at position
  dsimp only at position
  split_ifs at position with sized chap
  · obtain ⟨proto, algorithm⟩ := lcpFindAuthProto_spec position listed
    refine ⟨entry, List.mem_of_getElem? listed, allows, proto, fun _ => ?_⟩
    rw [if_pos chap]
    exact algorithm
  · obtain ⟨proto, -⟩ := lcpFindAuthProto_spec position listed
    exact ⟨entry, List.mem_of_getElem? listed, allows, proto, fun other => absurd other chap⟩

/-- The invariant looks only at the configuration and at the authentication. -/
theorem AuthInv.of_same {before after : Link} (inv : AuthInv before)
    (originate : after.originate = before.originate) (conf : after.conf = before.conf)
    (same : before.lcp.SameAuth after.lcp) : AuthInv after where
  wanted demands := by
    rw [Link.demandsAuth, originate, conf] at demands
    rw [same.want_auth, same.want_alg, conf]
    exact inv.wanted demands
  accepted peer := by
    rw [same.peer_auth] at peer
    rw [same.peer_auth, same.peer_alg, conf]
    exact inv.accepted peer
  candidates entry member := by
    rw [same.want_protos] at member
    rw [conf]
    exact inv.candidates entry member

section Configure

/-- The loop of `LcpConfigure` over `want_protos`. Once a protocol is found the loop only
keeps what is enabled; the first enabled one is taken. -/
theorem lcpRequestAuth_spec (options : OptInfo) {protos : List LcpAuthProto}
    (listed : ∀ entry ∈ protos, entry ∈ gLcpAuthProtos) (want_auth : UInt16) (want_alg : UInt8) :
    (∀ entry, some entry ∈ (lcpRequestAuth options protos want_auth want_alg).2.2 →
        entry ∈ protos ∧ options.enabled entry.conf = true) ∧
      (want_auth ≠ 0 → (lcpRequestAuth options protos want_auth want_alg).1 = want_auth ∧
        (lcpRequestAuth options protos want_auth want_alg).2.1 = want_alg) ∧
      (want_auth = 0 → (∃ entry ∈ protos, options.enabled entry.conf = true) →
        ∃ entry ∈ protos, options.enabled entry.conf = true ∧
          (lcpRequestAuth options protos want_auth want_alg).1 = entry.proto ∧
          (lcpRequestAuth options protos want_auth want_alg).2.1 = entry.alg) := by
  induction protos generalizing want_auth want_alg with
  | nil => simp [lcpRequestAuth]
  | cons first rest ih =>
      have later : ∀ entry ∈ rest, entry ∈ gLcpAuthProtos := fun entry member =>
        listed entry (List.mem_cons_of_mem first member)
      by_cases taken : (options.enabled first.conf && want_auth == 0) = true
      · simp only [lcpRequestAuth, if_pos taken]
        rw [Bool.and_eq_true, beq_iff_eq] at taken
        obtain ⟨enabled, unset⟩ := taken
        obtain ⟨kept, fixed, -⟩ := ih later first.proto first.alg
        have nonzero := proto_ne_zero (listed first List.mem_cons_self)
        refine ⟨?_, fun set => absurd unset set, fun _ _ => ?_⟩
        · intro entry member
          obtain ⟨member, allowed⟩ := kept entry (by simpa using member)
          exact ⟨List.mem_cons_of_mem first member, allowed⟩
        · exact ⟨first, List.mem_cons_self, enabled, fixed nonzero⟩
      · simp only [lcpRequestAuth, if_neg taken]
        obtain ⟨kept, fixed, chosen⟩ := ih later want_auth want_alg
        refine ⟨?_, fixed, fun unset available => ?_⟩
        · intro entry member
          rcases List.mem_cons.mp member with head | member
          · split_ifs at head with enabled
            cases head
            exact ⟨List.mem_cons_self, enabled⟩
          · obtain ⟨member, allowed⟩ := kept entry member
            exact ⟨List.mem_cons_of_mem first member, allowed⟩
        · have disabled : options.enabled first.conf = false := by
            simpa [unset] using taken
          have available : ∃ entry ∈ rest, options.enabled entry.conf = true := by
            simpa [disabled] using available
          obtain ⟨entry, member, found⟩ := chosen unset available
          exact ⟨entry, List.mem_cons_of_mem first member, found⟩

theorem lcpPossibleProtos_mem (entry : LcpAuthProto) :
    entry ∈ lcpPossibleProtos ↔ entry ∈ gLcpAuthProtos := by
  have same : lcpPossibleProtos.Perm gLcpAuthProtos := by decide
  exact same.mem_iff

theorem lcpConfigure_conf (w : FsmWorld Link) : (lcpConfigure w).layer.conf = w.layer.conf := by
  unfold lcpConfigure
  dsimp only
  split_ifs <;> rfl

theorem authInv_lcpConfigure (w : FsmWorld Link) : AuthInv (lcpConfigure w).layer := by
  obtain ⟨kept, -, chosen⟩ := lcpRequestAuth_spec w.layer.conf.options
    (fun entry => (lcpPossibleProtos_mem entry).mp) 0 0
  have conf := lcpConfigure_conf w
  refine ⟨⟨fun demands => ?_, fun peer => absurd rfl peer⟩, ?_⟩
  · obtain ⟨entry, listed, enabled⟩ := demands.1
    rw [conf] at enabled
    obtain ⟨entry, member, enabled, auth, alg⟩ :=
      chosen rfl ⟨entry, (lcpPossibleProtos_mem entry).mpr listed, enabled⟩
    have listed := (lcpPossibleProtos_mem entry).mp member
    have want_auth : (lcpConfigure w).layer.lcp.want_auth = entry.proto := auth
    have want_alg : (lcpConfigure w).layer.lcp.want_alg = entry.alg := alg
    rw [want_auth, want_alg, conf]
    exact ⟨proto_ne_zero listed, entry, listed, enabled, rfl, fun _ => rfl⟩
  · intro entry member
    obtain ⟨member, enabled⟩ := kept entry member
    rw [conf]
    exact ⟨(lcpPossibleProtos_mem entry).mp member, enabled⟩

end Configure

section Decode

variable {w : FsmWorld Link} (inv : AuthInv w.layer)
include inv

theorem authInv_authNak (opt : FsmOption) : AuthInv (lcpDecodeAuthproto .nak opt w).layer := by
  simp only [lcpDecodeAuthproto]
  split
  · exact inv
  · rename_i entry found
    by_cases enabled : w.layer.conf.options.enabled entry.conf = true
    · rw [if_pos enabled]
      have named : NamesAuth (fun entry => w.layer.conf.options.enabled entry.conf) _ _ :=
        namesAuth_of_authOptPos found enabled w.layer.lcp.want_alg
      refine ⟨⟨fun _ => ⟨?_, named⟩, inv.accepted⟩, inv.candidates⟩
      obtain ⟨entry, listed, -, proto, -⟩ := named
      rw [FsmWorld.setLcp, ← proto]
      exact proto_ne_zero listed
    · rw [if_neg enabled]
      have fewer : ∀ entry, some entry ∈
          w.layer.lcp.want_protos.set ((authOptPos opt).getD 0) none →
          entry ∈ gLcpAuthProtos ∧ w.layer.conf.options.enabled entry.conf = true := by
        intro entry member
        rcases List.mem_or_eq_of_mem_set member with member | cleared
        · exact inv.candidates entry member
        · cases cleared
      split
      · rename_i next chosen
        obtain ⟨listed, allowed⟩ := fewer next (List.exists_of_findSome?_eq_some chosen |>.elim
          fun entry found => found.2 ▸ found.1)
        exact ⟨⟨fun _ => ⟨proto_ne_zero listed, next, listed, allowed, rfl, fun _ => rfl⟩,
          inv.accepted⟩, fewer⟩
      · exact ⟨⟨inv.wanted, inv.accepted⟩, fewer⟩

theorem authInv_authRej (opt : FsmOption) : AuthInv (lcpDecodeAuthproto .rej opt w).layer := by
  simp only [lcpDecodeAuthproto]
  split_ifs with excused
  · exact ⟨⟨fun demands => absurd excused demands.2, inv.accepted⟩, inv.candidates⟩
  · exact inv.of_same rfl rfl ⟨rfl, rfl, rfl, rfl, rfl, rfl⟩

/-- A request that is acknowledged may change which authentication the peer asks for. -/
theorem authInv_record {opt : FsmOption} (acks : lcpAcks w.layer opt = true) :
    AuthInv (w.layer.withPeer (lcpRecord opt w.layer.lcp.toLcpPeer)) := by
  refine ⟨⟨inv.wanted, ?_⟩, inv.candidates⟩
  unfold lcpAcks at acks
  unfold lcpRecord
  cases meaning : opt.meaning? gLcpConfOpts with
  | none => simp [meaning] at acks
  | some supported =>
      rw [meaning, Option.any_some] at acks
      cases supported with
      | authproto =>
          obtain ⟨entry, found, acceptable⟩ := (Option.any_eq_true _ _).mp acks
          have named : NamesAuth (fun entry => w.layer.conf.options.acceptable entry.conf) _ _ :=
            namesAuth_of_authOptPos found acceptable w.layer.lcp.peer_alg
          exact fun _ => named
      | _ => exact inv.accepted

theorem authInv_lcpDecodeOption (mode : FsmMode) (opt : FsmOption) :
    AuthInv (lcpDecodeOption mode opt w).layer := by
  have effect := optionEffect_lcpDecodeOption mode opt w
  generalize (lcpDecodeOption mode opt w).layer = after at effect ⊢
  cases effect with
  | recorded asked acks => exact authInv_record inv acks
  | kept => exact inv
  | auth answer means =>
      cases mode with
      | req => exact absurd rfl answer
      | nak => exact authInv_authNak inv opt
      | rej => exact authInv_authRej inv opt
      | nop => exact inv
  | other answer lcp magics changed => exact inv.of_same rfl rfl changed.toSameAuth

theorem authInv_lcpForget : AuthInv (lcpForget w).layer := by
  unfold lcpForget
  split_ifs
  · exact authInv_lcpConfigure w
  · exact ⟨⟨inv.wanted, fun peer => absurd rfl peer⟩, inv.candidates⟩

theorem authInv_lcpDecodeConfig (options : List FsmOption) (mode : FsmMode) :
    AuthInv (lcpDecodeConfig options mode w).layer := by
  refine lcpDecodeConfig_preserves (P := fun w => AuthInv w.layer) ?_ ?_ options inv
  · exact fun _ _ inv => authInv_lcpForget inv
  · exact fun opt _ inv => authInv_lcpDecodeOption inv mode opt

end Decode

def KeepsAuth (before after : FsmWorld Link) : Prop := AuthInv before.layer → AuthInv after.layer

theorem lcpFrame_keepsAuth : LcpFrame KeepsAuth where
  refl _ := id
  trans left right inv := right (left inv)
  counters _ _ := id
  emit _ _ _ := id
  layer _ _ same inv := inv.of_same same.originate same.conf
    ⟨congrArg (·.want_auth) same.lcp, congrArg (·.want_alg) same.lcp,
      congrArg (·.want_protos) same.lcp, congrArg (·.peer_auth) same.lcp,
      congrArg (·.peer_alg) same.lcp, congrArg (·.peer_protos) same.lcp⟩
  configure w _ := authInv_lcpConfigure w
  decodeConfig options mode _ _ inv := authInv_lcpDecodeConfig inv options mode

theorem lcpType_keepsAuth (depth : Nat) :
    RespectsAll (lcpType depth) False (fun _ => True) KeepsAuth :=
  lcpFrame_keepsAuth.lcpTypeAll (fun _ _ _ => id) (fun _ _ _ _ => id)
    (fun options _ inv => authInv_lcpDecodeConfig inv options .req) depth

/-- After `LcpConfigure` no packet of the peer, and nothing else that happens to the LCP
FSM, takes the authentication away. -/
theorem authHeld_run (depth : Nat) (w : FsmWorld Link) (events : List FsmEvent) :
    AuthHeld (Transition.run (fsmStep (lcpType depth)) (lcpConfigure w) events).layer := by
  have kept : ∀ state event, AuthInv state.layer → True →
      AuthInv (fsmStep (lcpType depth) state event).layer := fun state event inv _ =>
    (lcpType_keepsAuth depth).fsmStep state event (fun _ _ => trivial) inv
  have meets : Transition.Meets (fsmStep (lcpType depth)) (fun _ _ => True) (lcpConfigure w)
      events := Transition.meets_of_forall _ (fun _ _ => trivial) _ _
  exact (Transition.invariant_run _ kept (authInv_lcpConfigure w) meets).toAuthHeld

end Mpd
