import Mpd.Allocation
import Mpd.Transition
import Mpd.Ipcp.Suggestions

/-! Bundles that take the addresses of both sides from shared pools, and what keeps them from
getting into each other's way. -/

set_option autoImplicit false

namespace Mpd

def ipcpAddrs (buf : Bytes) : List UInt32 :=
  (fsmExtractOptions fsmMaxOpts buf).1.filterMap fun opt =>
    if opt.meaning? gIpcpConfOpts = some .ipaddr then some (ipcpOptAddr opt) else none

/-- Bundles that share the pools. The last three fields are no part of the program: whether a
bundle is configured, and which addresses `IpcpConfigure` took from a pool for it and it told
its peer of since then. -/
structure PoolState (ι : Type) where
  pools : List IPPool
  bundles : ι → FsmWorld Bund
  configured : ι → Bool
  taken : ι → List UInt32
  uttered : ι → List UInt32

inductive PoolEvent (ι : Type) where
  | configure (i : ι)
  | request (i : ι) (bp : Bytes)
  | unConfigure (i : ι)

namespace PoolState

variable {ι : Type} (s : PoolState ι)

def load (i : ι) : FsmWorld Bund :=
  let w := s.bundles i
  { w with layer := { w.layer with
      env := { w.layer.env with others := fun _ pools => pools }, ippools := s.pools } }

variable [DecidableEq ι]

def store (i : ι) (w : FsmWorld Bund) : PoolState ι :=
  { s with pools := w.layer.ippools, bundles := Function.update s.bundles i w }

/-- `IpcpConfigure`. Taken are the addresses that it marked used; our own address is what the
next Configure-Request tells. -/
def configure (i : ι) : PoolState ι :=
  let w := ipcpConfigure (s.load i)
  let fresh := (ipPoolUsed w.layer.ippools).filter (· ∉ ipPoolUsed s.pools)
  { s.store i w with
    configured := Function.update s.configured i true
    taken := Function.update s.taken i (s.taken i ++ fresh)
    uttered := Function.update s.uttered i (w.layer.ipcp.want_addr :: s.uttered i) }

/-- The peer's Configure-Request is decoded, which acknowledges or offers addresses. -/
def request (i : ι) (bp : Bytes) : PoolState ι :=
  let w := fsmDecodeBuffer (ipcpType 0) bp .req (s.load i)
  { s.store i w with
    uttered := Function.update s.uttered i (ipcpAddrs w.ack ++ ipcpAddrs w.nak ++ s.uttered i) }

def unConfigure (i : ι) : PoolState ι :=
  { s.store i (ipcpUnConfigure (s.load i)) with
    configured := Function.update s.configured i false
    taken := Function.update s.taken i []
    uttered := Function.update s.uttered i [] }

omit [DecidableEq ι] in
/-- No address that was taken for one bundle was told to the peer of another, and without a
configured bundle no address is in use. -/
def Exclusive : Prop :=
  (∀ i j, i ≠ j → ∀ ip ∈ s.taken i, ip ∉ s.uttered j) ∧
    ((∀ i, s.configured i = false) → ipPoolUsed s.pools = [])

end PoolState

def poolStep {ι : Type} [DecidableEq ι] (s : PoolState ι) : PoolEvent ι → PoolState ι
  | .configure i => s.configure i
  | .request i bp => s.request i bp
  | .unConfigure i => s.unConfigure i

def RangeApart (range : URange) (pools : List IPPool) : Prop :=
  range.addr.ip4 ∉ ipPoolIps pools ∧ ∀ ip ∈ ipPoolIps pools, ipAddrInRange range ip = false

/-- Our own side can be configured: its pool has a free address, or it has an address of its
own, which is in no pool. -/
def SelfReady (pools : List IPPool) (b : Bund) : Prop :=
  if b.ipcp.conf.self_ippool ≠ [] then (ipPoolGet b.ipcp.conf.self_ippool pools).isSome = true
  else b.ipcp.conf.self_allow.addr.ip4 ∉ ipPoolIps pools

def poolsForPeer (pools : List IPPool) (b : Bund) : List IPPool :=
  if b.ipcp.conf.self_ippool ≠ [] then
    ((ipPoolGet b.ipcp.conf.self_ippool pools).map (·.2)).getD pools
  else pools

def PeerReady (pools : List IPPool) (b : Bund) : Prop :=
  match b.params.range.filter fun range => !uRangeempty range with
  | some range => RangeApart range pools
  | none =>
      if b.params.ippool ≠ [] then (ipPoolGet b.params.ippool pools).isSome = true
      else if b.ipcp.conf.ippool ≠ [] then (ipPoolGet b.ipcp.conf.ippool pools).isSome = true
      else RangeApart b.ipcp.conf.peer_allow pools

/-- An address that the bundle takes is in the peer's range, and not just pretended to be. -/
def NoPretence (bp : Bytes) (b : Bund) : Prop :=
  ∀ ip ∈ ipcpAddrs bp, ipcpTakesAddr b ip = true → (ipAddrInRange b.ipcp.peer_allow ip && ip != 0) = true

instance (range : URange) (pools : List IPPool) : Decidable (RangeApart range pools) :=
  @instDecidableAnd _ _ inferInstance (List.decidableBAll _ _)

instance (pools : List IPPool) (b : Bund) : Decidable (SelfReady pools b) :=
  inferInstanceAs (Decidable
    (if b.ipcp.conf.self_ippool ≠ [] then (ipPoolGet b.ipcp.conf.self_ippool pools).isSome = true
      else b.ipcp.conf.self_allow.addr.ip4 ∉ ipPoolIps pools))

instance (pools : List IPPool) (b : Bund) : Decidable (PeerReady pools b) :=
  match fixed : b.params.range.filter fun range => !uRangeempty range with
  | some range => decidable_of_iff (RangeApart range pools) (by simp [PeerReady, fixed])
  | none =>
      decidable_of_iff
        (if b.params.ippool ≠ [] then (ipPoolGet b.params.ippool pools).isSome = true
          else if b.ipcp.conf.ippool ≠ [] then (ipPoolGet b.ipcp.conf.ippool pools).isSome = true
          else RangeApart b.ipcp.conf.peer_allow pools) (by simp [PeerReady, fixed])

instance (bp : Bytes) (b : Bund) : Decidable (NoPretence bp b) :=
  List.decidableBAll _ _

/-- What an event needs in order to leave the pools in order. -/
def PoolState.Orderly {ι : Type} (s : PoolState ι) : PoolEvent ι → Prop
  | .configure i =>
      s.configured i = false ∧ SelfReady s.pools (s.bundles i).layer ∧
        PeerReady (poolsForPeer s.pools (s.bundles i).layer) (s.bundles i).layer
  | .request i bp => s.configured i = true ∧ NoPretence bp (s.bundles i).layer
  | .unConfigure _ => True

/-- Nothing was taken from the pools yet, and no address is in them twice. -/
structure PoolState.Fresh {ι : Type} (s : PoolState ι) : Prop where
  distinct : (ipPoolIps s.pools).Nodup
  nonzero : 0 ∉ ipPoolIps s.pools
  unused : ipPoolUsed s.pools = []
  configured : ∀ i, s.configured i = false
  taken : ∀ i, s.taken i = []
  uttered : ∀ i, s.uttered i = []
  flags : ∀ i, (s.bundles i).layer.ipcp.self_ippool_used = false ∧
    (s.bundles i).layer.params.ippool_used = false ∧ (s.bundles i).layer.ipcp.ippool_used = false

section Range

theorem ipAddrInRange_host {host ip : UInt32} (set : host ≠ 0) :
    ipAddrInRange ⟨inAddrtouAddr host, 32⟩ ip = true ↔ ip = host := by
  have nonempty : uRangeempty ⟨inAddrtouAddr host, 32⟩ = false := by
    simp [uRangeempty, uAddrempty, inAddrtouAddr, set]
  have mask : (0xFFFFFFFF <<< (32 - (32 : UInt8).toUInt32) : UInt32) = 0xFFFFFFFF := by decide
  have whole (x : UInt32) : x &&& 0xFFFFFFFF = x := UInt32.and_neg_one
  unfold ipAddrInRange
  rw [nonempty]
  simp only [inAddrtouAddr, mask, whole, Bool.false_eq_true, if_false, ne_eq, not_true_eq_false,
    show ¬ (32 : UInt8) = 0 by decide, beq_iff_eq]

end Range

section Decode

def Carries (safe : UInt32 → Prop) (buf : Bytes) : Prop :=
  ∃ options : List FsmOption, buf = options.flatMap FsmOption.bytes ∧
    ∀ opt ∈ options, opt.meaning? gIpcpConfOpts = some .ipaddr → safe (ipcpOptAddr opt)

theorem fsmExtractOptions_flatMap (max : Nat) (options : List FsmOption) :
    (fsmExtractOptions max (options.flatMap FsmOption.bytes)).1 = options.take max := by
  induction options generalizing max with
  | nil => cases max <;> rfl
  | cons opt options ih =>
      cases max with
      | zero => rfl
      | succ max =>
          have bounded := opt.fits
          have counted : (UInt8.ofNat opt.len).toNat = opt.data.length + 2 :=
            UInt8.toNat_ofNat_of_lt' bounded
          simp only [List.flatMap_cons, FsmOption.bytes, List.cons_append, fsmExtractOptions,
            counted, Nat.add_sub_cancel, List.length_append]
          rw [dif_neg (by omega)]
          simp only [List.take_left, List.drop_left, List.take_succ_cons, ih]

theorem Carries.mem {safe : UInt32 → Prop} {buf : Bytes} (carries : Carries safe buf)
    {ip : UInt32} (member : ip ∈ ipcpAddrs buf) : safe ip := by
  obtain ⟨options, rfl, all⟩ := carries
  obtain ⟨opt, listed, same⟩ := List.mem_filterMap.mp member
  rw [fsmExtractOptions_flatMap] at listed
  split_ifs at same with meaning
  rw [← Option.some.inj same]
  exact all opt (List.mem_of_mem_take listed) meaning

theorem carries_nil (safe : UInt32 → Prop) : Carries safe [] :=
  ⟨[], rfl, fun _ member => absurd member List.not_mem_nil⟩

theorem Carries.append {safe : UInt32 → Prop} {buf : Bytes} (carries : Carries safe buf)
    {opt : FsmOption} (fits : opt.meaning? gIpcpConfOpts = some .ipaddr → safe (ipcpOptAddr opt)) :
    Carries safe (fsmAppend buf opt) := by
  obtain ⟨options, whole, all⟩ := carries
  unfold fsmAppend
  split_ifs
  · exact ⟨options, whole, all⟩
  · refine ⟨options ++ [opt], by simp [whole], fun other member => ?_⟩
    obtain member | member := List.mem_append.mp member
    · exact all other member
    · rw [List.mem_singleton.mp member]
      exact fits

/-- What a request leaves of the bundle `b`, where the addresses are of the given kind. -/
structure Decoded (safe : UInt32 → Prop) (b : Bund) (w : FsmWorld Bund) : Prop where
  layer : w.layer = { b with ipcp := { b.ipcp with
    peer_addr := w.layer.ipcp.peer_addr, peer_comp := w.layer.ipcp.peer_comp } }
  peer_addr : safe w.layer.ipcp.peer_addr
  ack : Carries safe w.ack
  nak : Carries safe w.nak

variable {safe : UInt32 → Prop} {b : Bund} {w : FsmWorld Bund}

theorem Decoded.acked (decoded : Decoded safe b w) {opt : FsmOption}
    (fits : opt.meaning? gIpcpConfOpts = some .ipaddr → safe (ipcpOptAddr opt)) :
    Decoded safe b (fsmAck opt w) := by
  rw [fsmAck_eq]
  exact ⟨decoded.layer, decoded.peer_addr, decoded.ack.append fits, decoded.nak⟩

theorem Decoded.naked (decoded : Decoded safe b w) {opt : FsmOption}
    (fits : opt.meaning? gIpcpConfOpts = some .ipaddr → safe (ipcpOptAddr opt)) :
    Decoded safe b (fsmNak opt w) := by
  rw [fsmNak_eq]
  exact ⟨decoded.layer, decoded.peer_addr, decoded.ack, decoded.nak.append fits⟩

theorem Decoded.rejected (decoded : Decoded safe b w) (opt : FsmOption) :
    Decoded safe b (fsmRej opt w) := by
  rw [fsmRej_eq]
  exact ⟨decoded.layer, decoded.peer_addr, decoded.ack, decoded.nak⟩

theorem Decoded.ipaddr (decoded : Decoded safe b w) {opt : FsmOption}
    (meaning : opt.meaning? gIpcpConfOpts = some .ipaddr)
    (taken : ipcpTakesAddr b (ipcpOptAddr opt) = true → safe (ipcpOptAddr opt)) :
    Decoded safe b (ipcpDecodeIpaddr .req opt w) := by
  have alike : ipcpTakesAddr w.layer (ipcpOptAddr opt) = ipcpTakesAddr b (ipcpOptAddr opt) := by
    rw [decoded.layer]
    rfl
  simp only [ipcpDecodeIpaddr, alike]
  split_ifs with takes
  · have recorded : Decoded safe b
        (w.setIpcp { w.layer.ipcp with peer_addr := ipcpOptAddr opt }) := by
      refine ⟨?_, taken takes, decoded.ack, decoded.nak⟩
      simp only [FsmWorld.setIpcp]
      rw [decoded.layer]
    exact recorded.acked fun _ => taken takes
  · refine decoded.naked fun _ => ?_
    rw [ipcpOptAddr_overwrite _ (length_of_ipcpMeaning meaning)]
    exact decoded.peer_addr

theorem Decoded.compproto (decoded : Decoded safe b w) {opt : FsmOption}
    (meaning : opt.meaning? gIpcpConfOpts = some .compproto) :
    Decoded safe b (ipcpDecodeCompproto .req opt w) := by
  have other (opt' : FsmOption) (same : opt'.meaning? gIpcpConfOpts = some .compproto) :
      opt'.meaning? gIpcpConfOpts = some .ipaddr → safe (ipcpOptAddr opt') := by
    rw [same]
    exact nofun
  simp only [ipcpDecodeCompproto]
  split_ifs
  · exact decoded.rejected opt
  · have recorded : Decoded safe b
        (w.setIpcp { w.layer.ipcp with peer_comp := ipcpOptVjcomp opt }) := by
      refine ⟨?_, decoded.peer_addr, decoded.ack, decoded.nak⟩
      simp only [FsmWorld.setIpcp]
      rw [decoded.layer]
    exact recorded.acked (other opt meaning)
  · exact decoded.naked (other _ (by rw [FsmOption.meaning?_overwrite, meaning]))

theorem Decoded.server (decoded : Decoded safe b w) {opt : FsmOption} (peerip : UInt32)
    (learn : UInt32 → IpcpState → IpcpState)
    (other : opt.meaning? gIpcpConfOpts ≠ some .ipaddr) :
    Decoded safe b (ipcpDecodeServer peerip learn .req opt w) := by
  simp only [ipcpDecodeServer]
  split_ifs
  · exact decoded.rejected opt
  · refine decoded.naked fun same => ?_
    rw [FsmOption.meaning?_overwrite] at same
    exact absurd same other
  · exact decoded.acked fun same => absurd same other

theorem Decoded.option (decoded : Decoded safe b w) {opt : FsmOption}
    (taken : opt.meaning? gIpcpConfOpts = some .ipaddr →
      ipcpTakesAddr b (ipcpOptAddr opt) = true → safe (ipcpOptAddr opt)) :
    Decoded safe b (ipcpDecodeOption .req opt w) := by
  unfold ipcpDecodeOption
  cases meaning : opt.meaning? gIpcpConfOpts with
  | none => exact decoded.rejected opt
  | some supported =>
      cases supported with
      | ipaddr => exact decoded.ipaddr meaning (taken meaning)
      | compproto => exact decoded.compproto meaning
      | primarydns =>
          simp only [ipcpDecodeSupported]
          exact decoded.server _ _ (by simp [meaning])
      | primarynbns =>
          simp only [ipcpDecodeSupported]
          exact decoded.server _ _ (by simp [meaning])
      | secondarydns =>
          simp only [ipcpDecodeSupported]
          exact decoded.server _ _ (by simp [meaning])
      | secondarynbns =>
          simp only [ipcpDecodeSupported]
          exact decoded.server _ _ (by simp [meaning])

/-- A request of any content leaves only addresses that the bundle had or was ready to take. -/
theorem Decoded.all (decoded : Decoded safe b w) {options : List FsmOption}
    (taken : ∀ opt ∈ options, opt.meaning? gIpcpConfOpts = some .ipaddr →
      ipcpTakesAddr b (ipcpOptAddr opt) = true → safe (ipcpOptAddr opt)) :
    Decoded safe b (ipcpDecodeConfig options .req w) := by
  unfold ipcpDecodeConfig
  induction options generalizing w with
  | nil => exact decoded
  | cons opt options ih =>
      exact ih (decoded.option (taken opt List.mem_cons_self)) fun other member =>
        taken other (List.mem_cons_of_mem _ member)

end Decode

def ipcpPeerPool (b : Bund) : Option Bytes :=
  if b.params.ippool_used then some b.params.ippool
  else if b.ipcp.ippool_used then some b.ipcp.conf.ippool
  else none

/-- What `IpcpUnConfigure` will return. -/
def ipcpHeld (b : Bund) : List UInt32 :=
  (if b.ipcp.self_ippool_used then [b.ipcp.want_addr] else []) ++
    (ipcpPeerPool b).toList.map fun _ => b.ipcp.peer_addr

structure Took (pools pools' : List IPPool) (taken : List UInt32) : Prop where
  ips : ipPoolIps pools' = ipPoolIps pools
  inPool : ∀ name ip, InPool name ip pools' ↔ InPool name ip pools
  used : ∀ ip, ip ∈ ipPoolUsed pools' ↔ ip ∈ ipPoolUsed pools ∨ ip ∈ taken
  unused : ∀ ip ∈ taken, ip ∉ ipPoolUsed pools

section Took

variable {pools pools' pools'' : List IPPool}

theorem took_nothing (pools : List IPPool) : Took pools pools [] :=
  ⟨rfl, fun _ _ => .rfl, by simp, by simp⟩

theorem took_ipPoolGet {name : Bytes} {ip : UInt32} (distinct : (ipPoolIps pools).Nodup)
    (got : ipPoolGet name pools = some (ip, pools')) : Took pools pools' [ip] where
  ips := ips_ipPoolGet got
  inPool := inPool_ipPoolGet got
  used x := by rw [used_ipPoolGet got x, List.mem_singleton]
  unused x member := by
    rw [List.mem_singleton.mp member]
    exact unused_ipPoolGet got distinct

theorem Took.trans {first second : List UInt32} (left : Took pools pools' first)
    (right : Took pools' pools'' second) : Took pools pools'' (first ++ second) where
  ips := right.ips.trans left.ips
  inPool name ip := (right.inPool name ip).trans (left.inPool name ip)
  used ip := by rw [right.used, left.used, List.mem_append, or_assoc]
  unused ip member := by
    obtain member | member := List.mem_append.mp member
    · exact left.unused ip member
    · exact fun used => right.unused ip member ((left.used ip).mpr (.inl used))

end Took

def Undisturbed (b : Bund) : Prop := ∀ n pools, b.env.others n pools = pools

section Configure

variable {b : Bund}

theorem bundPoolGet_eq (undisturbed : Undisturbed b) {name : Bytes} {ip : UInt32}
    {pools' : List IPPool} (got : ipPoolGet name b.ippools = some (ip, pools')) :
    bundPoolGet name b =
      (some ⟨inAddrtouAddr ip, 32⟩, { b with pools := b.pools + 1, ippools := pools' }) := by
  have found : ipPoolGet name b.findPools.ippools = some (ip, pools') := by
    rw [Bund.findPools, undisturbed]
    exact got
  simp only [bundPoolGet, found]
  rfl

structure SelfConfigured (b b' : Bund) (taken : List UInt32) : Prop where
  frame : b' = { b with
    ippools := b'.ippools, pools := b'.pools
    ipcp := { b.ipcp with
      self_allow := b'.ipcp.self_allow, self_ippool_used := b'.ipcp.self_ippool_used } }
  pools : b'.ippools = poolsForPeer b.ippools b
  took : Took b.ippools b'.ippools taken
  taken : taken = if b'.ipcp.self_ippool_used then [b'.ipcp.self_allow.addr.ip4] else []
  self : if b'.ipcp.self_ippool_used then
      InPool b.ipcp.conf.self_ippool b'.ipcp.self_allow.addr.ip4 b.ippools
    else b'.ipcp.self_allow.addr.ip4 ∉ ipPoolIps b.ippools

theorem selfConfigured (undisturbed : Undisturbed b) (distinct : (ipPoolIps b.ippools).Nodup)
    (idle : b.ipcp.self_ippool_used = false) (ready : SelfReady b.ippools b) :
    ∃ taken, SelfConfigured b (ipcpSelfRange b) taken := by
  unfold SelfReady at ready
  unfold ipcpSelfRange
  dsimp only
  split_ifs at ready ⊢ with pooled
  · obtain ⟨⟨ip, pools'⟩, got⟩ := Option.isSome_iff_exists.mp ready
    rw [bundPoolGet_eq undisturbed got]
    refine ⟨[ip], rfl, ?_, took_ipPoolGet distinct got, rfl, inPool_of_ipPoolGet got⟩
    simp [poolsForPeer, pooled, got]
  · refine ⟨[], rfl, ?_, took_nothing _, ?_, ?_⟩
    · simp [poolsForPeer, pooled]
    · simp [idle]
    · simpa [idle] using ready

structure PeerConfigured (b b' : Bund) (taken : List UInt32) : Prop where
  frame : b' = { b with
    ippools := b'.ippools, pools := b'.pools
    params := { b.params with ippool_used := b'.params.ippool_used }
    ipcp := { b.ipcp with
      peer_allow := b'.ipcp.peer_allow, ippool_used := b'.ipcp.ippool_used } }
  took : Took b.ippools b'.ippools taken
  one : b'.params.ippool_used = false ∨ b'.ipcp.ippool_used = false
  taken : taken = (ipcpPeerPool b').toList.map fun _ => b'.ipcp.peer_allow.addr.ip4
  peer : match ipcpPeerPool b' with
    | some name => InPool name b'.ipcp.peer_allow.addr.ip4 b.ippools ∧
        b'.ipcp.peer_allow = ⟨inAddrtouAddr b'.ipcp.peer_allow.addr.ip4, 32⟩
    | none => RangeApart b'.ipcp.peer_allow b.ippools

theorem peerConfigured (undisturbed : Undisturbed b) (distinct : (ipPoolIps b.ippools).Nodup)
    (idle : b.params.ippool_used = false ∧ b.ipcp.ippool_used = false)
    (ready : PeerReady b.ippools b) : ∃ taken, PeerConfigured b (ipcpPeerRange b) taken := by
  obtain ⟨unused, unused'⟩ := idle
  unfold PeerReady at ready
  unfold ipcpPeerRange
  dsimp only
  cases fixed : b.params.range.filter fun range => !uRangeempty range with
  | some range =>
      simp only [fixed] at ready ⊢
      exact ⟨[], rfl, took_nothing _, .inl unused, by simp [ipcpPeerPool, unused, unused'],
        by simpa [ipcpPeerPool, unused, unused'] using ready⟩
  | none =>
      simp only [fixed] at ready ⊢
      split_ifs at ready ⊢ with own pooled
      · obtain ⟨⟨ip, pools'⟩, got⟩ := Option.isSome_iff_exists.mp ready
        rw [bundPoolGet_eq undisturbed got]
        exact ⟨[ip], rfl, took_ipPoolGet distinct got, .inr unused', rfl,
          inPool_of_ipPoolGet got, rfl⟩
      · obtain ⟨⟨ip, pools'⟩, got⟩ := Option.isSome_iff_exists.mp ready
        rw [bundPoolGet_eq undisturbed got]
        refine ⟨[ip], rfl, took_ipPoolGet distinct got, .inl unused, ?_, ?_⟩
        · simp [ipcpPeerPool, unused, inAddrtouAddr]
        · simpa [ipcpPeerPool, unused, inAddrtouAddr] using inPool_of_ipPoolGet got
      · exact ⟨[], rfl, took_nothing _, .inl unused, by simp [ipcpPeerPool, unused, unused'],
          by simpa [ipcpPeerPool, unused, unused'] using ready⟩

end Configure

/-- The peer's side has an address of its pool and takes no other, or takes none of any pool. -/
def PeerHeld (pools : List IPPool) (b : Bund) : Prop :=
  match ipcpPeerPool b with
  | some name => InPool name b.ipcp.peer_addr pools ∧
      b.ipcp.peer_allow = ⟨inAddrtouAddr b.ipcp.peer_addr, 32⟩
  | none => b.ipcp.peer_addr ∉ ipPoolIps pools ∧ RangeApart b.ipcp.peer_allow pools

/-- Each side of a configured bundle has an address of its pool, or none of any pool. -/
structure Configured (pools : List IPPool) (b : Bund) : Prop where
  self : if b.ipcp.self_ippool_used then InPool b.ipcp.conf.self_ippool b.ipcp.want_addr pools
    else b.ipcp.want_addr ∉ ipPoolIps pools
  one : b.params.ippool_used = false ∨ b.ipcp.ippool_used = false
  peer : PeerHeld pools b

def Idle (b : Bund) : Prop :=
  b.ipcp.self_ippool_used = false ∧ b.params.ippool_used = false ∧ b.ipcp.ippool_used = false

theorem Idle.held {b : Bund} (idle : Idle b) : ipcpHeld b = [] := by
  simp [ipcpHeld, ipcpPeerPool, idle.1, idle.2.1, idle.2.2]

section Steps

variable {w : FsmWorld Bund} (undisturbed : Undisturbed w.layer)
  (distinct : (ipPoolIps w.layer.ippools).Nodup)
include undisturbed distinct

/-- `IpcpConfigure` takes just what `IpcpUnConfigure` would return. -/
theorem configured_ipcpConfigure (idle : Idle w.layer)
    (selfReady : SelfReady w.layer.ippools w.layer)
    (peerReady : PeerReady (poolsForPeer w.layer.ippools w.layer) w.layer) :
    Took w.layer.ippools (ipcpConfigure w).layer.ippools (ipcpHeld (ipcpConfigure w).layer) ∧
      Configured w.layer.ippools (ipcpConfigure w).layer := by
  obtain ⟨selfUnused, peerUnused⟩ := idle
  obtain ⟨ours, self⟩ := selfConfigured undisturbed distinct selfUnused selfReady
  have between : Undisturbed (ipcpSelfRange w.layer) := by
    rw [self.frame]
    exact undisturbed
  have flags : (ipcpSelfRange w.layer).params.ippool_used = false ∧
      (ipcpSelfRange w.layer).ipcp.ippool_used = false := by
    rw [self.frame]
    exact peerUnused
  have ready : PeerReady (ipcpSelfRange w.layer).ippools (ipcpSelfRange w.layer) := by
    rw [self.pools, self.frame]
    exact peerReady
  obtain ⟨theirs, peer⟩ := peerConfigured between (by rwa [self.took.ips]) flags ready
  have conf : (ipcpPeerRange (ipcpSelfRange w.layer)).ipcp.conf = w.layer.ipcp.conf :=
    (congrArg (·.ipcp.conf) peer.frame).trans (congrArg (·.ipcp.conf) self.frame)
  have allow : (ipcpPeerRange (ipcpSelfRange w.layer)).ipcp.self_allow =
      (ipcpSelfRange w.layer).ipcp.self_allow := congrArg (·.ipcp.self_allow) peer.frame
  have flag : (ipcpPeerRange (ipcpSelfRange w.layer)).ipcp.self_ippool_used =
      (ipcpSelfRange w.layer).ipcp.self_ippool_used :=
    congrArg (·.ipcp.self_ippool_used) peer.frame
  have held : ipcpHeld (ipcpConfigure w).layer = ours ++ theirs := by
    rw [self.taken, peer.taken, ← allow, ← flag]
    rfl
  refine ⟨held ▸ self.took.trans peer.took, ?_, peer.one, ?_⟩
  · have ours := self.self
    rw [← allow, ← flag, ← conf] at ours
    exact ours
  · have theirs := peer.peer
    change match ipcpPeerPool (ipcpPeerRange (ipcpSelfRange w.layer)) with
      | some name => InPool name (ipcpPeerRange (ipcpSelfRange w.layer)).ipcp.peer_allow.addr.ip4
            w.layer.ippools ∧ _
      | none => _ ∧ RangeApart (ipcpPeerRange (ipcpSelfRange w.layer)).ipcp.peer_allow _
    cases pool : ipcpPeerPool (ipcpPeerRange (ipcpSelfRange w.layer)) with
    | some name =>
        rw [pool] at theirs
        exact ⟨(self.took.inPool _ _).mp theirs.1, theirs.2⟩
    | none =>
        rw [pool] at theirs
        have apart : RangeApart (ipcpPeerRange (ipcpSelfRange w.layer)).ipcp.peer_allow
            w.layer.ippools := by
          rw [RangeApart, ← self.took.ips]
          exact theirs
        exact ⟨apart.1, apart⟩

omit distinct in
theorem bundPoolFree_eq (name : Bytes) (ip : UInt32) :
    bundPoolFree name ip w = { w with layer := { w.layer with
      pools := w.layer.pools + 1, ippools := ipPoolFree name ip w.layer.ippools } } := by
  simp only [bundPoolFree, Bund.findPools]
  rw [undisturbed]

end Steps

structure Gave (pools pools' : List IPPool) (given : List UInt32) : Prop where
  ips : ipPoolIps pools' = ipPoolIps pools
  inPool : ∀ name ip, InPool name ip pools' ↔ InPool name ip pools
  used : ∀ ip, ip ∈ ipPoolUsed pools' ↔ ip ∈ ipPoolUsed pools ∧ ip ∉ given

theorem gave_nothing (pools : List IPPool) : Gave pools pools [] :=
  ⟨rfl, fun _ _ => .rfl, by simp⟩

theorem gave_ipPoolFree {name : Bytes} {ip : UInt32} {pools : List IPPool}
    (inside : InPool name ip pools) (distinct : (ipPoolIps pools).Nodup) :
    Gave pools (ipPoolFree name ip pools) [ip] where
  ips := ips_ipPoolFree name ip pools
  inPool := inPool_ipPoolFree name ip pools
  used x := by rw [used_ipPoolFree inside distinct, List.mem_singleton]

theorem Gave.trans {pools pools' pools'' : List IPPool} {first second : List UInt32}
    (left : Gave pools pools' first) (right : Gave pools' pools'' second) :
    Gave pools pools'' (first ++ second) where
  ips := right.ips.trans left.ips
  inPool name ip := (right.inPool name ip).trans (left.inPool name ip)
  used ip := by
    rw [right.used, left.used, List.mem_append, not_or, and_assoc]

section Release

variable {w : FsmWorld Bund}

/-- The first half of `IpcpUnConfigure`. -/
def ipcpReleaseSelf (w : FsmWorld Bund) : FsmWorld Bund :=
  let ipcp := w.layer.ipcp
  if ipcp.self_ippool_used then
    (bundPoolFree ipcp.conf.self_ippool ipcp.want_addr w).setIpcp
      { ipcp with self_ippool_used := false }
  else w

def ipcpReleasePeer (w : FsmWorld Bund) : FsmWorld Bund :=
  let ipcp := w.layer.ipcp
  let params := w.layer.params
  if params.ippool_used then
    let w := bundPoolFree params.ippool ipcp.peer_addr w
    { w with layer := { w.layer with params := { params with ippool_used := false } } }
  else if ipcp.ippool_used then
    (bundPoolFree ipcp.conf.ippool ipcp.peer_addr w).setIpcp { ipcp with ippool_used := false }
  else w

theorem ipcpUnConfigure_eq (w : FsmWorld Bund) :
    ipcpUnConfigure w = ipcpReleasePeer (ipcpReleaseSelf w) := rfl

structure SelfReleased (before after : Bund) : Prop where
  frame : after = { before with
    ippools := after.ippools, pools := after.pools
    ipcp := { before.ipcp with self_ippool_used := false } }
  gave : Gave before.ippools after.ippools
    (if before.ipcp.self_ippool_used then [before.ipcp.want_addr] else [])

theorem selfReleased (undisturbed : Undisturbed w.layer)
    (distinct : (ipPoolIps w.layer.ippools).Nodup)
    (configured : Configured w.layer.ippools w.layer) :
    SelfReleased w.layer (ipcpReleaseSelf w).layer := by
  have inside := configured.self
  unfold ipcpReleaseSelf
  dsimp only
  split_ifs at inside ⊢ with used
  · rw [bundPoolFree_eq undisturbed]
    refine ⟨rfl, ?_⟩
    rw [if_pos used]
    exact gave_ipPoolFree inside distinct
  · refine ⟨?_, ?_⟩
    · rw [Bool.not_eq_true] at used
      rw [← used]
    · rw [if_neg used]
      exact gave_nothing _

theorem peerReleased (undisturbed : Undisturbed w.layer)
    (distinct : (ipPoolIps w.layer.ippools).Nodup)
    (one : w.layer.params.ippool_used = false ∨ w.layer.ipcp.ippool_used = false)
    (inside : PeerHeld w.layer.ippools w.layer) :
    Gave w.layer.ippools (ipcpReleasePeer w).layer.ippools
        ((ipcpPeerPool w.layer).toList.map fun _ => w.layer.ipcp.peer_addr) ∧
      (ipcpReleasePeer w).layer.ipcp.self_ippool_used = w.layer.ipcp.self_ippool_used ∧
      (ipcpReleasePeer w).layer.params.ippool_used = false ∧
      (ipcpReleasePeer w).layer.ipcp.ippool_used = false := by
  unfold PeerHeld at inside
  unfold ipcpPeerPool at inside ⊢
  unfold ipcpReleasePeer
  dsimp only
  split_ifs at inside ⊢ with own pooled
  · rw [bundPoolFree_eq undisturbed]
    exact ⟨gave_ipPoolFree inside.1 distinct, rfl, rfl, one.resolve_left (by simp [own])⟩
  · rw [bundPoolFree_eq undisturbed]
    exact ⟨gave_ipPoolFree inside.1 distinct, rfl, Bool.eq_false_iff.mpr own, rfl⟩
  · exact ⟨gave_nothing _, rfl, Bool.eq_false_iff.mpr own, Bool.eq_false_iff.mpr pooled⟩

/-- `IpcpUnConfigure` returns all that the bundle holds. -/
theorem idle_ipcpUnConfigure (undisturbed : Undisturbed w.layer)
    (distinct : (ipPoolIps w.layer.ippools).Nodup)
    (configured : Configured w.layer.ippools w.layer) :
    Gave w.layer.ippools (ipcpUnConfigure w).layer.ippools (ipcpHeld w.layer) ∧
      Idle (ipcpUnConfigure w).layer := by
  have first := selfReleased undisturbed distinct configured
  have between : Undisturbed (ipcpReleaseSelf w).layer := by
    rw [first.frame]
    exact undisturbed
  have ipcp : (ipcpReleaseSelf w).layer.ipcp = { w.layer.ipcp with self_ippool_used := false } :=
    congrArg (·.ipcp) first.frame
  have params : (ipcpReleaseSelf w).layer.params = w.layer.params :=
    congrArg (·.params) first.frame
  have pool : ipcpPeerPool (ipcpReleaseSelf w).layer = ipcpPeerPool w.layer := by
    simp only [ipcpPeerPool, ipcp, params]
  have inside : PeerHeld (ipcpReleaseSelf w).layer.ippools (ipcpReleaseSelf w).layer := by
    have inside := configured.peer
    unfold PeerHeld RangeApart at inside ⊢
    simp only [pool, ipcp, first.gave.ips, first.gave.inPool]
    exact inside
  have one : (ipcpReleaseSelf w).layer.params.ippool_used = false ∨
      (ipcpReleaseSelf w).layer.ipcp.ippool_used = false := by
    rw [ipcp, params]
    exact configured.one
  obtain ⟨second, self, own, pooled⟩ :=
    peerReleased between (by rwa [first.gave.ips]) one inside
  rw [ipcpUnConfigure_eq]
  have released := first.gave.trans second
  rw [pool, ipcp] at released
  exact ⟨released, self.trans (congrArg (·.self_ippool_used) ipcp), own, pooled⟩

theorem ipcpUnConfigure_of_idle (idle : Idle w.layer) : ipcpUnConfigure w = w := by
  simp [ipcpUnConfigure, idle.1, idle.2.1, idle.2.2]

end Release

theorem Configured.alike {pools pools' : List IPPool} {b : Bund} (configured : Configured pools b)
    (ips : ipPoolIps pools' = ipPoolIps pools)
    (inPool : ∀ name ip, InPool name ip pools' ↔ InPool name ip pools) : Configured pools' b := by
  refine ⟨?_, configured.one, ?_⟩
  · simp only [ips, inPool]
    exact configured.self
  · have peer := configured.peer
    unfold PeerHeld RangeApart at peer ⊢
    simp only [ips, inPool]
    exact peer

section Request

def Safe (pools : List IPPool) (b : Bund) (ip : UInt32) : Prop :=
  match ipcpPeerPool b with
  | some _ => ip = b.ipcp.peer_addr
  | none => ip ∉ ipPoolIps pools

variable {pools : List IPPool} {b : Bund} (configured : Configured pools b)
include configured

theorem Configured.safe_peer_addr : Safe pools b b.ipcp.peer_addr := by
  have peer := configured.peer
  unfold PeerHeld at peer
  unfold Safe
  cases pool : ipcpPeerPool b with
  | some name => rfl
  | none =>
      rw [pool] at peer
      exact peer.1

/-- The range of a pool address admits that address alone. -/
theorem Configured.safe_of_inRange (nonzero : 0 ∉ ipPoolIps pools) {ip : UInt32}
    (inside : (ipAddrInRange b.ipcp.peer_allow ip && ip != 0) = true) : Safe pools b ip := by
  have peer := configured.peer
  unfold PeerHeld at peer
  unfold Safe
  rw [Bool.and_eq_true] at inside
  cases pool : ipcpPeerPool b with
  | some name =>
      rw [pool] at peer
      have set : b.ipcp.peer_addr ≠ 0 := fun zero => nonzero (zero ▸ peer.1.mem)
      rw [peer.2] at inside
      exact (ipAddrInRange_host set).mp inside.1
  | none =>
      rw [pool] at peer
      intro member
      rw [peer.2.2 ip member] at inside
      cases inside.1

/-- A request leaves a configured bundle configured, with what it held. -/
theorem Configured.decoded {w : FsmWorld Bund} (decoded : Decoded (Safe pools b) b w) :
    Configured pools w.layer ∧ ipcpHeld w.layer = ipcpHeld b ∧
      ∀ ip, Safe pools b ip → ip ∈ ipcpHeld b ∨ ip ∉ ipPoolIps pools := by
  have peer := configured.peer
  have safe := decoded.peer_addr
  have pool : ipcpPeerPool w.layer = ipcpPeerPool b := by
    rw [decoded.layer]
    rfl
  have held : ipcpHeld w.layer = ipcpHeld b ∧ PeerHeld pools w.layer := by
    unfold PeerHeld Safe at *
    unfold ipcpHeld
    rw [pool]
    have allow : w.layer.ipcp.peer_allow = b.ipcp.peer_allow :=
      congrArg (·.ipcp.peer_allow) decoded.layer
    have self : w.layer.ipcp.self_ippool_used = b.ipcp.self_ippool_used :=
      congrArg (·.ipcp.self_ippool_used) decoded.layer
    have want : w.layer.ipcp.want_addr = b.ipcp.want_addr :=
      congrArg (·.ipcp.want_addr) decoded.layer
    rw [allow, self, want]
    cases found : ipcpPeerPool b with
    | some name =>
        simp only [found] at peer safe
        rw [safe]
        exact ⟨rfl, peer⟩
    | none =>
        simp only [found] at peer safe
        exact ⟨rfl, safe, peer.2⟩
  refine ⟨⟨?_, ?_, held.2⟩, held.1, fun ip told => ?_⟩
  · rw [decoded.layer]
    exact configured.self
  · rw [decoded.layer]
    exact configured.one
  · unfold Safe at told
    cases found : ipcpPeerPool b with
    | some name =>
        simp only [found] at told
        refine .inl (List.mem_append_right _ ?_)
        rw [found, told]
        exact List.mem_singleton_self _
    | none =>
        simp only [found] at told
        exact .inr told

end Request

namespace PoolState

variable {ι : Type} {s : PoolState ι}

def ledger (s : PoolState ι) : Ledger ι UInt32 where
  used := {ip | ip ∈ ipPoolUsed s.pools}
  held i := {ip | ip ∈ ipcpHeld (s.bundles i).layer}

structure InOrder (s : PoolState ι) : Prop where
  distinct : (ipPoolIps s.pools).Nodup
  nonzero : 0 ∉ ipPoolIps s.pools
  sound : s.ledger.Sound
  idle : ∀ i, s.configured i = false → Idle (s.bundles i).layer ∧ s.uttered i = []
  configured : ∀ i, s.configured i = true → Mpd.Configured s.pools (s.bundles i).layer
  taken : ∀ i ip, ip ∈ s.taken i ↔ ip ∈ ipcpHeld (s.bundles i).layer
  uttered : ∀ i, ∀ ip ∈ s.uttered i, ip ∈ ipcpHeld (s.bundles i).layer ∨ ip ∉ ipPoolIps s.pools

theorem InOrder.exclusive (inOrder : s.InOrder) : s.Exclusive := by
  constructor
  · intro i j other ip taken uttered
    have held : ip ∈ s.ledger.held i := (inOrder.taken i ip).mp taken
    obtain held' | outside := inOrder.uttered j ip uttered
    · exact other (inOrder.sound.exclusive held held')
    · exact outside (mem_ips_of_mem_used (inOrder.sound.mem_used.mpr ⟨i, held⟩))
  · intro unconfigured
    have returned (i : ι) : s.ledger.held i = ∅ := by
      have nothing := (inOrder.idle i (unconfigured i)).1.held
      simp [ledger, nothing]
    have none_used := inOrder.sound.used_eq_empty returned
    apply List.eq_nil_iff_forall_not_mem.mpr
    intro ip used
    exact Set.eq_empty_iff_forall_notMem.mp none_used ip used

theorem Fresh.inOrder (fresh : s.Fresh) : s.InOrder where
  distinct := fresh.distinct
  nonzero := fresh.nonzero
  sound := by
    have nothing (i : ι) : ipcpHeld (s.bundles i).layer = [] := Idle.held (fresh.flags i)
    constructor
    · intro i j ip left _
      simp [ledger, nothing] at left
    · simp [ledger, nothing, fresh.unused]
  idle i _ := ⟨fresh.flags i, fresh.uttered i⟩
  configured i configured := by
    rw [fresh.configured i] at configured
    cases configured
  taken i ip := by
    rw [fresh.taken i, Idle.held (fresh.flags i)]
  uttered i ip member := by
    rw [fresh.uttered i] at member
    cases member

theorem load_undisturbed (s : PoolState ι) (i : ι) : Undisturbed (s.load i).layer :=
  fun _ _ => rfl

theorem configured_load {i : ι} (configured : Mpd.Configured s.pools (s.bundles i).layer) :
    Mpd.Configured s.pools (s.load i).layer :=
  ⟨configured.self, configured.one, configured.peer⟩

variable [DecidableEq ι]

/-- One bundle ran, and the order is kept as far as it goes. -/
theorem InOrder.stored (inOrder : s.InOrder) {i : ι} {w : FsmWorld Bund} {configured : Bool}
    {taken uttered : List UInt32} (ips : ipPoolIps w.layer.ippools = ipPoolIps s.pools)
    (inPool : ∀ name ip, InPool name ip w.layer.ippools ↔ InPool name ip s.pools)
    (sound : ({ used := {ip | ip ∈ ipPoolUsed w.layer.ippools}
                held := Function.update s.ledger.held i {ip | ip ∈ ipcpHeld w.layer} } :
      Ledger ι UInt32).Sound)
    (idle : configured = false → Idle w.layer ∧ uttered = [])
    (ready : configured = true → Mpd.Configured s.pools w.layer)
    (own : ∀ ip, ip ∈ taken ↔ ip ∈ ipcpHeld w.layer)
    (told : ∀ ip ∈ uttered, ip ∈ ipcpHeld w.layer ∨ ip ∉ ipPoolIps s.pools) :
    InOrder { s.store i w with
      configured := Function.update s.configured i configured
      taken := Function.update s.taken i taken
      uttered := Function.update s.uttered i uttered } := by
  have books : ({ s.store i w with
      configured := Function.update s.configured i configured
      taken := Function.update s.taken i taken
      uttered := Function.update s.uttered i uttered } : PoolState ι).ledger =
      ⟨{ip | ip ∈ ipPoolUsed w.layer.ippools},
        Function.update s.ledger.held i {ip | ip ∈ ipcpHeld w.layer}⟩ := by
    unfold ledger store
    simp only [Ledger.mk.injEq, true_and]
    funext j
    by_cases same : j = i
    · subst same
      simp
    · simp [same]
  refine ⟨ips ▸ inOrder.distinct, ips ▸ inOrder.nonzero, books ▸ sound, ?_, ?_, ?_, ?_⟩ <;>
    intro j <;> by_cases same : j = i
  · subst same
    simpa [store] using idle
  · simpa [store, same] using inOrder.idle j
  · subst same
    intro now
    simp only [store, Function.update_self] at now ⊢
    exact (ready now).alike ips inPool
  · intro now
    simp only [store, Function.update_of_ne same] at now ⊢
    exact (inOrder.configured j now).alike ips inPool
  · subst same
    simpa [store] using own
  · simpa [store, same] using inOrder.taken j
  · subst same
    simpa [store, ips] using told
  · simpa [store, same, ips] using inOrder.uttered j

theorem InOrder.configure (inOrder : s.InOrder) {i : ι} (unconfigured : s.configured i = false)
    (selfReady : SelfReady s.pools (s.bundles i).layer)
    (peerReady : PeerReady (poolsForPeer s.pools (s.bundles i).layer) (s.bundles i).layer) :
    (s.configure i).InOrder := by
  obtain ⟨idle, silent⟩ := inOrder.idle i unconfigured
  obtain ⟨took, configured⟩ := configured_ipcpConfigure (s.load_undisturbed i)
    inOrder.distinct idle selfReady peerReady
  have nothing : s.ledger.held i = ∅ := by simp [ledger, idle.held]
  have untaken : s.taken i = [] := by
    apply List.eq_nil_iff_forall_not_mem.mpr
    intro ip taken
    rw [inOrder.taken, idle.held] at taken
    cases taken
  refine inOrder.stored took.ips took.inPool ?_ nofun (fun _ => configured) ?_ ?_
  · have sound : (s.ledger.take i {ip | ip ∈ ipcpHeld (ipcpConfigure (s.load i)).layer}).Sound :=
      inOrder.sound.take took.unused
    rw [Ledger.take, nothing, Set.empty_union] at sound
    have used : {ip | ip ∈ ipPoolUsed (ipcpConfigure (s.load i)).layer.ippools} =
        s.ledger.used ∪ {ip | ip ∈ ipcpHeld (ipcpConfigure (s.load i)).layer} :=
      Set.ext took.used
    rw [used]
    exact sound
  · intro ip
    rw [untaken, List.nil_append, List.mem_filter, took.used, decide_eq_true_eq]
    constructor
    · rintro ⟨used | held, unused⟩
      · exact absurd used unused
      · exact held
    · exact fun held => ⟨.inr held, took.unused ip held⟩
  · intro ip told
    rw [silent, List.mem_singleton] at told
    have self := configured.self
    rw [told]
    split_ifs at self with used
    · exact .inl (List.mem_append_left _ (by rw [if_pos used]; exact List.mem_singleton_self _))
    · exact .inr self

theorem InOrder.unConfigure (inOrder : s.InOrder) (i : ι) : (s.unConfigure i).InOrder := by
  have released : Gave s.pools (ipcpUnConfigure (s.load i)).layer.ippools
      (ipcpHeld (s.bundles i).layer) ∧ Idle (ipcpUnConfigure (s.load i)).layer := by
    cases configured : s.configured i with
    | true =>
        exact idle_ipcpUnConfigure (s.load_undisturbed i) inOrder.distinct
          (configured_load (inOrder.configured i configured))
    | false =>
        have idle := (inOrder.idle i configured).1
        have same : ipcpUnConfigure (s.load i) = s.load i := ipcpUnConfigure_of_idle idle
        rw [same, idle.held]
        exact ⟨gave_nothing _, idle⟩
  obtain ⟨gave, idle⟩ := released
  refine inOrder.stored gave.ips gave.inPool ?_ (fun _ => ⟨idle, rfl⟩) (fun left => ?_) ?_
    (fun _ left => ?_)
  · have sound := inOrder.sound.release i
    have used : {ip | ip ∈ ipPoolUsed (ipcpUnConfigure (s.load i)).layer.ippools} =
        s.ledger.used \ s.ledger.held i := Set.ext gave.used
    rw [Ledger.release] at sound
    rw [used, idle.held]
    simpa using sound
  · cases left
  · simp [idle.held]
  · cases left

theorem InOrder.request (inOrder : s.InOrder) {i : ι} {bp : Bytes}
    (now : s.configured i = true) (earnest : NoPretence bp (s.bundles i).layer) :
    (s.request i bp).InOrder := by
  have configured : Mpd.Configured s.pools (s.load i).layer :=
    configured_load (inOrder.configured i now)
  have decoded : Decoded (Safe s.pools (s.load i).layer) (s.load i).layer
      (fsmDecodeBuffer (ipcpType 0) bp .req (s.load i)) := by
    have start : Decoded (Safe s.pools (s.load i).layer) (s.load i).layer
        { s.load i with ack := [], nak := [], rej := [] } :=
      ⟨rfl, configured.safe_peer_addr, carries_nil _, carries_nil _⟩
    refine start.all fun opt member meaning takes => ?_
    have asked : ipcpOptAddr opt ∈ ipcpAddrs bp :=
      List.mem_filterMap.mpr ⟨opt, member, by rw [if_pos meaning]⟩
    exact configured.safe_of_inRange inOrder.nonzero (earnest _ asked takes)
  obtain ⟨ready, held, told⟩ := configured.decoded decoded
  have pools : (fsmDecodeBuffer (ipcpType 0) bp .req (s.load i)).layer.ippools = s.pools :=
    congrArg (·.ippools) decoded.layer
  have unchanged : s.request i bp =
      { s.store i (fsmDecodeBuffer (ipcpType 0) bp .req (s.load i)) with
        configured := Function.update s.configured i (s.configured i)
        taken := Function.update s.taken i (s.taken i)
        uttered := (s.request i bp).uttered } := by
    simp only [Function.update_eq_self]
    rfl
  rw [unchanged]
  refine inOrder.stored (by rw [pools]) (by simp [pools]) ?_ ?_ (fun _ => ready) ?_ ?_
  · have same : Function.update s.ledger.held i
        {ip | ip ∈ ipcpHeld (fsmDecodeBuffer (ipcpType 0) bp .req (s.load i)).layer} =
          s.ledger.held := by
      rw [held]
      exact Function.update_eq_self i s.ledger.held
    rw [same, pools]
    exact inOrder.sound
  · intro unconfigured
    rw [unconfigured] at now
    cases now
  · intro ip
    rw [held]
    exact inOrder.taken i ip
  · intro ip member
    rw [held]
    rcases List.mem_append.mp member with answered | before
    · rcases List.mem_append.mp answered with acked | naked
      · exact told ip (decoded.ack.mem acked)
      · exact told ip (decoded.nak.mem naked)
    · exact inOrder.uttered i ip before

theorem inOrder_step (state : PoolState ι) (event : PoolEvent ι) (inOrder : state.InOrder)
    (orderly : state.Orderly event) : (poolStep state event).InOrder := by
  cases event with
  | configure i => exact inOrder.configure orderly.1 orderly.2.1 orderly.2.2
  | request i bp => exact inOrder.request orderly.1 orderly.2
  | unConfigure i => exact inOrder.unConfigure i

/-- Where each step is orderly, no address that a bundle took from a pool is told to the peer
of another, and all of them are back when all bundles are unconfigured. -/
theorem exclusive_run {start : PoolState ι} (fresh : start.Fresh) {events : List (PoolEvent ι)}
    (orderly : Transition.Meets poolStep PoolState.Orderly start events) :
    (Transition.run poolStep start events).Exclusive :=
  (Transition.invariant_run poolStep inOrder_step fresh.inOrder orderly).exclusive

end PoolState

def Bund.pooled : Bund where
  env := {
    others := fun _ pools => pools
    ifaceIpIfaceUp := fun _ => true
    ifaceIpv6IfaceUp := fun _ => true }
  ippools := []
  ipcpEnabled := true
  ipv6cpEnabled := false
  params := {
    range := none, ippool := [], ippool_used := false, vjc_enable := false, peer_dns := ⟨0, 0⟩
    peer_nbns := ⟨0, 0⟩ }
  iface := { «open» := false, dod := false, up := false, ip_up := false, ipv6_up := false }
  ncpstarted := 0
  ipcp := {
    conf := {
      options := { enable := 0, accept := 0 }
      self_allow := ⟨inAddrtouAddr 0xC0000201, 32⟩
      peer_allow := ⟨inAddrtouAddr 0, 0⟩
      self_ippool := []
      ippool := [112]
      peer_dns := ⟨0, 0⟩
      peer_nbns := ⟨0, 0⟩ }
    want_addr := 0
    peer_addr := 0
    self_allow := ⟨⟨.unspec, 0, []⟩, 0⟩
    peer_allow := ⟨⟨.unspec, 0, []⟩, 0⟩
    self_ippool_used := false
    ippool_used := false
    peer_comp := ⟨0, 0, 0⟩
    want_comp := ⟨0, 0, 0⟩
    want_dns := ⟨0, 0⟩
    want_nbns := ⟨0, 0⟩
    peer_reject := 0 }
  pools := 0
  ifaceUps := 0
  trace := []

/-- Any number of such bundles before they use the pool with the given addresses. -/
def poolStart (ips : List UInt32) : PoolState Nat where
  pools := [⟨[112], ips.map fun ip => ⟨ip, false⟩⟩]
  bundles _ := .init .pooled
  configured _ := false
  taken _ := []
  uttered _ := []

def ipaddrRequest : Bytes := [3, 6, 10, 0, 0, 1]

theorem exclusive_run_two :
    (Transition.run poolStep (poolStart [0x0A000001, 0x0A000002])
      [.configure 0, .configure 1, .request 1 ipaddrRequest, .unConfigure 0]).Exclusive := by
  refine PoolState.exclusive_run ⟨by decide, by decide, by decide, fun _ => rfl, fun _ => rfl,
    fun _ => rfl, fun _ => ⟨rfl, rfl, rfl⟩⟩
    ⟨⟨rfl, ?_, ?_⟩, ⟨rfl, ?_, ?_⟩, ⟨rfl, ?_⟩, trivial, trivial⟩ <;> decide

/-- A bundle that gets nothing from the exhausted pool takes any address, also one that
another bundle has from the pool. -/
theorem not_exclusive_exhausted :
    ¬ ∀ (start : PoolState Nat) (events : List (PoolEvent Nat)), start.Fresh →
      (Transition.run poolStep start events).Exclusive := by
  intro always
  have exclusive := always (poolStart [0x0A000001])
    [.configure 0, .configure 1, .request 1 ipaddrRequest]
    ⟨by decide, by decide, by decide, fun _ => rfl, fun _ => rfl, fun _ => rfl,
      fun _ => ⟨rfl, rfl, rfl⟩⟩
  exact exclusive.1 0 1 (by decide) 0x0A000001 (by decide) (by decide)

end Mpd
