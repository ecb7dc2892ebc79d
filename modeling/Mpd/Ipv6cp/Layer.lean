import Mpd.Fsm.Events
import Mpd.Ipcp.Options

/-! IPV6CP as in `ipv6cp.c`, and the part of `bund.c` that brings an interface up and down
for it. Where the interface cannot be configured for IPv6, `FsmFailure` is called on the FSM
whose layer just went up or down. -/

set_option autoImplicit false

namespace Mpd.Ipv6cp

def protoIpv6cp : UInt16 := 0x8057
def ncpIpv6cpBit : UInt8 := 2

inductive Ipv6cpOpt where
  | intident
  deriving DecidableEq, Repr

def tyIntident : UInt8 := 1

def gIpv6cpConfOpts : List (FsmOptInfo Ipv6cpOpt) := [⟨1, 8, 8, some .intident⟩, ⟨2, 4, 4, none⟩]

/-- `struct ipv6cpstate`, less its FSM, its options and the addresses of the interface. -/
structure Ipv6cpState where
  myintid : Bytes
  hisintid : Bytes
  peer_reject : UInt32
  deriving DecidableEq, Repr

/-- What is outside of a bundle: the n-th result of `random`, and whether the n-th
configuration of the interface succeeds. -/
structure Ipv6Env where
  random : Nat → UInt32
  ifaceIpIfaceUp : Nat → Bool
  ifaceIpv6IfaceUp : Nat → Bool

/-- `struct bundle`, as far as IPV6CP goes. `drawn` and `ifaceUps` count the calls to what
is outside. -/
structure Ipv6Bund where
  env : Ipv6Env
  ipcpEnabled : Bool
  ipv6cpEnabled : Bool
  iface : Iface
  ncpstarted : UInt8
  enableIPv6 : Bool
  ipv6cp : Ipv6cpState
  drawn : Nat
  ifaceUps : Nat
  trace : List BundAct

def Ipv6cpState.peerRej (ipv6cp : Ipv6cpState) (x : UInt8) : Ipv6cpState :=
  { ipv6cp with peer_reject := ipv6cp.peer_reject ||| (1 <<< x.toUInt32) }

def setIpv6cp (ipv6cp : Ipv6cpState) (w : FsmWorld Ipv6Bund) : FsmWorld Ipv6Bund :=
  { w with layer := { w.layer with ipv6cp } }

def setIface (iface : Iface) (w : FsmWorld Ipv6Bund) : FsmWorld Ipv6Bund :=
  { w with layer := { w.layer with iface } }

def act (act : BundAct) (w : FsmWorld Ipv6Bund) : FsmWorld Ipv6Bund :=
  { w with layer := { w.layer with trace := w.layer.trace ++ [act] } }

section Identifier

/-- A word in the order of the host. -/
def putHost32 (value : UInt32) : Bytes :=
  [UInt8.ofNat value.toNat, UInt8.ofNat (value.toNat / 256), UInt8.ofNat (value.toNat / 65536),
    UInt8.ofNat (value.toNat / 16777216)]

def randomWord (random : UInt32) : UInt32 := random % 0xFFFFFFFF + 1

def randomIdentifier (first second : UInt32) : Bytes :=
  match putHost32 (randomWord first) ++ putHost32 (randomWord second) with
  | head :: tail => (head &&& 0xFD) :: tail
  | [] => []

def etherIdentifier (ether : Fin 6 → UInt8) : Bytes :=
  [ether 0 ^^^ 0x02, ether 1, ether 2, 0xFF, 0xFE, ether 3, ether 4, ether 5]

def createInterfaceID (b : Ipv6Bund) : Bytes × Ipv6Bund :=
  (randomIdentifier (b.env.random b.drawn) (b.env.random (b.drawn + 1)),
    { b with drawn := b.drawn + 2 })

/-- `Ipv6cpInit`, where `ether` is the address that `GetEther` finds. -/
def ipv6cpInit (ether : Option (Fin 6 → UInt8)) (b : Ipv6Bund) : FsmWorld Ipv6Bund :=
  let created :=
    match ether with
    | some ether => (etherIdentifier ether, b)
    | none => createInterfaceID b
  .init { created.2 with ipv6cp := {
    myintid := created.1, hisintid := List.replicate 8 0, peer_reject := 0 } }

/-- Both words of the identifier are zero. -/
def emptyIdentifier (intid : Bytes) : Bool := intid.all (· == 0)

theorem emptyIdentifier_etherIdentifier (ether : Fin 6 → UInt8) :
    emptyIdentifier (etherIdentifier ether) = false := by
  simp [emptyIdentifier, etherIdentifier]

theorem randomWord_ne_zero (random : UInt32) : (randomWord random).toNat ≠ 0 := by
  simp only [randomWord, UInt32.toNat_add, UInt32.toNat_mod, UInt32.reduceToNat]
  omega

theorem emptyIdentifier_putHost32 {value : UInt32} (nonzero : value.toNat ≠ 0) :
    emptyIdentifier (putHost32 value) = false := by
  rw [Bool.eq_false_iff]
  intro empty
  simp only [emptyIdentifier, putHost32, List.all_cons, List.all_nil, Bool.and_true,
    Bool.and_eq_true, beq_iff_eq, ← UInt8.toNat_inj, UInt8.toNat_ofNat', UInt8.toNat_zero] at empty
  have bounded := value.toNat_lt
  obtain ⟨lowest, low, high, highest⟩ := empty
  omega

theorem emptyIdentifier_randomIdentifier (first second : UInt32) :
    emptyIdentifier (randomIdentifier first second) = false := by
  have word := emptyIdentifier_putHost32 (randomWord_ne_zero second)
  unfold emptyIdentifier at word ⊢
  unfold randomIdentifier
  rw [putHost32, List.cons_append]
  simp [word]

end Identifier

def decodeIntident (mode : FsmMode) (opt : FsmOption) (w : FsmWorld Ipv6Bund) :
    FsmWorld Ipv6Bund :=
  let ipv6cp := w.layer.ipv6cp
  let propose : FsmWorld Ipv6Bund :=
    let created := createInterfaceID w.layer
    fsmNak (opt.overwrite created.1)
      { w with layer := { created.2 with ipv6cp := { ipv6cp with hisintid := created.1 } } }
  match mode with
  | .req =>
      if emptyIdentifier opt.data then propose
      else if opt.data = ipv6cp.myintid then propose
      else fsmAck opt (setIpv6cp { ipv6cp with hisintid := opt.data } w)
  | .nak => setIpv6cp { ipv6cp with myintid := opt.data } w
  | .rej => setIpv6cp (ipv6cp.peerRej opt.type) w
  | .nop => w

/-- The body of the loop of `Ipv6cpDecodeConfig`. -/
def ipv6cpDecodeOption (mode : FsmMode) (opt : FsmOption) (w : FsmWorld Ipv6Bund) :
    FsmWorld Ipv6Bund :=
  match opt.meaning? gIpv6cpConfOpts with
  | none => if mode = .req then fsmRej opt w else w
  | some .intident => decodeIntident mode opt w

def ipv6cpDecodeConfig (list : List FsmOption) (mode : FsmMode) (w : FsmWorld Ipv6Bund) :
    FsmWorld Ipv6Bund :=
  list.foldl (fun w opt => ipv6cpDecodeOption mode opt w) w

def ipv6cpBuildConfigReq (w : FsmWorld Ipv6Bund) : Bytes × FsmWorld Ipv6Bund :=
  (fsmConfValue tyIntident w.layer.ipv6cp.myintid, w)

def ipv6cpConfigure (w : FsmWorld Ipv6Bund) : FsmWorld Ipv6Bund :=
  setIpv6cp { w.layer.ipv6cp with peer_reject := 0 } w

def bundNcpsStart (w : FsmWorld Ipv6Bund) : FsmWorld Ipv6Bund :=
  { w with layer := { w.layer with ncpstarted := w.layer.ncpstarted ||| ncpIpv6cpBit } }

def bundNcpsFinish (w : FsmWorld Ipv6Bund) : FsmWorld Ipv6Bund :=
  let w := { w with layer := { w.layer with ncpstarted := w.layer.ncpstarted &&& ~~~ncpIpv6cpBit } }
  if w.layer.ncpstarted = 0 then act .closeLinks w else w

def ifaceIpv6IfaceUp (T : FsmType Ipv6Bund) (w : FsmWorld Ipv6Bund) : Bool × FsmWorld Ipv6Bund :=
  let b := w.layer
  let up := b.env.ifaceIpv6IfaceUp b.ifaceUps
  let w := { w with layer := { b with ifaceUps := b.ifaceUps + 1 } }
  (up, if up then w else fsmFailure T .negotFailure w)

/-- `IfaceIpIfaceUp`, which may fail only the FSM of IPCP. -/
def ifaceIpIfaceUp (w : FsmWorld Ipv6Bund) : Bool × FsmWorld Ipv6Bund :=
  let b := w.layer
  (b.env.ifaceIpIfaceUp b.ifaceUps, { w with layer := { b with ifaceUps := b.ifaceUps + 1 } })

def ipv6IfaceJoin (T : FsmType Ipv6Bund) (w : FsmWorld Ipv6Bund) : Bool × FsmWorld Ipv6Bund :=
  let configured := ifaceIpv6IfaceUp T (setIface { w.layer.iface with ipv6_up := true } w)
  let w := configured.2
  if configured.1 then (true, w) else (false, setIface { w.layer.iface with ipv6_up := false } w)

def ipIfaceDod (w : FsmWorld Ipv6Bund) : FsmWorld Ipv6Bund :=
  let configured := ifaceIpIfaceUp (setIface { w.layer.iface with ip_up := true } w)
  let w := configured.2
  if configured.1 then w else setIface { w.layer.iface with ip_up := false } w

/-- An interface that was up on demand only is taken down. -/
def endDod (iface : Iface) : Iface :=
  if iface.dod then { iface with ip_up := false, ipv6_up := false, dod := false, up := false }
  else iface

def bundNcpsJoin (T : FsmType Ipv6Bund) (w : FsmWorld Ipv6Bund) : FsmWorld Ipv6Bund :=
  let w := setIface (endDod w.layer.iface) w
  let joined := if w.layer.iface.ipv6_up then (true, w) else ipv6IfaceJoin T w
  let w := joined.2
  if joined.1 then setIface { w.layer.iface with up := true } w else w

def bundNcpsLeave (T : FsmType Ipv6Bund) (w : FsmWorld Ipv6Bund) : FsmWorld Ipv6Bund :=
  let iface := { w.layer.iface with ipv6_up := false }
  if iface.up && !iface.ip_up then
    let w := setIface { iface with dod := false, up := false } w
    if iface.open then
      let w := if w.layer.ipcpEnabled then ipIfaceDod w else w
      let w := if w.layer.ipv6cpEnabled then (ipv6IfaceJoin T w).2 else w
      let iface := w.layer.iface
      if iface.ip_up || iface.ipv6_up then setIface { iface with dod := true, up := true } w else w
    else w
  else setIface iface w

def ipv6cpLayerUp (T : FsmType Ipv6Bund) (w : FsmWorld Ipv6Bund) : FsmWorld Ipv6Bund :=
  bundNcpsJoin T { w with layer := { w.layer with enableIPv6 := true } }

def ipv6cpLayerDown (T : FsmType Ipv6Bund) (w : FsmWorld Ipv6Bund) : FsmWorld Ipv6Bund :=
  let w := bundNcpsLeave T w
  { w with layer := { w.layer with enableIPv6 := false } }

def ipv6cpTypeWith (layerUp layerDown : FsmWorld Ipv6Bund → FsmWorld Ipv6Bund) :
    FsmType Ipv6Bund where
  proto := protoIpv6cp
  known_codes := 0x00FE
  newState _ _ w := w
  layerUp
  layerDown
  layerStart := bundNcpsStart
  layerFinish := bundNcpsFinish
  buildConfigReq := ipv6cpBuildConfigReq
  decodeConfig := ipv6cpDecodeConfig
  configure := ipv6cpConfigure
  unConfigure w := w
  sendTerminateReq w := w
  sendTerminateAck w := w
  recvCodeRej := none
  recvProtoRej := none
  failure _ w := w
  recvResetReq _ _ w := w
  recvResetAck _ _ w := w
  recvIdent _ w := w
  recvDiscReq _ w := w
  recvTimeRemain _ w := w
  recvVendor _ w := w
  wantMagic _ := 0
  peerMagic _ := 0

/-- The layer handlers, which may be entered again to the given depth. -/
def ipv6cpLayerWithin : Nat → (up : Bool) → FsmWorld Ipv6Bund → FsmWorld Ipv6Bund
  | 0, _ => act .overflow
  | depth + 1, up =>
      let T := ipv6cpTypeWith (ipv6cpLayerWithin depth true) (ipv6cpLayerWithin depth false)
      if up then ipv6cpLayerUp T else ipv6cpLayerDown T

def ipv6cpType (depth : Nat) : FsmType Ipv6Bund :=
  ipv6cpTypeWith (ipv6cpLayerWithin depth true) (ipv6cpLayerWithin depth false)

/-- A relation that the interface respects, as far as it does not fail the FSM. -/
structure IfaceFrame (R : FsmWorld Ipv6Bund → FsmWorld Ipv6Bund → Prop) : Prop where
  refl : ∀ w, R w w
  trans : ∀ {first second third}, R first second → R second third → R first third
  setIface : ∀ iface w, R w (setIface iface w)
  configured : ∀ w ifaceUps, R w { w with layer := { w.layer with ifaceUps } }
  enabled : ∀ w enableIPv6, R w { w with layer := { w.layer with enableIPv6 } }

namespace IfaceFrame

variable {R : FsmWorld Ipv6Bund → FsmWorld Ipv6Bund → Prop} (h : IfaceFrame R)
include h

theorem ipIfaceDod (w : FsmWorld Ipv6Bund) : R w (ipIfaceDod w) := by
  have asked := h.setIface { w.layer.iface with ip_up := true } w
  have tried := h.trans asked (h.configured _ (w.layer.ifaceUps + 1))
  unfold Ipv6cp.ipIfaceDod
  dsimp only
  split_ifs
  · exact tried
  · exact h.trans tried (h.setIface _ _)

variable {T : FsmType Ipv6Bund} (fails : ∀ reason w, R w (fsmFailure T reason w))
include fails

theorem ipv6IfaceJoin (w : FsmWorld Ipv6Bund) : R w (ipv6IfaceJoin T w).2 := by
  have asked := h.setIface { w.layer.iface with ipv6_up := true } w
  have configured (w : FsmWorld Ipv6Bund) : R w (ifaceIpv6IfaceUp T w).2 := by
    have counted := h.configured w (w.layer.ifaceUps + 1)
    unfold ifaceIpv6IfaceUp
    dsimp only
    split_ifs
    · exact counted
    · exact h.trans counted (fails _ _)
  unfold Ipv6cp.ipv6IfaceJoin
  dsimp only
  split_ifs
  · exact h.trans asked (configured _)
  · exact h.trans (h.trans asked (configured _)) (h.setIface _ _)

theorem bundNcpsJoin (w : FsmWorld Ipv6Bund) : R w (bundNcpsJoin T w) := by
  have ended := h.setIface (endDod w.layer.iface) w
  unfold Ipv6cp.bundNcpsJoin
  dsimp only
  generalize Ipv6cp.setIface (endDod w.layer.iface) w = w' at ended
  have joined :
      R w (if w'.layer.iface.ipv6_up then (true, w') else Ipv6cp.ipv6IfaceJoin T w').2 := by
    split_ifs
    · exact ended
    · exact h.trans ended (h.ipv6IfaceJoin fails w')
  generalize (if w'.layer.iface.ipv6_up then (true, w') else Ipv6cp.ipv6IfaceJoin T w') = result
    at joined
  split_ifs
  · exact h.trans joined (h.setIface _ _)
  · exact joined

theorem bundNcpsLeave (w : FsmWorld Ipv6Bund) : R w (bundNcpsLeave T w) := by
  have down := h.setIface { w.layer.iface with ipv6_up := false, dod := false, up := false } w
  unfold Ipv6cp.bundNcpsLeave
  dsimp only
  generalize Ipv6cp.setIface { w.layer.iface with ipv6_up := false, dod := false, up := false } w
    = w' at down
  have first : R w (if w'.layer.ipcpEnabled then Ipv6cp.ipIfaceDod w' else w') := by
    split_ifs
    · exact h.trans down (h.ipIfaceDod w')
    · exact down
  generalize (if w'.layer.ipcpEnabled then Ipv6cp.ipIfaceDod w' else w') = w'' at first
  have second : R w (if w''.layer.ipv6cpEnabled then (Ipv6cp.ipv6IfaceJoin T w'').2 else w'') := by
    split_ifs
    · exact h.trans first (h.ipv6IfaceJoin fails w'')
    · exact first
  generalize (if w''.layer.ipv6cpEnabled then (Ipv6cp.ipv6IfaceJoin T w'').2 else w'') = last
    at second
  split_ifs
  · exact h.trans second (h.setIface _ _)
  · exact second
  · exact down
  · exact h.setIface _ w

omit fails in
/-- The layer handlers respect what a failure of the FSM respects that re-enters them. -/
theorem ipv6cpLayerWithin (overflow : ∀ w, R w (act .overflow w))
    (fails : ∀ {up down : FsmWorld Ipv6Bund → FsmWorld Ipv6Bund}, (∀ w, R w (up w)) →
      (∀ w, R w (down w)) → ∀ reason w, R w (fsmFailure (ipv6cpTypeWith up down) reason w))
    (depth : Nat) (up : Bool) (w : FsmWorld Ipv6Bund) : R w (ipv6cpLayerWithin depth up w) := by
  induction depth generalizing up w with
  | zero => exact overflow w
  | succ depth ih =>
      have inner := fails (ih true) (ih false)
      cases up with
      | true => exact h.trans (h.enabled w true) (h.bundNcpsJoin inner _)
      | false => exact h.trans (h.bundNcpsLeave inner w) (h.enabled _ false)

end IfaceFrame

end Mpd.Ipv6cp
