import Mpd.Fsm.Events
import Mpd.Ipcp.Options

/-! The FSM type of IPCP, and the part of `bund.c` that brings an interface up and down
for it. Where the interface cannot be configured, `FsmFailure` is called on the FSM whose
layer just went up or down. -/

set_option autoImplicit false

namespace Mpd

def ncpIpcpBit : UInt8 := 1

def bundNcpsStart (w : FsmWorld Bund) : FsmWorld Bund :=
  { w with layer := { w.layer with ncpstarted := w.layer.ncpstarted ||| ncpIpcpBit } }

def bundNcpsFinish (w : FsmWorld Bund) : FsmWorld Bund :=
  let w := { w with layer := { w.layer with ncpstarted := w.layer.ncpstarted &&& ~~~ncpIpcpBit } }
  if w.layer.ncpstarted = 0 then w.act .closeLinks else w

/-- `IfaceIpIfaceUp`: whether the interface could be configured. -/
def ifaceIpIfaceUp (T : FsmType Bund) (w : FsmWorld Bund) : Bool × FsmWorld Bund :=
  let b := w.layer
  let up := b.env.ifaceIpIfaceUp b.ifaceUps
  let w := { w with layer := { b with ifaceUps := b.ifaceUps + 1 } }
  (up, if up then w else fsmFailure T .negotFailure w)

/-- `IfaceIpv6IfaceUp`, which may fail only the FSM of IPV6CP. -/
def ifaceIpv6IfaceUp (w : FsmWorld Bund) : Bool × FsmWorld Bund :=
  let b := w.layer
  (b.env.ifaceIpv6IfaceUp b.ifaceUps, { w with layer := { b with ifaceUps := b.ifaceUps + 1 } })

/-- An interface that was up on demand only is taken down. -/
def Iface.endDod (iface : Iface) : Iface :=
  if iface.dod then { iface with ip_up := false, ipv6_up := false, dod := false, up := false }
  else iface

def bundNcpsJoin (T : FsmType Bund) (w : FsmWorld Bund) : FsmWorld Bund :=
  let w := w.setIface w.layer.iface.endDod
  if w.layer.iface.ip_up then w.setIface { w.layer.iface with up := true }
  else
    let configured := ifaceIpIfaceUp T (w.setIface { w.layer.iface with ip_up := true })
    let w := configured.2
    if configured.1 then w.setIface { w.layer.iface with up := true }
    else w.setIface { w.layer.iface with ip_up := false }

def bundDodIpcp (T : FsmType Bund) (w : FsmWorld Bund) : FsmWorld Bund :=
  if w.layer.ipcpEnabled then
    let configured := ifaceIpIfaceUp T (w.setIface { w.layer.iface with ip_up := true })
    let w := configured.2
    if configured.1 then w else w.setIface { w.layer.iface with ip_up := false }
  else w

def bundDodIpv6cp (w : FsmWorld Bund) : FsmWorld Bund :=
  if w.layer.ipv6cpEnabled then
    let configured := ifaceIpv6IfaceUp (w.setIface { w.layer.iface with ipv6_up := true })
    let w := configured.2
    if configured.1 then w else w.setIface { w.layer.iface with ipv6_up := false }
  else w

def bundNcpsLeave (T : FsmType Bund) (w : FsmWorld Bund) : FsmWorld Bund :=
  let iface := { w.layer.iface with ip_up := false }
  if iface.up && !iface.ipv6_up then
    let w := w.setIface { iface with dod := false, up := false }
    if iface.open then
      let w := bundDodIpv6cp (bundDodIpcp T w)
      let iface := w.layer.iface
      if iface.ip_up || iface.ipv6_up then w.setIface { iface with dod := true, up := true } else w
    else w
  else w.setIface iface

/-- What `IpcpLayerUp` makes of the negotiated addresses. -/
def ipcpSettle (ipcp : IpcpState) : IpcpState :=
  { ipcp with
    want_addr :=
      if ipAddrInRange ipcp.self_allow ipcp.want_addr then ipcp.want_addr
      else ipcp.self_allow.addr.ip4
    peer_addr :=
      if ipAddrInRange ipcp.peer_allow ipcp.peer_addr || uAddrempty ipcp.peer_allow.addr then
        ipcp.peer_addr
      else ipcp.peer_allow.addr.ip4 }

def ipcpLayerUp (T : FsmType Bund) (w : FsmWorld Bund) : FsmWorld Bund :=
  bundNcpsJoin T (w.setIpcp (ipcpSettle w.layer.ipcp))

def ipcpLayerDown (T : FsmType Bund) (w : FsmWorld Bund) : FsmWorld Bund := bundNcpsLeave T w

def ipcpTypeWith (layerUp layerDown : FsmWorld Bund → FsmWorld Bund) : FsmType Bund where
  proto := protoIpcp
  known_codes := 0x00FE
  newState _ _ w := w
  layerUp
  layerDown
  layerStart := bundNcpsStart
  layerFinish := bundNcpsFinish
  buildConfigReq w := (ipcpBuildConfigReq w.layer, w)
  decodeConfig := ipcpDecodeConfig
  configure := ipcpConfigure
  unConfigure := ipcpUnConfigure
  sendTerminateReq w := w
  sendTerminateAck w := w
  recvCodeRej := none
  recvProtoRej := none
  failure _ w := w
  recvResetReq _ _ w := w
  recvResetAck _ _ w := w
  recvIdent _ w := w
  recvDiscReq _ w := w
  recvTimeRemain _ w := w
  recvVendor _ w := w
  wantMagic _ := 0
  peerMagic _ := 0

/-- The layer handlers, which may be entered again to the given depth. -/
def ipcpLayerWithin : Nat → (up : Bool) → FsmWorld Bund → FsmWorld Bund
  | 0, _ => fun w => w.act .overflow
  | depth + 1, up =>
      let T := ipcpTypeWith (ipcpLayerWithin depth true) (ipcpLayerWithin depth false)
      if up then ipcpLayerUp T else ipcpLayerDown T

def ipcpType (depth : Nat) : FsmType Bund :=
  ipcpTypeWith (ipcpLayerWithin depth true) (ipcpLayerWithin depth false)

/-- A relation that the interface respects, as far as it does not fail the FSM: it may
change itself, and is configured again. -/
structure IfaceFrame (R : FsmWorld Bund → FsmWorld Bund → Prop) : Prop where
  refl : ∀ w, R w w
  trans : ∀ {first second third}, R first second → R second third → R first third
  setIface : ∀ iface w, R w (w.setIface iface)
  configured : ∀ w ifaceUps, R w { w with layer := { w.layer with ifaceUps } }

namespace IfaceFrame

variable {R : FsmWorld Bund → FsmWorld Bund → Prop} (h : IfaceFrame R)
include h

theorem bundDodIpv6cp (w : FsmWorld Bund) : R w (bundDodIpv6cp w) := by
  have asked := h.setIface { w.layer.iface with ipv6_up := true } w
  have tried := h.trans asked (h.configured _ (w.layer.ifaceUps + 1))
  unfold Mpd.bundDodIpv6cp
  dsimp only
  split_ifs
  · exact tried
  · exact h.trans tried (h.setIface _ _)
  · exact h.refl w

variable {T : FsmType Bund} (fails : ∀ reason w, R w (fsmFailure T reason w))
include fails

theorem ifaceIpIfaceUp (w : FsmWorld Bund) : R w (ifaceIpIfaceUp T w).2 := by
  have asked := h.configured w (w.layer.ifaceUps + 1)
  unfold Mpd.ifaceIpIfaceUp
  dsimp only
  split_ifs
  · exact asked
  · exact h.trans asked (fails _ _)

theorem bundNcpsJoin (w : FsmWorld Bund) : R w (bundNcpsJoin T w) := by
  have ended := h.setIface w.layer.iface.endDod w
  unfold Mpd.bundNcpsJoin
  dsimp only
  generalize w.setIface w.layer.iface.endDod = w' at ended
  have asked := h.trans ended (h.setIface { w'.layer.iface with ip_up := true } w')
  have tried := h.trans asked (h.ifaceIpIfaceUp fails _)
  split_ifs
  · exact h.trans ended (h.setIface _ w')
  · exact h.trans tried (h.setIface _ _)
  · exact h.trans tried (h.setIface _ _)

theorem bundDodIpcp (w : FsmWorld Bund) : R w (bundDodIpcp T w) := by
  have asked := h.setIface { w.layer.iface with ip_up := true } w
  have tried := h.trans asked (h.ifaceIpIfaceUp fails _)
  unfold Mpd.bundDodIpcp
  dsimp only
  split_ifs
  · exact tried
  · exact h.trans tried (h.setIface _ _)
  · exact h.refl w

theorem bundNcpsLeave (w : FsmWorld Bund) : R w (bundNcpsLeave T w) := by
  have down := h.setIface { w.layer.iface with ip_up := false, dod := false, up := false } w
  have dod := h.trans (h.trans down (h.bundDodIpcp fails _)) (h.bundDodIpv6cp _)
  unfold Mpd.bundNcpsLeave
  dsimp only
  split_ifs
  · exact h.trans dod (h.setIface _ _)
  · exact dod
  · exact down
  · exact h.setIface _ w

omit fails in
/-- The layer handlers respect what a failure of the FSM respects that re-enters them. -/
theorem ipcpLayerWithin (settle : ∀ w, R w (w.setIpcp (ipcpSettle w.layer.ipcp)))
    (overflow : ∀ w, R w (w.act .overflow))
    (fails : ∀ {up down : FsmWorld Bund → FsmWorld Bund}, (∀ w, R w (up w)) →
      (∀ w, R w (down w)) → ∀ reason w, R w (fsmFailure (ipcpTypeWith up down) reason w))
    (depth : Nat) (up : Bool) (w : FsmWorld Bund) : R w (ipcpLayerWithin depth up w) := by
  induction depth generalizing up w with
  | zero => exact overflow w
  | succ depth ih =>
      have inner := fails (ih true) (ih false)
      cases up with
      | true => exact h.trans (settle w) (h.bundNcpsJoin inner _)
      | false => exact h.bundNcpsLeave inner w

end IfaceFrame

end Mpd
