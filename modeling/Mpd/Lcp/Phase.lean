import Mpd.Fsm.Events
import Mpd.Auth.Start
import Mpd.Lcp.Options

/-! The phases of a link as in `lcp.c`, and the FSM type of LCP. Its `NewState` handler
may call `FsmFailure` on the FSM that is changing its state. -/

set_option autoImplicit false

namespace Mpd

/-- The asserts of `LcpNewPhase`. -/
def LcpPhase.mayEnter : LcpPhase → LcpPhase → Bool
  | .dead, new => new = .establish
  | .establish, new => new = .dead || new = .terminate || new = .authenticate
  | .authenticate, new =>
      new = .terminate || new = .establish || new = .network || new = .dead
  | .network, new => new = .terminate || new = .establish || new = .dead
  | .terminate, new => new = .establish || new = .dead

/-- `BundLeave`, as far as the link goes. -/
def bundLeave (w : FsmWorld Link) : FsmWorld Link :=
  { w with layer := { w.layer with joined_bund := false } }.note .bundLeave

/-- `BundJoin`, as far as the link goes. -/
def bundJoin (w : FsmWorld Link) : FsmWorld Link :=
  let l := w.layer
  let joined := l.env.bundJoin l.joins
  { w with layer := { l with
    joins := l.joins + 1, joined_bund := l.joined_bund || joined } }.note (.bundJoin joined)

/-- What `LcpNewPhase` does for leaving a phase. -/
def lcpLeavePhase (old new : LcpPhase) (w : FsmWorld Link) : FsmWorld Link :=
  match old with
  | .authenticate => if new ≠ .network then authCleanup w else w
  | .network => authCleanup (if w.layer.joined_bund then bundLeave w else w)
  | _ => w

/-- What `LcpNewPhase` sends in the phase NETWORK before it joins the bundle. -/
def lcpAnnounce (T : FsmType Link) (w : FsmWorld Link) : FsmWorld Link :=
  let w := match w.layer.conf.ident with
    | some ident => fsmSendIdent T ident w
    | none => w
  let seconds := w.layer.auth.params.session_timeout
  if w.layer.conf.options.enabled linkConfTimeremain && seconds != 0 then
    fsmSendTimeRemaining T seconds w
  else w

def lcpEnterNetwork (T : FsmType Link) (w : FsmWorld Link) : FsmWorld Link :=
  let w := lcpAnnounce T w
  let joined := w.layer.env.bundJoin w.layer.joins
  let w := bundJoin w
  if joined then w else fsmFailure T .negotFailure w

/-- `LcpNewPhase`, with what it does for entering the phase AUTHENTICATE left open. -/
def lcpEnterPhase (T : FsmType Link) (authenticate : FsmWorld Link → FsmWorld Link)
    (new : LcpPhase) (w : FsmWorld Link) : FsmWorld Link :=
  let old := w.layer.lcp.phase
  let w := if old.mayEnter new then w else w.note (.abort .lcpNewPhase)
  let w := w.setLcp { w.layer.lcp with phase := new }
  let w := lcpLeavePhase old new w
  match new with
  | .authenticate =>
      let lcp := w.layer.lcp
      authenticate (if physIsSync w.layer then w
        else w.note (.setAccm lcp.peer_accmap lcp.want_accmap))
  | .network => lcpEnterNetwork T w
  | _ => w

/-- `LcpAuthResult`. The phase that it enters is not AUTHENTICATE. -/
def lcpAuthResult (T : FsmType Link) (success : Bool) (w : FsmWorld Link) : FsmWorld Link :=
  if success then
    if w.layer.lcp.phase ≠ .network then lcpEnterPhase T id .network w else w
  else fsmFailure T .negotFailure w

def authStart (T : FsmType Link) (w : FsmWorld Link) : FsmWorld Link :=
  let w := authNegotiated w
  if w.layer.auth.self_to_peer = 0 ∧ w.layer.auth.peer_to_self = 0 then lcpAuthResult T true w
  else authStartBoth w

def lcpNewPhase (T : FsmType Link) (new : LcpPhase) (w : FsmWorld Link) : FsmWorld Link :=
  lcpEnterPhase T (authStart T) new w

inductive PhaseShift where
  | keep
  | enter (new : LcpPhase)
  | assertion
  deriving DecidableEq, Repr

def lcpPhaseShift : FsmState → FsmState → PhaseShift
  | .initial, new | .starting, new =>
      match new with
      | .initial | .starting => .keep
      | _ => .enter .establish
  | .closed, new | .stopped, new =>
      match new with
      | .initial | .starting => .enter .dead
      | _ => .keep
  | .closing, new | .stopping, new =>
      match new with
      | .initial | .starting => .enter .dead
      | .closed | .stopped => .enter .establish
      | _ => .keep
  | .reqSent, new | .ackRcvd, new | .ackSent, new =>
      match new with
      | .initial | .starting => .enter .dead
      | .closing | .stopping => .enter .terminate
      | .opened => .enter .authenticate
      | _ => .keep
  | .opened, new =>
      match new with
      | .starting => .enter .dead
      | .reqSent | .ackSent => .enter .establish
      | .closing | .stopping => .enter .terminate
      | _ => .assertion

def lcpNewState (T : FsmType Link) (old new : FsmState) (w : FsmWorld Link) : FsmWorld Link :=
  let w := match lcpPhaseShift old new with
    | .keep => w
    | .enter phase => lcpNewPhase T phase w
    | .assertion => w.note (.abort .lcpNewState)
  w.note (.shutdownCheck new)

def lcpLayerStart (w : FsmWorld Link) : FsmWorld Link :=
  if w.layer.openTimer then w else w.note .physOpen

def lcpLayerFinish (w : FsmWorld Link) : FsmWorld Link :=
  let w := authStop w
  if w.layer.rep then w else w.note .physClose

def lcpLayerDown (w : FsmWorld Link) : FsmWorld Link :=
  let w := authStop w
  let lcp := w.layer.lcp
  if lcp.phase = .authenticate ∨ lcp.phase = .network then w.setLcp { lcp with need_reset := true }
  else w

/-- The protocols whose rejection makes `LcpRecvProtoRej` fail an FSM of the bundle. -/
def lcpRejectable : List UInt16 := [0x80FD, 0x00FD, 0x8053, 0x0053, 0x8021, 0x8057]

/-- `LcpRecvProtoRej`. It is never fatal for LCP. -/
def lcpRecvProtoRej (proto : UInt16) (_bp : Bytes) (w : FsmWorld Link) :
    Bool × FsmWorld Link :=
  (false, if w.layer.joined_bund ∧ proto ∈ lcpRejectable then w.note (.ncpFailure proto) else w)

def peerIdentSize : Nat := 64

def lcpRecvIdent (bp : Bytes) (w : FsmWorld Link) : FsmWorld Link :=
  if bp = [] then w
  else
    let lcp := w.layer.lcp
    let ident := if lcp.peer_ident = [] then [] else cstr peerIdentSize (lcp.peer_ident ++ [0x20])
    w.setLcp { lcp with peer_ident := cstr peerIdentSize (ident ++ bp) }

def lcpTypeWith (newState : FsmState → FsmState → FsmWorld Link → FsmWorld Link) :
    FsmType Link where
  proto := protoLcp
  known_codes := 0x3FFE
  newState
  layerUp w := w
  layerDown := lcpLayerDown
  layerStart := lcpLayerStart
  layerFinish := lcpLayerFinish
  buildConfigReq w := (lcpBuildConfigReq w.layer, w)
  decodeConfig := lcpDecodeConfig
  configure := lcpConfigure
  unConfigure w := w
  sendTerminateReq w := w
  sendTerminateAck w := w
  recvCodeRej := none
  recvProtoRej := some lcpRecvProtoRej
  failure _ w := w
  recvResetReq _ _ w := w
  recvResetAck _ _ w := w
  recvIdent := lcpRecvIdent
  recvDiscReq _ w := w
  recvTimeRemain _ w := w
  recvVendor _ w := w
  wantMagic l := l.lcp.want_magic
  peerMagic l := l.lcp.peer_magic

/-- The `NewState` handler, which may be entered again to the given depth. -/
def lcpNewStateWithin : Nat → FsmState → FsmState → FsmWorld Link → FsmWorld Link
  | 0 => fun _ _ w => w.note .overflow
  | depth + 1 => lcpNewState (lcpTypeWith (lcpNewStateWithin depth))

def lcpType (depth : Nat) : FsmType Link := lcpTypeWith (lcpNewStateWithin depth)

end Mpd
