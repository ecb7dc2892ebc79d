import Mpd.Fsm.Defs

/-! The second half of `fsm.c`: the administrative events, the timeouts, the
handlers of received packets and `FsmInput`, which dispatches to them. -/

set_option autoImplicit false

namespace Mpd

variable {Layer : Type}

def fsmInitCounters (w : FsmWorld Layer) : FsmWorld Layer :=
  let w := fsmInitRestartCounter w.fsm.conf.maxconfig w
  let w := fsmInitMaxFailure w.fsm.conf.maxfailure w
  fsmInitMaxConfig w.fsm.conf.maxconfig w

/-- `FsmOpen`, as it is compiled without the `RESTART` options. -/
def fsmOpen (T : FsmType Layer) (w : FsmWorld Layer) : FsmWorld Layer :=
  match w.fsm.state with
  | .initial => fsmLayerStart T (fsmNewState T .starting w)
  | .closed =>
      let w := fsmNewState T .reqSent (fsmConfigure T w)
      fsmSendConfigReq T (fsmInitCounters (fsmLayerStart T w))
  | .closing => fsmNewState T .stopping w
  | _ => w

def fsmUp (T : FsmType Layer) (w : FsmWorld Layer) : FsmWorld Layer :=
  match w.fsm.state with
  | .initial => fsmNewState T .closed w
  | .starting =>
      let w := fsmNewState T .reqSent (fsmConfigure T w)
      fsmSendConfigReq T (fsmInitCounters w)
  | _ => w

def fsmDown (T : FsmType Layer) (w : FsmWorld Layer) : FsmWorld Layer :=
  match w.fsm.state with
  | .closing => fsmNewState T .initial (fsmLayerFinish T w)
  | .closed => fsmNewState T .initial w
  | .stopped => fsmLayerStart T (fsmNewState T .starting w)
  | .stopping | .reqSent | .ackRcvd | .ackSent =>
      fsmUnConfigure T (fsmNewState T .starting w)
  | .opened => fsmUnConfigure T (fsmLayerDown T (fsmNewState T .starting w))
  | _ => w

def fsmClose (T : FsmType Layer) (w : FsmWorld Layer) : FsmWorld Layer :=
  match w.fsm.state with
  | .starting => fsmLayerFinish T (fsmNewState T .initial w)
  | .stopped => fsmNewState T .closed w
  | .stopping => fsmNewState T .closing w
  | .opened =>
      let w := fsmNewState T .closing w
      let w := fsmSendTerminateReq T (fsmInitRestartCounter w.fsm.conf.maxterminate w)
      fsmUnConfigure T (fsmLayerDown T w)
  | .reqSent | .ackRcvd | .ackSent =>
      let w := fsmNewState T .closing w
      let w := fsmSendTerminateReq T (fsmInitRestartCounter w.fsm.conf.maxterminate w)
      fsmUnConfigure T w
  | _ => w

def fsmLayerFinishActive (T : FsmType Layer) (w : FsmWorld Layer) : FsmWorld Layer :=
  if w.fsm.conf.passive then w else fsmLayerFinish T w

/-- The part of `FsmFailure` after the protocol's own `Failure` handler. -/
def fsmShutDown (T : FsmType Layer) (w : FsmWorld Layer) : FsmWorld Layer :=
  match w.fsm.state with
  | .closing => fsmLayerFinish T (fsmNewState T .closed w)
  | .closed => fsmLayerFinish T w
  | .stopping => fsmLayerFinish T (fsmNewState T .stopped w)
  | .ackRcvd | .ackSent | .reqSent =>
      fsmUnConfigure T (fsmLayerFinishActive T (fsmNewState T .stopped w))
  | .opened =>
      let w := fsmNewState T .stopping w
      let w := fsmSendTerminateReq T (fsmInitRestartCounter w.fsm.conf.maxterminate w)
      fsmUnConfigure T (fsmLayerDown T w)
  | .stopped => fsmLayerFinishActive T w
  | _ => w

def fsmFailure (T : FsmType Layer) (reason : FsmFail) (w : FsmWorld Layer) : FsmWorld Layer :=
  fsmShutDown T (T.failure reason w)

def fsmTimeout (T : FsmType Layer) (w : FsmWorld Layer) : FsmWorld Layer :=
  if w.fsm.restart > 0 then
    match w.fsm.state with
    | .closing | .stopping => fsmSendTerminateReq T w
    | .reqSent | .ackSent => fsmSendConfigReq T w
    | .ackRcvd => fsmSendConfigReq T (fsmNewState T .reqSent w)
    | _ => w
  else
    match w.fsm.state with
    | .closing => fsmLayerFinish T (fsmNewState T .closed w)
    | .stopping => fsmLayerFinish T (fsmNewState T .stopped w)
    | .reqSent | .ackSent | .ackRcvd => fsmFailure T .negotFailure w
    | _ => w

/-- `FsmRecvConfigReq` between decoding the request and answering it. -/
def fsmRenegotiate (T : FsmType Layer) (w : FsmWorld Layer) : FsmWorld Layer :=
  match w.fsm.state with
  | .opened => fsmSendConfigReq T (fsmLayerDown T w)
  | .stopped => fsmSendConfigReq T (fsmInitCounters (fsmLayerStart T w))
  | _ => w

/-- The state transition at the end of `FsmRecvConfigReq`. -/
def fsmAnswered (T : FsmType Layer) (fullyAcked : Bool) (w : FsmWorld Layer) :
    FsmWorld Layer :=
  match w.fsm.state with
  | .stopped | .opened => fsmNewState T (if fullyAcked then .ackSent else .reqSent) w
  | .reqSent => if fullyAcked then fsmNewState T .ackSent w else w
  | .ackRcvd => if fullyAcked then fsmLayerUp T (fsmNewState T .opened w) else w
  | .ackSent => if fullyAcked then w else fsmNewState T .reqSent w
  | _ => w

/-- `FsmRecvConfigReq` found nothing to nak or to reject. -/
def FsmWorld.fullyAcked (w : FsmWorld Layer) : Bool :=
  w.nak.isEmpty && w.rej.isEmpty

/-- `FsmRecvConfigReq` from its verdict on the request to its end. -/
def fsmAnswerConfigReq (T : FsmType Layer) (id : UInt8) (w : FsmWorld Layer) :
    FsmWorld Layer :=
  if w.fullyAcked then
    fsmAnswered T true (fsmSendConfigAck T id w.ack w)
  else if w.fsm.failure ≤ 0 then
    fsmFailure T .negotFailure w
  else if w.rej ≠ [] then
    fsmAnswered T false (fsmSendConfigRej T id w.rej w)
  else
    fsmAnswered T false (fsmSendConfigNak T id w.nak w)

/-- `FsmRecvConfigReq` from the decoding of the packet on. -/
def fsmProcessConfigReq (T : FsmType Layer) (id : UInt8) (bp : Bytes) (w : FsmWorld Layer) :
    FsmWorld Layer :=
  fsmAnswerConfigReq T id (fsmRenegotiate T (fsmDecodeBuffer T bp .req w))

def fsmRecvConfigReq (T : FsmType Layer) (id : UInt8) (bp : Bytes) (w : FsmWorld Layer) :
    FsmWorld Layer :=
  match w.fsm.state with
  | .initial | .starting => w
  | .closed => fsmSendTerminateAck T w
  | .stopped => fsmProcessConfigReq T id bp (fsmConfigure T w)
  | .closing | .stopping => w
  | _ => fsmProcessConfigReq T id bp w

def fsmRecvConfigAck (T : FsmType Layer) (id : UInt8) (bp : Bytes) (w : FsmWorld Layer) :
    FsmWorld Layer :=
  if id ≠ w.fsm.reqid - 1 then w
  else
    let w := fsmDecodeBuffer T bp .nop w
    match w.fsm.state with
    | .closed | .stopped => fsmSendTerminateAck T w
    | .reqSent => (fsmInitCounters (fsmNewState T .ackRcvd w)).timerStart
    | .ackRcvd => fsmSendConfigReq T (fsmNewState T .reqSent w)
    | .ackSent => fsmLayerUp T (fsmInitCounters (fsmNewState T .opened w))
    | .opened => fsmSendConfigReq T (fsmLayerDown T (fsmNewState T .reqSent w))
    | _ => w

/-- `FsmRecvConfigNak` from the decoding of the packet on. -/
def fsmProcessConfigNak (T : FsmType Layer) (bp : Bytes) (w : FsmWorld Layer) :
    FsmWorld Layer :=
  let w := fsmDecodeBuffer T bp .nak w
  if w.fsm.config ≤ 0 then fsmFailure T .negotFailure w
  else
    match w.fsm.state with
    | .reqSent | .ackSent => fsmSendConfigReq T (fsmInitRestartCounter w.fsm.conf.maxconfig w)
    | .opened => fsmSendConfigReq T (fsmNewState T .reqSent (fsmLayerDown T w))
    | .ackRcvd => fsmSendConfigReq T (fsmNewState T .reqSent w)
    | _ => w

def fsmRecvConfigNak (T : FsmType Layer) (id : UInt8) (bp : Bytes) (w : FsmWorld Layer) :
    FsmWorld Layer :=
  if id ≠ w.fsm.reqid - 1 then w
  else
    match w.fsm.state with
    | .initial | .starting => w
    | .closed | .stopped => fsmSendTerminateAck T w
    | .closing | .stopping => w
    | _ => fsmProcessConfigNak T bp w

/-- `FsmRecvConfigRej` from the decoding of the packet on. Unlike its sibling it
leaves Opened before it takes the layer down. -/
def fsmProcessConfigRej (T : FsmType Layer) (bp : Bytes) (w : FsmWorld Layer) :
    FsmWorld Layer :=
  let w := fsmDecodeBuffer T bp .rej w
  if w.fsm.config ≤ 0 then fsmFailure T .negotFailure w
  else
    match w.fsm.state with
    | .reqSent | .ackSent => fsmSendConfigReq T (fsmInitRestartCounter w.fsm.conf.maxconfig w)
    | .opened => fsmSendConfigReq T (fsmLayerDown T (fsmNewState T .reqSent w))
    | .ackRcvd => fsmSendConfigReq T (fsmNewState T .reqSent w)
    | _ => w

def fsmRecvConfigRej (T : FsmType Layer) (id : UInt8) (bp : Bytes) (w : FsmWorld Layer) :
    FsmWorld Layer :=
  if id ≠ w.fsm.reqid - 1 then w
  else
    match w.fsm.state with
    | .initial | .starting => w
    | .closed | .stopped => fsmSendTerminateAck T w
    | .closing | .stopping => w
    | _ => fsmProcessConfigRej T bp w

/-- `FsmRecvTermReq`. The identifier of the request is not read. -/
def fsmRecvTermReq (T : FsmType Layer) (w : FsmWorld Layer) : FsmWorld Layer :=
  match w.fsm.state with
  | .initial | .starting => w
  | .closed | .stopped | .closing | .stopping | .reqSent => fsmSendTerminateAck T w
  | .ackRcvd | .ackSent => fsmSendTerminateAck T (fsmNewState T .reqSent w)
  | .opened =>
      let w := fsmSendTerminateAck T (fsmNewState T .stopping w)
      let w := fsmInitRestartCounter 0 (fsmLayerDown T w)
      fsmUnConfigure T w.timerStart

def fsmRecvTermAck (T : FsmType Layer) (w : FsmWorld Layer) : FsmWorld Layer :=
  match w.fsm.state with
  | .closing => fsmLayerFinish T (fsmNewState T .closed w)
  | .stopping => fsmLayerFinish T (fsmNewState T .stopped w)
  | .ackRcvd => fsmNewState T .reqSent w
  | .opened => fsmSendConfigReq T (fsmLayerDown T (fsmNewState T .reqSent w))
  | _ => w

def fsmRecvRxjPlus (T : FsmType Layer) (w : FsmWorld Layer) : FsmWorld Layer :=
  match w.fsm.state with
  | .ackRcvd => fsmNewState T .reqSent w
  | _ => w

/-- The codes whose rejection is fatal in the absence of a `RecvCodeRej` handler. -/
def fatalCodeRej (code : UInt8) : Bool :=
  match FsmCode.ofByte? code with
  | some .vendor | some .discReq | some .ident | some .timeRem | none => false
  | some _ => true

def fsmJudgeCodeRej (T : FsmType Layer) (code : UInt8) (bp : Bytes) (w : FsmWorld Layer) :
    Bool × FsmWorld Layer :=
  match T.recvCodeRej with
  | some recvCodeRej => recvCodeRej code bp w
  | none => (fatalCodeRej code, w)

/-- The code that `FsmRecvCodeRej` reads. It stays 0 when there is no payload. -/
def rejectedCode (bp : Bytes) : UInt8 := bp.headD 0

def fsmRecvCodeRej (T : FsmType Layer) (bp : Bytes) (w : FsmWorld Layer) : FsmWorld Layer :=
  let code := rejectedCode bp
  let judged := fsmJudgeCodeRej T code bp.tail (w.emit (.codeRejected code))
  if judged.1 then fsmFailure T .recdCodeRej judged.2 else fsmRecvRxjPlus T judged.2

/-- The fatalness of a Protocol-Reject, which is only asked for in Opened. -/
def fsmJudgeProtoRej (T : FsmType Layer) (proto : UInt16) (bp : Bytes) (w : FsmWorld Layer) :
    Bool × FsmWorld Layer :=
  match w.fsm.state, T.recvProtoRej with
  | .opened, some recvProtoRej => recvProtoRej proto bp w
  | _, _ => (false, w)

def fsmRecvProtoRej (T : FsmType Layer) (bp : Bytes) (w : FsmWorld Layer) : FsmWorld Layer :=
  let proto := be16 (bp.getD 0 0) (bp.getD 1 0)
  let judged := fsmJudgeProtoRej T proto (bp.drop 2) w
  if judged.1 then fsmFailure T .recdProtRej judged.2 else fsmRecvRxjPlus T judged.2

def protLinkLayer (proto : UInt16) : Bool := proto &&& 0xC000 == 0xC000

/-- The four bytes that `FsmCheckMagic` reads. A short payload leaves the rest of
the local variable as it was: `junk` is that uninitialised content. -/
def readMagic (junk : Nat → UInt8) (bp : Bytes) : UInt32 :=
  be32 (bp.getD 0 (junk 0)) (bp.getD 1 (junk 1)) (bp.getD 2 (junk 2)) (bp.getD 3 (junk 3))

/-- The test of `FsmCheckMagic`. -/
def wrongMagic (T : FsmType Layer) (junk : Nat → UInt8) (bp : Bytes) (w : FsmWorld Layer) :
    Bool :=
  let peer_magic := readMagic junk bp
  let peer_magic_ought := if protLinkLayer T.proto then T.peerMagic w.layer else 0
  w.fsm.conf.check_magic && peer_magic != 0 && peer_magic != peer_magic_ought

/-- `FsmCheckMagic`. The bytes it returns are those after the magic number. -/
def fsmCheckMagic (T : FsmType Layer) (junk : Nat → UInt8) (bp : Bytes) (w : FsmWorld Layer) :
    FsmWorld Layer :=
  if wrongMagic T junk bp w then fsmFailure T .recdBadMagic w else w

def fsmRecvEchoReq (T : FsmType Layer) (junk : Nat → UInt8) (id : UInt8) (bp : Bytes)
    (w : FsmWorld Layer) : FsmWorld Layer :=
  let w := fsmCheckMagic T junk bp w
  if w.fsm.state ≠ .opened then w
  else fsmOutput .echoRep id (putBe32 (T.wantMagic w.layer) ++ bp.drop 4) w

def fsmSendEchoReq (T : FsmType Layer) (payload : Bytes) (w : FsmWorld Layer) :
    FsmWorld Layer :=
  if w.fsm.state ≠ .opened then w
  else
    let id := w.fsm.echoid
    let w := { w with fsm := { w.fsm with echoid := id + 1 } }
    fsmOutput .echoReq id (putBe32 (T.wantMagic w.layer) ++ payload) w

/-- What `FsmSendIdent` and `FsmSendTimeRemaining` have in common: an
informational packet whose magic number is zero unless the FSM is opened. -/
def fsmSendInformation (T : FsmType Layer) (code : FsmCode) (data : Bytes)
    (w : FsmWorld Layer) : FsmWorld Layer :=
  let self_magic := if w.fsm.state ≠ .opened then 0 else T.wantMagic w.layer
  let id := w.fsm.echoid
  let w := { w with fsm := { w.fsm with echoid := id + 1 } }
  fsmOutput code id (putBe32 self_magic ++ data) w

def fsmSendIdent (T : FsmType Layer) (ident : Bytes) (w : FsmWorld Layer) : FsmWorld Layer :=
  fsmSendInformation T .ident (ident ++ [0]) w

def fsmSendTimeRemaining (T : FsmType Layer) (seconds : UInt32) (w : FsmWorld Layer) :
    FsmWorld Layer :=
  fsmSendInformation T .timeRem (putBe32 seconds) w

/-- The new value of `quietCount`, where `traffic` tells whether frames came in
since the last expiration. -/
def echoQuietCount (traffic : Bool) (w : FsmWorld Layer) : Int :=
  if traffic then 0 else short (w.fsm.quietCount + 1)

def echoLost (traffic : Bool) (w : FsmWorld Layer) : Bool :=
  let quietCount := echoQuietCount traffic w
  quietCount ≠ 0 && quietCount ≠ 1 && quietCount * w.fsm.conf.echo_int ≥ w.fsm.conf.echo_max

def fsmEchoTimeout (T : FsmType Layer) (bund traffic : Bool) (w : FsmWorld Layer) :
    FsmWorld Layer :=
  if ¬ bund then w
  else
    let quiet := { w with fsm := { w.fsm with quietCount := echoQuietCount traffic w } }
    if echoLost traffic w then
      fsmFailure T .echoTimeout { quiet with fsm := { quiet.fsm with echoTimer := false } }
    else if quiet.fsm.quietCount = 0 then quiet
    else fsmSendEchoReq T [] quiet

def fsmAction (T : FsmType Layer) (junk : Nat → UInt8) (code : FsmCode) (id : UInt8)
    (bp : Bytes) (w : FsmWorld Layer) : FsmWorld Layer :=
  match code with
  | .vendor => T.recvVendor (bp.drop 4) (fsmCheckMagic T junk bp w)
  | .configReq => fsmRecvConfigReq T id bp w
  | .configAck => fsmRecvConfigAck T id bp w
  | .configNak => fsmRecvConfigNak T id bp w
  | .configRej => fsmRecvConfigRej T id bp w
  | .termReq => fsmRecvTermReq T w
  | .termAck => fsmRecvTermAck T w
  | .codeRej => fsmRecvCodeRej T bp w
  | .protoRej => fsmRecvProtoRej T bp w
  | .echoReq => fsmRecvEchoReq T junk id bp w
  | .echoRep => fsmCheckMagic T junk bp w
  | .discReq => T.recvDiscReq (bp.drop 4) (fsmCheckMagic T junk bp w)
  | .ident => T.recvIdent (bp.drop 4) (fsmCheckMagic T junk bp w)
  | .timeRem => T.recvTimeRemain (bp.drop 4) (fsmCheckMagic T junk bp w)
  | .resetReq => T.recvResetReq id bp w
  | .resetAck => T.recvResetAck id bp w

/-- The row of `FsmCodes` for a code that the protocol knows. -/
def FsmType.knownCode? (T : FsmType Layer) (code : UInt8) : Option FsmCode :=
  (FsmCode.ofByte? code).filter fun _ => T.known_codes.toNat.testBit code.toNat

/-- What `FsmInput` reads off a packet before it looks at the code: code, id and
the payload without padding; nothing for a runt and for a bad length. -/
def readHeader : Bytes → Option (UInt8 × UInt8 × Bytes)
  | code :: id :: high :: low :: payload =>
      let length := (be16 high low).toNat
      if length < 4 ∨ payload.length + 4 < length then none
      else some (code, id, payload.take (length - 4))
  | _ => none

/-- The answer of `FsmInput` to a packet of an unknown code. -/
def fsmSendCodeRej (bp : Bytes) (w : FsmWorld Layer) : FsmWorld Layer :=
  let id := w.fsm.rejid
  fsmOutput .codeRej id bp { w with fsm := { w.fsm with rejid := id + 1 } }

def fsmInput (T : FsmType Layer) (junk : Nat → UInt8) (packet : Bytes) (w : FsmWorld Layer) :
    FsmWorld Layer :=
  match readHeader packet with
  | none => w
  | some (code, id, bp) =>
      match T.knownCode? code with
      | some code => fsmAction T junk code id bp w
      | none => fsmSendCodeRej bp w

/-- `CcpSendResetReq` and `EcpSendResetReq`, as far as they touch the FSM: `ct` is
what the decompressor puts into the request, `none` where there is none. -/
def ccpSendResetReq (ct : Option Bytes) (w : FsmWorld Layer) : FsmWorld Layer :=
  match ct with
  | none => w
  | some bp =>
      let id := w.fsm.reqid
      fsmOutput .resetReq id bp { w with fsm := { w.fsm with reqid := id + 1 } }

/-- Everything that can happen to one FSM. -/
inductive FsmEvent where
  | open
  | close
  | up
  | down
  | failure (reason : FsmFail)
  | timeout
  | echoTimeout (bund traffic : Bool)
  | input (junk : Nat → UInt8) (packet : Bytes)
  | sendResetReq (ct : Option Bytes)
  | sendIdent (ident : Bytes)
  | sendTimeRemaining (seconds : UInt32)
  | setKeepAlive (interval max : Int)

def FsmEvent.receive (code : FsmCode) (id : UInt8) (payload : Bytes) : FsmEvent :=
  .input (fun _ => 0) (framePacket code id payload)

/-- The FSM takes one event. A timer that is not pending cannot expire, and a
one-shot timer is no longer pending when its handler runs. -/
def fsmStep (T : FsmType Layer) (w : FsmWorld Layer) : FsmEvent → FsmWorld Layer
  | .open => fsmOpen T w
  | .close => fsmClose T w
  | .up => fsmUp T w
  | .down => fsmDown T w
  | .failure reason => fsmFailure T reason w
  | .timeout => if w.fsm.timer then fsmTimeout T w.timerStop else w
  | .echoTimeout bund traffic => if w.fsm.echoTimer then fsmEchoTimeout T bund traffic w else w
  | .input junk packet => fsmInput T junk packet w
  | .sendResetReq ct => ccpSendResetReq ct w
  | .sendIdent ident => fsmSendIdent T ident w
  | .sendTimeRemaining seconds => fsmSendTimeRemaining T seconds w
  | .setKeepAlive interval max =>
      { w with fsm := { w.fsm with conf := { w.fsm.conf with echo_int := interval, echo_max := max } } }

end Mpd
