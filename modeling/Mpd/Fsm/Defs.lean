import Mpd.Bytes

/-! The data of `fsm.h` and the first half of `fsm.c`: the negotiation state
machine, the callbacks a protocol gives it, and the actions out of which its
event handlers are made. -/

set_option autoImplicit false

namespace Mpd

inductive FsmState where
  | initial | starting | closed | stopped | closing | stopping
  | reqSent | ackRcvd | ackSent | opened
  deriving DecidableEq, Repr

inductive FsmFail where
  | negotFailure | recdBadMagic | recdCodeRej | recdProtRej | wasProtRej | echoTimeout | cantEncrypt
  deriving DecidableEq, Repr

inductive FsmMode where
  | req | nak | rej | nop
  deriving DecidableEq, Repr

/-- The packet codes, in the order of the table `FsmCodes`. -/
inductive FsmCode where
  | vendor | configReq | configAck | configNak | configRej | termReq | termAck | codeRej
  | protoRej | echoReq | echoRep | discReq | ident | timeRem | resetReq | resetAck
  deriving DecidableEq, Repr

namespace FsmCode

def num : FsmCode → UInt8
  | vendor => 0 | configReq => 1 | configAck => 2 | configNak => 3 | configRej => 4
  | termReq => 5 | termAck => 6 | codeRej => 7 | protoRej => 8 | echoReq => 9
  | echoRep => 10 | discReq => 11 | ident => 12 | timeRem => 13 | resetReq => 14
  | resetAck => 15

def fsmCodes : List FsmCode :=
  [vendor, configReq, configAck, configNak, configRej, termReq, termAck, codeRej, protoRej,
    echoReq, echoRep, discReq, ident, timeRem, resetReq, resetAck]

/-- The row of `FsmCodes` for a code byte, `none` from `NUM_FSM_CODES` on. -/
def ofByte? (byte : UInt8) : Option FsmCode := fsmCodes[byte.toNat]?

@[simp] theorem ofByte?_num (code : FsmCode) : ofByte? code.num = some code := by
  cases code <;> rfl

theorem ofByte?_eq_some {byte : UInt8} {code : FsmCode} (found : ofByte? byte = some code) :
    byte = code.num := by
  have rows : ∀ index < 16, ∀ row ∈ fsmCodes[index]?, UInt8.ofNat index = row.num := by decide
  obtain ⟨below, -⟩ := List.getElem?_eq_some_iff.mp found
  simpa using rows byte.toNat below code found

end FsmCode

def fsmMaxConfig : Int := 10
def fsmMaxTerminate : Int := 2
def fsmMaxFailure : Int := 5
def fsmMaxOpts : Nat := 100

def fsmBufferSize : Nat := 256

structure FsmConf where
  maxconfig : Int
  maxterminate : Int
  maxfailure : Int
  echo_int : Int
  echo_max : Int
  check_magic : Bool
  passive : Bool
  deriving DecidableEq, Repr

/-- `struct fsm`, less the pointers and log levels. A timer is its pending flag. -/
structure Fsm where
  conf : FsmConf
  state : FsmState
  reqid : UInt8
  rejid : UInt8
  echoid : UInt8
  restart : Int
  failure : Int
  config : Int
  quietCount : Int
  timer : Bool
  echoTimer : Bool
  deriving DecidableEq, Repr

/-- One configuration option. The length byte counts the type and length bytes,
so the data of an option that was extracted from a packet fits below 254 bytes. -/
structure FsmOption where
  type : UInt8
  data : Bytes
  fits : data.length + 2 < 256
  deriving DecidableEq, Repr

namespace FsmOption

def len (option : FsmOption) : Nat := option.data.length + 2

/-- The option as it stands in a packet. -/
def bytes (option : FsmOption) : Bytes :=
  option.type :: UInt8.ofNat option.len :: option.data

@[simp] theorem length_bytes (option : FsmOption) : option.bytes.length = option.len := rfl

theorem len_lt (option : FsmOption) : option.len < 256 := option.fits

end FsmOption

inductive LayerCall where
  | up | down | start | finish | configure | unConfigure
  deriving DecidableEq, Repr

inductive FsmAct where
  | output (code : FsmCode) (id : UInt8) (payload : Bytes)
  | call (told : LayerCall)
  | codeRejected (code : UInt8)
  deriving DecidableEq, Repr

/-- The calls of a record that come in pairs: a layer goes up and down, and a
protocol is configured and unconfigured. -/
def pairedCalls (log : List FsmAct) : List LayerCall :=
  log.filterMap fun
    | .call .start | .call .finish => none
    | .call told => some told
    | _ => none

@[simp] theorem pairedCalls_append (first second : List FsmAct) :
    pairedCalls (first ++ second) = pairedCalls first ++ pairedCalls second :=
  List.filterMap_append

@[simp] theorem pairedCalls_output (code : FsmCode) (id : UInt8) (payload : Bytes) :
    pairedCalls [.output code id payload] = [] := rfl

/-- The packet of `FsmOutputMbuf`: the header, then the payload. -/
def framePacket (code : FsmCode) (id : UInt8) (payload : Bytes) : Bytes :=
  code.num :: id :: putBe16 (UInt16.ofNat (4 + payload.length)) ++ payload

/-- One FSM together with what its argument points at, the three option buffers
filled up to `gAckSize`, `gNakSize` and `gRejSize`, and the record of its calls. -/
structure FsmWorld (Layer : Type) where
  fsm : Fsm
  layer : Layer
  ack : Bytes
  nak : Bytes
  rej : Bytes
  log : List FsmAct

variable {Layer : Type}

/-- `struct fsmtype`: what a protocol supplies to its FSM. A callback that the
source leaves `NULL` is the identity, except where its absence is tested. -/
structure FsmType (Layer : Type) where
  proto : UInt16
  known_codes : UInt16
  newState : FsmState → FsmState → FsmWorld Layer → FsmWorld Layer
  layerUp : FsmWorld Layer → FsmWorld Layer
  layerDown : FsmWorld Layer → FsmWorld Layer
  layerStart : FsmWorld Layer → FsmWorld Layer
  layerFinish : FsmWorld Layer → FsmWorld Layer
  buildConfigReq : FsmWorld Layer → Bytes × FsmWorld Layer
  decodeConfig : List FsmOption → FsmMode → FsmWorld Layer → FsmWorld Layer
  configure : FsmWorld Layer → FsmWorld Layer
  unConfigure : FsmWorld Layer → FsmWorld Layer
  sendTerminateReq : FsmWorld Layer → FsmWorld Layer
  sendTerminateAck : FsmWorld Layer → FsmWorld Layer
  recvCodeRej : Option (UInt8 → Bytes → FsmWorld Layer → Bool × FsmWorld Layer)
  recvProtoRej : Option (UInt16 → Bytes → FsmWorld Layer → Bool × FsmWorld Layer)
  failure : FsmFail → FsmWorld Layer → FsmWorld Layer
  recvResetReq : UInt8 → Bytes → FsmWorld Layer → FsmWorld Layer
  recvResetAck : UInt8 → Bytes → FsmWorld Layer → FsmWorld Layer
  recvIdent : Bytes → FsmWorld Layer → FsmWorld Layer
  recvDiscReq : Bytes → FsmWorld Layer → FsmWorld Layer
  recvTimeRemain : Bytes → FsmWorld Layer → FsmWorld Layer
  recvVendor : Bytes → FsmWorld Layer → FsmWorld Layer
  /-- `want_magic` and `peer_magic` of the link that the argument points at. -/
  wantMagic : Layer → UInt32
  peerMagic : Layer → UInt32

namespace FsmWorld

def emit (act : FsmAct) (w : FsmWorld Layer) : FsmWorld Layer :=
  { w with log := w.log ++ [act] }

def timerStart (w : FsmWorld Layer) : FsmWorld Layer :=
  { w with fsm := { w.fsm with timer := true } }

def timerStop (w : FsmWorld Layer) : FsmWorld Layer :=
  { w with fsm := { w.fsm with timer := false } }

@[simp] theorem timerStop_state (w : FsmWorld Layer) : w.timerStop.fsm.state = w.fsm.state := rfl

@[simp] theorem timerStop_restart (w : FsmWorld Layer) :
    w.timerStop.fsm.restart = w.fsm.restart := rfl

end FsmWorld

def fsmInit : Fsm where
  conf := {
    maxconfig := fsmMaxConfig
    maxterminate := fsmMaxTerminate
    maxfailure := fsmMaxFailure
    echo_int := 0
    echo_max := 0
    check_magic := false
    passive := false }
  state := .initial
  reqid := 1
  rejid := 1
  echoid := 1
  restart := 0
  failure := 0
  config := 0
  quietCount := 0
  timer := false
  echoTimer := false

/-- The world right after `FsmInit`. -/
def FsmWorld.init (layer : Layer) : FsmWorld Layer :=
  { fsm := fsmInit, layer, ack := [], nak := [], rej := [], log := [] }

def FsmState.stopsTimer : FsmState → Bool
  | .initial | .starting | .closed | .stopped | .opened => true
  | _ => false

/-- What `FsmNewState` writes: the state and the two timers. -/
def Fsm.enter (fsm : Fsm) (old new : FsmState) : Fsm :=
  { fsm with
    state := new
    timer := !new.stopsTimer && fsm.timer
    quietCount := if new = .opened ∧ fsm.conf.echo_int ≠ 0 then 0 else fsm.quietCount
    echoTimer := if new = .opened ∧ fsm.conf.echo_int ≠ 0 then true
      else if old = .opened then false
      else fsm.echoTimer }

/-- `FsmNewState`. The protocol's handler runs before the state is written. -/
def fsmNewState (T : FsmType Layer) (new : FsmState) (w : FsmWorld Layer) : FsmWorld Layer :=
  let old := w.fsm.state
  let w := T.newState old new w
  { w with fsm := w.fsm.enter old new }

def fsmOutput (code : FsmCode) (id : UInt8) (payload : Bytes) (w : FsmWorld Layer) :
    FsmWorld Layer :=
  w.emit (.output code id payload)

def fsmLayerUp (T : FsmType Layer) (w : FsmWorld Layer) : FsmWorld Layer :=
  T.layerUp (w.emit (.call .up))

def fsmLayerDown (T : FsmType Layer) (w : FsmWorld Layer) : FsmWorld Layer :=
  T.layerDown (w.emit (.call .down))

def fsmLayerStart (T : FsmType Layer) (w : FsmWorld Layer) : FsmWorld Layer :=
  T.layerStart (w.emit (.call .start))

def fsmLayerFinish (T : FsmType Layer) (w : FsmWorld Layer) : FsmWorld Layer :=
  T.layerFinish (w.emit (.call .finish))

def fsmConfigure (T : FsmType Layer) (w : FsmWorld Layer) : FsmWorld Layer :=
  T.configure (w.emit (.call .configure))

def fsmUnConfigure (T : FsmType Layer) (w : FsmWorld Layer) : FsmWorld Layer :=
  T.unConfigure (w.emit (.call .unConfigure))

def fsmInitRestartCounter (value : Int) (w : FsmWorld Layer) : FsmWorld Layer :=
  let w := w.timerStop
  { w with fsm := { w.fsm with restart := value } }

def fsmInitMaxFailure (value : Int) (w : FsmWorld Layer) : FsmWorld Layer :=
  { w with fsm := { w.fsm with failure := value } }

def fsmInitMaxConfig (value : Int) (w : FsmWorld Layer) : FsmWorld Layer :=
  { w with fsm := { w.fsm with config := value } }

/-- `FsmExtractOptions`: at most `max` options, with the bytes that are left. -/
def fsmExtractOptions : Nat → Bytes → List FsmOption × Bytes
  | max + 1, type :: length :: data =>
      if sized : length.toNat < 2 ∨ data.length + 2 < length.toNat then
        ([], type :: length :: data)
      else
        let option : FsmOption := {
          type
          data := data.take (length.toNat - 2)
          fits := by
            have bounded : length.toNat < 256 := length.toNat_lt
            simp only [List.length_take]
            omega }
        let tail := fsmExtractOptions max (data.drop (length.toNat - 2))
        (option :: tail.1, tail.2)
  | _, data => ([], data)

def fsmDecodeBuffer (T : FsmType Layer) (buf : Bytes) (mode : FsmMode) (w : FsmWorld Layer) :
    FsmWorld Layer :=
  let w := if mode = .req then { w with ack := [], nak := [], rej := [] } else w
  T.decodeConfig (fsmExtractOptions fsmMaxOpts buf).1 mode w

/-- `FsmAck`: an option that does not fit into the buffer is dropped. -/
def fsmAck (option : FsmOption) (w : FsmWorld Layer) : FsmWorld Layer :=
  if w.ack.length + option.len > fsmBufferSize then w
  else { w with ack := w.ack ++ option.bytes }

def fsmNak (option : FsmOption) (w : FsmWorld Layer) : FsmWorld Layer :=
  if w.nak.length + option.len > fsmBufferSize then w
  else { w with nak := w.nak ++ option.bytes }

def fsmRej (option : FsmOption) (w : FsmWorld Layer) : FsmWorld Layer :=
  if w.rej.length + option.len > fsmBufferSize then w
  else { w with rej := w.rej ++ option.bytes }

def fsmSendConfigReq (T : FsmType Layer) (w : FsmWorld Layer) : FsmWorld Layer :=
  let built := T.buildConfigReq w
  let w := fsmDecodeBuffer T built.1 .nop built.2
  let id := w.fsm.reqid
  let w := { w with fsm := { w.fsm with reqid := id + 1 } }
  let w := fsmOutput .configReq id built.1 w
  let w := w.timerStart
  { w with fsm := { w.fsm with
      restart := short (w.fsm.restart - 1), config := short (w.fsm.config - 1) } }

def fsmSendTerminateReq (T : FsmType Layer) (w : FsmWorld Layer) : FsmWorld Layer :=
  let id := w.fsm.reqid
  let w := { w with fsm := { w.fsm with reqid := id + 1 } }
  let w := fsmOutput .termReq id [] w
  let w := T.sendTerminateReq w
  let w := w.timerStart
  { w with fsm := { w.fsm with restart := short (w.fsm.restart - 1) } }

def fsmSendTerminateAck (T : FsmType Layer) (w : FsmWorld Layer) : FsmWorld Layer :=
  let id := w.fsm.reqid
  let w := { w with fsm := { w.fsm with reqid := id + 1 } }
  let w := fsmOutput .termAck id [] w
  T.sendTerminateAck w

def fsmSendConfigAck (T : FsmType Layer) (id : UInt8) (options : Bytes) (w : FsmWorld Layer) :
    FsmWorld Layer :=
  fsmOutput .configAck id options (fsmDecodeBuffer T options .nop w)

def fsmSendConfigRej (T : FsmType Layer) (id : UInt8) (options : Bytes) (w : FsmWorld Layer) :
    FsmWorld Layer :=
  let w := fsmOutput .configRej id options (fsmDecodeBuffer T options .nop w)
  { w with fsm := { w.fsm with failure := short (w.fsm.failure - 1) } }

def fsmSendConfigNak (T : FsmType Layer) (id : UInt8) (options : Bytes) (w : FsmWorld Layer) :
    FsmWorld Layer :=
  let w := fsmOutput .configNak id options (fsmDecodeBuffer T options .nop w)
  { w with fsm := { w.fsm with failure := short (w.fsm.failure - 1) } }

end Mpd
