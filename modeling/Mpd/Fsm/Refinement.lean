import Mpd.Fsm.Events
import Mpd.Fsm.Automaton

/-! The FSM refines the automaton, for every protocol whose callbacks do not
re-enter the FSM that calls them: each event is one signal or none, and the
control of the FSM changes by the response of the table. -/

set_option autoImplicit false

namespace Mpd

variable {Layer : Type}

def control (w : FsmWorld Layer) : Control where
  state := w.fsm.state
  maxconfig := w.fsm.conf.maxconfig
  maxterminate := w.fsm.conf.maxterminate
  maxfailure := w.fsm.conf.maxfailure
  restart := w.fsm.restart
  failure := w.fsm.failure
  config := w.fsm.config
  timer := w.fsm.timer
  calls := pairedCalls w.log

/-- A callback left the control and the request identifier of the FSM as they
were. It may send packets and set options, as `LcpConfigure` does. -/
structure KeepsFsm (before after : FsmWorld Layer) : Prop where
  control : control after = control before
  reqid : after.fsm.reqid = before.fsm.reqid

structure Keeps (before after : FsmWorld Layer) : Prop extends KeepsFsm before after where
  ack : after.ack = before.ack
  nak : after.nak = before.nak
  rej : after.rej = before.rej

/-- No callback of the protocol re-enters the FSM. Only the decoding of a request
fills the option buffers. -/
class NonReentrant (T : FsmType Layer) : Prop where
  newState : ∀ old new w, Keeps w (T.newState old new w)
  layerUp : ∀ w, Keeps w (T.layerUp w)
  layerDown : ∀ w, Keeps w (T.layerDown w)
  layerStart : ∀ w, Keeps w (T.layerStart w)
  layerFinish : ∀ w, Keeps w (T.layerFinish w)
  buildConfigReq : ∀ w, Keeps w (T.buildConfigReq w).2
  decodeConfig : ∀ options mode w, KeepsFsm w (T.decodeConfig options mode w)
  decodeBuffers : ∀ options mode w, mode ≠ .req → Keeps w (T.decodeConfig options mode w)
  configure : ∀ w, Keeps w (T.configure w)
  unConfigure : ∀ w, Keeps w (T.unConfigure w)
  sendTerminateReq : ∀ w, Keeps w (T.sendTerminateReq w)
  sendTerminateAck : ∀ w, Keeps w (T.sendTerminateAck w)
  recvCodeRej : ∀ handler ∈ T.recvCodeRej, ∀ code bp w, Keeps w (handler code bp w).2
  recvProtoRej : ∀ handler ∈ T.recvProtoRej, ∀ proto bp w, Keeps w (handler proto bp w).2
  failure : ∀ reason w, Keeps w (T.failure reason w)
  recvResetReq : ∀ id bp w, Keeps w (T.recvResetReq id bp w)
  recvResetAck : ∀ id bp w, Keeps w (T.recvResetAck id bp w)
  recvIdent : ∀ bp w, Keeps w (T.recvIdent bp w)
  recvDiscReq : ∀ bp w, Keeps w (T.recvDiscReq bp w)
  recvTimeRemain : ∀ bp w, Keeps w (T.recvTimeRemain bp w)
  recvVendor : ∀ bp w, Keeps w (T.recvVendor bp w)

theorem control_of_keeps {before after : FsmWorld Layer} (kept : Keeps before after) :
    control after = control before :=
  kept.control

theorem fullyAcked_of_keeps {before after : FsmWorld Layer} (kept : Keeps before after) :
    after.fullyAcked = before.fullyAcked := by
  simp only [FsmWorld.fullyAcked, kept.nak, kept.rej]

@[simp] theorem fullyAcked_emit (act : FsmAct) (w : FsmWorld Layer) :
    (w.emit act).fullyAcked = w.fullyAcked := rfl

@[simp] theorem control_state (w : FsmWorld Layer) : (control w).state = w.fsm.state := rfl

@[simp] theorem control_calls (w : FsmWorld Layer) : (control w).calls = pairedCalls w.log := rfl

theorem control_emit_call {told : LayerCall} (paired : pairedCalls [.call told] = [told])
    (w : FsmWorld Layer) :
    control (w.emit (.call told)) = (Action.call told).perform (control w) := by
  simp [control, FsmWorld.emit, Action.perform, paired]

theorem control_emit_of_unpaired {act : FsmAct} (unpaired : pairedCalls [act] = [])
    (w : FsmWorld Layer) : control (w.emit act) = control w := by
  simp [control, FsmWorld.emit, unpaired]

@[simp] theorem control_fsmOutput (code : FsmCode) (id : UInt8) (payload : Bytes)
    (w : FsmWorld Layer) : control (fsmOutput code id payload w) = control w :=
  control_emit_of_unpaired rfl w

@[simp] theorem control_fsmSendCodeRej (bp : Bytes) (w : FsmWorld Layer) :
    control (fsmSendCodeRej bp w) = control w := by
  rw [fsmSendCodeRej, control_fsmOutput]
  rfl

@[simp] theorem control_fsmSendEchoReq (T : FsmType Layer) (payload : Bytes)
    (w : FsmWorld Layer) : control (fsmSendEchoReq T payload w) = control w := by
  unfold fsmSendEchoReq
  split_ifs
  · rfl
  · rw [control_fsmOutput]
    rfl

@[simp] theorem control_fsmSendInformation (T : FsmType Layer) (code : FsmCode) (data : Bytes)
    (w : FsmWorld Layer) : control (fsmSendInformation T code data w) = control w := by
  rw [fsmSendInformation, control_fsmOutput]
  rfl

@[simp] theorem control_timerStart (w : FsmWorld Layer) :
    control w.timerStart = Action.startTimer.perform (control w) := rfl

@[simp] theorem control_timerStop (w : FsmWorld Layer) :
    control w.timerStop = Action.stopTimer.perform (control w) := rfl

@[simp] theorem control_fsmInitCounters (w : FsmWorld Layer) :
    control (fsmInitCounters w) = Action.initCounters.perform (control w) := rfl

@[simp] theorem control_initRestart (w : FsmWorld Layer) :
    control (fsmInitRestartCounter w.fsm.conf.maxconfig w) =
      Action.initRestart.perform (control w) := rfl

@[simp] theorem control_initTermination (w : FsmWorld Layer) :
    control (fsmInitRestartCounter w.fsm.conf.maxterminate w) =
      Action.initTermination.perform (control w) := rfl

@[simp] theorem control_zeroRestart (w : FsmWorld Layer) :
    control (fsmInitRestartCounter 0 w) = Action.zeroRestart.perform (control w) := rfl

section NonReentrant

variable (T : FsmType Layer) [NonReentrant T] (w : FsmWorld Layer)

@[simp] theorem control_fsmNewState (new : FsmState) :
    control (fsmNewState T new w) = (Action.goto new).perform (control w) := by
  have kept := control_of_keeps (NonReentrant.newState (T := T) w.fsm.state new w)
  rw [← kept]
  rfl

@[simp] theorem control_fsmLayerUp :
    control (fsmLayerUp T w) = (Action.call .up).perform (control w) := by
  rw [fsmLayerUp, control_of_keeps (NonReentrant.layerUp _), control_emit_call rfl]

@[simp] theorem control_fsmLayerDown :
    control (fsmLayerDown T w) = (Action.call .down).perform (control w) := by
  rw [fsmLayerDown, control_of_keeps (NonReentrant.layerDown _), control_emit_call rfl]

@[simp] theorem control_fsmLayerStart : control (fsmLayerStart T w) = control w := by
  rw [fsmLayerStart, control_of_keeps (NonReentrant.layerStart _)]
  exact control_emit_of_unpaired rfl w

@[simp] theorem control_fsmLayerFinish : control (fsmLayerFinish T w) = control w := by
  rw [fsmLayerFinish, control_of_keeps (NonReentrant.layerFinish _)]
  exact control_emit_of_unpaired rfl w

@[simp] theorem control_fsmConfigure :
    control (fsmConfigure T w) = (Action.call .configure).perform (control w) := by
  rw [fsmConfigure, control_of_keeps (NonReentrant.configure _), control_emit_call rfl]

@[simp] theorem control_fsmUnConfigure :
    control (fsmUnConfigure T w) = (Action.call .unConfigure).perform (control w) := by
  rw [fsmUnConfigure, control_of_keeps (NonReentrant.unConfigure _), control_emit_call rfl]

@[simp] theorem control_fsmLayerFinishActive :
    control (fsmLayerFinishActive T w) = control w := by
  unfold fsmLayerFinishActive
  split_ifs
  · rfl
  · exact control_fsmLayerFinish T w

@[simp] theorem control_fsmDecodeBuffer (buf : Bytes) (mode : FsmMode) :
    control (fsmDecodeBuffer T buf mode w) = control w := by
  rw [fsmDecodeBuffer, (NonReentrant.decodeConfig _ _ _).control]
  split_ifs <;> rfl

@[simp] theorem control_fsmSendConfigReq :
    control (fsmSendConfigReq T w) = Action.sendConfigReq.perform (control w) := by
  have built := control_of_keeps (NonReentrant.buildConfigReq (T := T) w)
  have decoded := control_fsmDecodeBuffer T (T.buildConfigReq w).2 (T.buildConfigReq w).1 .nop
  rw [← built, ← decoded]
  simp [fsmSendConfigReq, fsmOutput, FsmWorld.emit, FsmWorld.timerStart, control, Action.perform]

@[simp] theorem control_fsmSendTerminateReq :
    control (fsmSendTerminateReq T w) = Action.sendTerminateReq.perform (control w) := by
  have sent := control_of_keeps (NonReentrant.sendTerminateReq (T := T)
    (fsmOutput .termReq w.fsm.reqid [] { w with fsm := { w.fsm with reqid := w.fsm.reqid + 1 } }))
  rw [control_fsmOutput] at sent
  have stepped : control { w with fsm := { w.fsm with reqid := w.fsm.reqid + 1 } } = control w :=
    rfl
  rw [← stepped, ← sent]
  rfl

@[simp] theorem control_fsmSendTerminateAck :
    control (fsmSendTerminateAck T w) = control w := by
  rw [fsmSendTerminateAck, control_of_keeps (NonReentrant.sendTerminateAck _), control_fsmOutput]
  rfl

@[simp] theorem control_fsmOpen : control (fsmOpen T w) = (control w).respond .open := by
  cases state : w.fsm.state <;> simp [fsmOpen, Control.respond, response, state]

@[simp] theorem control_fsmUp : control (fsmUp T w) = (control w).respond .up := by
  cases state : w.fsm.state <;> simp [fsmUp, Control.respond, response, state]

@[simp] theorem control_fsmDown : control (fsmDown T w) = (control w).respond .down := by
  cases state : w.fsm.state <;> simp [fsmDown, Control.respond, response, state]

@[simp] theorem control_fsmClose : control (fsmClose T w) = (control w).respond .close := by
  cases state : w.fsm.state <;> simp [fsmClose, Control.respond, response, state]

theorem control_fsmShutDown :
    control (fsmShutDown T w) = (control w).performAll (shutDownResponse w.fsm.state) := by
  cases state : w.fsm.state <;> simp [fsmShutDown, shutDownResponse, state]

theorem control_fsmFailure (reason : FsmFail) :
    control (fsmFailure T reason w) =
      (control w).performAll (shutDownResponse w.fsm.state) := by
  have kept := NonReentrant.failure (T := T) reason w
  rw [fsmFailure, control_fsmShutDown, ← control_state, kept.control, control_state]

theorem control_fsmTimeout :
    control (fsmTimeout T w.timerStop) =
      (control w).respond (if w.fsm.restart > 0 then .toPlus else .toMinus) := by
  by_cases left : w.fsm.restart > 0 <;> cases state : w.fsm.state <;>
    simp [fsmTimeout, control_fsmFailure, Control.respond, response, left, state]

@[simp] theorem fullyAcked_fsmLayerDown : (fsmLayerDown T w).fullyAcked = w.fullyAcked := by
  rw [fsmLayerDown, fullyAcked_of_keeps (NonReentrant.layerDown _), fullyAcked_emit]

@[simp] theorem fullyAcked_fsmLayerStart : (fsmLayerStart T w).fullyAcked = w.fullyAcked := by
  rw [fsmLayerStart, fullyAcked_of_keeps (NonReentrant.layerStart _), fullyAcked_emit]

@[simp] theorem fullyAcked_fsmInitCounters : (fsmInitCounters w).fullyAcked = w.fullyAcked := rfl

@[simp] theorem fullyAcked_fsmSendConfigReq :
    (fsmSendConfigReq T w).fullyAcked = w.fullyAcked := by
  have built := fullyAcked_of_keeps (NonReentrant.buildConfigReq (T := T) w)
  have decoded := fullyAcked_of_keeps (NonReentrant.decodeBuffers (T := T)
    (fsmExtractOptions fsmMaxOpts (T.buildConfigReq w).1).1 .nop (T.buildConfigReq w).2 (by simp))
  rw [← built, ← decoded]
  rfl

@[simp] theorem fullyAcked_fsmRenegotiate :
    (fsmRenegotiate T w).fullyAcked = w.fullyAcked := by
  cases state : w.fsm.state <;> simp [fsmRenegotiate, state]

theorem control_fsmRenegotiate :
    control (fsmRenegotiate T w) =
      (control w).performAll (renegotiateResponse w.fsm.state) := by
  cases state : w.fsm.state <;> simp [fsmRenegotiate, renegotiateResponse, state]

theorem control_fsmAnswered (fullyAcked : Bool) :
    control (fsmAnswered T fullyAcked w) =
      (control w).performAll (answeredResponse w.fsm.state fullyAcked) := by
  cases state : w.fsm.state <;> cases fullyAcked <;>
    simp [fsmAnswered, answeredResponse, state]

@[simp] theorem control_fsmSendConfigAck (id : UInt8) (options : Bytes) :
    control (fsmSendConfigAck T id options w) = control w := by
  simp [fsmSendConfigAck]

@[simp] theorem control_fsmSendConfigRej (id : UInt8) (options : Bytes) :
    control (fsmSendConfigRej T id options w) = Action.refuse.perform (control w) := by
  have decoded := control_fsmDecodeBuffer T w options .nop
  rw [← decoded]
  simp [fsmSendConfigRej, fsmOutput, FsmWorld.emit, control, Action.perform]

@[simp] theorem control_fsmSendConfigNak (id : UInt8) (options : Bytes) :
    control (fsmSendConfigNak T id options w) = Action.refuse.perform (control w) := by
  have decoded := control_fsmDecodeBuffer T w options .nop
  rw [← decoded]
  simp [fsmSendConfigNak, fsmOutput, FsmWorld.emit, control, Action.perform]

/-- What the answer to a Configure-Request does to the control, by the verdict on
the request and the failures that are left. -/
theorem control_fsmAnswerConfigReq (id : UInt8) :
    control (fsmAnswerConfigReq T id w) = (control w).performAll
      (if w.fullyAcked then answeredResponse w.fsm.state true
        else if w.fsm.failure ≤ 0 then shutDownResponse w.fsm.state
        else .refuse :: answeredResponse w.fsm.state false) := by
  unfold fsmAnswerConfigReq
  split_ifs with acked stuck rejected
  · rw [control_fsmAnswered, control_fsmSendConfigAck, ← control_state, control_fsmSendConfigAck,
      control_state]
  · rw [control_fsmFailure]
  · rw [control_fsmAnswered, ← control_state, control_fsmSendConfigRej]
    rfl
  · rw [control_fsmAnswered, ← control_state, control_fsmSendConfigNak]
    rfl

end NonReentrant

def fsmAdmit (T : FsmType Layer) (w : FsmWorld Layer) : FsmWorld Layer :=
  if w.fsm.state = .stopped then fsmConfigure T w else w

/-- What a Configure-Request amounts to. In Stopped the failures start over. -/
def configReqSignal (T : FsmType Layer) (bp : Bytes) (w : FsmWorld Layer) : Signal :=
  let failure := if w.fsm.state = .stopped then w.fsm.conf.maxfailure else w.fsm.failure
  if (fsmDecodeBuffer T bp .req (fsmAdmit T w)).fullyAcked then .rcrPlus
  else if failure ≤ 0 then .rcrStuck
  else .rcrMinus

def answerSignal (signal : Signal) (id : UInt8) (w : FsmWorld Layer) : Option Signal :=
  if id ≠ w.fsm.reqid - 1 then none
  else if signal ≠ .rca ∧ w.fsm.state.negotiating ∧ w.fsm.config ≤ 0 then some .rxjMinus
  else some signal

def rejectSignal (fatal : Bool) : Signal :=
  if fatal then .rxjMinus else .rxjPlus

def magicSignal (T : FsmType Layer) (junk : Nat → UInt8) (bp : Bytes) (w : FsmWorld Layer) :
    Option Signal :=
  if wrongMagic T junk bp w then some .rxjMinus else none

def actionSignal (T : FsmType Layer) (junk : Nat → UInt8) (code : FsmCode) (id : UInt8)
    (bp : Bytes) (w : FsmWorld Layer) : Option Signal :=
  match code with
  | .configReq => some (configReqSignal T bp w)
  | .configAck => answerSignal .rca id w
  | .configNak => answerSignal .rcn id w
  | .configRej => answerSignal .rcj id w
  | .termReq => some .rtr
  | .termAck => some .rta
  | .codeRej =>
      let code := rejectedCode bp
      some (rejectSignal (fsmJudgeCodeRej T code bp.tail (w.emit (.codeRejected code))).1)
  | .protoRej =>
      let proto := be16 (bp.getD 0 0) (bp.getD 1 0)
      some (rejectSignal (fsmJudgeProtoRej T proto (bp.drop 2) w).1)
  | .vendor | .echoReq | .echoRep | .discReq | .ident | .timeRem => magicSignal T junk bp w
  | .resetReq | .resetAck => none

def inputSignal (T : FsmType Layer) (junk : Nat → UInt8) (packet : Bytes) (w : FsmWorld Layer) :
    Option Signal :=
  match readHeader packet with
  | none => none
  | some (code, id, bp) =>
      (T.knownCode? code).bind fun code => actionSignal T junk code id bp w

def fsmSignal (T : FsmType Layer) (w : FsmWorld Layer) : FsmEvent → Option Signal
  | .open => some .open
  | .close => some .close
  | .up => some .up
  | .down => some .down
  | .failure _ => some .rxjMinus
  | .timeout =>
      if w.fsm.timer then some (if w.fsm.restart > 0 then .toPlus else .toMinus) else none
  | .echoTimeout bund traffic =>
      if w.fsm.echoTimer ∧ bund ∧ echoLost traffic w then some .rxjMinus else none
  | .input junk packet => inputSignal T junk packet w
  | .sendResetReq _ | .sendIdent _ | .sendTimeRemaining _ | .setKeepAlive _ _ => none

section NonReentrant

variable (T : FsmType Layer) [NonReentrant T] (w : FsmWorld Layer)

theorem control_fsmFailure_respond (reason : FsmFail) :
    control (fsmFailure T reason w) = (control w).respond .rxjMinus := by
  rw [control_fsmFailure, respond_rxjMinus, control_state]

/-- Renegotiating changes no state, and starts the failures over in Stopped only. -/
theorem fsmRenegotiate_keeps :
    (fsmRenegotiate T w).fsm.state = w.fsm.state ∧
      (fsmRenegotiate T w).fsm.failure =
        if w.fsm.state = .stopped then w.fsm.conf.maxfailure else w.fsm.failure := by
  have renegotiated := control_fsmRenegotiate T w
  constructor
  · have states := congrArg Control.state renegotiated
    cases state : w.fsm.state <;>
      simpa [renegotiateResponse, state, Action.perform] using states
  · have failures := congrArg Control.failure renegotiated
    cases state : w.fsm.state <;>
      simpa [renegotiateResponse, state, Action.perform, control] using failures

theorem control_fsmProcessConfigReq (id : UInt8) (bp : Bytes) :
    control (fsmProcessConfigReq T id bp w) =
      ((control w).performAll (renegotiateResponse w.fsm.state)).performAll
        (if (fsmDecodeBuffer T bp .req w).fullyAcked then answeredResponse w.fsm.state true
          else if (if w.fsm.state = .stopped then w.fsm.conf.maxfailure else w.fsm.failure) ≤ 0
            then shutDownResponse w.fsm.state
          else .refuse :: answeredResponse w.fsm.state false) := by
  have decoded := control_fsmDecodeBuffer T w bp .req
  have sameState : (fsmDecodeBuffer T bp .req w).fsm.state = w.fsm.state :=
    congrArg Control.state decoded
  have sameFailure : (fsmDecodeBuffer T bp .req w).fsm.failure = w.fsm.failure :=
    congrArg Control.failure decoded
  have sameLimit : (fsmDecodeBuffer T bp .req w).fsm.conf.maxfailure = w.fsm.conf.maxfailure :=
    congrArg Control.maxfailure decoded
  obtain ⟨state, failure⟩ := fsmRenegotiate_keeps T (fsmDecodeBuffer T bp .req w)
  rw [fsmProcessConfigReq, control_fsmAnswerConfigReq, control_fsmRenegotiate, decoded, state,
    failure, fullyAcked_fsmRenegotiate, sameState, sameFailure, sameLimit]

theorem control_fsmRecvConfigReq (id : UInt8) (bp : Bytes) :
    control (fsmRecvConfigReq T id bp w) = (control w).respond (configReqSignal T bp w) := by
  have configured := control_fsmConfigure T w
  have sameState : (fsmConfigure T w).fsm.state = w.fsm.state :=
    congrArg Control.state configured
  have sameLimit : (fsmConfigure T w).fsm.conf.maxfailure = w.fsm.conf.maxfailure :=
    congrArg Control.maxfailure configured
  cases state : w.fsm.state <;>
    simp only [fsmRecvConfigReq, configReqSignal, fsmAdmit, state, reduceCtorEq, if_true, if_false,
      control_fsmProcessConfigReq, control_fsmSendTerminateAck, configured, sameState, sameLimit] <;>
    split_ifs <;> simp [Control.respond, response, state, admitResponse, renegotiateResponse,
      answeredResponse, shutDownResponse]

theorem control_fsmRecvConfigAck (id : UInt8) (bp : Bytes) :
    control (fsmRecvConfigAck T id bp w) = (control w).react (answerSignal .rca id w) := by
  by_cases wrong : id ≠ w.fsm.reqid - 1
  · simp [fsmRecvConfigAck, answerSignal, wrong]
  · have decoded : (fsmDecodeBuffer T bp .nop w).fsm.state = w.fsm.state :=
      congrArg Control.state (control_fsmDecodeBuffer T w bp .nop)
    cases state : w.fsm.state <;>
      simp [fsmRecvConfigAck, answerSignal, wrong, decoded, Control.respond, response, state]

theorem control_fsmRecvConfigNak (id : UInt8) (bp : Bytes) :
    control (fsmRecvConfigNak T id bp w) = (control w).react (answerSignal .rcn id w) := by
  have decoded := control_fsmDecodeBuffer T w bp .nak
  have sameState : (fsmDecodeBuffer T bp .nak w).fsm.state = w.fsm.state :=
    congrArg Control.state decoded
  have sameConfig : (fsmDecodeBuffer T bp .nak w).fsm.config = w.fsm.config :=
    congrArg Control.config decoded
  by_cases wrong : id ≠ w.fsm.reqid - 1
  · simp [fsmRecvConfigNak, answerSignal, wrong]
  · by_cases stuck : w.fsm.config ≤ 0 <;> cases state : w.fsm.state <;>
      simp [fsmRecvConfigNak, fsmProcessConfigNak, answerSignal, wrong, sameState, sameConfig,
        stuck, control_fsmFailure, Control.respond, response, FsmState.negotiating, state]

theorem control_fsmRecvConfigRej (id : UInt8) (bp : Bytes) :
    control (fsmRecvConfigRej T id bp w) = (control w).react (answerSignal .rcj id w) := by
  have decoded := control_fsmDecodeBuffer T w bp .rej
  have sameState : (fsmDecodeBuffer T bp .rej w).fsm.state = w.fsm.state :=
    congrArg Control.state decoded
  have sameConfig : (fsmDecodeBuffer T bp .rej w).fsm.config = w.fsm.config :=
    congrArg Control.config decoded
  by_cases wrong : id ≠ w.fsm.reqid - 1
  · simp [fsmRecvConfigRej, answerSignal, wrong]
  · by_cases stuck : w.fsm.config ≤ 0 <;> cases state : w.fsm.state <;>
      simp [fsmRecvConfigRej, fsmProcessConfigRej, answerSignal, wrong, sameState, sameConfig,
        stuck, control_fsmFailure, Control.respond, response, FsmState.negotiating, state]

theorem control_fsmRecvTermReq :
    control (fsmRecvTermReq T w) = (control w).respond .rtr := by
  cases state : w.fsm.state <;> simp [fsmRecvTermReq, Control.respond, response, state]

theorem control_fsmRecvTermAck :
    control (fsmRecvTermAck T w) = (control w).respond .rta := by
  cases state : w.fsm.state <;> simp [fsmRecvTermAck, Control.respond, response, state]

theorem control_fsmRecvRxjPlus :
    control (fsmRecvRxjPlus T w) = (control w).respond .rxjPlus := by
  cases state : w.fsm.state <;> simp [fsmRecvRxjPlus, Control.respond, response, state]

theorem control_fsmJudgeCodeRej (code : UInt8) (bp : Bytes) :
    control (fsmJudgeCodeRej T code bp w).2 = control w := by
  unfold fsmJudgeCodeRej
  split
  · rename_i handler found
    exact control_of_keeps (NonReentrant.recvCodeRej handler found code bp w)
  · rfl

theorem control_fsmJudgeProtoRej (proto : UInt16) (bp : Bytes) :
    control (fsmJudgeProtoRej T proto bp w).2 = control w := by
  unfold fsmJudgeProtoRej
  split
  · rename_i handler _ found
    exact control_of_keeps (NonReentrant.recvProtoRej handler found proto bp w)
  · rfl

/-- How a reject goes on once its fatalness is judged. -/
theorem control_rejected (fatal : Bool) (reason : FsmFail) :
    control (if fatal then fsmFailure T reason w else fsmRecvRxjPlus T w) =
      (control w).respond (rejectSignal fatal) := by
  cases fatal
  · exact control_fsmRecvRxjPlus T w
  · exact control_fsmFailure_respond T w reason

theorem control_fsmRecvCodeRej (bp : Bytes) :
    control (fsmRecvCodeRej T bp w) = (control w).respond
      (rejectSignal (fsmJudgeCodeRej T (rejectedCode bp) bp.tail
        (w.emit (.codeRejected (rejectedCode bp)))).1) := by
  rw [fsmRecvCodeRej, control_rejected, control_fsmJudgeCodeRej, control_emit_of_unpaired rfl]

theorem control_fsmRecvProtoRej (bp : Bytes) :
    control (fsmRecvProtoRej T bp w) = (control w).respond
      (rejectSignal (fsmJudgeProtoRej T (be16 (bp.getD 0 0) (bp.getD 1 0)) (bp.drop 2) w).1) := by
  rw [fsmRecvProtoRej, control_rejected, control_fsmJudgeProtoRej]

theorem control_fsmCheckMagic (junk : Nat → UInt8) (bp : Bytes) :
    control (fsmCheckMagic T junk bp w) = (control w).react (magicSignal T junk bp w) := by
  unfold fsmCheckMagic magicSignal
  split_ifs with wrong
  · exact control_fsmFailure_respond T w .recdBadMagic
  · rfl

theorem control_fsmRecvEchoReq (junk : Nat → UInt8) (id : UInt8) (bp : Bytes) :
    control (fsmRecvEchoReq T junk id bp w) = (control w).react (magicSignal T junk bp w) := by
  rw [← control_fsmCheckMagic]
  simp only [fsmRecvEchoReq]
  split_ifs
  · rfl
  · exact control_fsmOutput ..

theorem control_fsmEchoTimeout (bund traffic : Bool) :
    control (fsmEchoTimeout T bund traffic w) = (control w).react
      (if bund ∧ echoLost traffic w then some .rxjMinus else none) := by
  unfold fsmEchoTimeout
  by_cases counted : bund
  · by_cases lost : echoLost traffic w
    · simp only [counted, lost, not_true, if_false, if_true, and_self, Control.react_some]
      exact control_fsmFailure_respond T _ .echoTimeout
    · simp only [counted, lost, not_true, if_false, Bool.false_eq_true, and_false]
      split_ifs
      · rfl
      · exact control_fsmSendEchoReq ..
  · simp only [counted, Bool.false_eq_true, not_false_eq_true, if_true, false_and, if_false]
    rfl

theorem control_fsmAction (junk : Nat → UInt8) (code : FsmCode) (id : UInt8) (bp : Bytes) :
    control (fsmAction T junk code id bp w) =
      (control w).react (actionSignal T junk code id bp w) := by
  cases code with
  | vendor =>
      rw [fsmAction, control_of_keeps (NonReentrant.recvVendor _ _), control_fsmCheckMagic]
      rfl
  | configReq => exact control_fsmRecvConfigReq T w id bp
  | configAck => exact control_fsmRecvConfigAck T w id bp
  | configNak => exact control_fsmRecvConfigNak T w id bp
  | configRej => exact control_fsmRecvConfigRej T w id bp
  | termReq => exact control_fsmRecvTermReq T w
  | termAck => exact control_fsmRecvTermAck T w
  | codeRej => exact control_fsmRecvCodeRej T w bp
  | protoRej => exact control_fsmRecvProtoRej T w bp
  | echoReq => exact control_fsmRecvEchoReq T w junk id bp
  | echoRep => exact control_fsmCheckMagic T w junk bp
  | discReq =>
      rw [fsmAction, control_of_keeps (NonReentrant.recvDiscReq _ _), control_fsmCheckMagic]
      rfl
  | ident =>
      rw [fsmAction, control_of_keeps (NonReentrant.recvIdent _ _), control_fsmCheckMagic]
      rfl
  | timeRem =>
      rw [fsmAction, control_of_keeps (NonReentrant.recvTimeRemain _ _), control_fsmCheckMagic]
      rfl
  | resetReq => exact control_of_keeps (NonReentrant.recvResetReq id bp w)
  | resetAck => exact control_of_keeps (NonReentrant.recvResetAck id bp w)

theorem control_fsmInput (junk : Nat → UInt8) (packet : Bytes) :
    control (fsmInput T junk packet w) =
      (control w).react (inputSignal T junk packet w) := by
  unfold fsmInput inputSignal
  rcases readHeader packet with _ | ⟨code, id, bp⟩
  · rfl
  · cases known : T.knownCode? code with
    | some code => simpa [known] using control_fsmAction T w junk code id bp
    | none => simp [known]

/-- The FSM refines the automaton: an event changes the control of the FSM by the
response of the table to the signal that the event amounts to. -/
theorem control_fsmStep (event : FsmEvent) :
    control (fsmStep T w event) = (control w).react (fsmSignal T w event) := by
  cases event with
  | «open» => exact control_fsmOpen T w
  | close => exact control_fsmClose T w
  | up => exact control_fsmUp T w
  | down => exact control_fsmDown T w
  | failure reason => exact control_fsmFailure_respond T w reason
  | timeout =>
      by_cases pending : w.fsm.timer
      · simp only [fsmStep, fsmSignal, pending, if_true]
        exact control_fsmTimeout T w
      · simp only [fsmStep, fsmSignal, pending]
        rfl
  | echoTimeout bund traffic =>
      by_cases pending : w.fsm.echoTimer
      · simp only [fsmStep, fsmSignal, pending, if_true, true_and]
        exact control_fsmEchoTimeout T w bund traffic
      · simp only [fsmStep, fsmSignal, pending]
        rfl
  | input junk packet => exact control_fsmInput T w junk packet
  | sendResetReq ct =>
      cases ct with
      | none => rfl
      | some bp => exact control_fsmOutput .resetReq w.fsm.reqid bp _
  | sendIdent ident => exact control_fsmSendInformation ..
  | setKeepAlive interval max => rfl
  | sendTimeRemaining seconds => exact control_fsmSendInformation ..

end NonReentrant

end Mpd
