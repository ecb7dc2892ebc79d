import Mpd.Fsm.Events

/-! Relations between worlds that every handler of `fsm.c` respects, for any
protocol whose callbacks respect them, re-entrant ones included. -/

set_option autoImplicit false

namespace Mpd

variable {Layer : Type}

/-- The state changes that the handlers of `fsm.c` ask `FsmNewState` for. -/
def FsmState.mayEnter : FsmState → FsmState → Bool
  | .initial, new => new = .starting || new = .closed
  | .starting, new => new = .initial || new = .reqSent
  | .closed, new => new = .initial || new = .reqSent
  | .stopped, new => new = .starting || new = .closed || new = .reqSent || new = .ackSent
  | .closing, new => new = .initial || new = .stopping || new = .closed
  | .stopping, new => new = .starting || new = .closing || new = .stopped
  | .reqSent, new =>
      new = .starting || new = .closing || new = .stopped || new = .ackRcvd || new = .ackSent
  | .ackRcvd, new | .ackSent, new =>
      new = .starting || new = .closing || new = .stopped || new = .reqSent || new = .opened
  | .opened, new =>
      new = .starting || new = .closing || new = .stopping || new = .reqSent || new = .ackSent

structure Within (tracked : Prop) (R : FsmWorld Layer → FsmWorld Layer → Prop)
    (before after : FsmWorld Layer) : Prop where
  related : R before after
  state : tracked → after.fsm.state = before.fsm.state

/-- The record of the act is not a Configure-Ack. -/
def FsmAct.Quiet (act : FsmAct) : Prop := ∀ id payload, act ≠ .output .configAck id payload

/-- The states in which `FsmRecvConfigReq` decodes a request. -/
def FsmState.answersConfigReq : FsmState → Bool
  | .stopped | .reqSent | .ackRcvd | .ackSent | .opened => true
  | _ => false

/-- The world in which `FsmRecvConfigReq` comes to decode a request. -/
def configReqStart (T : FsmType Layer) (w : FsmWorld Layer) : FsmWorld Layer :=
  if w.fsm.state = .stopped then fsmConfigure T w else w

def configReqDecoded (T : FsmType Layer) (bp : Bytes) (w : FsmWorld Layer) : FsmWorld Layer :=
  fsmRenegotiate T (fsmDecodeBuffer T bp .req (configReqStart T w))

theorem fsmRecvConfigReq_of_answers {T : FsmType Layer} {id : UInt8} {bp : Bytes}
    {w : FsmWorld Layer} (answers : w.fsm.state.answersConfigReq = true) :
    fsmRecvConfigReq T id bp w = fsmAnswerConfigReq T id (configReqDecoded T bp w) := by
  unfold fsmRecvConfigReq configReqDecoded configReqStart
  cases state : w.fsm.state <;> simp_all [FsmState.answersConfigReq, fsmProcessConfigReq]

def actionOpens (T : FsmType Layer) (code : FsmCode) (id : UInt8) (bp : Bytes)
    (w middle : FsmWorld Layer) : Prop :=
  match code with
  | .configReq =>
      (configReqDecoded T bp w).fullyAcked = true ∧
        middle = fsmSendConfigAck T id (configReqDecoded T bp w).ack (configReqDecoded T bp w) ∧
        middle.fsm.state = .ackRcvd
  | .configAck =>
      id = w.fsm.reqid - 1 ∧ middle = fsmDecodeBuffer T bp .nop w ∧ middle.fsm.state = .ackSent
  | _ => False

def fsmOpens (T : FsmType Layer) (w : FsmWorld Layer) (event : FsmEvent)
    (middle : FsmWorld Layer) : Prop :=
  match event with
  | .input _ packet =>
      ∃ code id bp row, readHeader packet = some (code, id, bp) ∧
        T.knownCode? code = some row ∧ actionOpens T row id bp w middle
  | _ => False

/-- The callbacks respect the relation while they decode no request. Where the states
are tracked, only `LayerUp`, the last call of each handler that makes it, may change
the state of the FSM, and a change of state is known to be one that may happen. The
change to Opened need not respect the relation where it is excluded by other means. -/
structure Respects (T : FsmType Layer) (tracked : Prop) (mayOpen : FsmWorld Layer → Prop)
    (R : FsmWorld Layer → FsmWorld Layer → Prop) : Prop where
  refl : ∀ w, R w w
  trans : ∀ {first second third}, R first second → R second third → R first third
  counters : ∀ w (fsm : Fsm), fsm.state = w.fsm.state → R w { w with fsm }
  emit : ∀ act w, act.Quiet → R w (w.emit act)
  newState : ∀ new w, new ≠ .opened → (tracked → w.fsm.state.mayEnter new = true) →
    R w (fsmNewState T new w)
  opened : ∀ w, mayOpen w → (tracked → w.fsm.state.mayEnter .opened = true) →
    R w (fsmNewState T .opened w)
  layerUp : ∀ w, R w (T.layerUp w)
  layerDown : ∀ w, Within tracked R w (T.layerDown w)
  layerStart : ∀ w, Within tracked R w (T.layerStart w)
  layerFinish : ∀ w, Within tracked R w (T.layerFinish w)
  buildConfigReq : ∀ w, Within tracked R w (T.buildConfigReq w).2
  decodeConfig : ∀ options mode w, mode ≠ .req → Within tracked R w (T.decodeConfig options mode w)
  configure : ∀ w, Within tracked R w (T.configure w)
  unConfigure : ∀ w, Within tracked R w (T.unConfigure w)
  sendTerminateReq : ∀ w, Within tracked R w (T.sendTerminateReq w)
  sendTerminateAck : ∀ w, Within tracked R w (T.sendTerminateAck w)
  failure : ∀ reason w, Within tracked R w (T.failure reason w)

/-- The callbacks respect the relation also where they decode a request, and so do
the acknowledgement and the rest of the packet handlers. -/
structure RespectsAll (T : FsmType Layer) (tracked : Prop) (mayOpen : FsmWorld Layer → Prop)
    (R : FsmWorld Layer → FsmWorld Layer → Prop) : Prop extends Respects T tracked mayOpen R where
  acknowledge : ∀ id payload w, R w (w.emit (.output .configAck id payload))
  buffers : ∀ (w : FsmWorld Layer) (ack nak rej : Bytes), R w { w with ack, nak, rej }
  decodeRequest : ∀ options w, Within tracked R w (T.decodeConfig options .req w)
  recvCodeRej : ∀ handler ∈ T.recvCodeRej, ∀ code bp w, Within tracked R w (handler code bp w).2
  recvProtoRej : ∀ handler ∈ T.recvProtoRej, ∀ proto bp w, Within tracked R w (handler proto bp w).2
  recvResetReq : ∀ id bp w, Within tracked R w (T.recvResetReq id bp w)
  recvResetAck : ∀ id bp w, Within tracked R w (T.recvResetAck id bp w)
  recvIdent : ∀ bp w, Within tracked R w (T.recvIdent bp w)
  recvDiscReq : ∀ bp w, Within tracked R w (T.recvDiscReq bp w)
  recvTimeRemain : ∀ bp w, Within tracked R w (T.recvTimeRemain bp w)
  recvVendor : ∀ bp w, Within tracked R w (T.recvVendor bp w)

theorem quiet_output {code : FsmCode} (other : code ≠ .configAck) (id : UInt8)
    (payload : Bytes) : (FsmAct.output code id payload).Quiet := by
  intro id' payload' same
  injection same with sameCode
  exact other sameCode

theorem quiet_call (told : LayerCall) : (FsmAct.call told).Quiet := by
  intro id payload same
  exact nomatch same

theorem quiet_codeRejected (code : UInt8) : (FsmAct.codeRejected code).Quiet := by
  intro id payload same
  exact nomatch same

@[simp] theorem fsmNewState_state (T : FsmType Layer) (new : FsmState) (w : FsmWorld Layer) :
    (fsmNewState T new w).fsm.state = new := rfl

namespace Respects

variable {T : FsmType Layer} {tracked : Prop} {mayOpen : FsmWorld Layer → Prop}
  {R : FsmWorld Layer → FsmWorld Layer → Prop}

theorem withinTrans (h : Respects T tracked mayOpen R) {first second third : FsmWorld Layer}
    (left : Within tracked R first second) (right : Within tracked R second third) :
    Within tracked R first third :=
  ⟨h.trans left.related right.related, fun track => (right.state track).trans (left.state track)⟩

theorem tell (h : Respects T tracked mayOpen R) (told : LayerCall) (w : FsmWorld Layer) :
    Within tracked R w (w.emit (.call told)) :=
  ⟨h.emit _ w (quiet_call told), fun _ => rfl⟩

theorem send (h : Respects T tracked mayOpen R) {code : FsmCode} (other : code ≠ .configAck) (id : UInt8)
    (payload : Bytes) (w : FsmWorld Layer) : Within tracked R w (fsmOutput code id payload w) :=
  ⟨h.emit _ w (quiet_output other id payload), fun _ => rfl⟩

theorem count (h : Respects T tracked mayOpen R) (w : FsmWorld Layer) (fsm : Fsm)
    (state : fsm.state = w.fsm.state) : Within tracked R w { w with fsm } :=
  ⟨h.counters w fsm state, fun _ => state⟩

theorem fsmLayerUp (h : Respects T tracked mayOpen R) (w : FsmWorld Layer) : R w (fsmLayerUp T w) :=
  h.trans (h.tell .up w).related (h.layerUp _)

theorem fsmLayerDown (h : Respects T tracked mayOpen R) (w : FsmWorld Layer) :
    Within tracked R w (fsmLayerDown T w) :=
  h.withinTrans (h.tell .down w) (h.layerDown _)

theorem fsmLayerStart (h : Respects T tracked mayOpen R) (w : FsmWorld Layer) :
    Within tracked R w (fsmLayerStart T w) :=
  h.withinTrans (h.tell .start w) (h.layerStart _)

theorem fsmLayerFinish (h : Respects T tracked mayOpen R) (w : FsmWorld Layer) :
    Within tracked R w (fsmLayerFinish T w) :=
  h.withinTrans (h.tell .finish w) (h.layerFinish _)

theorem fsmLayerFinishActive (h : Respects T tracked mayOpen R) (w : FsmWorld Layer) :
    Within tracked R w (fsmLayerFinishActive T w) := by
  unfold Mpd.fsmLayerFinishActive
  split_ifs
  · exact ⟨h.refl w, fun _ => rfl⟩
  · exact h.fsmLayerFinish w

theorem fsmConfigure (h : Respects T tracked mayOpen R) (w : FsmWorld Layer) :
    Within tracked R w (fsmConfigure T w) :=
  h.withinTrans (h.tell .configure w) (h.configure _)

theorem fsmUnConfigure (h : Respects T tracked mayOpen R) (w : FsmWorld Layer) :
    Within tracked R w (fsmUnConfigure T w) :=
  h.withinTrans (h.tell .unConfigure w) (h.unConfigure _)

theorem fsmInitRestartCounter (h : Respects T tracked mayOpen R) (value : Int) (w : FsmWorld Layer) :
    Within tracked R w (fsmInitRestartCounter value w) :=
  h.count w _ rfl

theorem fsmInitCounters (h : Respects T tracked mayOpen R) (w : FsmWorld Layer) :
    Within tracked R w (fsmInitCounters w) :=
  h.count w _ rfl

theorem timerStart (h : Respects T tracked mayOpen R) (w : FsmWorld Layer) :
    Within tracked R w w.timerStart :=
  h.count w _ rfl

theorem timerStop (h : Respects T tracked mayOpen R) (w : FsmWorld Layer) :
    Within tracked R w w.timerStop :=
  h.count w _ rfl

theorem fsmDecodeBuffer (h : Respects T tracked mayOpen R) (buf : Bytes) {mode : FsmMode} (other : mode ≠ .req)
    (w : FsmWorld Layer) : Within tracked R w (fsmDecodeBuffer T buf mode w) := by
  simp only [Mpd.fsmDecodeBuffer, other, if_false]
  exact h.decodeConfig _ mode w other

theorem fsmSendConfigReq (h : Respects T tracked mayOpen R) (w : FsmWorld Layer) :
    Within tracked R w (fsmSendConfigReq T w) := by
  have built := h.buildConfigReq w
  have decoded := h.withinTrans built
    (h.fsmDecodeBuffer (T.buildConfigReq w).1 (by simp : FsmMode.nop ≠ .req) _)
  let pending := Mpd.fsmDecodeBuffer T (T.buildConfigReq w).1 .nop (T.buildConfigReq w).2
  have numbered : Within tracked R w { pending with fsm := { pending.fsm with
      reqid := pending.fsm.reqid + 1 } } := h.withinTrans decoded (h.count _ _ rfl)
  have sent := h.withinTrans numbered
    (h.send (by simp : FsmCode.configReq ≠ .configAck) pending.fsm.reqid (T.buildConfigReq w).1 _)
  exact h.withinTrans sent (h.count _ _ rfl)

theorem fsmSendTerminateReq (h : Respects T tracked mayOpen R) (w : FsmWorld Layer) :
    Within tracked R w (fsmSendTerminateReq T w) := by
  have numbered : Within tracked R w { w with fsm := { w.fsm with reqid := w.fsm.reqid + 1 } } :=
    h.count w _ rfl
  have sent := h.withinTrans numbered
    (h.send (by simp : FsmCode.termReq ≠ .configAck) w.fsm.reqid [] _)
  have told := h.withinTrans sent (h.sendTerminateReq _)
  exact h.withinTrans told (h.count _ _ rfl)

theorem fsmSendTerminateAck (h : Respects T tracked mayOpen R) (w : FsmWorld Layer) :
    Within tracked R w (fsmSendTerminateAck T w) := by
  have numbered : Within tracked R w { w with fsm := { w.fsm with reqid := w.fsm.reqid + 1 } } :=
    h.count w _ rfl
  have sent := h.withinTrans numbered
    (h.send (by simp : FsmCode.termAck ≠ .configAck) w.fsm.reqid [] _)
  exact h.withinTrans sent (h.sendTerminateAck _)

theorem fsmSendConfigRej (h : Respects T tracked mayOpen R) (id : UInt8) (options : Bytes)
    (w : FsmWorld Layer) : Within tracked R w (fsmSendConfigRej T id options w) := by
  have decoded := h.fsmDecodeBuffer options (by simp : FsmMode.nop ≠ .req) w
  have sent := h.withinTrans decoded
    (h.send (by simp : FsmCode.configRej ≠ .configAck) id options _)
  exact h.withinTrans sent (h.count _ _ rfl)

theorem fsmSendConfigNak (h : Respects T tracked mayOpen R) (id : UInt8) (options : Bytes)
    (w : FsmWorld Layer) : Within tracked R w (fsmSendConfigNak T id options w) := by
  have decoded := h.fsmDecodeBuffer options (by simp : FsmMode.nop ≠ .req) w
  have sent := h.withinTrans decoded
    (h.send (by simp : FsmCode.configNak ≠ .configAck) id options _)
  exact h.withinTrans sent (h.count _ _ rfl)

/-- A state change after calls that left the state alone. -/
theorem enter (h : Respects T tracked mayOpen R) {before middle : FsmWorld Layer}
    (new : FsmState) (other : new ≠ .opened) (reached : Within tracked R before middle)
    (may : tracked → before.fsm.state.mayEnter new = true) :
    R before (fsmNewState T new middle) := by
  refine h.trans reached.related (h.newState new middle other fun track => ?_)
  rw [reached.state track]
  exact may track

/-- The Terminate-Request that goes out right after a state change. -/
theorem terminate (h : Respects T tracked mayOpen R) (new : FsmState) (other : new ≠ .opened)
    {w : FsmWorld Layer} (may : tracked → w.fsm.state.mayEnter new = true) :
    R w (Mpd.fsmSendTerminateReq T (Mpd.fsmInitRestartCounter
      (fsmNewState T new w).fsm.conf.maxterminate (fsmNewState T new w))) := by
  have entered := h.newState new w other may
  have reset := h.trans entered (h.fsmInitRestartCounter
    (fsmNewState T new w).fsm.conf.maxterminate _).related
  exact h.trans reset (h.fsmSendTerminateReq _).related

theorem fsmShutDown (h : Respects T tracked mayOpen R) (w : FsmWorld Layer) : R w (fsmShutDown T w) := by
  have fromNegotiation (may : tracked → w.fsm.state.mayEnter .stopped = true) :
      R w (Mpd.fsmUnConfigure T (Mpd.fsmLayerFinishActive T (fsmNewState T .stopped w))) := by
    have stopped := h.newState .stopped w (by simp) may
    have finished := h.trans stopped (h.fsmLayerFinishActive _).related
    exact h.trans finished (h.fsmUnConfigure _).related
  unfold Mpd.fsmShutDown
  split <;> rename_i state
  · exact h.trans (h.newState .closed w (by simp) (by simp [state, FsmState.mayEnter]))
      (h.fsmLayerFinish _).related
  · exact (h.fsmLayerFinish w).related
  · exact h.trans (h.newState .stopped w (by simp) (by simp [state, FsmState.mayEnter]))
      (h.fsmLayerFinish _).related
  · exact fromNegotiation (by simp [state, FsmState.mayEnter])
  · exact fromNegotiation (by simp [state, FsmState.mayEnter])
  · exact fromNegotiation (by simp [state, FsmState.mayEnter])
  · have stopping := h.terminate .stopping (by simp) (w := w) (by simp [state, FsmState.mayEnter])
    have down := h.trans stopping (h.fsmLayerDown _).related
    exact h.trans down (h.fsmUnConfigure _).related
  · exact (h.fsmLayerFinishActive w).related
  · exact h.refl w

theorem fsmFailure (h : Respects T tracked mayOpen R) (reason : FsmFail) (w : FsmWorld Layer) :
    R w (fsmFailure T reason w) :=
  h.trans (h.failure reason w).related (h.fsmShutDown _)

theorem fsmRenegotiate (h : Respects T tracked mayOpen R) (w : FsmWorld Layer) :
    Within tracked R w (fsmRenegotiate T w) := by
  unfold Mpd.fsmRenegotiate
  split
  · exact h.withinTrans (h.fsmLayerDown w) (h.fsmSendConfigReq _)
  · exact h.withinTrans (h.withinTrans (h.fsmLayerStart w) (h.fsmInitCounters _))
      (h.fsmSendConfigReq _)
  · exact ⟨h.refl w, fun _ => rfl⟩

theorem fsmAnswered (h : Respects T tracked mayOpen R) (fullyAcked : Bool) (w : FsmWorld Layer)
    (opens : fullyAcked = true → w.fsm.state = .ackRcvd → mayOpen w) :
    R w (fsmAnswered T fullyAcked w) := by
  have answer (may : ∀ new, new = .ackSent ∨ new = .reqSent → w.fsm.state.mayEnter new = true) :
      R w (fsmNewState T (if fullyAcked then .ackSent else .reqSent) w) := by
    cases fullyAcked with
    | false => exact h.newState .reqSent w (by simp) fun _ => may _ (.inr rfl)
    | true => exact h.newState .ackSent w (by simp) fun _ => may _ (.inl rfl)
  unfold Mpd.fsmAnswered
  split <;> rename_i state
  · exact answer (by simp [state, FsmState.mayEnter])
  · exact answer (by simp [state, FsmState.mayEnter])
  · split_ifs
    · exact h.newState .ackSent w (by simp) (by simp [state, FsmState.mayEnter])
    · exact h.refl w
  · split_ifs with verdict
    · have entered := h.opened w (opens verdict state) (by simp [state, FsmState.mayEnter])
      exact h.trans entered (h.fsmLayerUp _)
    · exact h.refl w
  · split_ifs
    · exact h.refl w
    · exact h.newState .reqSent w (by simp) (by simp [state, FsmState.mayEnter])
  · exact h.refl w

/-- A Nak or a Reject of a request, and the change of state after it. -/
theorem answerRefused (h : Respects T tracked mayOpen R) (id : UInt8) {w : FsmWorld Layer}
    (refused : w.fullyAcked = false) : R w (fsmAnswerConfigReq T id w) := by
  simp only [fsmAnswerConfigReq, refused, Bool.false_eq_true, if_false]
  split_ifs
  · exact h.fsmFailure _ w
  · exact h.trans (h.fsmSendConfigRej id w.rej w).related
      (h.fsmAnswered false _ nofun)
  · exact h.trans (h.fsmSendConfigNak id w.nak w).related
      (h.fsmAnswered false _ nofun)

theorem fsmSendInformation (h : Respects T tracked mayOpen R) {code : FsmCode}
    (other : code ≠ .configAck) (data : Bytes) (w : FsmWorld Layer) :
    R w (fsmSendInformation T code data w) := by
  have numbered := h.count w { w.fsm with echoid := w.fsm.echoid + 1 } rfl
  exact (h.withinTrans numbered (h.send other w.fsm.echoid _ _)).related

end Respects

namespace RespectsAll

variable {T : FsmType Layer} {tracked : Prop} {mayOpen : FsmWorld Layer → Prop}
  {R : FsmWorld Layer → FsmWorld Layer → Prop}

theorem fsmDecodeBuffer (h : RespectsAll T tracked mayOpen R) (buf : Bytes) (mode : FsmMode)
    (w : FsmWorld Layer) : Within tracked R w (fsmDecodeBuffer T buf mode w) := by
  by_cases request : mode = .req
  · subst request
    have emptied : Within tracked R w { w with ack := [], nak := [], rej := [] } :=
      ⟨h.buffers w [] [] [], fun _ => rfl⟩
    exact h.withinTrans emptied (h.decodeRequest _ _)
  · exact h.toRespects.fsmDecodeBuffer buf request w

theorem fsmSendConfigAck (h : RespectsAll T tracked mayOpen R) (id : UInt8) (options : Bytes)
    (w : FsmWorld Layer) : Within tracked R w (fsmSendConfigAck T id options w) :=
  h.withinTrans (h.fsmDecodeBuffer options .nop w) ⟨h.acknowledge id options _, fun _ => rfl⟩

theorem fsmOpen (h : RespectsAll T tracked mayOpen R) (w : FsmWorld Layer) : R w (fsmOpen T w) := by
  unfold Mpd.fsmOpen
  split <;> rename_i state
  · exact h.trans (h.newState .starting w (by simp) (by simp [state, FsmState.mayEnter]))
      (h.fsmLayerStart _).related
  · have entered := h.enter .reqSent (by simp) (h.fsmConfigure w) (by simp [state, FsmState.mayEnter])
    have started := h.trans entered (h.fsmLayerStart _).related
    have counted := h.trans started (h.fsmInitCounters _).related
    exact h.trans counted (h.fsmSendConfigReq _).related
  · exact h.newState .stopping w (by simp) (by simp [state, FsmState.mayEnter])
  · exact h.refl w

theorem fsmUp (h : RespectsAll T tracked mayOpen R) (w : FsmWorld Layer) : R w (fsmUp T w) := by
  unfold Mpd.fsmUp
  split <;> rename_i state
  · exact h.newState .closed w (by simp) (by simp [state, FsmState.mayEnter])
  · have entered := h.enter .reqSent (by simp) (h.fsmConfigure w) (by simp [state, FsmState.mayEnter])
    have counted := h.trans entered (h.fsmInitCounters _).related
    exact h.trans counted (h.fsmSendConfigReq _).related
  · exact h.refl w

theorem fsmDown (h : RespectsAll T tracked mayOpen R) (w : FsmWorld Layer) : R w (fsmDown T w) := by
  have fromNegotiation (may : tracked → w.fsm.state.mayEnter .starting = true) :
      R w (Mpd.fsmUnConfigure T (fsmNewState T .starting w)) :=
    h.trans (h.newState .starting w (by simp) may) (h.fsmUnConfigure _).related
  unfold Mpd.fsmDown
  split <;> rename_i state
  · exact h.enter .initial (by simp) (h.fsmLayerFinish w) (by simp [state, FsmState.mayEnter])
  · exact h.newState .initial w (by simp) (by simp [state, FsmState.mayEnter])
  · exact h.trans (h.newState .starting w (by simp) (by simp [state, FsmState.mayEnter]))
      (h.fsmLayerStart _).related
  · exact fromNegotiation (by simp [state, FsmState.mayEnter])
  · exact fromNegotiation (by simp [state, FsmState.mayEnter])
  · exact fromNegotiation (by simp [state, FsmState.mayEnter])
  · exact fromNegotiation (by simp [state, FsmState.mayEnter])
  · have left := h.newState .starting w (by simp) (by simp [state, FsmState.mayEnter])
    have down := h.trans left (h.fsmLayerDown _).related
    exact h.trans down (h.fsmUnConfigure _).related
  · exact h.refl w

theorem fsmClose (h : RespectsAll T tracked mayOpen R) (w : FsmWorld Layer) : R w (fsmClose T w) := by
  have fromNegotiation (may : tracked → w.fsm.state.mayEnter .closing = true) :
      R w (Mpd.fsmUnConfigure T (Mpd.fsmSendTerminateReq T (Mpd.fsmInitRestartCounter
        (fsmNewState T .closing w).fsm.conf.maxterminate (fsmNewState T .closing w)))) :=
    h.trans (h.terminate .closing (by simp) may) (h.fsmUnConfigure _).related
  unfold Mpd.fsmClose
  split <;> rename_i state
  · exact h.trans (h.newState .initial w (by simp) (by simp [state, FsmState.mayEnter]))
      (h.fsmLayerFinish _).related
  · exact h.newState .closed w (by simp) (by simp [state, FsmState.mayEnter])
  · exact h.newState .closing w (by simp) (by simp [state, FsmState.mayEnter])
  · have closing := h.terminate .closing (by simp) (w := w) (by simp [state, FsmState.mayEnter])
    have down := h.trans closing (h.fsmLayerDown _).related
    exact h.trans down (h.fsmUnConfigure _).related
  · exact fromNegotiation (by simp [state, FsmState.mayEnter])
  · exact fromNegotiation (by simp [state, FsmState.mayEnter])
  · exact fromNegotiation (by simp [state, FsmState.mayEnter])
  · exact h.refl w

theorem fsmTimeout (h : RespectsAll T tracked mayOpen R) (w : FsmWorld Layer) : R w (fsmTimeout T w) := by
  unfold Mpd.fsmTimeout
  split_ifs
  · split <;> rename_i state
    · exact (h.fsmSendTerminateReq w).related
    · exact (h.fsmSendTerminateReq w).related
    · exact (h.fsmSendConfigReq w).related
    · exact (h.fsmSendConfigReq w).related
    · exact h.trans (h.newState .reqSent w (by simp) (by simp [state, FsmState.mayEnter]))
        (h.fsmSendConfigReq _).related
    · exact h.refl w
  · split <;> rename_i state
    · exact h.trans (h.newState .closed w (by simp) (by simp [state, FsmState.mayEnter]))
        (h.fsmLayerFinish _).related
    · exact h.trans (h.newState .stopped w (by simp) (by simp [state, FsmState.mayEnter]))
        (h.fsmLayerFinish _).related
    · exact h.fsmFailure _ w
    · exact h.fsmFailure _ w
    · exact h.fsmFailure _ w
    · exact h.refl w

theorem fsmAnswerConfigReq (h : RespectsAll T tracked mayOpen R) (id : UInt8)
    (w : FsmWorld Layer)
    (opens : w.fullyAcked = true → (Mpd.fsmSendConfigAck T id w.ack w).fsm.state = .ackRcvd →
      mayOpen (Mpd.fsmSendConfigAck T id w.ack w)) :
    R w (fsmAnswerConfigReq T id w) := by
  cases verdict : w.fullyAcked with
  | false => exact h.answerRefused id verdict
  | true =>
      have sent := h.fsmSendConfigAck id w.ack w
      simp only [Mpd.fsmAnswerConfigReq, verdict, if_true]
      exact h.trans sent.related (h.fsmAnswered true _ fun _ => opens verdict)

theorem fsmRecvConfigReq (h : RespectsAll T tracked mayOpen R) (id : UInt8) (bp : Bytes)
    (w : FsmWorld Layer)
    (opens : ∀ middle, actionOpens T .configReq id bp w middle → mayOpen middle) :
    R w (fsmRecvConfigReq T id bp w) := by
  cases answers : w.fsm.state.answersConfigReq with
  | true =>
      have started : R w (configReqStart T w) := by
        unfold configReqStart
        split_ifs
        · exact (h.fsmConfigure w).related
        · exact h.refl w
      have decoded := h.trans started (h.fsmDecodeBuffer bp .req _).related
      have settled := h.trans decoded (h.fsmRenegotiate _).related
      rw [fsmRecvConfigReq_of_answers answers]
      exact h.trans settled (h.fsmAnswerConfigReq id _ fun acked state =>
        opens _ ⟨acked, rfl, state⟩)
  | false =>
      unfold Mpd.fsmRecvConfigReq
      cases state : w.fsm.state with
      | initial => exact h.refl w
      | starting => exact h.refl w
      | closed => exact (h.fsmSendTerminateAck w).related
      | closing => exact h.refl w
      | stopping => exact h.refl w
      | _ => simp [state, FsmState.answersConfigReq] at answers

theorem fsmRecvConfigAck (h : RespectsAll T tracked mayOpen R) (id : UInt8) (bp : Bytes)
    (w : FsmWorld Layer)
    (opens : ∀ middle, actionOpens T .configAck id bp w middle → mayOpen middle) :
    R w (fsmRecvConfigAck T id bp w) := by
  unfold Mpd.fsmRecvConfigAck
  split_ifs with numbered
  · exact h.refl w
  · have decoded := h.fsmDecodeBuffer bp .nop w
    refine h.trans decoded.related ?_
    have may := fun state => opens _ ⟨not_not.mp numbered, rfl, state⟩
    dsimp only
    generalize Mpd.fsmDecodeBuffer T bp .nop w = w' at may
    split <;> rename_i state
    · exact (h.fsmSendTerminateAck w').related
    · exact (h.fsmSendTerminateAck w').related
    · have entered := h.newState .ackRcvd w' (by simp) (by simp [state, FsmState.mayEnter])
      have counted := h.trans entered (h.fsmInitCounters _).related
      exact h.trans counted (h.timerStart _).related
    · exact h.trans (h.newState .reqSent w' (by simp) (by simp [state, FsmState.mayEnter]))
        (h.fsmSendConfigReq _).related
    · have entered := h.opened w' (may state) (by simp [state, FsmState.mayEnter])
      have counted := h.trans entered (h.fsmInitCounters _).related
      exact h.trans counted (h.fsmLayerUp _)
    · have entered := h.newState .reqSent w' (by simp) (by simp [state, FsmState.mayEnter])
      have down := h.trans entered (h.fsmLayerDown _).related
      exact h.trans down (h.fsmSendConfigReq _).related
    · exact h.refl w'

/-- What a Nak and a Reject have in common in the states that await an answer. -/
theorem retry (h : RespectsAll T tracked mayOpen R) (w : FsmWorld Layer) :
    R w (Mpd.fsmSendConfigReq T (Mpd.fsmInitRestartCounter w.fsm.conf.maxconfig w)) :=
  h.trans (h.fsmInitRestartCounter _ w).related (h.fsmSendConfigReq _).related

theorem fsmProcessConfigNak (h : RespectsAll T tracked mayOpen R) (bp : Bytes) (w : FsmWorld Layer) :
    R w (fsmProcessConfigNak T bp w) := by
  have decoded := (h.fsmDecodeBuffer bp .nak w).related
  refine h.trans decoded ?_
  unfold Mpd.fsmProcessConfigNak
  generalize Mpd.fsmDecodeBuffer T bp .nak w = w'
  dsimp only
  split_ifs
  · exact h.fsmFailure _ w'
  · split <;> rename_i state
    · exact h.retry w'
    · exact h.retry w'
    · have entered := h.enter .reqSent (by simp) (h.fsmLayerDown w') (by simp [state, FsmState.mayEnter])
      exact h.trans entered (h.fsmSendConfigReq _).related
    · exact h.trans (h.newState .reqSent w' (by simp) (by simp [state, FsmState.mayEnter]))
        (h.fsmSendConfigReq _).related
    · exact h.refl w'

theorem fsmProcessConfigRej (h : RespectsAll T tracked mayOpen R) (bp : Bytes) (w : FsmWorld Layer) :
    R w (fsmProcessConfigRej T bp w) := by
  have decoded := (h.fsmDecodeBuffer bp .rej w).related
  refine h.trans decoded ?_
  unfold Mpd.fsmProcessConfigRej
  generalize Mpd.fsmDecodeBuffer T bp .rej w = w'
  dsimp only
  split_ifs
  · exact h.fsmFailure _ w'
  · split <;> rename_i state
    · exact h.retry w'
    · exact h.retry w'
    · have entered := h.newState .reqSent w' (by simp) (by simp [state, FsmState.mayEnter])
      have down := h.trans entered (h.fsmLayerDown _).related
      exact h.trans down (h.fsmSendConfigReq _).related
    · exact h.trans (h.newState .reqSent w' (by simp) (by simp [state, FsmState.mayEnter]))
        (h.fsmSendConfigReq _).related
    · exact h.refl w'

theorem fsmRecvConfigNak (h : RespectsAll T tracked mayOpen R) (id : UInt8) (bp : Bytes)
    (w : FsmWorld Layer) : R w (fsmRecvConfigNak T id bp w) := by
  unfold Mpd.fsmRecvConfigNak
  split_ifs
  · exact h.refl w
  · split
    · exact h.refl w
    · exact h.refl w
    · exact (h.fsmSendTerminateAck w).related
    · exact (h.fsmSendTerminateAck w).related
    · exact h.refl w
    · exact h.refl w
    · exact h.fsmProcessConfigNak bp w

theorem fsmRecvConfigRej (h : RespectsAll T tracked mayOpen R) (id : UInt8) (bp : Bytes)
    (w : FsmWorld Layer) : R w (fsmRecvConfigRej T id bp w) := by
  unfold Mpd.fsmRecvConfigRej
  split_ifs
  · exact h.refl w
  · split
    · exact h.refl w
    · exact h.refl w
    · exact (h.fsmSendTerminateAck w).related
    · exact (h.fsmSendTerminateAck w).related
    · exact h.refl w
    · exact h.refl w
    · exact h.fsmProcessConfigRej bp w

theorem fsmRecvTermReq (h : RespectsAll T tracked mayOpen R) (w : FsmWorld Layer) :
    R w (fsmRecvTermReq T w) := by
  have acknowledged := (h.fsmSendTerminateAck w).related
  have regressed (may : tracked → w.fsm.state.mayEnter .reqSent = true) :
      R w (Mpd.fsmSendTerminateAck T (fsmNewState T .reqSent w)) :=
    h.trans (h.newState .reqSent w (by simp) may) (h.fsmSendTerminateAck _).related
  unfold Mpd.fsmRecvTermReq
  split <;> rename_i state
  · exact h.refl w
  · exact h.refl w
  · exact acknowledged
  · exact acknowledged
  · exact acknowledged
  · exact acknowledged
  · exact acknowledged
  · exact regressed (by simp [state, FsmState.mayEnter])
  · exact regressed (by simp [state, FsmState.mayEnter])
  · have stopping := h.newState .stopping w (by simp) (by simp [state, FsmState.mayEnter])
    have sent := h.trans stopping (h.fsmSendTerminateAck _).related
    have down := h.trans sent (h.fsmLayerDown _).related
    have zeroed := h.trans down (h.fsmInitRestartCounter 0 _).related
    have timed := h.trans zeroed (h.timerStart _).related
    exact h.trans timed (h.fsmUnConfigure _).related

theorem fsmRecvTermAck (h : RespectsAll T tracked mayOpen R) (w : FsmWorld Layer) :
    R w (fsmRecvTermAck T w) := by
  unfold Mpd.fsmRecvTermAck
  split <;> rename_i state
  · exact h.trans (h.newState .closed w (by simp) (by simp [state, FsmState.mayEnter]))
      (h.fsmLayerFinish _).related
  · exact h.trans (h.newState .stopped w (by simp) (by simp [state, FsmState.mayEnter]))
      (h.fsmLayerFinish _).related
  · exact h.newState .reqSent w (by simp) (by simp [state, FsmState.mayEnter])
  · have entered := h.newState .reqSent w (by simp) (by simp [state, FsmState.mayEnter])
    have down := h.trans entered (h.fsmLayerDown _).related
    exact h.trans down (h.fsmSendConfigReq _).related
  · exact h.refl w

theorem fsmRecvRxjPlus (h : RespectsAll T tracked mayOpen R) (w : FsmWorld Layer) :
    R w (fsmRecvRxjPlus T w) := by
  unfold Mpd.fsmRecvRxjPlus
  split <;> rename_i state
  · exact h.newState .reqSent w (by simp) (by simp [state, FsmState.mayEnter])
  · exact h.refl w

theorem fsmJudgeCodeRej (h : RespectsAll T tracked mayOpen R) (code : UInt8) (bp : Bytes)
    (w : FsmWorld Layer) : R w (fsmJudgeCodeRej T code bp w).2 := by
  unfold Mpd.fsmJudgeCodeRej
  split
  · exact (h.recvCodeRej _ ‹_› code bp w).related
  · exact h.refl w

theorem fsmRecvCodeRej (h : RespectsAll T tracked mayOpen R) (bp : Bytes) (w : FsmWorld Layer) :
    R w (fsmRecvCodeRej T bp w) := by
  have logged := h.emit _ w (quiet_codeRejected (rejectedCode bp))
  have judged := h.trans logged (h.fsmJudgeCodeRej (rejectedCode bp) bp.tail _)
  simp only [Mpd.fsmRecvCodeRej]
  split_ifs
  · exact h.trans judged (h.fsmFailure _ _)
  · exact h.trans judged (h.fsmRecvRxjPlus _)

theorem fsmJudgeProtoRej (h : RespectsAll T tracked mayOpen R) (proto : UInt16) (bp : Bytes)
    (w : FsmWorld Layer) : R w (fsmJudgeProtoRej T proto bp w).2 := by
  unfold Mpd.fsmJudgeProtoRej
  split
  · exact (h.recvProtoRej _ ‹_› proto bp w).related
  · exact h.refl w

theorem fsmRecvProtoRej (h : RespectsAll T tracked mayOpen R) (bp : Bytes) (w : FsmWorld Layer) :
    R w (fsmRecvProtoRej T bp w) := by
  have judged := h.fsmJudgeProtoRej (be16 (bp.getD 0 0) (bp.getD 1 0)) (bp.drop 2) w
  simp only [Mpd.fsmRecvProtoRej]
  split_ifs
  · exact h.trans judged (h.fsmFailure _ _)
  · exact h.trans judged (h.fsmRecvRxjPlus _)

theorem fsmCheckMagic (h : RespectsAll T tracked mayOpen R) (junk : Nat → UInt8) (bp : Bytes)
    (w : FsmWorld Layer) : R w (fsmCheckMagic T junk bp w) := by
  unfold Mpd.fsmCheckMagic
  split_ifs
  · exact h.fsmFailure _ w
  · exact h.refl w

theorem fsmRecvEchoReq (h : RespectsAll T tracked mayOpen R) (junk : Nat → UInt8) (id : UInt8) (bp : Bytes)
    (w : FsmWorld Layer) : R w (fsmRecvEchoReq T junk id bp w) := by
  have checked := h.fsmCheckMagic junk bp w
  unfold Mpd.fsmRecvEchoReq
  dsimp only
  split_ifs
  · exact checked
  · exact h.trans checked (h.send (by simp) id _ _).related

theorem fsmSendEchoReq (h : RespectsAll T tracked mayOpen R) (payload : Bytes) (w : FsmWorld Layer) :
    R w (fsmSendEchoReq T payload w) := by
  unfold Mpd.fsmSendEchoReq
  split_ifs
  · exact h.refl w
  · have numbered := h.count w { w.fsm with echoid := w.fsm.echoid + 1 } rfl
    exact (h.withinTrans numbered (h.send (by simp) w.fsm.echoid _ _)).related

theorem fsmEchoTimeout (h : RespectsAll T tracked mayOpen R) (bund traffic : Bool) (w : FsmWorld Layer) :
    R w (fsmEchoTimeout T bund traffic w) := by
  unfold Mpd.fsmEchoTimeout
  dsimp only
  split_ifs
  · have quiet := h.count w { w.fsm with
      quietCount := echoQuietCount traffic w, echoTimer := false } rfl
    exact h.trans quiet.related (h.fsmFailure _ _)
  · exact (h.count w { w.fsm with quietCount := echoQuietCount traffic w } rfl).related
  · have quiet := h.count w { w.fsm with quietCount := echoQuietCount traffic w } rfl
    exact h.trans quiet.related (h.fsmSendEchoReq [] _)
  · exact h.refl w

theorem fsmAction (h : RespectsAll T tracked mayOpen R) (junk : Nat → UInt8) (code : FsmCode) (id : UInt8)
    (bp : Bytes) (w : FsmWorld Layer)
    (opens : ∀ middle, actionOpens T code id bp w middle → mayOpen middle) :
    R w (fsmAction T junk code id bp w) := by
  have checked := h.fsmCheckMagic junk bp w
  cases code with
  | vendor => exact h.trans checked (h.recvVendor _ _).related
  | configReq => exact h.fsmRecvConfigReq id bp w opens
  | configAck => exact h.fsmRecvConfigAck id bp w opens
  | configNak => exact h.fsmRecvConfigNak id bp w
  | configRej => exact h.fsmRecvConfigRej id bp w
  | termReq => exact h.fsmRecvTermReq w
  | termAck => exact h.fsmRecvTermAck w
  | codeRej => exact h.fsmRecvCodeRej bp w
  | protoRej => exact h.fsmRecvProtoRej bp w
  | echoReq => exact h.fsmRecvEchoReq junk id bp w
  | echoRep => exact checked
  | discReq => exact h.trans checked (h.recvDiscReq _ _).related
  | ident => exact h.trans checked (h.recvIdent _ _).related
  | timeRem => exact h.trans checked (h.recvTimeRemain _ _).related
  | resetReq => exact (h.recvResetReq id bp w).related
  | resetAck => exact (h.recvResetAck id bp w).related

theorem fsmInput (h : RespectsAll T tracked mayOpen R) (junk : Nat → UInt8) (packet : Bytes)
    (w : FsmWorld Layer)
    (opens : ∀ middle, fsmOpens T w (.input junk packet) middle → mayOpen middle) :
    R w (fsmInput T junk packet w) := by
  unfold Mpd.fsmInput
  split
  · exact h.refl w
  · rename_i code id bp header
    split
    · rename_i row known
      exact h.fsmAction junk row id bp w fun middle reached =>
        opens middle ⟨code, id, bp, row, header, known, reached⟩
    · have numbered := h.count w { w.fsm with rejid := w.fsm.rejid + 1 } rfl
      exact (h.withinTrans numbered (h.send (by simp) w.fsm.rejid _ _)).related

theorem ccpSendResetReq (h : RespectsAll T tracked mayOpen R) (ct : Option Bytes) (w : FsmWorld Layer) :
    R w (ccpSendResetReq ct w) := by
  cases ct with
  | none => exact h.refl w
  | some bp =>
      have numbered := h.count w { w.fsm with reqid := w.fsm.reqid + 1 } rfl
      exact (h.withinTrans numbered (h.send (by simp) w.fsm.reqid bp _)).related

/-- Every step of the FSM respects what its callbacks and its state changes respect. -/
theorem fsmStep (h : RespectsAll T tracked mayOpen R) (w : FsmWorld Layer) (event : FsmEvent)
    (opens : ∀ middle, fsmOpens T w event middle → mayOpen middle) : R w (fsmStep T w event) := by
  cases event with
  | «open» => exact h.fsmOpen w
  | close => exact h.fsmClose w
  | up => exact h.fsmUp w
  | down => exact h.fsmDown w
  | failure reason => exact h.fsmFailure reason w
  | timeout =>
      unfold Mpd.fsmStep
      dsimp only
      split_ifs
      · exact h.trans (h.timerStop w).related (h.fsmTimeout _)
      · exact h.refl w
  | echoTimeout bund traffic =>
      unfold Mpd.fsmStep
      dsimp only
      split_ifs
      · exact h.fsmEchoTimeout bund traffic w
      · exact h.refl w
  | input junk packet => exact h.fsmInput junk packet w opens
  | sendResetReq ct => exact h.ccpSendResetReq ct w
  | sendIdent ident => exact h.fsmSendInformation (by simp) _ w
  | sendTimeRemaining seconds => exact h.fsmSendInformation (by simp) _ w
  | setKeepAlive interval max =>
      exact (h.count w { w.fsm with
        conf := { w.fsm.conf with echo_int := interval, echo_max := max } } rfl).related

end RespectsAll

end Mpd
