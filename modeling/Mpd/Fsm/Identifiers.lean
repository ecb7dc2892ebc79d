import Mpd.Fsm.Runs

/-! The identifiers of Configure-Requests and Terminate-Acks. The callbacks of the
protocol may re-enter the FSM, as long as all they do is to fail it. -/

set_option autoImplicit false

namespace Mpd

open Transition

variable {Layer : Type}

/-- The identifier of the Configure-Request that was sent last. -/
def lastConfigReq (log : List FsmAct) : Option UInt8 :=
  log.foldl (fun last act =>
    match act with
    | .output .configReq id _ => some id
    | _ => last) none

@[simp] theorem lastConfigReq_configReq (log : List FsmAct) (id : UInt8) (payload : Bytes) :
    lastConfigReq (log ++ [.output .configReq id payload]) = some id := by
  simp [lastConfigReq]

theorem lastConfigReq_other {act : FsmAct}
    (other : ∀ id payload, act ≠ .output .configReq id payload) (log : List FsmAct) :
    lastConfigReq (log ++ [act]) = lastConfigReq log := by
  simp only [lastConfigReq, List.foldl_append, List.foldl_cons, List.foldl_nil]

def termAckIds (log : List FsmAct) : List UInt8 :=
  log.filterMap fun
    | .output .termAck id _ => some id
    | _ => none

@[simp] theorem termAckIds_append (first second : List FsmAct) :
    termAckIds (first ++ second) = termAckIds first ++ termAckIds second :=
  List.filterMap_append

/-- No numbered packet was sent, and where the FSM negotiates now it did so before,
with the same request identifier. -/
structure KeepsIdentifiers (before after : FsmWorld Layer) : Prop where
  configReq : lastConfigReq after.log = lastConfigReq before.log
  termAcks : termAckIds after.log = termAckIds before.log
  reqid : after.fsm.state.negotiating = true →
    before.fsm.state.negotiating = true ∧ after.fsm.reqid = before.fsm.reqid

structure KeepsNumber (before after : FsmWorld Layer) : Prop where
  configReq : lastConfigReq after.log = lastConfigReq before.log
  termAcks : termAckIds after.log = termAckIds before.log
  reqid : after.fsm.reqid = before.fsm.reqid

theorem KeepsNumber.refl (w : FsmWorld Layer) : KeepsNumber w w := ⟨rfl, rfl, rfl⟩

theorem KeepsNumber.trans {first second third : FsmWorld Layer} (left : KeepsNumber first second)
    (right : KeepsNumber second third) : KeepsNumber first third :=
  ⟨right.configReq.trans left.configReq, right.termAcks.trans left.termAcks,
    right.reqid.trans left.reqid⟩

structure KeepsState (before after : FsmWorld Layer) : Prop extends KeepsNumber before after where
  state : after.fsm.state = before.fsm.state

theorem KeepsState.identifiers {before after : FsmWorld Layer} (kept : KeepsState before after) :
    KeepsIdentifiers before after :=
  ⟨kept.configReq, kept.termAcks, fun inside => ⟨kept.state ▸ inside, kept.reqid⟩⟩

theorem KeepsState.refl (w : FsmWorld Layer) : KeepsState w w := ⟨.refl w, rfl⟩

theorem KeepsState.trans {first second third : FsmWorld Layer} (left : KeepsState first second)
    (right : KeepsState second third) : KeepsState first third :=
  ⟨left.toKeepsNumber.trans right.toKeepsNumber, right.state.trans left.state⟩

theorem keepsState_of_same {before after : FsmWorld Layer} (fsm : after.fsm = before.fsm)
    (log : after.log = before.log) : KeepsState before after :=
  ⟨⟨by rw [log], by rw [log], by rw [fsm]⟩, by rw [fsm]⟩

theorem keepsIdentifiers_of_same {before after : FsmWorld Layer} (fsm : after.fsm = before.fsm)
    (log : after.log = before.log) : KeepsIdentifiers before after :=
  (keepsState_of_same fsm log).identifiers

theorem KeepsIdentifiers.refl (w : FsmWorld Layer) : KeepsIdentifiers w w :=
  (KeepsState.refl w).identifiers

theorem KeepsIdentifiers.trans {first second third : FsmWorld Layer}
    (left : KeepsIdentifiers first second) (right : KeepsIdentifiers second third) :
    KeepsIdentifiers first third where
  configReq := right.configReq.trans left.configReq
  termAcks := right.termAcks.trans left.termAcks
  reqid inside := by
    obtain ⟨middle, later⟩ := right.reqid inside
    obtain ⟨start, earlier⟩ := left.reqid middle
    exact ⟨start, later.trans earlier⟩

/-- The callbacks send no Configure-Request and no Terminate-Ack, and do not make
the FSM negotiate. Those that run in the middle of a step leave its state alone, except
for `NewState`, which is called in the state that is left and uses no identifier. -/
class NumbersNothing (T : FsmType Layer) : Prop where
  newState : ∀ new w, KeepsNumber w (T.newState w.fsm.state new w)
  layerUp : ∀ w, KeepsIdentifiers w (T.layerUp w)
  layerDown : ∀ w, KeepsIdentifiers w (T.layerDown w)
  layerStart : ∀ w, KeepsIdentifiers w (T.layerStart w)
  layerFinish : ∀ w, KeepsIdentifiers w (T.layerFinish w)
  buildConfigReq : ∀ w, KeepsState w (T.buildConfigReq w).2
  decodeConfig : ∀ options mode w, KeepsState w (T.decodeConfig options mode w)
  configure : ∀ w, KeepsIdentifiers w (T.configure w)
  unConfigure : ∀ w, KeepsIdentifiers w (T.unConfigure w)
  sendTerminateReq : ∀ w, KeepsIdentifiers w (T.sendTerminateReq w)
  sendTerminateAck : ∀ w, KeepsIdentifiers w (T.sendTerminateAck w)
  recvCodeRej : ∀ handler ∈ T.recvCodeRej, ∀ code bp w,
    KeepsIdentifiers w (handler code bp w).2
  recvProtoRej : ∀ handler ∈ T.recvProtoRej, ∀ proto bp w,
    KeepsIdentifiers w (handler proto bp w).2
  failure : ∀ reason w, KeepsIdentifiers w (T.failure reason w)
  recvResetReq : ∀ id bp w, KeepsIdentifiers w (T.recvResetReq id bp w)
  recvResetAck : ∀ id bp w, KeepsIdentifiers w (T.recvResetAck id bp w)
  recvIdent : ∀ bp w, KeepsIdentifiers w (T.recvIdent bp w)
  recvDiscReq : ∀ bp w, KeepsIdentifiers w (T.recvDiscReq bp w)
  recvTimeRemain : ∀ bp w, KeepsIdentifiers w (T.recvTimeRemain bp w)
  recvVendor : ∀ bp w, KeepsIdentifiers w (T.recvVendor bp w)

theorem keepsState_emit {act : FsmAct} (unnumbered : ∀ id payload,
      act ≠ .output .configReq id payload ∧ act ≠ .output .termAck id payload)
    (w : FsmWorld Layer) : KeepsState w (w.emit act) where
  configReq := lastConfigReq_other (fun id payload => (unnumbered id payload).1) w.log
  termAcks := by
    simp only [FsmWorld.emit, termAckIds_append, List.append_right_eq_self]
    cases act with
    | output code id payload =>
        cases code with
        | termAck => exact absurd rfl (unnumbered id payload).2
        | _ => rfl
    | _ => rfl
  state := rfl
  reqid := rfl

theorem keepsState_call (told : LayerCall) (w : FsmWorld Layer) :
    KeepsState w (w.emit (.call told)) :=
  keepsState_emit (by simp) w

theorem keepsState_output {code : FsmCode} (notReq : code ≠ .configReq) (notAck : code ≠ .termAck)
    (id : UInt8) (payload : Bytes) (w : FsmWorld Layer) :
    KeepsState w (fsmOutput code id payload w) :=
  keepsState_emit (by simp [notReq, notAck]) w

def Numbered (w : FsmWorld Layer) : Prop :=
  w.fsm.state.negotiating = true → lastConfigReq w.log = some (w.fsm.reqid - 1)

theorem KeepsIdentifiers.numbered {before after : FsmWorld Layer}
    (kept : KeepsIdentifiers before after) (numbered : Numbered before) : Numbered after := by
  intro inside
  obtain ⟨start, reqid⟩ := kept.reqid inside
  rw [kept.configReq, reqid]
  exact numbered start

theorem numbered_of_not_negotiating {w : FsmWorld Layer}
    (outside : w.fsm.state.negotiating = false) : Numbered w := by
  intro inside
  rw [outside] at inside
  cases inside

/-- Sending a Configure-Request numbers the FSM, whatever it did before. -/
theorem lastConfigReq_fsmSendConfigReq (T : FsmType Layer) (w : FsmWorld Layer) :
    lastConfigReq (fsmSendConfigReq T w).log = some ((fsmSendConfigReq T w).fsm.reqid - 1) := by
  simp [fsmSendConfigReq, fsmOutput, FsmWorld.emit, FsmWorld.timerStart]

theorem numbered_fsmSendConfigReq (T : FsmType Layer) (w : FsmWorld Layer) :
    Numbered (fsmSendConfigReq T w) :=
  fun _ => lastConfigReq_fsmSendConfigReq T w

/-- What an FSM needs to answer a Configure-Request: it is numbered, also in Stopped,
from which the answer may lead into the negotiation. -/
def AnswersNumbered (w : FsmWorld Layer) : Prop :=
  w.fsm.state.negotiating = true ∨ w.fsm.state = .stopped →
    lastConfigReq w.log = some (w.fsm.reqid - 1)

theorem answersNumbered_fsmRenegotiate (T : FsmType Layer) {w : FsmWorld Layer}
    (numbered : Numbered w) : AnswersNumbered (fsmRenegotiate T w) := by
  unfold fsmRenegotiate
  split
  · exact fun _ => lastConfigReq_fsmSendConfigReq T _
  · exact fun _ => lastConfigReq_fsmSendConfigReq T _
  · rename_i notStopped
    rintro (inside | stopped)
    · exact numbered inside
    · exact absurd stopped notStopped

theorem AnswersNumbered.numbered {w : FsmWorld Layer} (answers : AnswersNumbered w) : Numbered w :=
  fun inside => answers (.inl inside)

theorem KeepsState.answersNumbered {before after : FsmWorld Layer}
    (kept : KeepsState before after) (answers : AnswersNumbered before) :
    AnswersNumbered after := by
  intro state
  rw [kept.configReq, kept.reqid]
  rw [kept.state] at state
  exact answers state

theorem keeps_fsmSendEchoReq (T : FsmType Layer) (payload : Bytes) (w : FsmWorld Layer) :
    KeepsIdentifiers w (fsmSendEchoReq T payload w) := by
  unfold fsmSendEchoReq
  split_ifs
  · exact .refl w
  · have sent : KeepsState w (fsmOutput .echoReq w.fsm.echoid
        (putBe32 (T.wantMagic w.layer) ++ payload) w) :=
      keepsState_output (by simp) (by simp) _ _ w
    exact KeepsIdentifiers.trans sent.identifiers ⟨rfl, rfl, fun inside => ⟨inside, rfl⟩⟩

theorem keepsState_fsmSendInformation (T : FsmType Layer) {code : FsmCode}
    (notReq : code ≠ .configReq) (notAck : code ≠ .termAck) (data : Bytes) (w : FsmWorld Layer) :
    KeepsState w (fsmSendInformation T code data w) :=
  have sent := keepsState_output notReq notAck w.fsm.echoid
    (putBe32 (if w.fsm.state ≠ .opened then 0 else T.wantMagic w.layer) ++ data) w
  sent.trans ⟨⟨rfl, rfl, rfl⟩, rfl⟩

section NumbersNothing

variable (T : FsmType Layer) [NumbersNothing T] (w : FsmWorld Layer)

theorem keeps_fsmLayerUp : KeepsIdentifiers w (fsmLayerUp T w) :=
  (keepsState_call .up w).identifiers.trans (NumbersNothing.layerUp _)

theorem keeps_fsmLayerDown : KeepsIdentifiers w (fsmLayerDown T w) :=
  (keepsState_call .down w).identifiers.trans (NumbersNothing.layerDown _)

theorem keeps_fsmLayerStart : KeepsIdentifiers w (fsmLayerStart T w) :=
  (keepsState_call .start w).identifiers.trans (NumbersNothing.layerStart _)

theorem keeps_fsmLayerFinish : KeepsIdentifiers w (fsmLayerFinish T w) :=
  (keepsState_call .finish w).identifiers.trans (NumbersNothing.layerFinish _)

theorem keeps_fsmLayerFinishActive : KeepsIdentifiers w (fsmLayerFinishActive T w) := by
  unfold fsmLayerFinishActive
  split_ifs
  · exact .refl w
  · exact keeps_fsmLayerFinish T w

theorem keeps_fsmConfigure : KeepsIdentifiers w (fsmConfigure T w) :=
  (keepsState_call .configure w).identifiers.trans (NumbersNothing.configure _)

theorem keeps_fsmUnConfigure : KeepsIdentifiers w (fsmUnConfigure T w) :=
  (keepsState_call .unConfigure w).identifiers.trans (NumbersNothing.unConfigure _)

theorem keeps_fsmDecodeBuffer (buf : Bytes) (mode : FsmMode) :
    KeepsState w (fsmDecodeBuffer T buf mode w) := by
  refine KeepsState.trans ?_ (NumbersNothing.decodeConfig _ _ _)
  split_ifs <;> exact ⟨⟨rfl, rfl, rfl⟩, rfl⟩

theorem keeps_fsmNewState {new : FsmState}
    (inside : new.negotiating = true → w.fsm.state.negotiating = true) :
    KeepsIdentifiers w (fsmNewState T new w) := by
  obtain ⟨configReq, termAcks, reqid⟩ := NumbersNothing.newState (T := T) new w
  exact ⟨configReq, termAcks, fun entered => ⟨inside entered, reqid⟩⟩

/-- A state change to a state that does not negotiate. -/
theorem keeps_leave {new : FsmState} (outside : new.negotiating = false) :
    KeepsIdentifiers w (fsmNewState T new w) :=
  keeps_fsmNewState T w (by simp [outside])

/-- A state change in a state that negotiates. -/
theorem keeps_move {old new : FsmState} (state : w.fsm.state = old)
    (inside : old.negotiating = true) : KeepsIdentifiers w (fsmNewState T new w) :=
  keeps_fsmNewState T w (by simp [state, inside])

theorem keeps_fsmSendTerminateReq (outside : w.fsm.state.negotiating = false) :
    KeepsIdentifiers w (fsmSendTerminateReq T w) := by
  have counted : KeepsIdentifiers w { w with fsm := { w.fsm with reqid := w.fsm.reqid + 1 } } := by
    refine ⟨rfl, rfl, fun inside => ?_⟩
    rw [outside] at inside
    cases inside
  have sent := counted.trans
    (keepsState_output (by simp) (by simp) w.fsm.reqid [] _ : KeepsState _
      (fsmOutput .termReq w.fsm.reqid [] _)).identifiers
  have told := sent.trans (NumbersNothing.sendTerminateReq (T := T) _)
  exact ⟨told.configReq, told.termAcks, told.reqid⟩

theorem keeps_fsmInitRestartCounter (value : Int) :
    KeepsIdentifiers w (fsmInitRestartCounter value w) :=
  ⟨rfl, rfl, fun inside => ⟨inside, rfl⟩⟩

theorem keeps_fsmInitCounters : KeepsIdentifiers w (fsmInitCounters w) :=
  ⟨rfl, rfl, fun inside => ⟨inside, rfl⟩⟩

theorem keeps_timerStart : KeepsIdentifiers w w.timerStart :=
  ⟨rfl, rfl, fun inside => ⟨inside, rfl⟩⟩

theorem keeps_timerStop : KeepsIdentifiers w w.timerStop :=
  ⟨rfl, rfl, fun inside => ⟨inside, rfl⟩⟩

/-- A Terminate-Request numbers nothing that is of use in the state entered. -/
theorem keeps_terminate {new : FsmState} (outside : new.negotiating = false) :
    KeepsIdentifiers w (fsmSendTerminateReq T (fsmInitRestartCounter
      (fsmNewState T new w).fsm.conf.maxterminate (fsmNewState T new w))) := by
  have entered := keeps_leave T w outside
  have reset := entered.trans (keeps_fsmInitRestartCounter _
    (fsmNewState T new w).fsm.conf.maxterminate)
  exact reset.trans (keeps_fsmSendTerminateReq T _ outside)

theorem keeps_fsmShutDown : KeepsIdentifiers w (fsmShutDown T w) := by
  unfold fsmShutDown
  split
  · exact (keeps_leave T w rfl).trans (keeps_fsmLayerFinish T _)
  · exact keeps_fsmLayerFinish T w
  · exact (keeps_leave T w rfl).trans (keeps_fsmLayerFinish T _)
  · exact ((keeps_leave T w rfl).trans (keeps_fsmLayerFinishActive T _)).trans
      (keeps_fsmUnConfigure T _)
  · exact ((keeps_leave T w rfl).trans (keeps_fsmLayerFinishActive T _)).trans
      (keeps_fsmUnConfigure T _)
  · exact ((keeps_leave T w rfl).trans (keeps_fsmLayerFinishActive T _)).trans
      (keeps_fsmUnConfigure T _)
  · exact ((keeps_terminate T w rfl).trans (keeps_fsmLayerDown T _)).trans
      (keeps_fsmUnConfigure T _)
  · exact keeps_fsmLayerFinishActive T w
  · exact .refl w

/-- Failing the FSM numbers nothing, so the callbacks may do it. -/
theorem keeps_fsmFailure (reason : FsmFail) : KeepsIdentifiers w (fsmFailure T reason w) :=
  (NumbersNothing.failure reason w).trans (keeps_fsmShutDown T _)

theorem numbered_fsmOpen (numbered : Numbered w) : Numbered (fsmOpen T w) := by
  unfold fsmOpen
  split
  · exact ((keeps_leave T w rfl).trans (keeps_fsmLayerStart T _)).numbered numbered
  · exact numbered_fsmSendConfigReq T _
  · exact (keeps_leave T w rfl).numbered numbered
  · exact numbered

theorem numbered_fsmUp (numbered : Numbered w) : Numbered (fsmUp T w) := by
  unfold fsmUp
  split
  · exact (keeps_leave T w rfl).numbered numbered
  · exact numbered_fsmSendConfigReq T _
  · exact numbered

theorem keeps_fsmDown : KeepsIdentifiers w (fsmDown T w) := by
  unfold fsmDown
  split
  · exact (keeps_fsmLayerFinish T w).trans (keeps_leave T _ rfl)
  · exact keeps_leave T w rfl
  · exact (keeps_leave T w rfl).trans (keeps_fsmLayerStart T _)
  · exact (keeps_leave T w rfl).trans (keeps_fsmUnConfigure T _)
  · exact (keeps_leave T w rfl).trans (keeps_fsmUnConfigure T _)
  · exact (keeps_leave T w rfl).trans (keeps_fsmUnConfigure T _)
  · exact (keeps_leave T w rfl).trans (keeps_fsmUnConfigure T _)
  · exact ((keeps_leave T w rfl).trans (keeps_fsmLayerDown T _)).trans (keeps_fsmUnConfigure T _)
  · exact .refl w

theorem keeps_fsmClose : KeepsIdentifiers w (fsmClose T w) := by
  unfold fsmClose
  split
  · exact (keeps_leave T w rfl).trans (keeps_fsmLayerFinish T _)
  · exact keeps_leave T w rfl
  · exact keeps_leave T w rfl
  · exact ((keeps_terminate T w rfl).trans (keeps_fsmLayerDown T _)).trans
      (keeps_fsmUnConfigure T _)
  · exact (keeps_terminate T w rfl).trans (keeps_fsmUnConfigure T _)
  · exact (keeps_terminate T w rfl).trans (keeps_fsmUnConfigure T _)
  · exact (keeps_terminate T w rfl).trans (keeps_fsmUnConfigure T _)
  · exact .refl w

theorem numbered_fsmTimeout (numbered : Numbered w) : Numbered (fsmTimeout T w) := by
  unfold fsmTimeout
  split_ifs
  · split <;> rename_i state
    · exact (keeps_fsmSendTerminateReq T w (by rw [state]; rfl)).numbered numbered
    · exact (keeps_fsmSendTerminateReq T w (by rw [state]; rfl)).numbered numbered
    · exact numbered_fsmSendConfigReq T _
    · exact numbered_fsmSendConfigReq T _
    · exact numbered_fsmSendConfigReq T _
    · exact numbered
  · split
    · exact ((keeps_leave T w rfl).trans (keeps_fsmLayerFinish T _)).numbered numbered
    · exact ((keeps_leave T w rfl).trans (keeps_fsmLayerFinish T _)).numbered numbered
    · exact (keeps_fsmFailure T w _).numbered numbered
    · exact (keeps_fsmFailure T w _).numbered numbered
    · exact (keeps_fsmFailure T w _).numbered numbered
    · exact numbered

/-- A Terminate-Ack takes the next identifier, and does not make the FSM negotiate. -/
theorem fsmSendTerminateAck_spec :
    termAckIds (fsmSendTerminateAck T w).log = termAckIds w.log ++ [w.fsm.reqid] ∧
      ((fsmSendTerminateAck T w).fsm.state.negotiating = true →
        w.fsm.state.negotiating = true) := by
  have kept := NumbersNothing.sendTerminateAck (T := T) (fsmOutput .termAck w.fsm.reqid []
    { w with fsm := { w.fsm with reqid := w.fsm.reqid + 1 } })
  exact ⟨kept.termAcks.trans (termAckIds_append _ _), fun inside => (kept.reqid inside).1⟩

theorem numbered_fsmSendTerminateAck (outside : w.fsm.state.negotiating = false) :
    Numbered (fsmSendTerminateAck T w) := by
  intro inside
  have still := (fsmSendTerminateAck_spec T w).2 inside
  rw [outside] at still
  cases still

theorem keeps_fsmSendConfigAck (id : UInt8) (options : Bytes) :
    KeepsState w (fsmSendConfigAck T id options w) :=
  (keeps_fsmDecodeBuffer T w options .nop).trans (keepsState_output (by simp) (by simp) _ _ _)

theorem keeps_fsmSendConfigRej (id : UInt8) (options : Bytes) :
    KeepsState w (fsmSendConfigRej T id options w) :=
  have sent : KeepsState w (fsmOutput .configRej id options (fsmDecodeBuffer T options .nop w)) :=
    (keeps_fsmDecodeBuffer T w options .nop).trans (keepsState_output (by simp) (by simp) _ _ _)
  sent.trans ⟨⟨rfl, rfl, rfl⟩, rfl⟩

theorem keeps_fsmSendConfigNak (id : UInt8) (options : Bytes) :
    KeepsState w (fsmSendConfigNak T id options w) :=
  have sent : KeepsState w (fsmOutput .configNak id options (fsmDecodeBuffer T options .nop w)) :=
    (keeps_fsmDecodeBuffer T w options .nop).trans (keepsState_output (by simp) (by simp) _ _ _)
  sent.trans ⟨⟨rfl, rfl, rfl⟩, rfl⟩

/-- The state change at the end of the answer, which may enter the negotiation. -/
theorem numbered_enter (new : FsmState)
    (sent : lastConfigReq w.log = some (w.fsm.reqid - 1)) : Numbered (fsmNewState T new w) := by
  intro _
  obtain ⟨configReq, -, reqid⟩ := NumbersNothing.newState (T := T) new w
  have reqid' : (fsmNewState T new w).fsm.reqid = w.fsm.reqid := reqid
  have configReq' : lastConfigReq (fsmNewState T new w).log = lastConfigReq w.log := configReq
  rw [configReq', reqid', sent]

theorem numbered_fsmAnswered (fullyAcked : Bool) (answers : AnswersNumbered w) :
    Numbered (fsmAnswered T fullyAcked w) := by
  unfold fsmAnswered
  split <;> rename_i state
  · exact numbered_enter T w _ (answers (.inr state))
  · exact numbered_enter T w _ (answers (.inl (by rw [state]; rfl)))
  · split_ifs
    · exact numbered_enter T w _ (answers (.inl (by rw [state]; rfl)))
    · exact answers.numbered
  · split_ifs
    · exact (keeps_fsmLayerUp T _).numbered
        (numbered_enter T w _ (answers (.inl (by rw [state]; rfl))))
    · exact answers.numbered
  · split_ifs
    · exact answers.numbered
    · exact numbered_enter T w _ (answers (.inl (by rw [state]; rfl)))
  · exact answers.numbered

theorem numbered_fsmProcessConfigReq (id : UInt8) (bp : Bytes) (numbered : Numbered w) :
    Numbered (fsmProcessConfigReq T id bp w) := by
  have decoded := (keeps_fsmDecodeBuffer T w bp .req).identifiers.numbered numbered
  have answers := answersNumbered_fsmRenegotiate T decoded
  unfold fsmProcessConfigReq fsmAnswerConfigReq
  split_ifs
  · exact numbered_fsmAnswered T _ true ((keeps_fsmSendConfigAck T _ id _).answersNumbered answers)
  · exact (keeps_fsmFailure T _ _).numbered answers.numbered
  · exact numbered_fsmAnswered T _ false ((keeps_fsmSendConfigRej T _ id _).answersNumbered answers)
  · exact numbered_fsmAnswered T _ false ((keeps_fsmSendConfigNak T _ id _).answersNumbered answers)

theorem numbered_fsmRecvConfigReq (id : UInt8) (bp : Bytes) (numbered : Numbered w) :
    Numbered (fsmRecvConfigReq T id bp w) := by
  unfold fsmRecvConfigReq
  split <;> rename_i state
  · exact numbered
  · exact numbered
  · exact numbered_fsmSendTerminateAck T w (by rw [state]; rfl)
  · exact numbered_fsmProcessConfigReq T _ id bp ((keeps_fsmConfigure T w).numbered numbered)
  · exact numbered
  · exact numbered
  · exact numbered_fsmProcessConfigReq T w id bp numbered

theorem numbered_fsmRecvConfigAck (id : UInt8) (bp : Bytes) (numbered : Numbered w) :
    Numbered (fsmRecvConfigAck T id bp w) := by
  have decoded := (keeps_fsmDecodeBuffer T w bp .nop).identifiers.numbered numbered
  unfold fsmRecvConfigAck
  split_ifs
  · exact numbered
  · dsimp only
    split <;> rename_i state
    · exact numbered_fsmSendTerminateAck T _ (by rw [state]; rfl)
    · exact numbered_fsmSendTerminateAck T _ (by rw [state]; rfl)
    · exact (((keeps_move T _ state rfl).trans (keeps_fsmInitCounters _)).trans
        (keeps_timerStart _)).numbered decoded
    · exact numbered_fsmSendConfigReq T _
    · exact (((keeps_move T _ state rfl).trans (keeps_fsmInitCounters _)).trans
        (keeps_fsmLayerUp T _)).numbered decoded
    · exact numbered_fsmSendConfigReq T _
    · exact decoded

theorem numbered_fsmProcessConfigNak (bp : Bytes) (numbered : Numbered w) :
    Numbered (fsmProcessConfigNak T bp w) := by
  have decoded := (keeps_fsmDecodeBuffer T w bp .nak).identifiers.numbered numbered
  unfold fsmProcessConfigNak
  dsimp only
  split_ifs
  · exact (keeps_fsmFailure T _ _).numbered decoded
  · split
    · exact numbered_fsmSendConfigReq T _
    · exact numbered_fsmSendConfigReq T _
    · exact numbered_fsmSendConfigReq T _
    · exact numbered_fsmSendConfigReq T _
    · exact decoded

theorem numbered_fsmRecvConfigNak (id : UInt8) (bp : Bytes) (numbered : Numbered w) :
    Numbered (fsmRecvConfigNak T id bp w) := by
  unfold fsmRecvConfigNak
  split_ifs
  · exact numbered
  · split <;> rename_i state
    · exact numbered
    · exact numbered
    · exact numbered_fsmSendTerminateAck T w (by rw [state]; rfl)
    · exact numbered_fsmSendTerminateAck T w (by rw [state]; rfl)
    · exact numbered
    · exact numbered
    · exact numbered_fsmProcessConfigNak T w bp numbered

theorem numbered_fsmProcessConfigRej (bp : Bytes) (numbered : Numbered w) :
    Numbered (fsmProcessConfigRej T bp w) := by
  have decoded := (keeps_fsmDecodeBuffer T w bp .rej).identifiers.numbered numbered
  unfold fsmProcessConfigRej
  dsimp only
  split_ifs
  · exact (keeps_fsmFailure T _ _).numbered decoded
  · split
    · exact numbered_fsmSendConfigReq T _
    · exact numbered_fsmSendConfigReq T _
    · exact numbered_fsmSendConfigReq T _
    · exact numbered_fsmSendConfigReq T _
    · exact decoded

theorem numbered_fsmRecvConfigRej (id : UInt8) (bp : Bytes) (numbered : Numbered w) :
    Numbered (fsmRecvConfigRej T id bp w) := by
  unfold fsmRecvConfigRej
  split_ifs
  · exact numbered
  · split <;> rename_i state
    · exact numbered
    · exact numbered
    · exact numbered_fsmSendTerminateAck T w (by rw [state]; rfl)
    · exact numbered_fsmSendTerminateAck T w (by rw [state]; rfl)
    · exact numbered
    · exact numbered
    · exact numbered_fsmProcessConfigRej T w bp numbered

theorem numbered_fsmRecvTermAck (numbered : Numbered w) : Numbered (fsmRecvTermAck T w) := by
  unfold fsmRecvTermAck
  split <;> rename_i state
  · exact ((keeps_leave T w rfl).trans (keeps_fsmLayerFinish T _)).numbered numbered
  · exact ((keeps_leave T w rfl).trans (keeps_fsmLayerFinish T _)).numbered numbered
  · exact (keeps_move T w state rfl).numbered numbered
  · exact numbered_fsmSendConfigReq T _
  · exact numbered

theorem keeps_fsmRecvRxjPlus : KeepsIdentifiers w (fsmRecvRxjPlus T w) := by
  unfold fsmRecvRxjPlus
  split <;> rename_i state
  · exact keeps_move T w state rfl
  · exact .refl w

theorem keeps_rejected (fatal : Bool) (reason : FsmFail) :
    KeepsIdentifiers w (if fatal then fsmFailure T reason w else fsmRecvRxjPlus T w) := by
  split_ifs
  · exact keeps_fsmFailure T w reason
  · exact keeps_fsmRecvRxjPlus T w

theorem keeps_fsmRecvCodeRej (bp : Bytes) : KeepsIdentifiers w (fsmRecvCodeRej T bp w) := by
  have logged : KeepsIdentifiers w (w.emit (.codeRejected (rejectedCode bp))) :=
    (keepsState_emit (by simp) w).identifiers
  refine (logged.trans ?_).trans (keeps_rejected T _ _ _)
  unfold fsmJudgeCodeRej
  split
  · rename_i handler found
    exact NumbersNothing.recvCodeRej handler found _ _ _
  · exact .refl _

theorem keeps_fsmRecvProtoRej (bp : Bytes) : KeepsIdentifiers w (fsmRecvProtoRej T bp w) := by
  refine KeepsIdentifiers.trans ?_ (keeps_rejected T _ _ _)
  unfold fsmJudgeProtoRej
  split
  · rename_i handler _ found
    exact NumbersNothing.recvProtoRej handler found _ _ _
  · exact .refl _

theorem keeps_fsmCheckMagic (junk : Nat → UInt8) (bp : Bytes) :
    KeepsIdentifiers w (fsmCheckMagic T junk bp w) := by
  unfold fsmCheckMagic
  split_ifs
  · exact keeps_fsmFailure T w _
  · exact .refl w

theorem keeps_fsmRecvEchoReq (junk : Nat → UInt8) (id : UInt8) (bp : Bytes) :
    KeepsIdentifiers w (fsmRecvEchoReq T junk id bp w) := by
  refine (keeps_fsmCheckMagic T w junk bp).trans ?_
  unfold fsmRecvEchoReq
  dsimp only
  split_ifs
  · exact .refl _
  · exact (keepsState_output (by simp) (by simp) _ _ _).identifiers

theorem keeps_fsmEchoTimeout (bund traffic : Bool) :
    KeepsIdentifiers w (fsmEchoTimeout T bund traffic w) := by
  unfold fsmEchoTimeout
  dsimp only
  split_ifs
  · have quiet : KeepsIdentifiers w { w with fsm := { w.fsm with
        quietCount := echoQuietCount traffic w, echoTimer := false } } :=
      ⟨rfl, rfl, fun inside => ⟨inside, rfl⟩⟩
    exact quiet.trans (keeps_fsmFailure T _ _)
  · exact ⟨rfl, rfl, fun inside => ⟨inside, rfl⟩⟩
  · have quiet : KeepsIdentifiers w { w with fsm := { w.fsm with
        quietCount := echoQuietCount traffic w } } :=
      ⟨rfl, rfl, fun inside => ⟨inside, rfl⟩⟩
    exact quiet.trans (keeps_fsmSendEchoReq T _ _)
  · exact .refl w

/-- The answer to a Terminate-Request takes the next identifier of the FSM. -/
theorem termAckIds_fsmRecvTermReq :
    termAckIds (fsmRecvTermReq T w).log = termAckIds w.log ++
      if w.fsm.state ∈ [.initial, .starting] then [] else [w.fsm.reqid] := by
  have moved (new : FsmState) :
      termAckIds (fsmSendTerminateAck T (fsmNewState T new w)).log =
        termAckIds w.log ++ [w.fsm.reqid] := by
    obtain ⟨-, termAcks, reqid⟩ := NumbersNothing.newState (T := T) new w
    have reqid' : (fsmNewState T new w).fsm.reqid = w.fsm.reqid := reqid
    rw [(fsmSendTerminateAck_spec T _).1, reqid']
    exact congrArg (· ++ [w.fsm.reqid]) termAcks
  cases state : w.fsm.state with
  | initial | starting => simp [fsmRecvTermReq, state]
  | closed | stopped | closing | stopping | reqSent =>
      simp [fsmRecvTermReq, state, (fsmSendTerminateAck_spec T w).1]
  | ackRcvd | ackSent => simp [fsmRecvTermReq, state, moved]
  | opened =>
      have down := (keeps_fsmLayerDown T (fsmSendTerminateAck T (fsmNewState T .stopping w))).trans
        ((keeps_fsmInitRestartCounter _ 0).trans ((keeps_timerStart _).trans
          (keeps_fsmUnConfigure T _)))
      simpa [fsmRecvTermReq, state, moved] using down.termAcks

theorem numbered_fsmRecvTermReq (apart : w.fsm.state ∉ [.reqSent, .ackRcvd, .ackSent])
    (numbered : Numbered w) : Numbered (fsmRecvTermReq T w) := by
  unfold fsmRecvTermReq
  split <;> rename_i state
  · exact numbered
  · exact numbered
  · exact numbered_fsmSendTerminateAck T w (by rw [state]; rfl)
  · exact numbered_fsmSendTerminateAck T w (by rw [state]; rfl)
  · exact numbered_fsmSendTerminateAck T w (by rw [state]; rfl)
  · exact numbered_fsmSendTerminateAck T w (by rw [state]; rfl)
  · simp [state] at apart
  · simp [state] at apart
  · simp [state] at apart
  · have down := (keeps_fsmLayerDown T (fsmSendTerminateAck T (fsmNewState T .stopping w))).trans
      ((keeps_fsmInitRestartCounter _ 0).trans ((keeps_timerStart _).trans
        (keeps_fsmUnConfigure T _)))
    exact down.numbered (numbered_fsmSendTerminateAck T _ rfl)

/-- A packet of any other code keeps the FSM numbered. -/
theorem numbered_fsmAction (junk : Nat → UInt8) {code : FsmCode} (id : UInt8) (bp : Bytes)
    (apart : code = .termReq → w.fsm.state ∉ [.reqSent, .ackRcvd, .ackSent])
    (numbered : Numbered w) : Numbered (fsmAction T junk code id bp w) := by
  have checked := keeps_fsmCheckMagic T w junk bp
  cases code with
  | vendor => exact (checked.trans (NumbersNothing.recvVendor _ _)).numbered numbered
  | configReq => exact numbered_fsmRecvConfigReq T w id bp numbered
  | configAck => exact numbered_fsmRecvConfigAck T w id bp numbered
  | configNak => exact numbered_fsmRecvConfigNak T w id bp numbered
  | configRej => exact numbered_fsmRecvConfigRej T w id bp numbered
  | termReq => exact numbered_fsmRecvTermReq T w (apart rfl) numbered
  | termAck => exact numbered_fsmRecvTermAck T w numbered
  | codeRej => exact (keeps_fsmRecvCodeRej T w bp).numbered numbered
  | protoRej => exact (keeps_fsmRecvProtoRej T w bp).numbered numbered
  | echoReq => exact (keeps_fsmRecvEchoReq T w junk id bp).numbered numbered
  | echoRep => exact checked.numbered numbered
  | discReq => exact (checked.trans (NumbersNothing.recvDiscReq _ _)).numbered numbered
  | ident => exact (checked.trans (NumbersNothing.recvIdent _ _)).numbered numbered
  | timeRem => exact (checked.trans (NumbersNothing.recvTimeRemain _ _)).numbered numbered
  | resetReq => exact (NumbersNothing.recvResetReq id bp w).numbered numbered
  | resetAck => exact (NumbersNothing.recvResetAck id bp w).numbered numbered

end NumbersNothing

def ReceivesTermReq (T : FsmType Layer) (event : FsmEvent) (id : UInt8) : Prop :=
  ∃ junk packet bp, event = .input junk packet ∧
    readHeader packet = some (FsmCode.termReq.num, id, bp) ∧
    T.knownCode? FsmCode.termReq.num = some .termReq

/-- A Terminate-Request arrives in Initial or Starting, where it is ignored, or else
outside Req-Sent, Ack-Rcvd and Ack-Sent and with the next identifier of the FSM; and
no Reset-Request is sent in a state that negotiates. -/
def RespectsNumbering (T : FsmType Layer) (w : FsmWorld Layer) (event : FsmEvent) : Prop :=
  (∀ id, ReceivesTermReq T event id → w.fsm.state ∈ [.initial, .starting] ∨
    w.fsm.state ∉ [.reqSent, .ackRcvd, .ackSent] ∧ id = w.fsm.reqid) ∧
  ∀ bp, event = .sendResetReq (some bp) →
    w.fsm.state ∉ [.reqSent, .ackRcvd, .ackSent, .opened]

/-- Every Terminate-Ack that answers a Terminate-Request carries its identifier. -/
def AnswersTermReq (T : FsmType Layer) (w : FsmWorld Layer) (event : FsmEvent) : Prop :=
  ∀ id, ReceivesTermReq T event id →
    ∃ acks, termAckIds (fsmStep T w event).log = termAckIds w.log ++ acks ∧
      ∀ ack ∈ acks, ack = id

section NumbersNothing

variable (T : FsmType Layer) [NumbersNothing T] (w : FsmWorld Layer)

theorem numbered_fsmInput (junk : Nat → UInt8) (packet : Bytes)
    (respects : RespectsNumbering T w (.input junk packet)) (numbered : Numbered w) :
    Numbered (fsmInput T junk packet w) := by
  unfold fsmInput
  rcases header : readHeader packet with _ | ⟨code, id, bp⟩
  · exact numbered
  · cases known : T.knownCode? code with
    | none =>
        have counted : KeepsState w { w with fsm := { w.fsm with rejid := w.fsm.rejid + 1 } } :=
          ⟨⟨rfl, rfl, rfl⟩, rfl⟩
        have sent : KeepsState w (fsmSendCodeRej bp w) :=
          counted.trans (keepsState_output (by simp) (by simp) _ _ _)
        simpa only [known] using sent.identifiers.numbered numbered
    | some row =>
        simp only [known]
        refine numbered_fsmAction T w junk id bp ?_ numbered
        rintro rfl
        obtain rfl : code = FsmCode.termReq.num := FsmCode.ofByte?_eq_some (by
          simp only [FsmType.knownCode?, Option.filter_eq_some_iff] at known
          exact known.1)
        rcases respects.1 id ⟨junk, packet, bp, rfl, header, known⟩ with idle | apart
        · intro negotiating
          simp only [List.mem_cons, List.not_mem_nil, or_false] at idle negotiating
          rcases idle with state | state <;> simp [state] at negotiating
        · exact apart.1

theorem numbered_fsmStep (event : FsmEvent) (respects : RespectsNumbering T w event)
    (numbered : Numbered w) : Numbered (fsmStep T w event) := by
  cases event with
  | «open» => exact numbered_fsmOpen T w numbered
  | close => exact (keeps_fsmClose T w).numbered numbered
  | up => exact numbered_fsmUp T w numbered
  | down => exact (keeps_fsmDown T w).numbered numbered
  | failure reason => exact (keeps_fsmFailure T w reason).numbered numbered
  | timeout =>
      simp only [fsmStep]
      split_ifs
      · exact numbered_fsmTimeout T _ ((keeps_timerStop w).numbered numbered)
      · exact numbered
  | echoTimeout bund traffic =>
      simp only [fsmStep]
      split_ifs
      · exact (keeps_fsmEchoTimeout T w bund traffic).numbered numbered
      · exact numbered
  | input junk packet => exact numbered_fsmInput T w junk packet respects numbered
  | sendResetReq ct =>
      cases ct with
      | none => exact numbered
      | some bp =>
          refine numbered_of_not_negotiating ?_
          have outside := respects.2 bp rfl
          rw [← FsmState.negotiating_iff, Bool.not_eq_true] at outside
          exact outside
  | sendIdent ident =>
      have sent : KeepsState w (fsmSendIdent T ident w) :=
        keepsState_fsmSendInformation T (by simp) (by simp) (ident ++ [0]) w
      exact sent.identifiers.numbered numbered
  | sendTimeRemaining seconds =>
      have sent : KeepsState w (fsmSendTimeRemaining T seconds w) :=
        keepsState_fsmSendInformation T (by simp) (by simp) (putBe32 seconds) w
      exact sent.identifiers.numbered numbered
  | setKeepAlive interval max => exact numbered

theorem answersTermReq_of_respects (event : FsmEvent) (respects : RespectsNumbering T w event) :
    AnswersTermReq T w event := by
  rintro id ⟨junk, packet, bp, rfl, header, known⟩
  have acks := termAckIds_fsmRecvTermReq T w
  have handled : fsmStep T w (.input junk packet) = fsmRecvTermReq T w := by
    simp [fsmStep, fsmInput, header, known, fsmAction]
  refine ⟨_, handled ▸ acks, ?_⟩
  intro ack member
  split_ifs at member with idle
  · exact absurd member List.not_mem_nil
  · rcases respects.1 id ⟨junk, packet, bp, rfl, header, known⟩ with ignored | ⟨-, same⟩
    · exact absurd ignored idle
    · rw [List.mem_singleton.mp member, same]

end NumbersNothing

/-- In every run whose events respect the numbering, the Ack, Nak or Reject of the
last Configure-Request passes the identifier check in every state that negotiates,
and every Terminate-Ack carries the identifier of the request that it answers. -/
theorem identifiers_of_respectsNumbering (T : FsmType Layer) [NumbersNothing T] (layer : Layer)
    (events : List FsmEvent)
    (respects : Meets (fsmStep T) (RespectsNumbering T) (FsmWorld.init layer) events) :
    (∀ earlier later, events = earlier ++ later →
      (fsmRun T layer earlier).fsm.state ∈ [.reqSent, .ackRcvd, .ackSent, .opened] →
      lastConfigReq (fsmRun T layer earlier).log =
        some ((fsmRun T layer earlier).fsm.reqid - 1)) ∧
    ∀ earlier event later, events = earlier ++ event :: later →
      AnswersTermReq T (fsmRun T layer earlier) event := by
  constructor
  · rintro earlier later rfl inside
    have numbered : Numbered (fsmRun T layer earlier) :=
      invariant_run (fsmStep T)
        (fun w event numbered respects => numbered_fsmStep T w event respects numbered)
        (numbered_of_not_negotiating rfl) (meets_append _ |>.mp respects).1
    exact numbered (FsmState.negotiating_iff.mpr inside)
  · rintro earlier event later rfl
    exact answersTermReq_of_respects T _ event (meets_append _ |>.mp respects).2.1

theorem keepsState_fsmAck (option : FsmOption) (w : FsmWorld Layer) :
    KeepsState w (fsmAck option w) := by
  unfold fsmAck
  split_ifs <;> exact keepsState_of_same rfl rfl

theorem keepsState_fsmNak (option : FsmOption) (w : FsmWorld Layer) :
    KeepsState w (fsmNak option w) := by
  unfold fsmNak
  split_ifs <;> exact keepsState_of_same rfl rfl

theorem keepsState_fsmRej (option : FsmOption) (w : FsmWorld Layer) :
    KeepsState w (fsmRej option w) := by
  unfold fsmRej
  split_ifs <;> exact keepsState_of_same rfl rfl

/-- A decoder goes through the options one by one. -/
theorem keepsState_foldl {decode : FsmOption → FsmWorld Layer → FsmWorld Layer}
    (kept : ∀ option w, KeepsState w (decode option w)) (options : List FsmOption)
    (w : FsmWorld Layer) : KeepsState w (options.foldl (flip decode) w) := by
  induction options generalizing w with
  | nil => exact .refl w
  | cons option options ih => exact (kept option w).trans (ih (decode option w))

instance : NumbersNothing FsmType.bare where
  newState _ w := .refl w
  layerUp w := .refl w
  layerDown w := .refl w
  layerStart w := .refl w
  layerFinish w := .refl w
  buildConfigReq w := .refl w
  decodeConfig options mode w := by
    simp only [FsmType.bare]
    split_ifs
    · exact keepsState_foldl keepsState_fsmRej options w
    · exact .refl w
  configure w := .refl w
  unConfigure w := .refl w
  sendTerminateReq w := .refl w
  sendTerminateAck w := .refl w
  recvCodeRej _ found := nomatch found
  recvProtoRej _ found := nomatch found
  failure _ w := .refl w
  recvResetReq _ _ w := .refl w
  recvResetAck _ _ w := .refl w
  recvIdent _ w := .refl w
  recvDiscReq _ w := .refl w
  recvTimeRemain _ w := .refl w
  recvVendor _ w := .refl w

/-- A Terminate-Request with identifier 9 in Req-Sent is answered with identifier 2,
and the peer's answer to the Configure-Request 1 fails the identifier check then. -/
theorem not_identifiers_termReq :
    (¬ ∀ events : List FsmEvent,
      (fsmRun .bare () events).fsm.state ∈ [.reqSent, .ackRcvd, .ackSent, .opened] →
      lastConfigReq (fsmRun .bare () events).log =
        some ((fsmRun .bare () events).fsm.reqid - 1)) ∧
    ¬ AnswersTermReq .bare (fsmRun .bare () [.open, .up]) (.receive .termReq 9 []) := by
  constructor
  · intro numbered
    have wrong := numbered [.open, .up, .receive .termReq 9 []] (by decide)
    revert wrong
    decide
  · intro answers
    obtain ⟨acks, grown, carried⟩ := answers 9 ⟨_, _, [], rfl, by decide, by decide⟩
    have sent : termAckIds (fsmStep .bare (fsmRun .bare () [.open, .up])
        (.receive .termReq 9 [])).log = [2] := by decide
    have before : termAckIds (fsmRun .bare () [.open, .up]).log = [] := by decide
    rw [sent, before, List.nil_append] at grown
    subst grown
    exact absurd (carried 2 (List.mem_singleton_self 2)) (by decide)

end Mpd
