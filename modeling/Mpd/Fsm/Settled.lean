import Mpd.Fsm.Preservation

/-! The states in which the last request of the peer stands acknowledged. Only the answer
to a Configure-Request leads into them from outside. -/

set_option autoImplicit false

namespace Mpd

variable {Layer : Type}

def FsmState.settled : FsmState → Bool
  | .ackSent | .opened => true
  | _ => false

/-- The callbacks respect a relation which any act and any change of state respects, as
long as the change does not settle the FSM. Of the decoding, only that of a reject and
that of an own packet respects it. -/
structure Unsettling (T : FsmType Layer) (R : FsmWorld Layer → FsmWorld Layer → Prop) : Prop where
  refl : ∀ w, R w w
  trans : ∀ {first second third}, R first second → R second third → R first third
  fsm : ∀ w (fsm : Fsm), (fsm.state.settled → w.fsm.state.settled) → R w { w with fsm }
  emit : ∀ act w, R w (w.emit act)
  newState : ∀ new w, (new.settled → w.fsm.state.settled) → R w (fsmNewState T new w)
  settled : ∀ {before after}, R before after → after.fsm.state.settled → before.fsm.state.settled
  layerUp : ∀ w, R w (T.layerUp w)
  layerDown : ∀ w, R w (T.layerDown w)
  layerStart : ∀ w, R w (T.layerStart w)
  layerFinish : ∀ w, R w (T.layerFinish w)
  buildConfigReq : ∀ w, R w (T.buildConfigReq w).2
  decodeConfig : ∀ options mode w, mode = .rej ∨ mode = .nop → R w (T.decodeConfig options mode w)
  configure : ∀ w, R w (T.configure w)
  unConfigure : ∀ w, R w (T.unConfigure w)
  sendTerminateReq : ∀ w, R w (T.sendTerminateReq w)
  sendTerminateAck : ∀ w, R w (T.sendTerminateAck w)
  recvCodeRej : ∀ handler ∈ T.recvCodeRej, ∀ code bp w, R w (handler code bp w).2
  recvProtoRej : ∀ handler ∈ T.recvProtoRej, ∀ proto bp w, R w (handler proto bp w).2
  failure : ∀ reason w, R w (T.failure reason w)
  recvResetReq : ∀ id bp w, R w (T.recvResetReq id bp w)
  recvResetAck : ∀ id bp w, R w (T.recvResetAck id bp w)
  recvIdent : ∀ bp w, R w (T.recvIdent bp w)
  recvDiscReq : ∀ bp w, R w (T.recvDiscReq bp w)
  recvTimeRemain : ∀ bp w, R w (T.recvTimeRemain bp w)
  recvVendor : ∀ bp w, R w (T.recvVendor bp w)

def answeredRequest (T : FsmType Layer) (w : FsmWorld Layer) : FsmEvent → Option Bytes
  | .input _ packet =>
      match readHeader packet with
      | some (code, _, bp) =>
          if T.knownCode? code = some .configReq ∧ w.fsm.state.answersConfigReq then some bp
          else none
      | none => none
  | _ => none

def acknowledgedRequest (T : FsmType Layer) (w : FsmWorld Layer) (event : FsmEvent) :
    Option Bytes :=
  (answeredRequest T w event).filter fun bp => (configReqDecoded T bp w).fullyAcked

def takenNak (T : FsmType Layer) (w : FsmWorld Layer) : FsmEvent → Option Bytes
  | .input _ packet =>
      match readHeader packet with
      | some (code, id, bp) =>
          if T.knownCode? code = some .configNak ∧ id = w.fsm.reqid - 1 ∧
              w.fsm.state ∈ [.reqSent, .ackRcvd, .ackSent, .opened] then some bp
          else none
      | none => none
  | _ => none

theorem fsmStep_of_answered {T : FsmType Layer} {w : FsmWorld Layer} {event : FsmEvent}
    {bp : Bytes} (answered : answeredRequest T w event = some bp) :
    ∃ id, fsmStep T w event = fsmAnswerConfigReq T id (configReqDecoded T bp w) := by
  cases event with
  | input junk packet =>
      unfold answeredRequest at answered
      cases header : readHeader packet with
      | none => simp [header] at answered
      | some read =>
          obtain ⟨code, id, payload⟩ := read
          simp only [header, Option.ite_none_right_eq_some, Option.some.injEq] at answered
          obtain ⟨⟨known, answers⟩, rfl⟩ := answered
          refine ⟨id, ?_⟩
          simp only [fsmStep, fsmInput, header, known, fsmAction]
          exact fsmRecvConfigReq_of_answers answers
  | _ => exact nomatch answered

theorem fsmStep_of_takenNak {T : FsmType Layer} {w : FsmWorld Layer} {event : FsmEvent}
    {bp : Bytes} (taken : takenNak T w event = some bp) :
    fsmStep T w event = fsmProcessConfigNak T bp w ∧ answeredRequest T w event = none := by
  cases event with
  | input junk packet =>
      unfold takenNak at taken
      cases header : readHeader packet with
      | none => simp [header] at taken
      | some read =>
          obtain ⟨code, id, payload⟩ := read
          simp only [header, Option.ite_none_right_eq_some, Option.some.injEq] at taken
          obtain ⟨⟨known, numbered, state⟩, rfl⟩ := taken
          refine ⟨?_, by simp [answeredRequest, header, known]⟩
          simp only [fsmStep, fsmInput, header, known, fsmAction, fsmRecvConfigNak, numbered, ne_eq,
            not_true, if_false]
          simp only [List.mem_cons, List.not_mem_nil, or_false] at state
          rcases state with state | state | state | state <;> simp [state]
  | _ => exact nomatch taken

namespace Unsettling

variable {T : FsmType Layer} {R : FsmWorld Layer → FsmWorld Layer → Prop}

theorem count (h : Unsettling T R) (w : FsmWorld Layer) (fsm : Fsm)
    (state : fsm.state = w.fsm.state) : R w { w with fsm } :=
  h.fsm w fsm fun settled => state ▸ settled

theorem enter (h : Unsettling T R) (new : FsmState) (other : new.settled = false)
    (w : FsmWorld Layer) : R w (fsmNewState T new w) :=
  h.newState new w fun settled => by simp [other] at settled

theorem fsmLayerUp (h : Unsettling T R) (w : FsmWorld Layer) : R w (fsmLayerUp T w) :=
  h.trans (h.emit _ w) (h.layerUp _)

theorem fsmLayerDown (h : Unsettling T R) (w : FsmWorld Layer) : R w (fsmLayerDown T w) :=
  h.trans (h.emit _ w) (h.layerDown _)

theorem fsmLayerStart (h : Unsettling T R) (w : FsmWorld Layer) : R w (fsmLayerStart T w) :=
  h.trans (h.emit _ w) (h.layerStart _)

theorem fsmLayerFinish (h : Unsettling T R) (w : FsmWorld Layer) : R w (fsmLayerFinish T w) :=
  h.trans (h.emit _ w) (h.layerFinish _)

theorem fsmConfigure (h : Unsettling T R) (w : FsmWorld Layer) : R w (fsmConfigure T w) :=
  h.trans (h.emit _ w) (h.configure _)

theorem fsmUnConfigure (h : Unsettling T R) (w : FsmWorld Layer) : R w (fsmUnConfigure T w) :=
  h.trans (h.emit _ w) (h.unConfigure _)

theorem fsmLayerFinishActive (h : Unsettling T R) (w : FsmWorld Layer) :
    R w (fsmLayerFinishActive T w) := by
  unfold Mpd.fsmLayerFinishActive
  split_ifs
  · exact h.refl w
  · exact h.fsmLayerFinish w

theorem fsmInitRestartCounter (h : Unsettling T R) (value : Int) (w : FsmWorld Layer) :
    R w (fsmInitRestartCounter value w) :=
  h.count w _ rfl

theorem timerStart (h : Unsettling T R) (w : FsmWorld Layer) : R w w.timerStart :=
  h.count w _ rfl

theorem timerStop (h : Unsettling T R) (w : FsmWorld Layer) : R w w.timerStop :=
  h.count w _ rfl

theorem fsmInitCounters (h : Unsettling T R) (w : FsmWorld Layer) : R w (fsmInitCounters w) :=
  h.count w _ rfl

theorem fsmDecodeBuffer (h : Unsettling T R) (buf : Bytes) {mode : FsmMode}
    (other : mode = .rej ∨ mode = .nop) (w : FsmWorld Layer) :
    R w (fsmDecodeBuffer T buf mode w) := by
  have request : mode ≠ .req := by
    rcases other with rfl | rfl <;> nofun
  simp only [Mpd.fsmDecodeBuffer, request, if_false]
  exact h.decodeConfig _ mode w other

theorem fsmSendConfigReq (h : Unsettling T R) (w : FsmWorld Layer) :
    R w (fsmSendConfigReq T w) := by
  have built := h.buildConfigReq w
  have decoded := h.trans built (h.fsmDecodeBuffer (T.buildConfigReq w).1 (.inr rfl) _)
  let pending := Mpd.fsmDecodeBuffer T (T.buildConfigReq w).1 .nop (T.buildConfigReq w).2
  have numbered : R w { pending with fsm := { pending.fsm with reqid := pending.fsm.reqid + 1 } } :=
    h.trans decoded (h.count _ _ rfl)
  have sent := h.trans numbered
    (h.emit (.output .configReq pending.fsm.reqid (T.buildConfigReq w).1) _)
  exact h.trans sent (h.count _ _ rfl)

theorem fsmSendTerminateReq (h : Unsettling T R) (w : FsmWorld Layer) :
    R w (fsmSendTerminateReq T w) := by
  have numbered := h.count w { w.fsm with reqid := w.fsm.reqid + 1 } rfl
  have sent := h.trans numbered (h.emit (.output .termReq w.fsm.reqid []) _)
  exact h.trans (h.trans sent (h.sendTerminateReq _)) (h.count _ _ rfl)

theorem fsmSendTerminateAck (h : Unsettling T R) (w : FsmWorld Layer) :
    R w (fsmSendTerminateAck T w) := by
  have numbered := h.count w { w.fsm with reqid := w.fsm.reqid + 1 } rfl
  have sent := h.trans numbered (h.emit (.output .termAck w.fsm.reqid []) _)
  exact h.trans sent (h.sendTerminateAck _)

theorem fsmSendConfigRej (h : Unsettling T R) (id : UInt8) (options : Bytes)
    (w : FsmWorld Layer) : R w (fsmSendConfigRej T id options w) := by
  have decoded := h.fsmDecodeBuffer options (.inr rfl) w
  have sent := h.trans decoded (h.emit (.output .configRej id options) _)
  exact h.trans sent (h.count _ _ rfl)

theorem fsmSendConfigNak (h : Unsettling T R) (id : UInt8) (options : Bytes)
    (w : FsmWorld Layer) : R w (fsmSendConfigNak T id options w) := by
  have decoded := h.fsmDecodeBuffer options (.inr rfl) w
  have sent := h.trans decoded (h.emit (.output .configNak id options) _)
  exact h.trans sent (h.count _ _ rfl)

/-- The way of `FsmClose` and `FsmFailure` from a state in which options are negotiated. -/
theorem terminate (h : Unsettling T R) (new : FsmState) (other : new.settled = false)
    (w : FsmWorld Layer) :
    R w (Mpd.fsmSendTerminateReq T (Mpd.fsmInitRestartCounter
      (fsmNewState T new w).fsm.conf.maxterminate (fsmNewState T new w))) := by
  have entered := h.enter new other w
  exact h.trans (h.trans entered (h.fsmInitRestartCounter _ _)) (h.fsmSendTerminateReq _)

/-- Where a call leaves an FSM after a change to a state that is not settled. -/
theorem unsettled_of_enter (h : Unsettling T R) {new : FsmState} (other : new.settled = false)
    {w after : FsmWorld Layer} (left : R (fsmNewState T new w) after) :
    after.fsm.state.settled = false := by
  rw [Bool.eq_false_iff]
  intro settled
  have before := h.settled left settled
  rw [fsmNewState_state, other] at before
  exact nomatch before

theorem unsettled_of_terminate (h : Unsettling T R) {new : FsmState} (other : new.settled = false)
    {w after : FsmWorld Layer}
    (left : R (Mpd.fsmSendTerminateReq T (Mpd.fsmInitRestartCounter
      (fsmNewState T new w).fsm.conf.maxterminate (fsmNewState T new w))) after) :
    after.fsm.state.settled = false := by
  have counted := h.fsmInitRestartCounter (fsmNewState T new w).fsm.conf.maxterminate
    (fsmNewState T new w)
  exact h.unsettled_of_enter other (h.trans (h.trans counted (h.fsmSendTerminateReq _)) left)

theorem fsmShutDown (h : Unsettling T R) (w : FsmWorld Layer) :
    R w (fsmShutDown T w) ∧ (Mpd.fsmShutDown T w).fsm.state.settled = false := by
  have ended (new : FsmState) (other : new.settled = false) :
      R w (Mpd.fsmLayerFinish T (fsmNewState T new w)) ∧
        (Mpd.fsmLayerFinish T (fsmNewState T new w)).fsm.state.settled = false :=
    ⟨h.trans (h.enter new other w) (h.fsmLayerFinish _),
      h.unsettled_of_enter other (h.fsmLayerFinish _)⟩
  have stays {after : FsmWorld Layer} (left : R w after) (other : w.fsm.state.settled = false) :
      R w after ∧ after.fsm.state.settled = false := by
    refine ⟨left, Bool.eq_false_iff.mpr fun settled => ?_⟩
    have before := h.settled left settled
    rw [other] at before
    exact nomatch before
  have stopped : R (fsmNewState T .stopped w)
      (Mpd.fsmUnConfigure T (Mpd.fsmLayerFinishActive T (fsmNewState T .stopped w))) :=
    h.trans (h.fsmLayerFinishActive _) (h.fsmUnConfigure _)
  unfold Mpd.fsmShutDown
  split <;> rename_i state
  · exact ended .closed rfl
  · exact stays (h.fsmLayerFinish w) (by rw [state]; rfl)
  · exact ended .stopped rfl
  · exact ⟨h.trans (h.enter .stopped rfl w) stopped, h.unsettled_of_enter rfl stopped⟩
  · exact ⟨h.trans (h.enter .stopped rfl w) stopped, h.unsettled_of_enter rfl stopped⟩
  · exact ⟨h.trans (h.enter .stopped rfl w) stopped, h.unsettled_of_enter rfl stopped⟩
  · have down (w : FsmWorld Layer) : R w (Mpd.fsmUnConfigure T (Mpd.fsmLayerDown T w)) :=
      h.trans (h.fsmLayerDown w) (h.fsmUnConfigure _)
    exact ⟨h.trans (h.terminate .stopping rfl w) (down _), h.unsettled_of_terminate rfl (down _)⟩
  · exact stays (h.fsmLayerFinishActive w) (by rw [state]; rfl)
  · refine stays (h.refl w) ?_
    cases found : w.fsm.state <;> simp_all [FsmState.settled]

theorem fsmFailure (h : Unsettling T R) (reason : FsmFail) (w : FsmWorld Layer) :
    R w (fsmFailure T reason w) :=
  h.trans (h.failure reason w) (h.fsmShutDown _).1

theorem unsettled_fsmFailure (h : Unsettling T R) (reason : FsmFail) (w : FsmWorld Layer) :
    (Mpd.fsmFailure T reason w).fsm.state.settled = false :=
  (h.fsmShutDown _).2

theorem fsmRenegotiate (h : Unsettling T R) (w : FsmWorld Layer) : R w (fsmRenegotiate T w) := by
  unfold Mpd.fsmRenegotiate
  split
  · exact h.trans (h.fsmLayerDown w) (h.fsmSendConfigReq _)
  · exact h.trans (h.trans (h.fsmLayerStart w) (h.fsmInitCounters _)) (h.fsmSendConfigReq _)
  · exact h.refl w

theorem fsmOpen (h : Unsettling T R) (w : FsmWorld Layer) : R w (fsmOpen T w) := by
  unfold Mpd.fsmOpen
  split
  · exact h.trans (h.enter .starting rfl w) (h.fsmLayerStart _)
  · have entered := h.trans (h.fsmConfigure w) (h.enter .reqSent rfl _)
    have started := h.trans entered (h.fsmLayerStart _)
    exact h.trans (h.trans started (h.fsmInitCounters _)) (h.fsmSendConfigReq _)
  · exact h.enter .stopping rfl w
  · exact h.refl w

theorem fsmUp (h : Unsettling T R) (w : FsmWorld Layer) : R w (fsmUp T w) := by
  unfold Mpd.fsmUp
  split
  · exact h.enter .closed rfl w
  · have entered := h.trans (h.fsmConfigure w) (h.enter .reqSent rfl _)
    exact h.trans (h.trans entered (h.fsmInitCounters _)) (h.fsmSendConfigReq _)
  · exact h.refl w

theorem fsmDown (h : Unsettling T R) (w : FsmWorld Layer) : R w (fsmDown T w) := by
  have starting := h.enter .starting rfl w
  unfold Mpd.fsmDown
  split
  · exact h.trans (h.fsmLayerFinish w) (h.enter .initial rfl _)
  · exact h.enter .initial rfl w
  · exact h.trans starting (h.fsmLayerStart _)
  · exact h.trans starting (h.fsmUnConfigure _)
  · exact h.trans starting (h.fsmUnConfigure _)
  · exact h.trans starting (h.fsmUnConfigure _)
  · exact h.trans starting (h.fsmUnConfigure _)
  · exact h.trans (h.trans starting (h.fsmLayerDown _)) (h.fsmUnConfigure _)
  · exact h.refl w

theorem fsmClose (h : Unsettling T R) (w : FsmWorld Layer) : R w (fsmClose T w) := by
  have closing := h.terminate .closing rfl w
  unfold Mpd.fsmClose
  split
  · exact h.trans (h.enter .initial rfl w) (h.fsmLayerFinish _)
  · exact h.enter .closed rfl w
  · exact h.enter .closing rfl w
  · exact h.trans (h.trans closing (h.fsmLayerDown _)) (h.fsmUnConfigure _)
  · exact h.trans closing (h.fsmUnConfigure _)
  · exact h.trans closing (h.fsmUnConfigure _)
  · exact h.trans closing (h.fsmUnConfigure _)
  · exact h.refl w

theorem fsmTimeout (h : Unsettling T R) (w : FsmWorld Layer) : R w (fsmTimeout T w) := by
  unfold Mpd.fsmTimeout
  split_ifs
  · split
    · exact h.fsmSendTerminateReq w
    · exact h.fsmSendTerminateReq w
    · exact h.fsmSendConfigReq w
    · exact h.fsmSendConfigReq w
    · exact h.trans (h.enter .reqSent rfl w) (h.fsmSendConfigReq _)
    · exact h.refl w
  · split
    · exact h.trans (h.enter .closed rfl w) (h.fsmLayerFinish _)
    · exact h.trans (h.enter .stopped rfl w) (h.fsmLayerFinish _)
    · exact h.fsmFailure _ w
    · exact h.fsmFailure _ w
    · exact h.fsmFailure _ w
    · exact h.refl w

theorem fsmRecvConfigAck (h : Unsettling T R) (id : UInt8) (bp : Bytes) (w : FsmWorld Layer) :
    R w (fsmRecvConfigAck T id bp w) := by
  unfold Mpd.fsmRecvConfigAck
  split_ifs
  · exact h.refl w
  · refine h.trans (h.fsmDecodeBuffer bp (.inr rfl) w) ?_
    dsimp only
    generalize Mpd.fsmDecodeBuffer T bp .nop w = w'
    split <;> rename_i state
    · exact h.fsmSendTerminateAck w'
    · exact h.fsmSendTerminateAck w'
    · exact h.trans (h.trans (h.enter .ackRcvd rfl w') (h.fsmInitCounters _)) (h.timerStart _)
    · exact h.trans (h.enter .reqSent rfl w') (h.fsmSendConfigReq _)
    · -- The only change into Opened here is from a state that is settled already.
      have entered := h.newState .opened w' fun _ => by rw [state]; rfl
      exact h.trans (h.trans entered (h.fsmInitCounters _)) (h.fsmLayerUp _)
    · exact h.trans (h.trans (h.enter .reqSent rfl w') (h.fsmLayerDown _)) (h.fsmSendConfigReq _)
    · exact h.refl w'

theorem fsmProcessConfigRej (h : Unsettling T R) (bp : Bytes) (w : FsmWorld Layer) :
    R w (fsmProcessConfigRej T bp w) := by
  refine h.trans (h.fsmDecodeBuffer bp (.inl rfl) w) ?_
  unfold Mpd.fsmProcessConfigRej
  generalize Mpd.fsmDecodeBuffer T bp .rej w = w'
  dsimp only
  split_ifs
  · exact h.fsmFailure _ w'
  · split
    · exact h.trans (h.fsmInitRestartCounter _ w') (h.fsmSendConfigReq _)
    · exact h.trans (h.fsmInitRestartCounter _ w') (h.fsmSendConfigReq _)
    · exact h.trans (h.trans (h.enter .reqSent rfl w') (h.fsmLayerDown _)) (h.fsmSendConfigReq _)
    · exact h.trans (h.enter .reqSent rfl w') (h.fsmSendConfigReq _)
    · exact h.refl w'

theorem fsmRecvConfigRej (h : Unsettling T R) (id : UInt8) (bp : Bytes) (w : FsmWorld Layer) :
    R w (fsmRecvConfigRej T id bp w) := by
  unfold Mpd.fsmRecvConfigRej
  split_ifs
  · exact h.refl w
  · split
    · exact h.refl w
    · exact h.refl w
    · exact h.fsmSendTerminateAck w
    · exact h.fsmSendTerminateAck w
    · exact h.refl w
    · exact h.refl w
    · exact h.fsmProcessConfigRej bp w

theorem fsmRecvTermReq (h : Unsettling T R) (w : FsmWorld Layer) : R w (fsmRecvTermReq T w) := by
  have acknowledged := h.fsmSendTerminateAck w
  have regressed := h.trans (h.enter .reqSent rfl w) (h.fsmSendTerminateAck _)
  unfold Mpd.fsmRecvTermReq
  split
  · exact h.refl w
  · exact h.refl w
  · exact acknowledged
  · exact acknowledged
  · exact acknowledged
  · exact acknowledged
  · exact acknowledged
  · exact regressed
  · exact regressed
  · have sent := h.trans (h.enter .stopping rfl w) (h.fsmSendTerminateAck _)
    have down := h.trans sent (h.fsmLayerDown _)
    have timed := h.trans (h.trans down (h.fsmInitRestartCounter 0 _)) (h.timerStart _)
    exact h.trans timed (h.fsmUnConfigure _)

theorem fsmRecvTermAck (h : Unsettling T R) (w : FsmWorld Layer) : R w (fsmRecvTermAck T w) := by
  unfold Mpd.fsmRecvTermAck
  split
  · exact h.trans (h.enter .closed rfl w) (h.fsmLayerFinish _)
  · exact h.trans (h.enter .stopped rfl w) (h.fsmLayerFinish _)
  · exact h.enter .reqSent rfl w
  · exact h.trans (h.trans (h.enter .reqSent rfl w) (h.fsmLayerDown _)) (h.fsmSendConfigReq _)
  · exact h.refl w

theorem fsmRecvRxjPlus (h : Unsettling T R) (w : FsmWorld Layer) : R w (fsmRecvRxjPlus T w) := by
  unfold Mpd.fsmRecvRxjPlus
  split
  · exact h.enter .reqSent rfl w
  · exact h.refl w

/-- The end of the handlers of a Code-Reject and of a Protocol-Reject. -/
theorem rejected (h : Unsettling T R) (fatal : Bool) (reason : FsmFail) (w : FsmWorld Layer) :
    R w (if fatal then Mpd.fsmFailure T reason w else Mpd.fsmRecvRxjPlus T w) := by
  split_ifs
  · exact h.fsmFailure reason w
  · exact h.fsmRecvRxjPlus w

theorem fsmRecvCodeRej (h : Unsettling T R) (bp : Bytes) (w : FsmWorld Layer) :
    R w (fsmRecvCodeRej T bp w) := by
  have logged := h.emit (.codeRejected (rejectedCode bp)) w
  have judged (w : FsmWorld Layer) : R w (fsmJudgeCodeRej T (rejectedCode bp) bp.tail w).2 := by
    unfold fsmJudgeCodeRej
    split
    · exact h.recvCodeRej _ ‹_› _ _ w
    · exact h.refl w
  exact h.trans (h.trans logged (judged _)) (h.rejected _ _ _)

theorem fsmRecvProtoRej (h : Unsettling T R) (bp : Bytes) (w : FsmWorld Layer) :
    R w (fsmRecvProtoRej T bp w) := by
  have judged : R w (fsmJudgeProtoRej T (be16 (bp.getD 0 0) (bp.getD 1 0)) (bp.drop 2) w).2 := by
    unfold fsmJudgeProtoRej
    split
    · exact h.recvProtoRej _ ‹_› _ _ w
    · exact h.refl w
  exact h.trans judged (h.rejected _ _ _)

theorem fsmCheckMagic (h : Unsettling T R) (junk : Nat → UInt8) (bp : Bytes)
    (w : FsmWorld Layer) : R w (fsmCheckMagic T junk bp w) := by
  unfold Mpd.fsmCheckMagic
  split_ifs
  · exact h.fsmFailure _ w
  · exact h.refl w

theorem fsmRecvEchoReq (h : Unsettling T R) (junk : Nat → UInt8) (id : UInt8) (bp : Bytes)
    (w : FsmWorld Layer) : R w (fsmRecvEchoReq T junk id bp w) := by
  have checked := h.fsmCheckMagic junk bp w
  unfold Mpd.fsmRecvEchoReq
  dsimp only
  split_ifs
  · exact checked
  · exact h.trans checked (h.emit _ _)

theorem fsmSendEchoReq (h : Unsettling T R) (payload : Bytes) (w : FsmWorld Layer) :
    R w (fsmSendEchoReq T payload w) := by
  unfold Mpd.fsmSendEchoReq
  split_ifs
  · exact h.refl w
  · exact h.trans (h.count w { w.fsm with echoid := w.fsm.echoid + 1 } rfl) (h.emit _ _)

theorem fsmEchoTimeout (h : Unsettling T R) (bund traffic : Bool) (w : FsmWorld Layer) :
    R w (fsmEchoTimeout T bund traffic w) := by
  unfold Mpd.fsmEchoTimeout
  dsimp only
  split_ifs
  · have quiet := h.count w { w.fsm with
      quietCount := echoQuietCount traffic w, echoTimer := false } rfl
    exact h.trans quiet (h.fsmFailure _ _)
  · exact h.count w { w.fsm with quietCount := echoQuietCount traffic w } rfl
  · have quiet := h.count w { w.fsm with quietCount := echoQuietCount traffic w } rfl
    exact h.trans quiet (h.fsmSendEchoReq [] _)
  · exact h.refl w

theorem fsmSendInformation (h : Unsettling T R) (code : FsmCode) (data : Bytes)
    (w : FsmWorld Layer) : R w (fsmSendInformation T code data w) :=
  h.trans (h.count w { w.fsm with echoid := w.fsm.echoid + 1 } rfl) (h.emit _ _)

theorem fsmAction (h : Unsettling T R) (junk : Nat → UInt8) {code : FsmCode}
    (request : code ≠ .configReq) (nak : code ≠ .configNak) (id : UInt8) (bp : Bytes)
    (w : FsmWorld Layer) : R w (fsmAction T junk code id bp w) := by
  have checked := h.fsmCheckMagic junk bp w
  cases code with
  | vendor => exact h.trans checked (h.recvVendor _ _)
  | configReq => exact absurd rfl request
  | configAck => exact h.fsmRecvConfigAck id bp w
  | configNak => exact absurd rfl nak
  | configRej => exact h.fsmRecvConfigRej id bp w
  | termReq => exact h.fsmRecvTermReq w
  | termAck => exact h.fsmRecvTermAck w
  | codeRej => exact h.fsmRecvCodeRej bp w
  | protoRej => exact h.fsmRecvProtoRej bp w
  | echoReq => exact h.fsmRecvEchoReq junk id bp w
  | echoRep => exact checked
  | discReq => exact h.trans checked (h.recvDiscReq _ _)
  | ident => exact h.trans checked (h.recvIdent _ _)
  | timeRem => exact h.trans checked (h.recvTimeRemain _ _)
  | resetReq => exact h.recvResetReq id bp w
  | resetAck => exact h.recvResetAck id bp w

/-- A request that is not answered. -/
theorem fsmRecvConfigReq (h : Unsettling T R) (id : UInt8) (bp : Bytes) {w : FsmWorld Layer}
    (idle : w.fsm.state.answersConfigReq = false) : R w (fsmRecvConfigReq T id bp w) := by
  unfold Mpd.fsmRecvConfigReq
  cases state : w.fsm.state with
  | initial => exact h.refl w
  | starting => exact h.refl w
  | closed => exact h.fsmSendTerminateAck w
  | closing => exact h.refl w
  | stopping => exact h.refl w
  | _ => simp [state, FsmState.answersConfigReq] at idle

theorem refused (h : Unsettling T R) (id : UInt8) {w : FsmWorld Layer}
    (refused : w.fullyAcked = false) :
    R w (fsmAnswerConfigReq T id w) ∧ (fsmAnswerConfigReq T id w).fsm.state.settled = false := by
  have answered (w : FsmWorld Layer) :
      R w (fsmAnswered T false w) ∧ (fsmAnswered T false w).fsm.state.settled = false := by
    have entered := h.enter .reqSent rfl w
    unfold fsmAnswered
    cases state : w.fsm.state <;>
      simp [state, FsmState.settled, entered, h.refl]
  simp only [fsmAnswerConfigReq, refused, Bool.false_eq_true, if_false]
  split_ifs
  · exact ⟨h.fsmFailure _ w, h.unsettled_fsmFailure _ w⟩
  · exact ⟨h.trans (h.fsmSendConfigRej id w.rej w) (answered _).1, (answered _).2⟩
  · exact ⟨h.trans (h.fsmSendConfigNak id w.nak w) (answered _).1, (answered _).2⟩

/-- What the relation and the changes of state leave alone is left alone by the answer to
a request that is acknowledged. -/
theorem same_of_acked (h : Unsettling T R) {Seen : Type} (see : FsmWorld Layer → Seen)
    (kept : ∀ {before after}, R before after → see after = see before)
    (entered : ∀ new w, see (fsmNewState T new w) = see w) (id : UInt8) {w : FsmWorld Layer}
    (acked : w.fullyAcked = true) : see (fsmAnswerConfigReq T id w) = see w := by
  have answered (w : FsmWorld Layer) : see (fsmAnswered T true w) = see w := by
    unfold fsmAnswered
    cases w.fsm.state with
    | ackRcvd => exact (kept (h.fsmLayerUp _)).trans (entered _ _)
    | stopped => exact entered _ _
    | opened => exact entered _ _
    | reqSent => exact entered _ _
    | _ => rfl
  have sent := h.trans (h.fsmDecodeBuffer w.ack (.inr rfl) w) (h.emit (.output .configAck id w.ack) _)
  simp only [fsmAnswerConfigReq, acked, if_true]
  exact (answered _).trans (kept sent)

/-- Between a Configure-Nak and its end, and where it leaves a FSM that was not waiting for
the acknowledgement of its own request alone. -/
theorem afterNak (h : Unsettling T R) (bp : Bytes) (w : FsmWorld Layer) :
    R (Mpd.fsmDecodeBuffer T bp .nak w) (fsmProcessConfigNak T bp w) ∧
      ((fsmProcessConfigNak T bp w).fsm.state.settled →
        (Mpd.fsmDecodeBuffer T bp .nak w).fsm.state = .ackSent ∧
          0 < (Mpd.fsmDecodeBuffer T bp .nak w).fsm.config) := by
  unfold fsmProcessConfigNak
  generalize Mpd.fsmDecodeBuffer T bp .nak w = w'
  dsimp only
  have contradicts {after : FsmWorld Layer} (other : after.fsm.state.settled = false)
      (settled : after.fsm.state.settled = true) : w'.fsm.state = .ackSent ∧ 0 < w'.fsm.config := by
    rw [other] at settled
    exact nomatch settled
  have again := h.trans (h.fsmInitRestartCounter w'.fsm.conf.maxconfig w') (h.fsmSendConfigReq _)
  split_ifs with stuck
  · exact ⟨h.fsmFailure _ w', contradicts (h.unsettled_fsmFailure _ w')⟩
  · split <;> rename_i state
    · refine ⟨again, fun settled => ?_⟩
      have before := h.settled again settled
      rw [state] at before
      exact nomatch before
    · exact ⟨again, fun _ => ⟨state, Int.not_le.mp stuck⟩⟩
    · have entered := h.trans (h.fsmLayerDown w') (h.enter .reqSent rfl _)
      exact ⟨h.trans entered (h.fsmSendConfigReq _),
        contradicts (h.unsettled_of_enter rfl (h.fsmSendConfigReq _))⟩
    · exact ⟨h.trans (h.enter .reqSent rfl w') (h.fsmSendConfigReq _),
        contradicts (h.unsettled_of_enter rfl (h.fsmSendConfigReq _))⟩
    · refine ⟨h.refl w', fun settled => ?_⟩
      cases found : w'.fsm.state <;> simp_all [FsmState.settled]

/-- A step that answers no request and takes no Configure-Nak. -/
theorem fsmStep (h : Unsettling T R) {w : FsmWorld Layer} {event : FsmEvent}
    (request : answeredRequest T w event = none) (nak : takenNak T w event = none) :
    R w (fsmStep T w event) := by
  cases event with
  | «open» => exact h.fsmOpen w
  | close => exact h.fsmClose w
  | up => exact h.fsmUp w
  | down => exact h.fsmDown w
  | failure reason => exact h.fsmFailure reason w
  | timeout =>
      unfold Mpd.fsmStep
      dsimp only
      split_ifs
      · exact h.trans (h.timerStop w) (h.fsmTimeout _)
      · exact h.refl w
  | echoTimeout bund traffic =>
      unfold Mpd.fsmStep
      dsimp only
      split_ifs
      · exact h.fsmEchoTimeout bund traffic w
      · exact h.refl w
  | input junk packet =>
      change R w (fsmInput T junk packet w)
      unfold answeredRequest at request
      unfold takenNak at nak
      unfold fsmInput
      split
      · exact h.refl w
      · rename_i code id bp header
        simp only [header] at request nak
        split
        · rename_i row known
          by_cases isRequest : row = .configReq
          · subst isRequest
            refine h.fsmRecvConfigReq id bp (Bool.eq_false_iff.mpr fun answers => ?_)
            simp [known, answers] at request
          · by_cases isNak : row = .configNak
            · subst isNak
              change R w (fsmRecvConfigNak T id bp w)
              unfold fsmRecvConfigNak
              split_ifs with numbered
              · exact h.refl w
              · split
                · exact h.refl w
                · exact h.refl w
                · exact h.fsmSendTerminateAck w
                · exact h.fsmSendTerminateAck w
                · exact h.refl w
                · exact h.refl w
                · exfalso
                  rw [not_not] at numbered
                  cases state : w.fsm.state <;> simp_all
            · exact h.fsmAction junk isRequest isNak id bp w
        · exact h.trans (h.count w { w.fsm with rejid := w.fsm.rejid + 1 } rfl) (h.emit _ _)
  | sendResetReq ct =>
      cases ct with
      | none => exact h.refl w
      | some bp => exact h.trans (h.count w { w.fsm with reqid := w.fsm.reqid + 1 } rfl) (h.emit _ _)
  | sendIdent ident => exact h.fsmSendInformation .ident _ w
  | sendTimeRemaining seconds => exact h.fsmSendInformation .timeRem _ w
  | setKeepAlive interval max => exact h.count w { w.fsm with
      conf := { w.fsm.conf with echo_int := interval, echo_max := max } } rfl

end Unsettling

/-- The step calls `Configure` although it answers no request. -/
def configures (w : FsmWorld Layer) : FsmEvent → Bool
  | .open => w.fsm.state = .closed
  | .up => w.fsm.state = .starting
  | _ => false

/-- The FSM type, but for its `Configure`. What a handler does that does not configure can be
said of it. -/
def FsmType.unconfigured (T : FsmType Layer) : FsmType Layer := { T with configure := id }

theorem knownCode?_unconfigured (T : FsmType Layer) (code : UInt8) :
    T.unconfigured.knownCode? code = T.knownCode? code := rfl

theorem fsmRecvConfigReq_unconfigured {T : FsmType Layer} {id : UInt8} {bp : Bytes}
    {w : FsmWorld Layer} (idle : w.fsm.state.answersConfigReq = false) :
    fsmRecvConfigReq T.unconfigured id bp w = fsmRecvConfigReq T id bp w := by
  unfold fsmRecvConfigReq
  cases state : w.fsm.state with
  | initial => rfl
  | starting => rfl
  | closed => rfl
  | closing => rfl
  | stopping => rfl
  | _ => simp [state, FsmState.answersConfigReq] at idle

theorem fsmStep_unconfigured {T : FsmType Layer} {w : FsmWorld Layer} {event : FsmEvent}
    (request : answeredRequest T w event = none) (kept : configures w event = false) :
    fsmStep T.unconfigured w event = fsmStep T w event := by
  cases event with
  | «open» =>
      simp only [configures, decide_eq_false_iff_not] at kept
      simp only [fsmStep, fsmOpen]
      cases state : w.fsm.state with
      | closed => exact absurd state kept
      | _ => rfl
  | up =>
      simp only [configures, decide_eq_false_iff_not] at kept
      simp only [fsmStep, fsmUp]
      cases state : w.fsm.state with
      | starting => exact absurd state kept
      | _ => rfl
  | input junk packet =>
      unfold answeredRequest at request
      simp only [fsmStep, fsmInput]
      cases header : readHeader packet with
      | none => rfl
      | some read =>
          obtain ⟨code, id, bp⟩ := read
          simp only [header, knownCode?_unconfigured] at request ⊢
          cases known : T.knownCode? code with
          | none => rfl
          | some row =>
              cases row with
              | configReq =>
                  refine fsmRecvConfigReq_unconfigured (Bool.eq_false_iff.mpr fun answers => ?_)
                  simp [known, answers] at request
              | _ => rfl
  | _ => rfl


/-! What a protocol keeps in all of its calls but `Configure`, over the steps of its FSM. -/

namespace Unsettling

variable {T : FsmType Layer} {R : FsmWorld Layer → FsmWorld Layer → Prop}
  (h : Unsettling T.unconfigured R)
include h

/-- A step that decodes no request and does not configure. -/
theorem kept_of_silent {w : FsmWorld Layer} {event : FsmEvent}
    (request : answeredRequest T w event = none) (kept : configures w event = false)
    (nak : ∀ bp, takenNak T w event = some bp → R w (Mpd.fsmDecodeBuffer T bp .nak w)) :
    R w (Mpd.fsmStep T w event) := by
  cases taken : takenNak T w event with
  | none =>
      rw [← fsmStep_unconfigured request kept]
      exact h.fsmStep request taken
  | some bp =>
      rw [(fsmStep_of_takenNak taken).1]
      exact h.trans (nak bp taken) (h.afterNak bp w).1

/-- A step that configures without an answer to a request. -/
theorem kept_of_configures {w : FsmWorld Layer} {event : FsmEvent}
    (configured : configures w event = true) :
    answeredRequest T w event = none ∧
      R (fsmNewState T .reqSent (Mpd.fsmConfigure T w)) (Mpd.fsmStep T w event) := by
  have sent (w : FsmWorld Layer) : R w (Mpd.fsmSendConfigReq T (Mpd.fsmInitCounters w)) :=
    h.trans (h.fsmInitCounters w) (h.fsmSendConfigReq _)
  cases event with
  | «open» =>
      simp only [configures, decide_eq_true_eq] at configured
      simp only [Mpd.fsmStep, Mpd.fsmOpen, configured]
      exact ⟨rfl, h.trans (h.fsmLayerStart _) (sent _)⟩
  | up =>
      simp only [configures, decide_eq_true_eq] at configured
      simp only [Mpd.fsmStep, Mpd.fsmUp, configured]
      exact ⟨rfl, sent _⟩
  | _ => simp [configures] at configured

/-- A step that answers a request, where the relation and the changes of state leave alone
what is seen: it is what the decoding of the request made of it. -/
theorem same_of_answered {Seen : Type} (see : FsmWorld Layer → Seen)
    (kept : ∀ {before after}, R before after → see after = see before)
    (entered : ∀ new w, see (fsmNewState T new w) = see w) {w : FsmWorld Layer}
    {event : FsmEvent} {bp : Bytes} (answered : answeredRequest T w event = some bp) :
    see (Mpd.fsmStep T w event) =
        see (Mpd.fsmDecodeBuffer T bp .req (configReqStart T w)) ∧
      ((Mpd.fsmStep T w event).fsm.state.settled → acknowledgedRequest T w event = some bp) := by
  obtain ⟨id, stepped⟩ := fsmStep_of_answered answered
  have negotiated : R (Mpd.fsmDecodeBuffer T bp .req (configReqStart T w))
      (configReqDecoded T bp w) := h.fsmRenegotiate _
  rw [stepped]
  cases acked : (configReqDecoded T bp w).fullyAcked with
  | false =>
      obtain ⟨left, unsettled⟩ := h.refused id acked
      have unsettled' : (Mpd.fsmAnswerConfigReq T id (configReqDecoded T bp w)).fsm.state.settled =
          false := unsettled
      refine ⟨kept (h.trans negotiated left), fun settled => ?_⟩
      rw [unsettled'] at settled
      cases settled
  | true =>
      have answer : see (Mpd.fsmAnswerConfigReq T id (configReqDecoded T bp w)) =
          see (configReqDecoded T bp w) :=
        h.same_of_acked see kept entered id acked
      refine ⟨answer.trans (kept negotiated), fun _ => ?_⟩
      simp [acknowledgedRequest, answered, acked]

end Unsettling

end Mpd
