import Mpd.Fsm.Course

/-! The course of every handler of `fsm.c`, for a protocol whose callbacks keep to it. -/

set_option autoImplicit false

namespace Mpd

open Agreement

variable {Layer View Record : Type}

/-- The callbacks number nothing out of turn, acknowledge nothing, agree to nothing and begin no
negotiation. What the protocol asks for changes only where it builds a request, which stands for
it then, where it takes a Configure-Nak or a Configure-Reject, and where it is configured or
unconfigured; its record of the peer changes only where it decodes a request, and there too. -/
structure Orderly (T : FsmType Layer) (O : Outlook Layer View Record) : Prop where
  layer : ∀ w w' : FsmWorld Layer, w'.layer = w.layer →
    O.asks w' = O.asks w ∧ O.records w' = O.records w
  newState : ∀ old new w, Still O w (T.newState old new w)
  layerUp : ∀ w, Proceeds O w (T.layerUp w)
  layerDown : ∀ w, Proceeds O w (T.layerDown w)
  downRecords : ∀ w, O.records (T.layerDown w) = O.records w
  layerStart : ∀ w, Still O w (T.layerStart w)
  layerFinish : ∀ w, Proceeds O w (T.layerFinish w)
  buildConfigReq : ∀ w, Turns w (T.buildConfigReq w).2
  built : ∀ w, O.asks (T.buildConfigReq w).2 = O.view (T.request w)
  builtRecords : ∀ w, O.records (T.buildConfigReq w).2 = O.records w
  decodeConfig : ∀ options mode w, Turns w (T.decodeConfig options mode w)
  decodeAsks : ∀ options mode w, mode = .req ∨ mode = .nop →
    O.asks (T.decodeConfig options mode w) = O.asks w
  decodeRecords : ∀ options mode w, mode ≠ .req →
    O.records (T.decodeConfig options mode w) = O.records w
  configure : ∀ w, Turns w (T.configure w)
  unConfigure : ∀ w, Turns w (T.unConfigure w)
  sendTerminateReq : ∀ w, Proceeds O w (T.sendTerminateReq w)
  sendTerminateAck : ∀ w, Proceeds O w (T.sendTerminateAck w)
  recvCodeRej : ∀ handler ∈ T.recvCodeRej, ∀ code bp w, Proceeds O w (handler code bp w).2
  recvProtoRej : ∀ handler ∈ T.recvProtoRej, ∀ proto bp w, Proceeds O w (handler proto bp w).2
  failure : ∀ reason w, Proceeds O w (T.failure reason w)
  recvResetReq : ∀ id bp w, Proceeds O w (T.recvResetReq id bp w)
  recvResetAck : ∀ id bp w, Proceeds O w (T.recvResetAck id bp w)
  recvIdent : ∀ bp w, Proceeds O w (T.recvIdent bp w)
  recvDiscReq : ∀ bp w, Proceeds O w (T.recvDiscReq bp w)
  recvTimeRemain : ∀ bp w, Proceeds O w (T.recvTimeRemain bp w)
  recvVendor : ∀ bp w, Proceeds O w (T.recvVendor bp w)

theorem plain_call (told : LayerCall) : (FsmAct.call told).Plain := by
  intro code id payload same
  exact nomatch same

theorem plain_codeRejected (code : UInt8) : (FsmAct.codeRejected code).Plain := by
  intro sent id payload same
  exact nomatch same

theorem plain_output {code : FsmCode} (free : code.numbered = false) (other : code ≠ .configAck)
    (id : UInt8) (payload : Bytes) : (FsmAct.output code id payload).Plain := by
  intro sent used data same
  cases same
  exact ⟨free, other⟩

theorem turns_emit {act : FsmAct} (plain : act.Plain) (w : FsmWorld Layer) : Turns w (w.emit act) :=
  ⟨rfl, rfl, [act], rfl, by simpa using plain⟩

theorem turns_count {w : FsmWorld Layer} {fsm : Fsm} (state : fsm.state = w.fsm.state)
    (reqid : fsm.reqid = w.fsm.reqid) : Turns w { w with fsm } :=
  ⟨state, reqid, [], by simp, by simp⟩

namespace Orderly

variable {T : FsmType Layer} {O : Outlook Layer View Record} (h : Orderly T O)
include h

section Pieces

variable {agrees : Prop} {acked : Option UInt8} {record : Record}

theorem still {w w' : FsmWorld Layer} (turns : Turns w w') (layer : w'.layer = w.layer) :
    Still O w w' :=
  ⟨⟨turns, (h.layer w w' layer).1⟩, (h.layer w w' layer).2⟩

theorem emit {act : FsmAct} (plain : act.Plain) (w : FsmWorld Layer) :
    Still O w (w.emit act) :=
  h.still (turns_emit plain w) rfl

theorem count {w : FsmWorld Layer} {fsm : Fsm} (state : fsm.state = w.fsm.state)
    (reqid : fsm.reqid = w.fsm.reqid) : Still O w { w with fsm } :=
  h.still (turns_count state reqid) rfl

theorem tell (told : LayerCall) (w : FsmWorld Layer) : Still O w (w.emit (.call told)) :=
  h.emit (plain_call told) w

theorem fsmLayerUp (w : FsmWorld Layer) : Proceeds O w (fsmLayerUp T w) :=
  (h.tell .up w).proceeds.trans (h.layerUp _)

theorem fsmLayerDown (w : FsmWorld Layer) : Proceeds O w (fsmLayerDown T w) :=
  (h.tell .down w).proceeds.trans (h.layerDown _)

theorem records_fsmLayerDown (w : FsmWorld Layer) :
    O.records (Mpd.fsmLayerDown T w) = O.records w :=
  (h.downRecords _).trans (h.tell .down w).records

theorem fsmLayerStart (w : FsmWorld Layer) : Still O w (fsmLayerStart T w) :=
  (h.tell .start w).trans (h.layerStart _)

theorem fsmLayerFinish (w : FsmWorld Layer) : Proceeds O w (fsmLayerFinish T w) :=
  (h.tell .finish w).proceeds.trans (h.layerFinish _)

theorem fsmConfigure (w : FsmWorld Layer) : Turns w (fsmConfigure T w) :=
  (turns_emit (plain_call .configure) w).trans (h.configure _)

/-- The protocol is unconfigured where it has nothing to negotiate. -/
theorem fsmUnConfigure {w : FsmWorld Layer} (outside : w.fsm.state.negotiating = false) :
    Proceeds O w (fsmUnConfigure T w) :=
  ((turns_emit (plain_call .unConfigure) w).trans (h.unConfigure _)).proceeds outside

theorem fsmLayerFinishActive (w : FsmWorld Layer) :
    Proceeds O w (fsmLayerFinishActive T w) := by
  unfold Mpd.fsmLayerFinishActive
  split_ifs
  · exact .refl O w
  · exact h.fsmLayerFinish w

theorem fsmInitRestartCounter (value : Int) (w : FsmWorld Layer) :
    Still O w (fsmInitRestartCounter value w) :=
  h.count rfl rfl

theorem fsmInitCounters (w : FsmWorld Layer) : Still O w (fsmInitCounters w) :=
  h.count rfl rfl

theorem timerStart (w : FsmWorld Layer) : Still O w w.timerStart :=
  h.count rfl rfl

theorem timerStop (w : FsmWorld Layer) : Still O w w.timerStop :=
  h.count rfl rfl

theorem output {code : FsmCode} (free : code.numbered = false) (other : code ≠ .configAck)
    (id : UInt8) (payload : Bytes) (w : FsmWorld Layer) :
    Still O w (fsmOutput code id payload w) :=
  h.emit (plain_output free other id payload) w

/-- A packet that takes a number and is no request. -/
theorem number (code : FsmCode) (takes : code.numbered = true) (other : code ≠ .configReq)
    (payload : Bytes) (w : FsmWorld Layer) :
    Proceeds O w (fsmOutput code w.fsm.reqid payload
      { w with fsm := { w.fsm with reqid := w.fsm.reqid + 1 } }) := by
  let after := fsmOutput code w.fsm.reqid payload
    { w with fsm := { w.fsm with reqid := w.fsm.reqid + 1 } }
  have unasked : Unasked [.output code w.fsm.reqid payload] := by
    simp [Unasked, other.symm]
  have layer := h.layer w after rfl
  refine ⟨⟨[.output code w.fsm.reqid payload], ⟨rfl, ?_, ?_⟩, fun _ => unasked⟩, fun _ => rfl,
    id, fun _ => layer.2, id, fun _ => current_of_unasked rfl unasked layer.1⟩
  · exact ⟨w.fsm.reqid + 1, by simp [FsmAct.Takes, takes], rfl⟩
  · intro id sent member
    cases List.mem_singleton.mp member
    cases takes

theorem fsmSendTerminateReq (w : FsmWorld Layer) :
    Proceeds O w (fsmSendTerminateReq T w) := by
  have sent := (h.number .termReq rfl (by decide) [] w).trans (h.sendTerminateReq _)
  refine (sent.trans (h.timerStart _).proceeds).trans (Still.proceeds ?_)
  exact h.count rfl rfl

theorem fsmSendTerminateAck (w : FsmWorld Layer) :
    Proceeds O w (fsmSendTerminateAck T w) :=
  (h.number .termAck rfl (by decide) [] w).trans (h.sendTerminateAck _)

theorem fsmDecodeBuffer (buf : Bytes) (mode : FsmMode) (w : FsmWorld Layer) :
    Turns w (fsmDecodeBuffer T buf mode w) := by
  unfold Mpd.fsmDecodeBuffer
  dsimp only
  split_ifs
  · have cleared : Turns w { w with ack := [], nak := [], rej := [] } :=
      ⟨rfl, rfl, [], by simp, by simp⟩
    exact cleared.trans (h.decodeConfig _ _ _)
  · exact h.decodeConfig _ _ w

theorem decodedRequest (buf : Bytes) (w : FsmWorld Layer) :
    Steady O w (Mpd.fsmDecodeBuffer T buf .req w) := by
  refine ⟨h.fsmDecodeBuffer buf .req w, ?_⟩
  unfold Mpd.fsmDecodeBuffer
  rw [h.decodeAsks _ _ _ (.inl rfl)]
  exact (h.layer w { w with ack := [], nak := [], rej := [] } rfl).1

theorem records_fsmDecodeBuffer (buf : Bytes) {mode : FsmMode} (other : mode ≠ .req)
    (w : FsmWorld Layer) : O.records (Mpd.fsmDecodeBuffer T buf mode w) = O.records w := by
  unfold Mpd.fsmDecodeBuffer
  rw [h.decodeRecords _ _ _ other, if_neg other]

theorem decoded (buf : Bytes) (w : FsmWorld Layer) :
    Still O w (Mpd.fsmDecodeBuffer T buf .nop w) := by
  refine ⟨⟨h.fsmDecodeBuffer buf .nop w, ?_⟩, h.records_fsmDecodeBuffer buf (by decide) w⟩
  unfold Mpd.fsmDecodeBuffer
  exact h.decodeAsks _ _ _ (.inr rfl)

/-- The change to a state, as far as it sends something. -/
theorem entered (acked : Option UInt8) (new : FsmState) (w : FsmWorld Layer) :
    (∃ acts, Issues acked w (fsmNewState T new w) acts ∧ Unasked acts) ∧
      (O.Current w → O.Current (fsmNewState T new w)) ∧
      O.records (fsmNewState T new w) = O.records w := by
  have still := h.newState w.fsm.state new w
  have layer := h.layer (T.newState w.fsm.state new w) (fsmNewState T new w) rfl
  obtain ⟨acts, issues, unasked⟩ := still.issues acked
  exact ⟨⟨acts, ⟨issues.log, issues.numbers, issues.acks⟩, unasked⟩,
    current_of_unasked issues.log unasked (layer.1.trans still.request),
    layer.2.trans still.records⟩

theorem enter (new : FsmState) {w : FsmWorld Layer}
    (accepted : new.accepted = true → agrees ∨ new = w.fsm.state ∨
      acked.isSome = true ∧ w.fsm.state.accepted = true)
    (settled : new.settled = true → acked.isSome = true ∨ w.fsm.state.settled = true)
    (negotiating : new.negotiating = true → w.fsm.state.negotiating = true ∨ O.Current w) :
    Course O agrees acked (O.records w) w (fsmNewState T new w) := by
  obtain ⟨⟨acts, issues, unasked⟩, current, records⟩ := h.entered acked new w
  exact ⟨⟨acts, issues, fun _ => unasked⟩, accepted, settled, fun _ => records,
    fun inside => (negotiating inside).imp_right current, fun _ => current⟩

theorem leave {new : FsmState} (outside : new.negotiating = false) (w : FsmWorld Layer) :
    Proceeds O w (fsmNewState T new w) := by
  obtain ⟨⟨acts, issues, unasked⟩, current, records⟩ := h.entered none new w
  obtain ⟨notAccepted, notSettled⟩ := FsmState.outside outside
  refine ⟨⟨acts, issues, fun _ => unasked⟩, ?_, ?_, fun _ => records, ?_, fun _ => current⟩
  · exact fun accepted => absurd accepted (by simp [notAccepted])
  · exact fun settled => absurd settled (by simp [notSettled])
  · exact fun inside => absurd inside (by simp [outside])

theorem retreat {w : FsmWorld Layer} (inside : w.fsm.state.negotiating = true) :
    Proceeds O w (fsmNewState T .reqSent w) := by
  obtain ⟨⟨acts, issues, unasked⟩, current, records⟩ := h.entered none .reqSent w
  exact ⟨⟨acts, issues, fun _ => unasked⟩, nofun, nofun, fun _ => records, fun _ => inside,
    fun _ => current⟩

/-- A Configure-Request, as far as it sends something. -/
theorem asked (acked : Option UInt8) (w : FsmWorld Layer) :
    (∃ acts, Issues acked w (fsmSendConfigReq T w) acts) ∧
      (fsmSendConfigReq T w).fsm.state = w.fsm.state ∧
      O.records (fsmSendConfigReq T w) = O.records w ∧ O.Current (fsmSendConfigReq T w) := by
  let pending := Mpd.fsmDecodeBuffer T (T.request w) .nop (T.buildConfigReq w).2
  have decoded : Still O (T.buildConfigReq w).2 pending := h.decoded _ _
  have before : Turns w pending := (h.buildConfigReq w).trans decoded.toTurns
  have layer := h.layer pending (fsmSendConfigReq T w) rfl
  have request : O.asks (fsmSendConfigReq T w) = O.view (T.request w) :=
    layer.1.trans (decoded.request.trans (h.built w))
  obtain ⟨acts, issues, unasked⟩ := before.issues acked
  have log : (fsmSendConfigReq T w).log =
      w.log ++ (acts ++ [.output .configReq pending.fsm.reqid (T.request w)]) := by
    rw [← List.append_assoc, ← issues.log]
    rfl
  refine ⟨⟨_, log, ?_, ?_⟩, before.state,
    layer.2.trans (decoded.records.trans (h.builtRecords w)), ?_⟩
  · exact consecutive_append.mpr ⟨_, issues.numbers, pending.fsm.reqid + 1, ⟨rfl, rfl⟩, rfl⟩
  · intro id payload member
    rcases List.mem_append.mp member with early | own
    · exact issues.acks id payload early
    · cases List.mem_singleton.mp own
  · unfold Outlook.Current
    rw [log, request, ← List.append_assoc, numberedActs_append, lastRequest_append]
    rfl

theorem fsmSendConfigReq {w : FsmWorld Layer} (outside : w.fsm.state.accepted = false) :
    Proceeds O w (fsmSendConfigReq T w) := by
  obtain ⟨⟨acts, issues⟩, state, records, current⟩ := h.asked none w
  refine ⟨⟨acts, issues, fun accepted => ?_⟩, fun _ => state, fun settled => ?_, fun _ => records,
    fun inside => ?_, fun _ _ => current⟩
  · rw [state, outside] at accepted
    cases accepted
  · rwa [state] at settled
  · rwa [state] at inside

theorem current_fsmSendConfigReq (w : FsmWorld Layer) : O.Current (Mpd.fsmSendConfigReq T w) :=
  (h.asked none w).2.2.2

/-- The request with which a negotiation begins anew. -/
theorem restarted {w w' : FsmWorld Layer} (proceeds : Proceeds O (fsmNewState T .reqSent w) w') :
    Course O agrees acked record w (Mpd.fsmSendConfigReq T w') := by
  obtain ⟨⟨early, entered, -⟩, -, -⟩ := h.entered acked .reqSent w
  have outside := proceeds.not_accepted rfl
  have sent := proceeds.trans (h.fsmSendConfigReq outside)
  obtain ⟨late, issues, -⟩ := sent.issues
  have current := h.current_fsmSendConfigReq w'
  refine ⟨⟨early ++ late, entered.trans issues.mono, fun accepted => ?_⟩, fun accepted => ?_,
    fun settled => ?_, fun settled => ?_, fun _ => .inr current, fun _ _ => current⟩
  · cases sent.accepted accepted ▸ accepted
  · cases sent.accepted accepted ▸ accepted
  · cases sent.settled settled
  · cases sent.settled settled

/-- The way out of a negotiation, of `FsmClose` and of `FsmFailure`. -/
theorem terminates (max : Int) (w : FsmWorld Layer) :
    Proceeds O w (Mpd.fsmSendTerminateReq T (Mpd.fsmInitRestartCounter max w)) :=
  (h.fsmInitRestartCounter max w).proceeds.trans (h.fsmSendTerminateReq _)

/-- What leaves the negotiation and ends with `UnConfigure`. -/
theorem unconfigured {w w' : FsmWorld Layer} {new : FsmState}
    (outside : new.negotiating = false) (proceeds : Proceeds O (fsmNewState T new w) w') :
    Proceeds O w (Mpd.fsmUnConfigure T w') :=
  ((h.leave outside w).trans proceeds).trans (h.fsmUnConfigure (proceeds.outside outside))

end Pieces

section Handlers

theorem fsmShutDown (w : FsmWorld Layer) : Proceeds O w (fsmShutDown T w) := by
  unfold Mpd.fsmShutDown
  split
  · exact (h.leave rfl w).trans (h.fsmLayerFinish _)
  · exact h.fsmLayerFinish w
  · exact (h.leave rfl w).trans (h.fsmLayerFinish _)
  · exact h.unconfigured rfl (h.fsmLayerFinishActive _)
  · exact h.unconfigured rfl (h.fsmLayerFinishActive _)
  · exact h.unconfigured rfl (h.fsmLayerFinishActive _)
  · exact h.unconfigured rfl ((h.terminates _ _).trans (h.fsmLayerDown _))
  · exact h.fsmLayerFinishActive w
  · exact .refl O w

theorem outside_fsmShutDown (w : FsmWorld Layer) :
    (Mpd.fsmShutDown T w).fsm.state.negotiating = false := by
  have stopped : (Mpd.fsmUnConfigure T (Mpd.fsmLayerFinishActive T
      (fsmNewState T .stopped w))).fsm.state.negotiating = false := by
    have finished := (h.fsmLayerFinishActive (fsmNewState T .stopped w)).outside rfl
    exact (h.fsmUnConfigure finished).outside finished
  unfold Mpd.fsmShutDown
  split <;> rename_i state
  · exact (h.fsmLayerFinish (fsmNewState T .closed w)).outside rfl
  · exact (h.fsmLayerFinish w).outside (by rw [state]; rfl)
  · exact (h.fsmLayerFinish (fsmNewState T .stopped w)).outside rfl
  · exact stopped
  · exact stopped
  · exact stopped
  · have stopping := h.terminates (fsmNewState T .stopping w).fsm.conf.maxterminate
      (fsmNewState T .stopping w)
    have down := (stopping.trans (h.fsmLayerDown _)).outside rfl
    exact (h.fsmUnConfigure down).outside down
  · exact (h.fsmLayerFinishActive w).outside (by rw [state]; rfl)
  · cases found : w.fsm.state <;> simp_all [FsmState.negotiating]

theorem fsmFailure (reason : FsmFail) (w : FsmWorld Layer) :
    Proceeds O w (fsmFailure T reason w) :=
  (h.failure reason w).trans (h.fsmShutDown _)

theorem fsmDown (w : FsmWorld Layer) : Proceeds O w (fsmDown T w) := by
  have unconfigured : Proceeds O w (Mpd.fsmUnConfigure T (fsmNewState T .starting w)) :=
    h.unconfigured rfl (.refl O _)
  unfold Mpd.fsmDown
  split
  · exact (h.fsmLayerFinish w).trans (h.leave rfl _)
  · exact h.leave rfl w
  · exact (h.leave rfl w).trans (h.fsmLayerStart _).proceeds
  · exact unconfigured
  · exact unconfigured
  · exact unconfigured
  · exact unconfigured
  · exact h.unconfigured rfl (h.fsmLayerDown _)
  · exact .refl O w

theorem fsmClose (w : FsmWorld Layer) : Proceeds O w (fsmClose T w) := by
  unfold Mpd.fsmClose
  split
  · exact (h.leave rfl w).trans (h.fsmLayerFinish _)
  · exact h.leave rfl w
  · exact h.leave rfl w
  · exact h.unconfigured rfl ((h.terminates _ _).trans (h.fsmLayerDown _))
  · exact h.unconfigured rfl (h.terminates _ _)
  · exact h.unconfigured rfl (h.terminates _ _)
  · exact h.unconfigured rfl (h.terminates _ _)
  · exact .refl O w

theorem fsmTimeout (w : FsmWorld Layer) :
    Course O False none (O.records w) w (fsmTimeout T w) := by
  unfold Mpd.fsmTimeout
  split_ifs
  · split <;> rename_i state
    · exact (h.fsmSendTerminateReq w).course
    · exact (h.fsmSendTerminateReq w).course
    · exact (h.fsmSendConfigReq (by rw [state]; rfl)).course
    · exact (h.fsmSendConfigReq (by rw [state]; rfl)).course
    · exact h.restarted (.refl O _)
    · exact .refl O w
  · split
    · exact ((h.leave rfl w).trans (h.fsmLayerFinish _)).course
    · exact ((h.leave rfl w).trans (h.fsmLayerFinish _)).course
    · exact (h.fsmFailure _ w).course
    · exact (h.fsmFailure _ w).course
    · exact (h.fsmFailure _ w).course
    · exact .refl O w

theorem fsmRecvTermReq (w : FsmWorld Layer) : Proceeds O w (fsmRecvTermReq T w) := by
  have acknowledged := h.fsmSendTerminateAck w
  have retreats (inside : w.fsm.state.negotiating = true) :=
    (h.retreat inside).trans (h.fsmSendTerminateAck _)
  unfold Mpd.fsmRecvTermReq
  split <;> rename_i state
  · exact .refl O w
  · exact .refl O w
  · exact acknowledged
  · exact acknowledged
  · exact acknowledged
  · exact acknowledged
  · exact acknowledged
  · exact retreats (by rw [state]; rfl)
  · exact retreats (by rw [state]; rfl)
  · have down := (h.fsmSendTerminateAck (fsmNewState T .stopping w)).trans (h.fsmLayerDown _)
    exact h.unconfigured rfl ((down.trans (h.fsmInitRestartCounter 0 _).proceeds).trans
      (h.timerStart _).proceeds)

theorem fsmRecvTermAck (w : FsmWorld Layer) :
    Course O False none (O.records w) w (fsmRecvTermAck T w) := by
  unfold Mpd.fsmRecvTermAck
  split <;> rename_i state
  · exact ((h.leave rfl w).trans (h.fsmLayerFinish _)).course
  · exact ((h.leave rfl w).trans (h.fsmLayerFinish _)).course
  · exact (h.retreat (by rw [state]; rfl)).course
  · exact h.restarted (h.fsmLayerDown _)
  · exact .refl O w

theorem fsmRecvRxjPlus (w : FsmWorld Layer) : Proceeds O w (fsmRecvRxjPlus T w) := by
  unfold Mpd.fsmRecvRxjPlus
  split <;> rename_i state
  · exact h.retreat (by rw [state]; rfl)
  · exact .refl O w

theorem rejected (fatal : Bool) (reason : FsmFail) (w : FsmWorld Layer) :
    Proceeds O w (if fatal then Mpd.fsmFailure T reason w else Mpd.fsmRecvRxjPlus T w) := by
  split_ifs
  · exact h.fsmFailure reason w
  · exact h.fsmRecvRxjPlus w

theorem fsmRecvCodeRej (bp : Bytes) (w : FsmWorld Layer) :
    Proceeds O w (fsmRecvCodeRej T bp w) := by
  have logged := h.emit (plain_codeRejected (rejectedCode bp)) w
  have judged (w : FsmWorld Layer) :
      Proceeds O w (fsmJudgeCodeRej T (rejectedCode bp) bp.tail w).2 := by
    unfold fsmJudgeCodeRej
    split
    · exact h.recvCodeRej _ ‹_› _ _ w
    · exact .refl O w
  exact (logged.proceeds.trans (judged _)).trans (h.rejected _ _ _)

theorem fsmRecvProtoRej (bp : Bytes) (w : FsmWorld Layer) :
    Proceeds O w (fsmRecvProtoRej T bp w) := by
  have judged : Proceeds O w
      (fsmJudgeProtoRej T (be16 (bp.getD 0 0) (bp.getD 1 0)) (bp.drop 2) w).2 := by
    unfold fsmJudgeProtoRej
    split
    · exact h.recvProtoRej _ ‹_› _ _ w
    · exact .refl O w
  exact judged.trans (h.rejected _ _ _)

theorem fsmCheckMagic (junk : Nat → UInt8) (bp : Bytes) (w : FsmWorld Layer) :
    Proceeds O w (fsmCheckMagic T junk bp w) := by
  unfold Mpd.fsmCheckMagic
  split_ifs
  · exact h.fsmFailure _ w
  · exact .refl O w

theorem fsmRecvEchoReq (junk : Nat → UInt8) (id : UInt8) (bp : Bytes) (w : FsmWorld Layer) :
    Proceeds O w (fsmRecvEchoReq T junk id bp w) := by
  have checked := h.fsmCheckMagic junk bp w
  unfold Mpd.fsmRecvEchoReq
  dsimp only
  split_ifs
  · exact checked
  · exact checked.trans (h.output rfl (by decide) _ _ _).proceeds

/-- An identifier of the other sequence. -/
theorem echo {code : FsmCode} (free : code.numbered = false) (other : code ≠ .configAck)
    (id : UInt8) (payload : Bytes) (w : FsmWorld Layer) :
    Proceeds O w (fsmOutput code id payload
      { w with fsm := { w.fsm with echoid := w.fsm.echoid + 1 } }) := by
  have counted : Still O w { w with fsm := { w.fsm with echoid := w.fsm.echoid + 1 } } :=
    h.count rfl rfl
  exact (counted.trans (h.output free other id payload _)).proceeds

theorem fsmSendEchoReq (payload : Bytes) (w : FsmWorld Layer) :
    Proceeds O w (fsmSendEchoReq T payload w) := by
  unfold Mpd.fsmSendEchoReq
  split_ifs
  · exact .refl O w
  · exact h.echo rfl (by decide) _ _ w

theorem fsmEchoTimeout (bund traffic : Bool) (w : FsmWorld Layer) :
    Proceeds O w (fsmEchoTimeout T bund traffic w) := by
  have quiet (fsm : Fsm) (state : fsm.state = w.fsm.state) (reqid : fsm.reqid = w.fsm.reqid) :
      Proceeds O w { w with fsm } :=
    (h.count state reqid).proceeds
  unfold Mpd.fsmEchoTimeout
  dsimp only
  split_ifs
  · have lost := quiet { w.fsm with
      quietCount := echoQuietCount traffic w, echoTimer := false } rfl rfl
    exact lost.trans (h.fsmFailure _ _)
  · exact quiet _ rfl rfl
  · have counted := quiet { w.fsm with quietCount := echoQuietCount traffic w } rfl rfl
    exact counted.trans (h.fsmSendEchoReq [] _)
  · exact .refl O w

theorem fsmSendInformation {code : FsmCode} (free : code.numbered = false)
    (other : code ≠ .configAck) (data : Bytes) (w : FsmWorld Layer) :
    Proceeds O w (fsmSendInformation T code data w) :=
  h.echo free other _ _ w

end Handlers

end Orderly

end Mpd
