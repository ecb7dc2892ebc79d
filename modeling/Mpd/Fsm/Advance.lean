import Mpd.Fsm.Orderly

/-! What an orderly protocol does in one step of its FSM. -/

set_option autoImplicit false

namespace Mpd

open Agreement

variable {Layer View Record : Type}

def bringsAck (T : FsmType Layer) (w : FsmWorld Layer) (event : FsmEvent) : Prop :=
  ∃ junk packet code id bp, event = .input junk packet ∧ readHeader packet = some (code, id, bp) ∧
    T.knownCode? code = some .configAck ∧ id = w.fsm.reqid - 1

def acknowledgedId (T : FsmType Layer) (w : FsmWorld Layer) (event : FsmEvent) : Option UInt8 :=
  match event with
  | .input _ packet =>
      if (acknowledgedRequest T w event).isSome then (readHeader packet).map fun read => read.2.1
      else none
  | _ => none

def Outlook.Told (O : Outlook Layer View Record) (w : FsmWorld Layer) : Prop :=
  w.fsm.state.negotiating = true → O.Current w

def recordedRequest (T : FsmType Layer) (O : Outlook Layer View Record) (bp : Bytes)
    (w : FsmWorld Layer) : Record :=
  O.records (fsmDecodeBuffer T bp .req (configReqStart T w))

def recordedBy (T : FsmType Layer) (O : Outlook Layer View Record) (w : FsmWorld Layer)
    (event : FsmEvent) : Record :=
  match answeredRequest T w event with
  | some bp => recordedRequest T O bp w
  | none => O.records w

structure Advances (O : Outlook Layer View Record) (agrees : Prop) (acked : Option UInt8)
    (record : Record) (before after : FsmWorld Layer) : Prop where
  issues : ∃ acts, Issues acked before after acts ∧
    (after.fsm.state.accepted = true → Unasked acts)
  accepted : after.fsm.state.accepted = true → agrees ∨ before.fsm.state.accepted = true
  settled : after.fsm.state.settled = true → acked.isSome = true ∨ before.fsm.state.settled = true
  records : after.fsm.state.settled = true → O.records after = record
  told : O.Told before → O.Told after

section Advances

variable {O : Outlook Layer View Record} {agrees : Prop} {acked : Option UInt8}
  {record : Record} {before middle after : FsmWorld Layer}

theorem Course.advances (course : Course O agrees acked record before after) :
    Advances O agrees acked record before after where
  issues := course.issues
  accepted accepted := by
    rcases course.accepted accepted with may | same | ⟨-, earlier⟩
    · exact .inl may
    · exact .inr (same ▸ accepted)
    · exact .inr earlier
  settled := course.settled
  records := course.records
  told told inside := by
    rcases course.negotiating inside with earlier | current
    · exact course.current inside (told earlier)
    · exact current

theorem Proceeds.advances (proceeds : Proceeds O before after) :
    Advances O agrees acked (O.records before) before after :=
  proceeds.course.advances

theorem Advances.refl (O : Outlook Layer View Record) (w : FsmWorld Layer) :
    Advances O agrees acked (O.records w) w w :=
  (Course.refl O w).advances

/-- The request of the protocol may change first, if the negotiation then goes on with it. -/
theorem Course.advances_after (course : Course O agrees acked record middle after)
    (turns : Turns before middle)
    (current : after.fsm.state.negotiating = true → O.Current after) :
    Advances O agrees acked record before after where
  issues := by
    obtain ⟨early, turned, unasked⟩ := turns.issues acked
    obtain ⟨late, issues, still⟩ := course.issues
    exact ⟨early ++ late, turned.trans issues, fun accepted => unasked.append (still accepted)⟩
  accepted accepted := by
    rcases course.advances.accepted accepted with may | earlier
    · exact .inl may
    · exact .inr (turns.state ▸ earlier)
  settled settled := by
    rcases course.settled settled with acks | earlier
    · exact .inl acks
    · exact .inr (turns.state ▸ earlier)
  records := course.records
  told _ := current

theorem Advances.imp {agrees' : Prop} (advances : Advances O agrees acked record before after)
    (may : agrees → agrees') : Advances O agrees' acked record before after :=
  { advances with accepted := fun accepted => (advances.accepted accepted).imp_left may }

theorem Advances.mono (advances : Advances O agrees none record before after) :
    Advances O agrees acked record before after where
  issues := by
    obtain ⟨acts, issues, unasked⟩ := advances.issues
    exact ⟨acts, issues.mono, unasked⟩
  accepted := advances.accepted
  settled settled := .inr ((advances.settled settled).resolve_left (by simp))
  records := advances.records
  told := advances.told

end Advances

namespace Orderly

variable {T : FsmType Layer} {O : Outlook Layer View Record} (h : Orderly T O)
include h

section Answer

/-- The acknowledgement of a request. -/
theorem acknowledge (id : UInt8) (options : Bytes) (w : FsmWorld Layer) :
    Course O False (some id) (O.records w) w (fsmSendConfigAck T id options w) ∧
      (O.Current w → O.Current (fsmSendConfigAck T id options w)) := by
  have decoded : Still O w (Mpd.fsmDecodeBuffer T options .nop w) := h.decoded options w
  obtain ⟨acts, issues, plain⟩ := decoded.issues (some id)
  have log : (fsmSendConfigAck T id options w).log =
      w.log ++ (acts ++ [.output .configAck id options]) := by
    rw [← List.append_assoc, ← issues.log]
    rfl
  have unasked : Unasked (acts ++ [.output .configAck id options]) :=
    plain.append (by simp [Unasked])
  have layer := h.layer (Mpd.fsmDecodeBuffer T options .nop w) (fsmSendConfigAck T id options w) rfl
  have current := current_of_unasked log unasked (layer.1.trans decoded.request)
  have state : (fsmSendConfigAck T id options w).fsm.state = w.fsm.state := decoded.state
  refine ⟨⟨⟨_, ⟨log, ?_, ?_⟩, fun _ => unasked⟩, fun _ => .inr (.inl state), fun _ => .inl rfl,
    fun _ => layer.2.trans decoded.records, fun inside => .inl (state ▸ inside),
    fun _ => current⟩, current⟩
  · exact consecutive_append.mpr ⟨_, issues.numbers, _, rfl, rfl⟩
  · intro used payload member
    rcases List.mem_append.mp member with early | own
    · exact issues.acks used payload early
    · cases List.mem_singleton.mp own
      rfl

/-- The end of an answer that acknowledges the request. Out of Stopped it leads into a
negotiation whose own request has gone out already. -/
theorem fsmAnswered_acked (id : UInt8) {w : FsmWorld Layer}
    (ready : w.fsm.state = .stopped → O.Current w) :
    Course O False (some id) (O.records w) w (fsmAnswered T true w) := by
  unfold fsmAnswered
  split <;> rename_i state
  · exact h.enter .ackSent nofun (fun _ => .inl rfl) fun _ => .inr (ready state)
  · exact h.enter .ackSent nofun (fun _ => .inl rfl) fun _ => .inl (by rw [state]; rfl)
  · exact h.enter .ackSent nofun (fun _ => .inl rfl) fun _ => .inl (by rw [state]; rfl)
  · have opens : Course O False (some id) (O.records w) w (fsmNewState T .opened w) :=
      h.enter .opened (fun _ => .inr (.inr ⟨rfl, by rw [state]; rfl⟩)) (fun _ => .inl rfl)
        fun _ => .inl (by rw [state]; rfl)
    exact opens.proceeds (h.fsmLayerUp _)
  · exact .refl O w
  · exact .refl O w

theorem fsmAnswered_refused {w : FsmWorld Layer}
    (ready : w.fsm.state = .stopped → O.Current w) :
    Course O False none (O.records w) w (fsmAnswered T false w) := by
  unfold fsmAnswered
  split <;> rename_i state
  · exact h.enter .reqSent nofun nofun fun _ => .inr (ready state)
  · exact (h.retreat (by rw [state]; rfl)).course
  · exact .refl O w
  · exact .refl O w
  · exact (h.retreat (by rw [state]; rfl)).course
  · exact .refl O w

theorem fsmSendConfigRej (id : UInt8) (options : Bytes) (w : FsmWorld Layer) :
    Still O w (fsmSendConfigRej T id options w) := by
  have sent : Still O w (fsmOutput .configRej id options (Mpd.fsmDecodeBuffer T options .nop w)) :=
    (h.decoded options w).trans (h.output rfl (by decide) id options _)
  refine sent.trans ?_
  exact h.count rfl rfl

theorem fsmSendConfigNak (id : UInt8) (options : Bytes) (w : FsmWorld Layer) :
    Still O w (fsmSendConfigNak T id options w) := by
  have sent : Still O w (fsmOutput .configNak id options (Mpd.fsmDecodeBuffer T options .nop w)) :=
    (h.decoded options w).trans (h.output rfl (by decide) id options _)
  refine sent.trans ?_
  exact h.count rfl rfl

def ackOf (id : UInt8) (w : FsmWorld Layer) : Option UInt8 := if w.fullyAcked then some id else none

theorem fsmAnswerConfigReq (id : UInt8) {w : FsmWorld Layer}
    (ready : w.fsm.state = .stopped → O.Current w) :
    Course O False (ackOf id w) (O.records w) w (fsmAnswerConfigReq T id w) := by
  have refused {w' : FsmWorld Layer} (still : Still O w w') :
      Course O False none (O.records w) w (fsmAnswered T false w') := by
    have answered := h.fsmAnswered_refused fun stopped =>
      still.current (ready (still.state ▸ stopped))
    exact still.proceeds.course.trans answered fun settled => .inl (answered.unacked settled)
  unfold Mpd.fsmAnswerConfigReq ackOf
  cases acked : w.fullyAcked with
  | true =>
      obtain ⟨sent, current⟩ := h.acknowledge id w.ack w
      have decoded : Still O w (Mpd.fsmDecodeBuffer T w.ack .nop w) := h.decoded w.ack w
      have answered := h.fsmAnswered_acked id (w := fsmSendConfigAck T id w.ack w)
        fun stopped => current (ready (decoded.state ▸ stopped))
      simp only [if_true]
      exact sent.trans answered fun _ => .inr
        ((h.layer (Mpd.fsmDecodeBuffer T w.ack .nop w) (fsmSendConfigAck T id w.ack w) rfl).2.trans
          decoded.records)
  | false =>
      simp only [Bool.false_eq_true, if_false]
      split_ifs
      · exact (h.fsmFailure _ w).course
      · exact refused (h.fsmSendConfigRej id w.rej w)
      · exact refused (h.fsmSendConfigNak id w.nak w)

/-- The answer to a request leads out of Opened. -/
theorem fsmAnswerConfigReq_opened (id : UInt8) {w : FsmWorld Layer}
    (opened : w.fsm.state = .opened) :
    (Mpd.fsmAnswerConfigReq T id w).fsm.state.accepted = false := by
  have leaves (fullyAcked : Bool) {w' : FsmWorld Layer} (state : w'.fsm.state = w.fsm.state) :
      (fsmAnswered T fullyAcked w').fsm.state.accepted = false := by
    unfold fsmAnswered
    cases fullyAcked <;> simp [state, opened, FsmState.accepted]
  unfold Mpd.fsmAnswerConfigReq
  split_ifs
  · exact leaves true (h.decoded w.ack w).state
  · exact (FsmState.outside (h.outside_fsmShutDown _)).1
  · exact leaves false (h.fsmSendConfigRej id w.rej w).state
  · exact leaves false (h.fsmSendConfigNak id w.nak w).state

theorem unsettled_of_refused (id : UInt8) {w : FsmWorld Layer} (refused : w.fullyAcked = false) :
    (Mpd.fsmAnswerConfigReq T id w).fsm.state.settled = false := by
  have leaves (w' : FsmWorld Layer) : (fsmAnswered T false w').fsm.state.settled = false := by
    unfold fsmAnswered
    cases state : w'.fsm.state <;> simp [state, FsmState.settled]
  unfold Mpd.fsmAnswerConfigReq
  simp only [refused, Bool.false_eq_true, if_false]
  split_ifs
  · exact (FsmState.outside (h.outside_fsmShutDown _)).2
  · exact leaves _
  · exact leaves _

/-- The answer to a request in Opened, before which a request of its own goes out while the
state is still Opened. -/
theorem answer_opened (id : UInt8) {w : FsmWorld Layer} (opened : w.fsm.state = .opened) :
    Course O False (ackOf id (fsmRenegotiate T w)) (O.records w) w
      (Mpd.fsmAnswerConfigReq T id (fsmRenegotiate T w)) := by
  have renegotiates : fsmRenegotiate T w = Mpd.fsmSendConfigReq T (Mpd.fsmLayerDown T w) := by
    simp [fsmRenegotiate, opened]
  rw [renegotiates]
  have down := h.fsmLayerDown w
  have kept := h.records_fsmLayerDown w
  generalize Mpd.fsmLayerDown T w = lowered at down kept
  have current := h.current_fsmSendConfigReq lowered
  have answer := h.fsmAnswerConfigReq id fun _ => current
  have records : O.records (Mpd.fsmSendConfigReq T lowered) = O.records w :=
    (h.asked none lowered).2.2.1.trans kept
  rw [records] at answer
  generalize ackOf id (Mpd.fsmSendConfigReq T lowered) = acked at answer ⊢
  cases outside : lowered.fsm.state.accepted with
  | false =>
      have sent : Course O False acked (O.records w) w (Mpd.fsmSendConfigReq T lowered) :=
        (down.trans (h.fsmSendConfigReq outside)).course
      refine sent.trans ?_ fun _ => .inr records
      rw [records]
      exact answer
  | true =>
      have same : lowered.fsm.state = .opened := (down.accepted outside).trans opened
      obtain ⟨⟨asks, asked⟩, state, -⟩ := h.asked acked lowered
      obtain ⟨early, issues, -⟩ := down.issues
      obtain ⟨late, answers, -⟩ := answer.issues
      have left := h.fsmAnswerConfigReq_opened id (state.trans same)
      refine ⟨⟨early ++ asks ++ late, (issues.mono.trans asked).trans answers, fun accepted => ?_⟩,
        fun accepted => ?_, fun _ => .inr (by rw [opened]; rfl), answer.records,
        fun _ => .inl (by rw [opened]; rfl), fun inside _ => answer.current inside current⟩
      · rw [left] at accepted
        cases accepted
      · rw [left] at accepted
        cases accepted

theorem answer (id : UInt8) (w : FsmWorld Layer) :
    Course O False (ackOf id (fsmRenegotiate T w)) (O.records w) w
      (Mpd.fsmAnswerConfigReq T id (fsmRenegotiate T w)) := by
  cases state : w.fsm.state with
  | opened => exact h.answer_opened id state
  | stopped =>
      have started : Still O w (Mpd.fsmInitCounters (Mpd.fsmLayerStart T w)) :=
        (h.fsmLayerStart w).trans (h.fsmInitCounters _)
      have sent := started.proceeds.trans
        (h.fsmSendConfigReq (started.proceeds.not_accepted (by rw [state]; rfl)))
      have records : O.records (Mpd.fsmSendConfigReq T (Mpd.fsmInitCounters
          (Mpd.fsmLayerStart T w))) = O.records w :=
        (h.asked none _).2.2.1.trans started.records
      have renegotiates : fsmRenegotiate T w =
          Mpd.fsmSendConfigReq T (Mpd.fsmInitCounters (Mpd.fsmLayerStart T w)) := by
        simp [fsmRenegotiate, state]
      rw [renegotiates]
      exact sent.course.trans (h.fsmAnswerConfigReq id fun _ => h.current_fsmSendConfigReq _)
        fun _ => .inr records
  | _ =>
      have same : fsmRenegotiate T w = w := by simp [fsmRenegotiate, state]
      rw [same]
      exact h.fsmAnswerConfigReq id fun stopped => nomatch state.symm.trans stopped

end Answer

section Steps

theorem fsmOpen (w : FsmWorld Layer) : Advances O False none (O.records w) w (fsmOpen T w) := by
  unfold Mpd.fsmOpen
  split
  · exact ((h.leave rfl w).trans (h.fsmLayerStart _).proceeds).advances
  · have started := (h.fsmLayerStart (fsmNewState T .reqSent (Mpd.fsmConfigure T w))).trans
      (h.fsmInitCounters _)
    exact (h.restarted started.proceeds).advances_after (h.fsmConfigure w)
      fun _ => h.current_fsmSendConfigReq _
  · exact (h.leave rfl w).advances
  · exact .refl O w

theorem fsmUp (w : FsmWorld Layer) : Advances O False none (O.records w) w (fsmUp T w) := by
  unfold Mpd.fsmUp
  split
  · exact (h.leave rfl w).advances
  · have started := h.fsmInitCounters (fsmNewState T .reqSent (Mpd.fsmConfigure T w))
    exact (h.restarted started.proceeds).advances_after (h.fsmConfigure w)
      fun _ => h.current_fsmSendConfigReq _
  · exact .refl O w

/-- The request is sent again once more of the protocol is known. -/
theorem retried {w middle : FsmWorld Layer} (turns : Turns w middle)
    (kept : O.records middle = O.records w) (outside : middle.fsm.state.accepted = false)
    (max : Int) :
    Advances O False none (O.records w) w
      (Mpd.fsmSendConfigReq T (Mpd.fsmInitRestartCounter max middle)) := by
  have again := h.fsmInitRestartCounter max middle
  have sent := again.proceeds.trans (h.fsmSendConfigReq (again.state ▸ outside))
  rw [← kept]
  exact sent.course.advances_after turns fun _ => h.current_fsmSendConfigReq _

theorem failed {w middle : FsmWorld Layer} (turns : Turns w middle)
    (kept : O.records middle = O.records w) (reason : FsmFail) :
    Advances O False none (O.records w) w (Mpd.fsmFailure T reason middle) := by
  rw [← kept]
  refine (h.fsmFailure reason middle).course.advances_after turns fun inside => ?_
  have outside : (Mpd.fsmFailure T reason middle).fsm.state.negotiating = false :=
    h.outside_fsmShutDown _
  rw [outside] at inside
  cases inside

theorem fsmProcessConfigNak (bp : Bytes) (w : FsmWorld Layer) :
    Advances O False none (O.records w) w (fsmProcessConfigNak T bp w) := by
  have turns := h.fsmDecodeBuffer bp .nak w
  have kept := h.records_fsmDecodeBuffer bp (by decide : FsmMode.nak ≠ .req) w
  unfold Mpd.fsmProcessConfigNak
  generalize Mpd.fsmDecodeBuffer T bp .nak w = middle at turns kept
  dsimp only
  split_ifs
  · exact h.failed turns kept _
  · split <;> rename_i state
    · exact h.retried turns kept (by rw [state]; rfl) _
    · exact h.retried turns kept (by rw [state]; rfl) _
    · have again : Course O False none (O.records (Mpd.fsmLayerDown T middle))
          (Mpd.fsmLayerDown T middle)
          (Mpd.fsmSendConfigReq T (fsmNewState T .reqSent (Mpd.fsmLayerDown T middle))) :=
        h.restarted (.refl O _)
      have lowered : Course O False none (O.records middle) middle (Mpd.fsmLayerDown T middle) :=
        (h.fsmLayerDown middle).course
      have course := lowered.trans again fun settled => .inl (again.unacked settled)
      rw [← kept]
      exact course.advances_after turns fun _ => h.current_fsmSendConfigReq _
    · exact (h.restarted (.refl O _)).advances_after turns fun _ => h.current_fsmSendConfigReq _
    · refine (turns.proceeds ?_).advances
      rw [← turns.state]
      cases found : middle.fsm.state <;> simp_all [FsmState.negotiating]

theorem fsmProcessConfigRej (bp : Bytes) (w : FsmWorld Layer) :
    Advances O False none (O.records w) w (fsmProcessConfigRej T bp w) := by
  have turns := h.fsmDecodeBuffer bp .rej w
  have kept := h.records_fsmDecodeBuffer bp (by decide : FsmMode.rej ≠ .req) w
  unfold Mpd.fsmProcessConfigRej
  generalize Mpd.fsmDecodeBuffer T bp .rej w = middle at turns kept
  dsimp only
  split_ifs
  · exact h.failed turns kept _
  · split <;> rename_i state
    · exact h.retried turns kept (by rw [state]; rfl) _
    · exact h.retried turns kept (by rw [state]; rfl) _
    · exact (h.restarted (h.fsmLayerDown _)).advances_after turns
        fun _ => h.current_fsmSendConfigReq _
    · exact (h.restarted (.refl O _)).advances_after turns fun _ => h.current_fsmSendConfigReq _
    · refine (turns.proceeds ?_).advances
      rw [← turns.state]
      cases found : middle.fsm.state <;> simp_all [FsmState.negotiating]

theorem fsmRecvConfigNak (id : UInt8) (bp : Bytes) (w : FsmWorld Layer) :
    Advances O False none (O.records w) w (fsmRecvConfigNak T id bp w) := by
  unfold Mpd.fsmRecvConfigNak
  split_ifs
  · exact .refl O w
  · split
    · exact .refl O w
    · exact .refl O w
    · exact (h.fsmSendTerminateAck w).advances
    · exact (h.fsmSendTerminateAck w).advances
    · exact .refl O w
    · exact .refl O w
    · exact h.fsmProcessConfigNak bp w

theorem fsmRecvConfigRej (id : UInt8) (bp : Bytes) (w : FsmWorld Layer) :
    Advances O False none (O.records w) w (fsmRecvConfigRej T id bp w) := by
  unfold Mpd.fsmRecvConfigRej
  split_ifs
  · exact .refl O w
  · split
    · exact .refl O w
    · exact .refl O w
    · exact (h.fsmSendTerminateAck w).advances
    · exact (h.fsmSendTerminateAck w).advances
    · exact .refl O w
    · exact .refl O w
    · exact h.fsmProcessConfigRej bp w

theorem fsmRecvConfigAck (id : UInt8) (bp : Bytes) (w : FsmWorld Layer) :
    Advances O (id = w.fsm.reqid - 1) none (O.records w) w (fsmRecvConfigAck T id bp w) := by
  unfold Mpd.fsmRecvConfigAck
  split_ifs with other
  · exact .refl O w
  · have fresh : id = w.fsm.reqid - 1 := not_not.mp other
    have decoded := h.decoded bp w
    generalize Mpd.fsmDecodeBuffer T bp .nop w = middle at decoded
    rw [← decoded.records]
    refine Course.advances (Course.after ?_ decoded.toSteady)
    dsimp only
    split <;> rename_i state
    · exact (h.fsmSendTerminateAck middle).course
    · exact (h.fsmSendTerminateAck middle).course
    · have received : Course O (id = w.fsm.reqid - 1) none (O.records middle) middle
          (fsmNewState T .ackRcvd middle) :=
        h.enter .ackRcvd (fun _ => .inl fresh) nofun fun _ => .inl (by rw [state]; rfl)
      exact (received.proceeds (h.fsmInitCounters _).proceeds).proceeds (h.timerStart _).proceeds
    · exact h.restarted (.refl O _)
    · have opens : Course O (id = w.fsm.reqid - 1) none (O.records middle) middle
          (fsmNewState T .opened middle) :=
        h.enter .opened (fun _ => .inl fresh) (fun _ => .inr (by rw [state]; rfl))
          fun _ => .inl (by rw [state]; rfl)
      exact (opens.proceeds (h.fsmInitCounters _).proceeds).proceeds (h.fsmLayerUp _)
    · exact h.restarted (h.fsmLayerDown _)
    · exact .refl O middle

theorem fsmRecvConfigReq (id : UInt8) (bp : Bytes) (w : FsmWorld Layer) :
    Advances O False (if w.fsm.state.answersConfigReq ∧ (configReqDecoded T bp w).fullyAcked then
      some id else none) (if w.fsm.state.answersConfigReq then recordedRequest T O bp w else
      O.records w) w (fsmRecvConfigReq T id bp w) := by
  cases answers : w.fsm.state.answersConfigReq with
  | false =>
      simp only [Bool.false_eq_true, false_and, if_false]
      unfold Mpd.fsmRecvConfigReq
      cases state : w.fsm.state with
      | closed => exact (h.fsmSendTerminateAck w).advances
      | initial => exact .refl O w
      | starting => exact .refl O w
      | closing => exact .refl O w
      | stopping => exact .refl O w
      | _ => simp [state, FsmState.answersConfigReq] at answers
  | true =>
      have decoded := h.decodedRequest bp (configReqStart T w)
      have course : Course O False (ackOf id (configReqDecoded T bp w)) (recordedRequest T O bp w)
          (configReqStart T w) (Mpd.fsmAnswerConfigReq T id (configReqDecoded T bp w)) :=
        (h.answer id _).after decoded
      simp only [true_and, if_true]
      rw [fsmRecvConfigReq_of_answers answers]
      by_cases stopped : w.fsm.state = .stopped
      · have configured : configReqStart T w = Mpd.fsmConfigure T w := by
          simp [configReqStart, stopped]
        have turns : Turns w (configReqStart T w) := configured ▸ h.fsmConfigure w
        refine course.advances_after turns (course.current_of_outside ?_)
        rw [turns.state, stopped]
        rfl
      · have same : configReqStart T w = w := by simp [configReqStart, stopped]
        rw [same] at course
        exact course.advances

theorem fsmAction (junk : Nat → UInt8) {code : FsmCode} (request : code ≠ .configReq)
    (id : UInt8) (bp : Bytes) (w : FsmWorld Layer) :
    Advances O (code = .configAck ∧ id = w.fsm.reqid - 1) none (O.records w) w
      (fsmAction T junk code id bp w) := by
  have checked := h.fsmCheckMagic junk bp w
  cases code with
  | vendor => exact (checked.trans (h.recvVendor _ _)).advances
  | configReq => exact absurd rfl request
  | configAck => exact (h.fsmRecvConfigAck id bp w).imp fun fresh => ⟨rfl, fresh⟩
  | configNak => exact (h.fsmRecvConfigNak id bp w).imp False.elim
  | configRej => exact (h.fsmRecvConfigRej id bp w).imp False.elim
  | termReq => exact (h.fsmRecvTermReq w).advances
  | termAck => exact (h.fsmRecvTermAck w).advances.imp False.elim
  | codeRej => exact (h.fsmRecvCodeRej bp w).advances
  | protoRej => exact (h.fsmRecvProtoRej bp w).advances
  | echoReq => exact (h.fsmRecvEchoReq junk id bp w).advances
  | echoRep => exact checked.advances
  | discReq => exact (checked.trans (h.recvDiscReq _ _)).advances
  | ident => exact (checked.trans (h.recvIdent _ _)).advances
  | timeRem => exact (checked.trans (h.recvTimeRemain _ _)).advances
  | resetReq => exact (h.recvResetReq id bp w).advances
  | resetAck => exact (h.recvResetAck id bp w).advances

theorem fsmSendCodeRej (bp : Bytes) (w : FsmWorld Layer) : Proceeds O w (fsmSendCodeRej bp w) := by
  have counted : Still O w { w with fsm := { w.fsm with rejid := w.fsm.rejid + 1 } } :=
    h.count rfl rfl
  exact (counted.trans (h.output rfl (by decide) _ _ _)).proceeds

theorem fsmInput (junk : Nat → UInt8) (packet : Bytes) (w : FsmWorld Layer) :
    Advances O (bringsAck T w (.input junk packet)) (acknowledgedId T w (.input junk packet))
      (recordedBy T O w (.input junk packet)) w (fsmInput T junk packet w) := by
  unfold Mpd.fsmInput
  cases header : readHeader packet with
  | none =>
      have records : recordedBy T O w (.input junk packet) = O.records w := by
        simp [recordedBy, answeredRequest, header]
      rw [records]
      exact .refl O w
  | some read =>
      obtain ⟨code, id, bp⟩ := read
      dsimp only
      cases known : T.knownCode? code with
      | none =>
          have records : recordedBy T O w (.input junk packet) = O.records w := by
            simp [recordedBy, answeredRequest, header, known]
          rw [records]
          exact (h.fsmSendCodeRej bp w).advances
      | some row =>
          by_cases request : row = .configReq
          · subst request
            have step := h.fsmRecvConfigReq id bp w
            have acked : acknowledgedId T w (.input junk packet) =
                if w.fsm.state.answersConfigReq ∧ (configReqDecoded T bp w).fullyAcked then some id
                else none := by
              simp only [acknowledgedId, acknowledgedRequest, answeredRequest, header, known]
              by_cases answers : w.fsm.state.answersConfigReq = true <;> simp [answers]
            have records : recordedBy T O w (.input junk packet) =
                if w.fsm.state.answersConfigReq then recordedRequest T O bp w
                else O.records w := by
              simp only [recordedBy, answeredRequest, header, known]
              by_cases answers : w.fsm.state.answersConfigReq = true <;> simp [answers]
            rw [acked, records]
            exact step.imp False.elim
          · have records : recordedBy T O w (.input junk packet) = O.records w := by
              simp [recordedBy, answeredRequest, header, known, request]
            rw [records]
            refine ((h.fsmAction junk request id bp w).imp fun newest => ?_).mono
            exact ⟨junk, packet, code, id, bp, rfl, header, newest.1 ▸ known, newest.2⟩

/-- Any step of the FSM. -/
theorem fsmStep (event : FsmEvent) (w : FsmWorld Layer) :
    Advances O (bringsAck T w event) (acknowledgedId T w event) (recordedBy T O w event) w
      (fsmStep T w event) := by
  cases event with
  | «open» => exact (h.fsmOpen w).imp False.elim
  | close => exact (h.fsmClose w).advances
  | up => exact (h.fsmUp w).imp False.elim
  | down => exact (h.fsmDown w).advances
  | failure reason => exact (h.fsmFailure reason w).advances
  | timeout =>
      unfold Mpd.fsmStep
      dsimp only
      split_ifs
      · have expired := h.fsmTimeout w.timerStop
        have stopped : Course O False none (O.records w) w w.timerStop :=
          (h.timerStop w).proceeds.course
        exact (stopped.trans expired fun settled =>
          .inl (expired.unacked settled)).advances.imp False.elim
      · exact .refl O w
  | echoTimeout bund traffic =>
      unfold Mpd.fsmStep
      dsimp only
      split_ifs
      · exact (h.fsmEchoTimeout bund traffic w).advances
      · exact .refl O w
  | input junk packet => exact h.fsmInput junk packet w
  | sendResetReq ct =>
      cases ct with
      | none => exact .refl O w
      | some bp => exact (h.number .resetReq rfl (by decide) bp w).advances
  | sendIdent ident => exact (h.fsmSendInformation rfl (by decide) _ w).advances
  | sendTimeRemaining seconds => exact (h.fsmSendInformation rfl (by decide) _ w).advances
  | setKeepAlive interval max =>
      have kept : Still O w (Mpd.fsmStep T w (.setKeepAlive interval max)) := h.count rfl rfl
      exact kept.proceeds.advances

theorem unsettled_fsmStep {event : FsmEvent} {w : FsmWorld Layer} {bp : Bytes}
    (answered : answeredRequest T w event = some bp)
    (refused : acknowledgedRequest T w event = none) :
    (Mpd.fsmStep T w event).fsm.state.settled = false := by
  obtain ⟨id, stepped⟩ := fsmStep_of_answered answered
  rw [stepped]
  refine h.unsettled_of_refused id (Bool.eq_false_iff.mpr fun acked => ?_)
  simp [acknowledgedRequest, answered, acked] at refused

end Steps

end Orderly

end Mpd
