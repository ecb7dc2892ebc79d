import Mpd.Fsm.Preservation

/-! What a Configure-Ack carries, for a protocol that looks at the options of a
request one by one and acknowledges, naks or rejects each of them. -/

set_option autoImplicit false

namespace Mpd

variable {Layer : Type}

def newActs (before after : FsmWorld Layer) : List FsmAct := after.log.drop before.log.length

def Unacknowledged (before after : FsmWorld Layer) : Prop :=
  ∃ acts, after.log = before.log ++ acts ∧ ∀ act ∈ acts, act.Quiet

structure Silent (before after : FsmWorld Layer) : Prop where
  ack : after.ack = before.ack
  nak : after.nak = before.nak
  rej : after.rej = before.rej
  log : Unacknowledged before after

theorem Unacknowledged.refl (w : FsmWorld Layer) : Unacknowledged w w := ⟨[], by simp, by simp⟩

theorem Unacknowledged.trans {first second third : FsmWorld Layer}
    (left : Unacknowledged first second) (right : Unacknowledged second third) :
    Unacknowledged first third := by
  obtain ⟨early, earlyLog, earlyQuiet⟩ := left
  obtain ⟨late, lateLog, lateQuiet⟩ := right
  refine ⟨early ++ late, by rw [lateLog, earlyLog, List.append_assoc], ?_⟩
  intro act member
  rcases List.mem_append.mp member with early | late
  · exact earlyQuiet act early
  · exact lateQuiet act late

theorem Silent.refl (w : FsmWorld Layer) : Silent w w := ⟨rfl, rfl, rfl, .refl w⟩

theorem Silent.trans {first second third : FsmWorld Layer} (left : Silent first second)
    (right : Silent second third) : Silent first third :=
  ⟨right.ack.trans left.ack, right.nak.trans left.nak, right.rej.trans left.rej,
    left.log.trans right.log⟩

theorem silent_emit {act : FsmAct} (quiet : act.Quiet) (w : FsmWorld Layer) :
    Silent w (w.emit act) :=
  ⟨rfl, rfl, rfl, [act], rfl, by simpa using quiet⟩

/-- A call that touches neither the buffers nor the record. -/
theorem silent_of_same {before after : FsmWorld Layer} (ack : after.ack = before.ack)
    (nak : after.nak = before.nak) (rej : after.rej = before.rej)
    (log : after.log = before.log) : Silent before after :=
  ⟨ack, nak, rej, [], by simp [log], by simp⟩

theorem Silent.fullyAcked {before after : FsmWorld Layer} (silent : Silent before after) :
    after.fullyAcked = before.fullyAcked := by
  simp only [FsmWorld.fullyAcked, silent.nak, silent.rej]

theorem not_mem_newActs_of_unacknowledged {before after : FsmWorld Layer}
    (silent : Unacknowledged before after) (id : UInt8) (payload : Bytes) :
    FsmAct.output .configAck id payload ∉ newActs before after := by
  obtain ⟨acts, log, quiet⟩ := silent
  intro member
  rw [newActs, log, List.drop_left] at member
  exact quiet _ member id payload rfl

section Extraction

/-- What `FsmExtractOptions` found and what it left make up the buffer. -/
theorem fsmExtractOptions_bytes (max : Nat) (buf : Bytes) :
    (fsmExtractOptions max buf).1.flatMap FsmOption.bytes ++ (fsmExtractOptions max buf).2 =
      buf := by
  induction max generalizing buf with
  | zero => simp [fsmExtractOptions]
  | succ max ih =>
      match buf with
      | [] => simp [fsmExtractOptions]
      | [type] => simp [fsmExtractOptions]
      | type :: length :: data =>
          unfold fsmExtractOptions
          split_ifs with sized
          · rfl
          · have enough : length.toNat - 2 ≤ data.length := by omega
            have counted : UInt8.ofNat (length.toNat - 2 + 2) = length := by
              rw [Nat.sub_add_cancel (by omega), UInt8.ofNat_toNat]
            have rest := ih (data.drop (length.toNat - 2))
            simp only [List.flatMap_cons, FsmOption.bytes, FsmOption.len, List.length_take,
              Nat.min_eq_left enough, counted, List.cons_append, List.append_assoc, rest,
              List.take_append_drop]

def fsmAppend (buf : Bytes) (option : FsmOption) : Bytes :=
  if buf.length + option.len > fsmBufferSize then buf else buf ++ option.bytes

theorem fsmAck_eq (option : FsmOption) (w : FsmWorld Layer) :
    fsmAck option w = { w with ack := fsmAppend w.ack option } := by
  unfold fsmAck fsmAppend
  split_ifs <;> rfl

theorem fsmNak_eq (option : FsmOption) (w : FsmWorld Layer) :
    fsmNak option w = { w with nak := fsmAppend w.nak option } := by
  unfold fsmNak fsmAppend
  split_ifs <;> rfl

theorem fsmRej_eq (option : FsmOption) (w : FsmWorld Layer) :
    fsmRej option w = { w with rej := fsmAppend w.rej option } := by
  unfold fsmRej fsmAppend
  split_ifs <;> rfl

/-- An option always fits into an empty buffer, and leaves no buffer empty. -/
theorem fsmAppend_ne_nil (buf : Bytes) (option : FsmOption) : fsmAppend buf option ≠ [] := by
  have bounded := option.len_lt
  unfold fsmAppend fsmBufferSize
  split_ifs with full
  · intro empty
    simp only [empty, List.length_nil] at full
    omega
  · simp [FsmOption.bytes]

theorem length_fsmAppend {buf : Bytes} (bounded : buf.length ≤ fsmBufferSize)
    (option : FsmOption) : (fsmAppend buf option).length ≤ fsmBufferSize := by
  unfold fsmAppend
  split_ifs with full
  · exact bounded
  · rw [List.length_append, FsmOption.length_bytes]
    omega

theorem length_foldl_fsmAppend (options : List FsmOption) {buf : Bytes}
    (bounded : buf.length ≤ fsmBufferSize) :
    (options.foldl fsmAppend buf).length ≤ fsmBufferSize := by
  induction options generalizing buf with
  | nil => exact bounded
  | cons option options ih => exact ih (length_fsmAppend bounded option)

/-- Options that fit together are all appended. -/
theorem foldl_fsmAppend_of_fits (options : List FsmOption) {buf : Bytes}
    (fits : buf.length + (options.flatMap FsmOption.bytes).length ≤ fsmBufferSize) :
    options.foldl fsmAppend buf = buf ++ options.flatMap FsmOption.bytes := by
  induction options generalizing buf with
  | nil => simp
  | cons option options ih =>
      rw [List.flatMap_cons, List.length_append, FsmOption.length_bytes] at fits
      have appended : fsmAppend buf option = buf ++ option.bytes := by
        unfold fsmAppend
        rw [if_neg (by omega)]
      have rest : (buf ++ option.bytes).length +
          (options.flatMap FsmOption.bytes).length ≤ fsmBufferSize := by
        rw [List.length_append, FsmOption.length_bytes]
        omega
      rw [List.foldl_cons, appended, ih rest, List.flatMap_cons, List.append_assoc]

theorem foldl_fsmAppend_nil (options : List FsmOption)
    (fits : (options.flatMap FsmOption.bytes).length ≤ fsmBufferSize) :
    options.foldl fsmAppend [] = options.flatMap FsmOption.bytes :=
  foldl_fsmAppend_of_fits options (by simpa using fits)

/-- The acknowledged options make up the buffer again exactly when the extractor
left nothing of it and all of it fits into the option buffer. -/
theorem foldl_fsmAppend_eq_iff (max : Nat) (buf : Bytes) :
    (fsmExtractOptions max buf).1.foldl fsmAppend [] = buf ↔
      (fsmExtractOptions max buf).2 = [] ∧ buf.length ≤ fsmBufferSize := by
  have whole := fsmExtractOptions_bytes max buf
  have sizes := congrArg List.length whole
  rw [List.length_append] at sizes
  constructor
  · intro same
    have bounded : buf.length ≤ fsmBufferSize := by
      rw [← same]
      exact length_foldl_fsmAppend _ (Nat.zero_le _)
    have appended := foldl_fsmAppend_nil (fsmExtractOptions max buf).1 (by omega)
    rw [same] at appended
    refine ⟨?_, bounded⟩
    rw [← appended] at whole
    simpa using whole
  · rintro ⟨nothing, bounded⟩
    have appended := foldl_fsmAppend_nil (fsmExtractOptions max buf).1 (by omega)
    rw [nothing, List.append_nil] at whole
    rw [appended, whole]

end Extraction

/-- How a protocol answers the options of a request: which of them it acknowledges,
what it records of those, and that it naks or rejects the others. -/
structure AnswersOptions
    (decodeConfig : List FsmOption → FsmMode → FsmWorld Layer → FsmWorld Layer) where
  start : FsmWorld Layer → FsmWorld Layer
  answer : FsmOption → FsmWorld Layer → FsmWorld Layer
  acks : Layer → FsmOption → Bool
  record : FsmOption → Layer → Layer
  decode : ∀ options w,
    decodeConfig options .req w = options.foldl (fun w option => answer option w) (start w)
  startSilent : ∀ w, Silent w (start w)
  acked : ∀ option w, acks w.layer option = true →
    answer option w = fsmAck option { w with layer := record option w.layer }
  refused : ∀ option w, acks w.layer option = false →
    (∃ other, answer option w = fsmNak other w) ∨ ∃ other, answer option w = fsmRej other w
  stable : ∀ option l other, acks l option = true → acks (record option l) other = acks l other

namespace AnswersOptions

variable {decodeConfig : List FsmOption → FsmMode → FsmWorld Layer → FsmWorld Layer}
  (A : AnswersOptions decodeConfig)

def answerAll (options : List FsmOption) (w : FsmWorld Layer) : FsmWorld Layer :=
  options.foldl (fun w option => A.answer option w) w

/-- A refused option is in one of the two buffers. -/
theorem not_fullyAcked_answer {option : FsmOption} {w : FsmWorld Layer}
    (refused : A.acks w.layer option = false) :
    (A.answer option w).fullyAcked = false ∧ (A.answer option w).log = w.log := by
  rcases A.refused option w refused with ⟨other, same⟩ | ⟨other, same⟩
  · rw [same, fsmNak_eq]
    simp [FsmWorld.fullyAcked, fsmAppend_ne_nil]
  · rw [same, fsmRej_eq]
    simp [FsmWorld.fullyAcked, fsmAppend_ne_nil]

/-- What is in the two buffers stays there. -/
theorem not_fullyAcked_answerAll (options : List FsmOption) {w : FsmWorld Layer}
    (already : w.fullyAcked = false) : (A.answerAll options w).fullyAcked = false := by
  induction options generalizing w with
  | nil => exact already
  | cons option options ih =>
      refine ih (?_ : (A.answer option w).fullyAcked = false)
      cases verdict : A.acks w.layer option with
      | true =>
          rw [A.acked option w verdict, fsmAck_eq]
          exact already
      | false => exact (A.not_fullyAcked_answer verdict).1

theorem log_answerAll (options : List FsmOption) (w : FsmWorld Layer) :
    (A.answerAll options w).log = w.log := by
  induction options generalizing w with
  | nil => rfl
  | cons option options ih =>
      refine (ih (A.answer option w)).trans ?_
      cases verdict : A.acks w.layer option with
      | true => rw [A.acked option w verdict, fsmAck_eq]
      | false => exact (A.not_fullyAcked_answer verdict).2

/-- All options are acknowledged: they are recorded and appended in their order. -/
theorem answerAll_of_acks {options : List FsmOption} {w : FsmWorld Layer}
    (acked : ∀ option ∈ options, A.acks w.layer option = true) :
    A.answerAll options w = { w with
      layer := options.foldl (fun l option => A.record option l) w.layer
      ack := options.foldl fsmAppend w.ack } := by
  induction options generalizing w with
  | nil => rfl
  | cons option options ih =>
      have first := acked option List.mem_cons_self
      have rest : ∀ other ∈ options, A.acks (A.record option w.layer) other = true := by
        intro other member
        rw [A.stable option w.layer other first]
        exact acked other (List.mem_cons_of_mem option member)
      have one := A.acked option w first
      rw [fsmAck_eq] at one
      have others := ih (w := A.answer option w) (by rw [one]; exact rest)
      refine others.trans ?_
      rw [one]
      rfl

/-- A request is fully acknowledged when each of its options is. -/
theorem fullyAcked_answerAll {options : List FsmOption} {w : FsmWorld Layer}
    (fresh : w.fullyAcked = true) :
    (A.answerAll options w).fullyAcked = true ↔
      ∀ option ∈ options, A.acks w.layer option = true := by
  constructor
  · induction options generalizing w with
    | nil => simp
    | cons option options ih =>
        intro all
        cases verdict : A.acks w.layer option with
        | false =>
            have stuck := A.not_fullyAcked_answerAll options (A.not_fullyAcked_answer verdict).1
            have result : (A.answerAll options (A.answer option w)).fullyAcked = true := all
            rw [stuck] at result
            exact nomatch result
        | true =>
            have one := A.acked option w verdict
            rw [fsmAck_eq] at one
            have rest := ih (w := A.answer option w) (by rw [one]; exact fresh) all
            intro other member
            rcases List.mem_cons.mp member with rfl | later
            · exact verdict
            · have acks := rest other later
              rw [one] at acks
              exact (A.stable option w.layer other verdict).symm.trans acks
  · intro acked
    rw [A.answerAll_of_acks acked]
    exact fresh

def begin (w : FsmWorld Layer) : FsmWorld Layer :=
  A.start { w with ack := [], nak := [], rej := [] }

/-- The protocol acknowledges every option of the request. -/
def acksAll (bp : Bytes) (w : FsmWorld Layer) : Prop :=
  ∀ option ∈ (fsmExtractOptions fsmMaxOpts bp).1, A.acks (A.begin w).layer option = true

theorem begin_silent (w : FsmWorld Layer) :
    Silent { w with ack := [], nak := [], rej := [] } (A.begin w) :=
  A.startSilent _

end AnswersOptions

namespace AnswersOptions

variable {T : FsmType Layer} (A : AnswersOptions T.decodeConfig)

theorem fsmDecodeBuffer_eq (bp : Bytes) (w : FsmWorld Layer) :
    fsmDecodeBuffer T bp .req w = A.answerAll (fsmExtractOptions fsmMaxOpts bp).1 (A.begin w) := by
  simp only [fsmDecodeBuffer, if_true, A.decode]
  rfl

theorem fullyAcked_fsmDecodeBuffer (bp : Bytes) (w : FsmWorld Layer) :
    (fsmDecodeBuffer T bp .req w).fullyAcked = true ↔ A.acksAll bp w := by
  rw [A.fsmDecodeBuffer_eq]
  refine A.fullyAcked_answerAll ?_
  rw [(A.begin_silent w).fullyAcked]
  rfl

/-- The acknowledgement buffer of a request that is fully acknowledged. -/
theorem ack_fsmDecodeBuffer {bp : Bytes} {w : FsmWorld Layer} (acked : A.acksAll bp w) :
    (fsmDecodeBuffer T bp .req w).ack =
      (fsmExtractOptions fsmMaxOpts bp).1.foldl fsmAppend [] := by
  rw [A.fsmDecodeBuffer_eq, A.answerAll_of_acks acked]
  change List.foldl fsmAppend (A.begin w).ack _ = _
  rw [(A.begin_silent w).ack]

include A in
theorem unacknowledged_fsmDecodeBuffer (bp : Bytes) (w : FsmWorld Layer) :
    Unacknowledged w (fsmDecodeBuffer T bp .req w) := by
  obtain ⟨acts, log, quiet⟩ := (A.begin_silent w).log
  refine ⟨acts, ?_, quiet⟩
  rw [A.fsmDecodeBuffer_eq, A.log_answerAll]
  exact log

end AnswersOptions

section Answer

variable {T : FsmType Layer} (A : AnswersOptions T.decodeConfig) (h : Respects T False (fun _ => True) Silent)
include h

/-- The one Configure-Ack that answers a fully acknowledged request. -/
theorem log_fsmAnswerConfigReq (id : UInt8) {w : FsmWorld Layer} (acked : w.fullyAcked = true) :
    ∃ early late, (fsmAnswerConfigReq T id w).log =
        w.log ++ early ++ .output .configAck id w.ack :: late ∧
      (∀ act ∈ early, act.Quiet) ∧ ∀ act ∈ late, act.Quiet := by
  simp only [fsmAnswerConfigReq, acked, if_true]
  obtain ⟨early, earlyLog, earlyQuiet⟩ :=
    (h.fsmDecodeBuffer w.ack (by simp : FsmMode.nop ≠ .req) w).related.log
  obtain ⟨late, lateLog, lateQuiet⟩ :=
    (h.fsmAnswered true (fsmSendConfigAck T id w.ack w) fun _ _ => trivial).log
  refine ⟨early, late, ?_, earlyQuiet, lateQuiet⟩
  rw [lateLog]
  change (fsmDecodeBuffer T w.ack .nop w).log ++ [.output .configAck id w.ack] ++ late = _
  rw [earlyLog]
  simp

theorem unacknowledged_fsmRecvConfigReq (id : UInt8) (bp : Bytes) {w : FsmWorld Layer}
    (idle : w.fsm.state.answersConfigReq = false) :
    Unacknowledged w (fsmRecvConfigReq T id bp w) := by
  unfold fsmRecvConfigReq
  cases state : w.fsm.state with
  | initial => exact .refl w
  | starting => exact .refl w
  | closed => exact (h.fsmSendTerminateAck w).related.log
  | closing => exact .refl w
  | stopping => exact .refl w
  | _ => simp [state, FsmState.answersConfigReq] at idle

/-- The Configure-Acks that answer a request: none, unless the FSM is in a state to
answer and every option is acknowledged; then one, with what the buffer holds. -/
theorem configAck_mem_newActs_iff (id id' : UInt8) (bp payload : Bytes) (w : FsmWorld Layer) :
    FsmAct.output .configAck id' payload ∈ newActs w (fsmRecvConfigReq T id bp w) ↔
      w.fsm.state.answersConfigReq = true ∧ A.acksAll bp (configReqStart T w) ∧ id' = id ∧
        payload = (fsmExtractOptions fsmMaxOpts bp).1.foldl fsmAppend [] := by
  cases answers : w.fsm.state.answersConfigReq with
  | false =>
      have silent := unacknowledged_fsmRecvConfigReq h id bp answers
      simp [not_mem_newActs_of_unacknowledged silent]
  | true =>
      let decoded := fsmDecodeBuffer T bp .req (configReqStart T w)
      have started : Unacknowledged w (configReqStart T w) := by
        unfold configReqStart
        split_ifs
        · exact (h.fsmConfigure w).related.log
        · exact .refl w
      have renegotiated := (h.fsmRenegotiate decoded).related
      have before : Unacknowledged w (fsmRenegotiate T decoded) :=
        (started.trans (A.unacknowledged_fsmDecodeBuffer bp _)).trans renegotiated.log
      have result : fsmRecvConfigReq T id bp w =
          fsmAnswerConfigReq T id (fsmRenegotiate T decoded) := by
        rw [fsmRecvConfigReq_of_answers answers]
        rfl
      have verdict := A.fullyAcked_fsmDecodeBuffer bp (configReqStart T w)
      rw [← renegotiated.fullyAcked] at verdict
      by_cases acked : A.acksAll bp (configReqStart T w)
      · obtain ⟨early, late, log, earlyQuiet, lateQuiet⟩ :=
          log_fsmAnswerConfigReq h id (verdict.mpr acked)
        obtain ⟨first, firstLog, firstQuiet⟩ := before
        rw [renegotiated.ack, A.ack_fsmDecodeBuffer acked, firstLog, List.append_assoc,
          List.append_assoc] at log
        rw [newActs, result, log, List.drop_left]
        have noneFirst : FsmAct.output .configAck id' payload ∉ first :=
          fun member => firstQuiet _ member id' payload rfl
        have noneEarly : FsmAct.output .configAck id' payload ∉ early :=
          fun member => earlyQuiet _ member id' payload rfl
        have noneLate : FsmAct.output .configAck id' payload ∉ late :=
          fun member => lateQuiet _ member id' payload rfl
        simp [noneFirst, noneEarly, noneLate, acked]
      · have refused : (fsmRenegotiate T decoded).fullyAcked = false := by
          rw [Bool.eq_false_iff]
          exact fun all => acked (verdict.mp all)
        have silent := before.trans (h.answerRefused id refused).log
        rw [result]
        simp [not_mem_newActs_of_unacknowledged silent, acked]

/-- Every Configure-Ack that answers the request repeats its payload, exactly when
the request is not acknowledged or the extractor and the buffer take all of it. -/
theorem configAck_repeats_iff (id : UInt8) (bp : Bytes) (w : FsmWorld Layer) :
    (∀ id' payload, FsmAct.output .configAck id' payload ∈
        newActs w (fsmRecvConfigReq T id bp w) → payload = bp) ↔
      (w.fsm.state.answersConfigReq = true → A.acksAll bp (configReqStart T w) →
        (fsmExtractOptions fsmMaxOpts bp).2 = [] ∧ bp.length ≤ fsmBufferSize) := by
  rw [← foldl_fsmAppend_eq_iff]
  constructor
  · intro repeats answers acked
    exact repeats id _ ((configAck_mem_newActs_iff A h id id bp _ w).mpr
      ⟨answers, acked, rfl, rfl⟩)
  · intro condition id' payload member
    obtain ⟨answers, acked, -, rfl⟩ := (configAck_mem_newActs_iff A h id id' bp payload w).mp member
    exact condition answers acked

end Answer

end Mpd
