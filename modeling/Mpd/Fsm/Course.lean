import Mpd.Agreement
import Mpd.Fsm.Automaton
import Mpd.Fsm.Settled

/-! What a step of the FSM sends under a number, and what it has to do with the state: which
requests go out, with which identifiers, and when the FSM takes its last request for
acknowledged. The callbacks of the protocol may re-enter the FSM, as long as they behave like
its own handlers. -/

set_option autoImplicit false

namespace Mpd

open Agreement

variable {Layer View Record : Type}

/-- The packets whose identifiers `FsmSendConfigReq` and the like take from `reqid`. -/
def FsmCode.numbered : FsmCode → Bool
  | .configReq | .termReq | .termAck | .resetReq => true
  | _ => false

/-- The last request of the FSM has been acknowledged. -/
def FsmState.accepted : FsmState → Bool
  | .ackRcvd | .opened => true
  | _ => false

def FsmAct.Plain (act : FsmAct) : Prop :=
  ∀ code id payload, act = .output code id payload → code.numbered = false ∧ code ≠ .configAck

def FsmAct.Takes (act : FsmAct) (id after : UInt8) : Prop :=
  match act with
  | .output code used _ => if code.numbered then used = id ∧ after = id + 1 else after = id
  | _ => after = id

/-- The acts take the numbers from `id` up to `after`. -/
def Consecutive : UInt8 → List FsmAct → UInt8 → Prop
  | id, [], after => after = id
  | id, act :: acts, after => ∃ next, act.Takes id next ∧ Consecutive next acts after

def Unasked (acts : List FsmAct) : Prop :=
  ∀ id payload, FsmAct.output .configReq id payload ∉ acts

def numberedActs (acts : List FsmAct) : List (Option Bytes) :=
  acts.filterMap fun
    | .output code _ payload =>
        if code.numbered then some (if code = .configReq then some payload else none) else none
    | _ => none

@[simp] theorem numberedActs_append (first second : List FsmAct) :
    numberedActs (first ++ second) = numberedActs first ++ numberedActs second :=
  List.filterMap_append

def FsmType.request (T : FsmType Layer) (w : FsmWorld Layer) : Bytes := (T.buildConfigReq w).1

/-- What is in view of a request, what of the protocol it stands for, and what the protocol
records of the requests of the peer. -/
structure Outlook (Layer View Record : Type) where
  view : Bytes → View
  asks : FsmWorld Layer → View
  records : FsmWorld Layer → Record

/-- The last request stands for what the protocol has come to. -/
def Outlook.Current (O : Outlook Layer View Record) (w : FsmWorld Layer) : Prop :=
  (lastRequest (numberedActs w.log)).map O.view = some (O.asks w)

section Numbers

theorem consecutive_append {id after : UInt8} {first second : List FsmAct} :
    Consecutive id (first ++ second) after ↔
      ∃ middle, Consecutive id first middle ∧ Consecutive middle second after := by
  induction first generalizing id with
  | nil => simp [Consecutive]
  | cons act acts ih =>
      simp only [List.cons_append, Consecutive, ih]
      constructor
      · rintro ⟨next, takes, middle, left, right⟩
        exact ⟨middle, ⟨next, takes, left⟩, right⟩
      · rintro ⟨middle, ⟨next, takes, left⟩, right⟩
        exact ⟨next, takes, middle, left, right⟩

theorem consecutive_plain {acts : List FsmAct} (plain : ∀ act ∈ acts, act.Plain) (id : UInt8) :
    Consecutive id acts id := by
  induction acts with
  | nil => rfl
  | cons act acts ih =>
      obtain ⟨first, rest⟩ := List.forall_mem_cons.mp plain
      refine ⟨id, ?_, ih rest⟩
      cases act with
      | output code used payload => simp [FsmAct.Takes, (first code used payload rfl).1]
      | call told => rfl
      | codeRejected code => rfl

theorem unasked_plain {acts : List FsmAct} (plain : ∀ act ∈ acts, act.Plain) : Unasked acts :=
  fun id payload member => nomatch (plain _ member .configReq id payload rfl).1

theorem Unasked.append {first second : List FsmAct} (left : Unasked first)
    (right : Unasked second) : Unasked (first ++ second) := fun id payload member =>
  (List.mem_append.mp member).elim (left id payload) (right id payload)

theorem numberedActs_unasked {acts : List FsmAct} (unasked : Unasked acts) :
    ∀ item ∈ numberedActs acts, item = none := by
  intro item member
  obtain ⟨act, listed, shown⟩ := List.mem_filterMap.mp member
  cases act with
  | output code id payload =>
      by_cases request : code = .configReq
      · subst request
        exact absurd listed (unasked id payload)
      · dsimp only at shown
        split_ifs at shown
        exact (Option.some.inj shown).symm
  | call told => exact nomatch shown
  | codeRejected code => exact nomatch shown

theorem lastRequest_unasked (log : List FsmAct) {acts : List FsmAct} (unasked : Unasked acts) :
    lastRequest (numberedActs (log ++ acts)) = lastRequest (numberedActs log) := by
  rw [numberedActs_append, lastRequest_append]
  cases last : lastRequest (numberedActs acts) with
  | none => rfl
  | some payload =>
      have asked : some payload ∈ numberedActs acts :=
        List.reduceOption_mem_iff.mp (List.mem_of_getLast? last)
      cases numberedActs_unasked unasked _ asked

end Numbers

/-- Nothing is numbered or acknowledged, and the state stays. -/
structure Turns (before after : FsmWorld Layer) : Prop where
  state : after.fsm.state = before.fsm.state
  reqid : after.fsm.reqid = before.fsm.reqid
  acts : ∃ acts, after.log = before.log ++ acts ∧ ∀ act ∈ acts, act.Plain

structure Steady (O : Outlook Layer View Record) (before after : FsmWorld Layer) : Prop
    extends Turns before after where
  request : O.asks after = O.asks before

structure Still (O : Outlook Layer View Record) (before after : FsmWorld Layer) : Prop
    extends Steady O before after where
  records : O.records after = O.records before

/-- What is sent: numbered in turn, and the acknowledgements of one request at most. -/
structure Issues (acked : Option UInt8) (before after : FsmWorld Layer) (acts : List FsmAct) :
    Prop where
  log : after.log = before.log ++ acts
  numbers : Consecutive before.fsm.reqid acts after.fsm.reqid
  acks : ∀ id payload, .output .configAck id payload ∈ acts → acked = some id

/-- The course of a handler. It asks for nothing if it leaves the last request acknowledged,
which it was before unless the handler may come to that; it leaves the request of the peer
acknowledged only if it was or is acknowledged now, and then `record` is what it has recorded
of it; and it negotiates with a request that is current. -/
structure Course (O : Outlook Layer View Record) (agrees : Prop) (acked : Option UInt8)
    (record : Record) (before after : FsmWorld Layer) : Prop where
  issues : ∃ acts, Issues acked before after acts ∧
    (after.fsm.state.accepted = true → Unasked acts)
  accepted : after.fsm.state.accepted = true → agrees ∨ after.fsm.state = before.fsm.state ∨
    acked.isSome = true ∧ before.fsm.state.accepted = true
  settled : after.fsm.state.settled = true → acked.isSome = true ∨ before.fsm.state.settled = true
  records : after.fsm.state.settled = true → O.records after = record
  negotiating : after.fsm.state.negotiating = true →
    before.fsm.state.negotiating = true ∨ O.Current after
  current : after.fsm.state.negotiating = true → O.Current before → O.Current after

structure Proceeds (O : Outlook Layer View Record) (before after : FsmWorld Layer) : Prop where
  issues : ∃ acts, Issues none before after acts ∧
    (after.fsm.state.accepted = true → Unasked acts)
  accepted : after.fsm.state.accepted = true → after.fsm.state = before.fsm.state
  settled : after.fsm.state.settled = true → before.fsm.state.settled = true
  records : after.fsm.state.settled = true → O.records after = O.records before
  negotiating : after.fsm.state.negotiating = true → before.fsm.state.negotiating = true
  current : after.fsm.state.negotiating = true → O.Current before → O.Current after

/-- What is settled or accepted is being negotiated. -/
theorem FsmState.outside {state : FsmState} (outside : state.negotiating = false) :
    state.accepted = false ∧ state.settled = false := by
  cases state <;> simp_all [FsmState.negotiating, FsmState.accepted, FsmState.settled]

section Relations

variable {O : Outlook Layer View Record} {agrees : Prop} {acked : Option UInt8}
  {record : Record} {first second third : FsmWorld Layer} {acts early late : List FsmAct}

theorem Turns.refl (w : FsmWorld Layer) : Turns w w := ⟨rfl, rfl, [], by simp, by simp⟩

theorem Turns.trans (left : Turns first second) (right : Turns second third) :
    Turns first third := by
  obtain ⟨early, earlyLog, earlyPlain⟩ := left.acts
  obtain ⟨late, lateLog, latePlain⟩ := right.acts
  refine ⟨right.state.trans left.state, right.reqid.trans left.reqid, early ++ late,
    by rw [lateLog, earlyLog, List.append_assoc], fun act member => ?_⟩
  exact (List.mem_append.mp member).elim (earlyPlain act) (latePlain act)

theorem Still.refl (O : Outlook Layer View Record) (w : FsmWorld Layer) : Still O w w :=
  ⟨⟨.refl w, rfl⟩, rfl⟩

theorem Still.trans (left : Still O first second) (right : Still O second third) :
    Still O first third :=
  ⟨⟨left.toTurns.trans right.toTurns, right.request.trans left.request⟩,
    right.records.trans left.records⟩

theorem Turns.issues (turns : Turns first second) (acked : Option UInt8) :
    ∃ acts, Issues acked first second acts ∧ Unasked acts := by
  obtain ⟨acts, log, plain⟩ := turns.acts
  refine ⟨acts, ⟨log, ?_, ?_⟩, unasked_plain plain⟩
  · rw [turns.reqid]
    exact consecutive_plain plain _
  · exact fun id payload member => absurd rfl (plain _ member .configAck id payload rfl).2

theorem Issues.trans (left : Issues acked first second early)
    (right : Issues acked second third late) : Issues acked first third (early ++ late) where
  log := by rw [right.log, left.log, List.append_assoc]
  numbers := consecutive_append.mpr ⟨_, left.numbers, right.numbers⟩
  acks id payload member :=
    (List.mem_append.mp member).elim (left.acks id payload) (right.acks id payload)

theorem Issues.mono (issues : Issues none first second acts) : Issues acked first second acts where
  log := issues.log
  numbers := issues.numbers
  acks id payload member := by cases issues.acks id payload member

/-- A request that was current is so still, if what the protocol asks for stays. -/
theorem current_of_unasked (log : second.log = first.log ++ acts) (unasked : Unasked acts)
    (request : O.asks second = O.asks first) (current : O.Current first) :
    O.Current second := by
  unfold Outlook.Current
  rw [log, request, lastRequest_unasked first.log unasked]
  exact current

theorem Steady.current (still : Steady O first second) (current : O.Current first) :
    O.Current second := by
  obtain ⟨acts, log, plain⟩ := still.acts
  exact current_of_unasked log (unasked_plain plain) still.request current

theorem Still.proceeds (still : Still O first second) : Proceeds O first second where
  issues := by
    obtain ⟨acts, issues, unasked⟩ := still.issues none
    exact ⟨acts, issues, fun _ => unasked⟩
  accepted _ := still.state
  settled settled := still.state ▸ settled
  records _ := still.records
  negotiating negotiating := still.state ▸ negotiating
  current _ := still.current

/-- What the protocol asks for may change where nothing is negotiated. -/
theorem Turns.proceeds (turns : Turns first second)
    (outside : first.fsm.state.negotiating = false) : Proceeds O first second where
  issues := by
    obtain ⟨acts, issues, unasked⟩ := turns.issues none
    exact ⟨acts, issues, fun _ => unasked⟩
  accepted _ := turns.state
  settled settled := turns.state ▸ settled
  records settled := by
    rw [turns.state, (FsmState.outside outside).2] at settled
    cases settled
  negotiating negotiating := turns.state ▸ negotiating
  current inside := by
    rw [turns.state, outside] at inside
    cases inside

theorem Proceeds.refl (O : Outlook Layer View Record) (w : FsmWorld Layer) : Proceeds O w w :=
  (Still.refl O w).proceeds

theorem Proceeds.trans (left : Proceeds O first second)
    (right : Proceeds O second third) : Proceeds O first third where
  issues := by
    obtain ⟨early, leftIssues, leftUnasked⟩ := left.issues
    obtain ⟨late, rightIssues, rightUnasked⟩ := right.issues
    exact ⟨early ++ late, leftIssues.trans rightIssues, fun accepted =>
      (leftUnasked (right.accepted accepted ▸ accepted)).append (rightUnasked accepted)⟩
  accepted accepted :=
    (right.accepted accepted).trans (left.accepted (right.accepted accepted ▸ accepted))
  settled settled := left.settled (right.settled settled)
  records settled := (right.records settled).trans (left.records (right.settled settled))
  negotiating inside := left.negotiating (right.negotiating inside)
  current inside current := right.current inside (left.current (right.negotiating inside) current)

theorem Proceeds.outside (proceeds : Proceeds O first second)
    (outside : first.fsm.state.negotiating = false) : second.fsm.state.negotiating = false := by
  rw [Bool.eq_false_iff]
  intro inside
  rw [proceeds.negotiating inside] at outside
  cases outside

theorem Proceeds.not_accepted (proceeds : Proceeds O first second)
    (outside : first.fsm.state.accepted = false) : second.fsm.state.accepted = false := by
  rw [Bool.eq_false_iff]
  intro accepted
  rw [← proceeds.accepted accepted, accepted] at outside
  cases outside

theorem Proceeds.course (proceeds : Proceeds O first second) :
    Course O agrees acked (O.records first) first second where
  issues := by
    obtain ⟨acts, issues, unasked⟩ := proceeds.issues
    exact ⟨acts, issues.mono, unasked⟩
  accepted accepted := .inr (.inl (proceeds.accepted accepted))
  settled settled := .inr (proceeds.settled settled)
  records := proceeds.records
  negotiating inside := .inl (proceeds.negotiating inside)
  current := proceeds.current

theorem Course.refl (O : Outlook Layer View Record) (w : FsmWorld Layer) :
    Course O agrees acked (O.records w) w w :=
  (Proceeds.refl O w).course

theorem Course.unacked (course : Course O agrees none record first second)
    (settled : second.fsm.state.settled = true) : first.fsm.state.settled = true :=
  (course.settled settled).resolve_left Bool.false_ne_true

/-- What the second part settles anew, the first is to have recorded. -/
theorem Course.trans (left : Course O agrees acked record first second)
    (right : Course O False acked (O.records second) second third)
    (kept : third.fsm.state.settled = true →
      second.fsm.state.settled = true ∨ O.records second = record) :
    Course O agrees acked record first third := by
  have before (accepted : third.fsm.state.accepted = true) :
      second.fsm.state.accepted = true := by
    rcases right.accepted accepted with none | same | ⟨-, earlier⟩
    · exact none.elim
    · exact same ▸ accepted
    · exact earlier
  have told (inside : third.fsm.state.negotiating = true)
      (current : second.fsm.state.negotiating = true → O.Current second) :
      O.Current third := by
    rcases right.negotiating inside with middle | current'
    · exact right.current inside (current middle)
    · exact current'
  obtain ⟨early, leftIssues, leftUnasked⟩ := left.issues
  obtain ⟨late, rightIssues, rightUnasked⟩ := right.issues
  refine ⟨⟨early ++ late, leftIssues.trans rightIssues, fun accepted =>
    (leftUnasked (before accepted)).append (rightUnasked accepted)⟩, ?_, ?_, ?_, ?_, ?_⟩
  · intro accepted
    have middle := left.accepted (before accepted)
    rcases right.accepted accepted with none | same | ⟨acks, earlier⟩
    · exact none.elim
    · rwa [same]
    · rcases middle with may | same | given
      · exact .inl may
      · exact .inr (.inr ⟨acks, same ▸ earlier⟩)
      · exact .inr (.inr given)
  · intro settled
    rcases right.settled settled with acks | middle
    · exact .inl acks
    · exact left.settled middle
  · intro settled
    rw [right.records settled]
    rcases kept settled with middle | same
    · exact left.records middle
    · exact same
  · intro inside
    cases outside : first.fsm.state.negotiating with
    | true => exact .inl rfl
    | false =>
        refine .inr (told inside fun middle => ?_)
        rcases left.negotiating middle with earlier | current
        · rw [outside] at earlier
          cases earlier
        · exact current
  · exact fun inside current => told inside fun middle => left.current middle current

theorem Course.proceeds (left : Course O agrees acked record first second)
    (right : Proceeds O second third) : Course O agrees acked record first third :=
  left.trans right.course fun settled => .inl (right.settled settled)

theorem Course.after (course : Course O agrees acked record second third)
    (still : Steady O first second) : Course O agrees acked record first third where
  issues := by
    obtain ⟨early, before, unasked⟩ := still.issues acked
    obtain ⟨late, issues, rest⟩ := course.issues
    exact ⟨early ++ late, before.trans issues, fun accepted => unasked.append (rest accepted)⟩
  accepted := by
    rw [← still.state]
    exact course.accepted
  settled := by
    rw [← still.state]
    exact course.settled
  records := course.records
  negotiating := by
    rw [← still.state]
    exact course.negotiating
  current inside current := course.current inside (still.current current)

theorem Course.current_of_outside (course : Course O agrees acked record first second)
    (outside : first.fsm.state.negotiating = false)
    (inside : second.fsm.state.negotiating = true) : O.Current second := by
  rcases course.negotiating inside with before | current
  · rw [outside] at before
    cases before
  · exact current

end Relations

end Mpd
