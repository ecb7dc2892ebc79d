import Mpd.Fsm.Acknowledgement
import Mpd.Fsm.Advance
import Mpd.Fsm.CodeReject
import Mathlib.Logic.Function.Basic

/-! Two ends of a link that negotiate with each other. Between them the link may lose packets,
but it keeps their order. What either end takes for agreed is what the other end has
acknowledged. -/

set_option autoImplicit false

namespace Mpd

open Agreement

variable {Layer View Record : Type}

inductive Side where
  | left | right
  deriving DecidableEq, Repr

namespace Side

def other : Side → Side
  | left => right
  | right => left

@[simp] theorem other_other (side : Side) : side.other.other = side := by
  cases side <;> rfl

@[simp] theorem other_ne (side : Side) : side.other ≠ side := by
  cases side <;> decide

@[simp] theorem ne_other (side : Side) : side ≠ side.other := side.other_ne.symm

end Side

/-- A packet on its way. Which request it is or answers is not part of what the link carries. -/
structure Letter where
  code : FsmCode
  id : UInt8
  payload : Bytes
  serial : Nat
  deriving DecidableEq, Repr

def Letter.packet (letter : Letter) : Bytes := framePacket letter.code letter.id letter.payload

def Letter.request? (letter : Letter) : Option (Nat × Bytes) :=
  if letter.code = .configReq then some (letter.serial, letter.payload) else none

def Letter.answer? (letter : Letter) : Option Nat :=
  if letter.code = .configAck then some letter.serial else none

def letters (answering : Nat) : Nat → List FsmAct → List Letter
  | _, [] => []
  | serial, .output code id payload :: acts =>
      { code, id, payload, serial := if code = .configReq then serial else answering } ::
        letters answering (if code.numbered then serial + 1 else serial) acts
  | serial, .call _ :: acts => letters answering serial acts
  | serial, .codeRejected _ :: acts => letters answering serial acts

structure Party (Layer : Type) where
  world : FsmWorld Layer
  heard : Option (Verdict Bytes)

def Party.numbered (party : Party Layer) : List (Option Bytes) := numberedActs party.world.log

/-- The end takes one event. An answered request has the number `serial`. -/
def Party.step (T : FsmType Layer) (serial : Nat) (event : FsmEvent) (party : Party Layer) :
    Party Layer where
  world := fsmStep T party.world event
  heard :=
    match answeredRequest T party.world event with
    | some content => some {
        serial
        content
        accepted := (acknowledgedRequest T party.world event).isSome }
    | none => party.heard

structure Net (Layer : Type) where
  party : Side → Party Layer
  inbox : Side → List Letter

def Net.start (left right : FsmWorld Layer) : Net Layer where
  party
    | .left => { world := left, heard := none }
    | .right => { world := right, heard := none }
  inbox _ := []

namespace Net

def act (T : FsmType Layer) (side : Side) (serial : Nat) (event : FsmEvent) (net : Net Layer) :
    Net Layer :=
  let party := net.party side
  let next := party.step T serial event
  { party := Function.update net.party side next
    inbox := Function.update net.inbox side.other (net.inbox side.other ++
      letters serial party.numbered.length (newActs party.world next.world)) }

def pop (side : Side) (net : Net Layer) : Net Layer :=
  { net with inbox := Function.update net.inbox side (net.inbox side).tail }

end Net

/-- The event is not the arrival of a packet. -/
def FsmEvent.own : FsmEvent → Bool
  | .input _ _ => false
  | _ => true

inductive NetEvent where
  | happen (side : Side) (event : FsmEvent) (own : event.own = true)
  | deliver (side : Side) (junk : Nat → UInt8)
  | lose (side : Side)

def netStep (T : FsmType Layer) (net : Net Layer) : NetEvent → Net Layer
  | .happen side event _ => net.act T side 0 event
  | .deliver side junk =>
      match net.inbox side with
      | [] => net
      | letter :: _ => (net.pop side).act T side letter.serial (.input junk letter.packet)
  | .lose side => net.pop side

/-- The packet fits its length field, and an acknowledgement comes before its receiver gives the
number of the request again. -/
def Letter.Timely (letter : Letter) (party : Party Layer) : Prop :=
  4 + letter.payload.length < 65536 ∧
    (letter.code = .configAck → party.numbered.length ≤ letter.serial + 256)

instance (letter : Letter) (party : Party Layer) : Decidable (letter.Timely party) :=
  inferInstanceAs (Decidable (_ ∧ (_ → _)))

def Timely (net : Net Layer) : NetEvent → Prop
  | .deliver side _ => ∀ letter ∈ (net.inbox side).head?, letter.Timely (net.party side)
  | _ => True

instance (net : Net Layer) (event : NetEvent) : Decidable (Timely net event) :=
  match event with
  | .deliver side _ =>
      inferInstanceAs (Decidable (∀ letter ∈ (net.inbox side).head?,
        letter.Timely (net.party side)))
  | .happen _ _ _ => .isTrue trivial
  | .lose _ => .isTrue trivial

def Net.dialogue (net : Net Layer) (side : Side) : Dialogue Bytes where
  numbered := (net.party side).numbered
  wire := (net.inbox side.other).filterMap Letter.request?
  heard := (net.party side.other).heard
  answers := (net.inbox side).filterMap Letter.answer?
  agreed := (net.party side).world.fsm.state.accepted
  bound := (net.party side.other).world.fsm.state.settled

structure Net.Numbered (net : Net Layer) : Prop where
  reqid : ∀ side, (net.party side).world.fsm.reqid =
    UInt8.ofNat ((net.party side).numbered.length + 1)
  letters : ∀ side, ∀ letter ∈ net.inbox side,
    letter.code = .configReq ∨ letter.code = .configAck →
      letter.id = UInt8.ofNat (letter.serial + 1)

section Letters

variable {answering serial : Nat} {acts : List FsmAct}

theorem requests_letters (answering serial : Nat) (acts : List FsmAct) :
    (letters answering serial acts).filterMap Letter.request? =
      requestsFrom serial (numberedActs acts) := by
  induction acts generalizing serial with
  | nil => rfl
  | cons act acts ih =>
      cases act with
      | output code id payload =>
          cases code <;>
            simp [letters, Letter.request?, numberedActs, FsmCode.numbered, requestsFrom, ih]
      | call told => exact ih serial
      | codeRejected code => exact ih serial

theorem mem_letters {letter : Letter} (member : letter ∈ letters answering serial acts) :
    .output letter.code letter.id letter.payload ∈ acts ∧
      (letter.code ≠ .configReq → letter.serial = answering) := by
  induction acts generalizing serial with
  | nil => cases member
  | cons act acts ih =>
      cases act with
      | output code id payload =>
          cases member with
          | head => exact ⟨List.mem_cons_self, fun other => if_neg other⟩
          | tail _ member => exact (ih member).imp_left (List.mem_cons_of_mem _)
      | call told => exact (ih member).imp_left (List.mem_cons_of_mem _)
      | codeRejected code => exact (ih member).imp_left (List.mem_cons_of_mem _)

theorem mem_answers {letters : List Letter} {answer : Nat} :
    answer ∈ letters.filterMap Letter.answer? ↔
      ∃ letter ∈ letters, letter.code = .configAck ∧ letter.serial = answer := by
  simp [Letter.answer?]

/-- Numbers that follow on each other give the identifiers. -/
theorem numbered_letters (answering : Nat) {id after : UInt8}
    (consecutive : Consecutive id acts after) (first : id = UInt8.ofNat (serial + 1)) :
    after = UInt8.ofNat (serial + (numberedActs acts).length + 1) ∧
      ∀ letter ∈ letters answering serial acts, letter.code = .configReq →
        letter.id = UInt8.ofNat (letter.serial + 1) := by
  induction acts generalizing id serial with
  | nil => exact ⟨consecutive.trans first, by simp [letters]⟩
  | cons act acts ih =>
      obtain ⟨next, takes, rest⟩ := consecutive
      cases act with
      | output code used payload =>
          cases numbered : code.numbered with
          | false =>
              obtain rfl : next = id := by simpa [FsmAct.Takes, numbered] using takes
              obtain ⟨last, ids⟩ := ih rest first
              refine ⟨by simpa [numberedActs, numbered] using last, fun letter member request => ?_⟩
              simp only [letters, numbered, Bool.false_eq_true, if_false, List.mem_cons] at member
              rcases member with rfl | later
              · dsimp only at request
                subst request
                cases numbered
              · exact ids letter later request
          | true =>
              obtain ⟨rfl, rfl⟩ : id = used ∧ next = id + 1 := by
                simpa [FsmAct.Takes, numbered, eq_comm] using takes
              have following : id + 1 = UInt8.ofNat (serial + 1 + 1) := by
                rw [first, UInt8.ofNat_add (serial + 1) 1]
                rfl
              obtain ⟨last, ids⟩ := ih rest following
              have length : (numberedActs (.output code id payload :: acts)).length =
                  (numberedActs acts).length + 1 := by
                simp [numberedActs, numbered]
              refine ⟨?_, fun letter member request => ?_⟩
              · rw [last, length]
                exact congrArg UInt8.ofNat (by omega)
              · simp only [letters, numbered, if_true, List.mem_cons] at member
                rcases member with rfl | later
                · dsimp only at request
                  simp [request, first]
                · exact ids letter later request
      | call told =>
          obtain rfl : next = id := takes
          exact ih rest first
      | codeRejected code =>
          obtain rfl : next = id := takes
          exact ih rest first

end Letters

namespace Net

section Access

variable (T : FsmType Layer) (net : Net Layer) (side : Side) (serial : Nat) (event : FsmEvent)

def acts : List FsmAct :=
  newActs (net.party side).world (fsmStep T (net.party side).world event)

@[simp] theorem act_party : (net.act T side serial event).party side =
    (net.party side).step T serial event :=
  Function.update_self ..

@[simp] theorem act_party_other : (net.act T side serial event).party side.other =
    net.party side.other :=
  Function.update_of_ne side.other_ne ..

@[simp] theorem act_inbox : (net.act T side serial event).inbox side = net.inbox side :=
  Function.update_of_ne side.ne_other ..

@[simp] theorem act_inbox_other : (net.act T side serial event).inbox side.other =
    net.inbox side.other ++
      letters serial (net.party side).numbered.length (net.acts T side event) :=
  Function.update_self ..

@[simp] theorem pop_party : (net.pop side).party = net.party := rfl

@[simp] theorem pop_inbox : (net.pop side).inbox side = (net.inbox side).tail :=
  Function.update_self ..

@[simp] theorem pop_inbox_other : (net.pop side).inbox side.other = net.inbox side.other :=
  Function.update_of_ne side.other_ne ..

end Access

end Net

/-- A side is one or the other. -/
theorem Side.cases_of {P : Side → Prop} (side : Side) (own : P side) (other : P side.other)
    (s : Side) : P s := by
  cases side <;> cases s <;> assumption

namespace Orderly

variable {T : FsmType Layer} {O : Outlook Layer View Record} (h : Orderly T O)
include h

section Simulation

variable {net : Net Layer} {side : Side} {serial : Nat} {event : FsmEvent}

theorem sends_acts (net : Net Layer) (side : Side) (event : FsmEvent) :
    Issues (acknowledgedId T (net.party side).world event) (net.party side).world
        (Mpd.fsmStep T (net.party side).world event) (net.acts T side event) ∧
      ((Mpd.fsmStep T (net.party side).world event).fsm.state.accepted = true →
        Unasked (net.acts T side event)) := by
  obtain ⟨acts, sends, unasked⟩ := (h.fsmStep event (net.party side).world).issues
  have same : net.acts T side event = acts := by
    rw [Net.acts, newActs, sends.log, List.drop_left]
  rw [same]
  exact ⟨sends, unasked⟩

theorem numbered_step (net : Net Layer) (side : Side) (serial : Nat) (event : FsmEvent) :
    ((net.party side).step T serial event).numbered =
      (net.party side).numbered ++ numberedActs (net.acts T side event) := by
  rw [Party.numbered, Party.step, (h.sends_acts net side event).1.log, numberedActs_append]
  rfl

theorem numbered_act (numbered : net.Numbered)
    (acked : ∀ id ∈ acknowledgedId T (net.party side).world event,
      id = UInt8.ofNat (serial + 1)) : (net.act T side serial event).Numbered := by
  obtain ⟨sends, -⟩ := h.sends_acts net side event
  obtain ⟨reqid, ids⟩ := numbered_letters serial sends.numbers (numbered.reqid side)
  constructor
  · refine side.cases_of ?_ ?_
    · rw [Net.act_party, h.numbered_step, List.length_append]
      exact reqid
    · rw [Net.act_party_other]
      exact numbered.reqid side.other
  · refine side.cases_of ?_ ?_
    · rw [Net.act_inbox]
      exact numbered.letters side
    · intro letter member asked
      rw [Net.act_inbox_other] at member
      rcases List.mem_append.mp member with earlier | new
      · exact numbered.letters side.other letter earlier asked
      · rcases asked with request | ack
        · exact ids letter new request
        · obtain ⟨sent, answers⟩ := mem_letters new
          rw [answers (by rw [ack]; decide)]
          exact acked _ (sends.acks _ _ (ack ▸ sent))

/-- The end as the one that asks. -/
theorem steps_asks {agreed : Bool}
    (keeps : (Mpd.fsmStep T (net.party side).world event).fsm.state.accepted = true →
      agreed = true) :
    Steps { net.dialogue side with agreed } ((net.act T side serial event).dialogue side) := by
  obtain ⟨-, unasked⟩ := h.sends_acts net side event
  have steps := steps_send { net.dialogue side with agreed }
    (numberedActs (net.acts T side event)) fun accepted =>
      ⟨keeps accepted, numberedActs_unasked (unasked accepted)⟩
  have result : (net.act T side serial event).dialogue side = {
      net.dialogue side with
      numbered := (net.dialogue side).numbered ++ numberedActs (net.acts T side event)
      wire := (net.dialogue side).wire ++
        requestsFrom (net.dialogue side).numbered.length (numberedActs (net.acts T side event))
      agreed := (Mpd.fsmStep T (net.party side).world event).fsm.state.accepted } := by
    simp only [Net.dialogue, Net.act_party, Net.act_party_other, Net.act_inbox,
      Net.act_inbox_other, h.numbered_step, List.filterMap_append, requests_letters]
    rfl
  rw [result]
  exact steps

omit h in
/-- What the end as the one that answers makes of the dialogue. -/
theorem dialogue_answers (net : Net Layer) (side : Side) (serial : Nat) (event : FsmEvent) :
    (net.act T side serial event).dialogue side.other = {
      net.dialogue side.other with
      heard := ((net.party side).step T serial event).heard
      answers := (net.dialogue side.other).answers ++
        (letters serial (net.party side).numbered.length (net.acts T side event)).filterMap
          Letter.answer?
      bound := (Mpd.fsmStep T (net.party side).world event).fsm.state.settled } := by
  simp only [Net.dialogue, Side.other_other, Net.act_party, Net.act_party_other, Net.act_inbox,
    Net.act_inbox_other, List.filterMap_append]
  rfl

theorem answers_acts {answer : Nat}
    (member : answer ∈ (letters serial (net.party side).numbered.length
      (net.acts T side event)).filterMap Letter.answer?) :
    answer = serial ∧ (acknowledgedId T (net.party side).world event).isSome = true := by
  obtain ⟨sends, -⟩ := h.sends_acts net side event
  obtain ⟨letter, listed, ack, rfl⟩ := mem_answers.mp member
  obtain ⟨sent, answers⟩ := mem_letters listed
  refine ⟨answers (by rw [ack]; decide), ?_⟩
  rw [sends.acks letter.id letter.payload (ack ▸ sent)]
  rfl

/-- The end as the one that answers, where it answers nothing. -/
theorem steps_silent (silent : answeredRequest T (net.party side).world event = none) :
    Steps (net.dialogue side.other) ((net.act T side serial event).dialogue side.other) := by
  have unacked : acknowledgedId T (net.party side).world event = none := by
    cases event <;> simp [acknowledgedId, acknowledgedRequest, silent]
  have none : (letters serial (net.party side).numbered.length
      (net.acts T side event)).filterMap Letter.answer? = [] := by
    refine List.eq_nil_iff_forall_not_mem.mpr fun answer member => ?_
    have acked := (h.answers_acts member).2
    rw [unacked] at acked
    cases acked
  have heard : ((net.party side).step T serial event).heard = (net.dialogue side.other).heard := by
    simp [Party.step, silent, Net.dialogue]
  rw [dialogue_answers, none, List.append_nil, heard]
  cases bound : (Mpd.fsmStep T (net.party side).world event).fsm.state.settled with
  | false => exact .single (.release _)
  | true =>
      have before : (net.dialogue side.other).bound = true := by
        have settled := (h.fsmStep event (net.party side).world).settled bound
        rw [unacked] at settled
        simpa [Net.dialogue] using settled
      rw [← before]

/-- The end as the one that answers, where it answers the request that has come in. -/
theorem steps_answers {content : Bytes}
    (answered : answeredRequest T (net.party side).world event = some content) :
    Steps { net.dialogue side.other with
        wire := (serial, content) :: (net.dialogue side.other).wire }
      ((net.act T side serial event).dialogue side.other) := by
  let accepted := (acknowledgedRequest T (net.party side).world event).isSome
  have heard : ((net.party side).step T serial event).heard =
      some { serial, content, accepted } := by
    simp [Party.step, answered, accepted]
  have acked : (acknowledgedId T (net.party side).world event).isSome = true → accepted = true := by
    intro acked
    unfold acknowledgedId at acked
    split at acked
    · split_ifs at acked with acknowledged
      · exact acknowledged
      · cases acked
    · cases acked
  let asked : Dialogue Bytes := { net.dialogue side.other with
    wire := (serial, content) :: (net.dialogue side.other).wire }
  have next : asked.wire = (serial, content) :: (net.dialogue side.other).wire := rfl
  have answers := steps_answer
    { net.dialogue side.other with heard := some { serial, content, accepted }, bound := false }
    ((letters serial (net.party side).numbered.length (net.acts T side event)).filterMap
      Letter.answer?) rfl (fun answer member => (h.answers_acts member).1) fun some => by
        obtain ⟨answer, member⟩ := List.exists_mem_of_ne_nil _ some
        exact acked (h.answers_acts member).2
  rw [dialogue_answers, heard]
  refine .head (.hear accepted next) (answers.trans ?_)
  cases bound : (Mpd.fsmStep T (net.party side).world event).fsm.state.settled with
  | false => exact .refl
  | true =>
      refine .single (.bind rfl ?_)
      cases refused : acknowledgedRequest T (net.party side).world event with
      | none => simp [h.unsettled_fsmStep answered refused] at bound
      | some acknowledged => simp [accepted, refused]

end Simulation

end Orderly

section Link

variable {T : FsmType Layer} {O : Outlook Layer View Record} {net : Net Layer} {side : Side}

theorem readHeader_packet {letter : Letter} (fits : 4 + letter.payload.length < 65536) :
    readHeader letter.packet = some (letter.code.num, letter.id, letter.payload) :=
  readHeader_framePacket letter.code letter.id (by omega)

theorem knownCode?_num {code row : FsmCode} (known : T.knownCode? code.num = some row) :
    row = code := by
  unfold FsmType.knownCode? at known
  rw [FsmCode.ofByte?_num] at known
  exact (Option.some.inj (Option.eq_some_of_filter_eq_some known)).symm

/-- What the loss of a packet takes from the dialogue of the end that it was for. -/
theorem steps_pop (net : Net Layer) (side : Side) :
    Steps (net.dialogue side) ((net.pop side).dialogue side) := by
  have result : (net.pop side).dialogue side = {
      net.dialogue side with answers := (net.inbox side).tail.filterMap Letter.answer? } := by
    simp only [Net.dialogue, Net.pop_party, Net.pop_inbox, Net.pop_inbox_other]
  rw [result]
  have answers : (net.dialogue side).answers = (net.inbox side).filterMap Letter.answer? := rfl
  cases inbox : net.inbox side with
  | nil =>
      rw [inbox] at answers
      rw [List.tail_nil, ← answers]
  | cons letter rest =>
      rw [inbox, List.filterMap_cons] at answers
      rw [List.tail_cons]
      cases answer : letter.answer? with
      | some serial =>
          rw [answer] at answers
          exact .single (.drop answers)
      | none =>
          rw [answer] at answers
          have same : (net.dialogue side).answers = rest.filterMap Letter.answer? := answers
          rw [← same]

theorem steps_pop_other (net : Net Layer) (side : Side) :
    Steps (net.dialogue side.other) ((net.pop side).dialogue side.other) := by
  have result : (net.pop side).dialogue side.other = {
      net.dialogue side.other with wire := (net.inbox side).tail.filterMap Letter.request? } := by
    simp only [Net.dialogue, Side.other_other, Net.pop_party, Net.pop_inbox, Net.pop_inbox_other]
  rw [result]
  have wire : (net.dialogue side.other).wire = (net.inbox side).filterMap Letter.request? := by
    simp only [Net.dialogue, Side.other_other]
  cases inbox : net.inbox side with
  | nil =>
      rw [inbox] at wire
      rw [List.tail_nil, ← wire]
  | cons letter rest =>
      rw [inbox, List.filterMap_cons] at wire
      rw [List.tail_cons]
      cases request : letter.request? with
      | some asked =>
          rw [request] at wire
          exact .single (.lose wire)
      | none =>
          rw [request] at wire
          have same : (net.dialogue side.other).wire = rest.filterMap Letter.request? := wire
          rw [← same]

/-- The numbers fit, and either dialogue is sound. -/
structure Net.Sound (net : Net Layer) : Prop where
  numbered : net.Numbered
  dialogue : ∀ side, Agreement.Sound (net.dialogue side)

theorem Net.Sound.pop (sound : net.Sound) (side : Side) : (net.pop side).Sound where
  numbered := by
    refine ⟨sound.numbered.reqid, side.cases_of ?_ ?_⟩
    · intro letter member
      rw [Net.pop_inbox] at member
      exact sound.numbered.letters side letter (List.mem_of_mem_tail member)
    · rw [Net.pop_inbox_other]
      exact sound.numbered.letters side.other
  dialogue := side.cases_of ((sound.dialogue side).steps (steps_pop net side))
    ((sound.dialogue side.other).steps (steps_pop_other net side))

/-- An acknowledgement that has the number given last answers the last request, unless it has
been on its way for too long. -/
theorem fresh_ack (sound : net.Sound) {letter : Letter} {rest : List Letter}
    (inbox : net.inbox side = letter :: rest) (ack : letter.code = .configAck)
    (timely : (net.party side).numbered.length ≤ letter.serial + 256)
    (newest : letter.id = (net.party side).world.fsm.reqid - 1) :
    letter.serial + 1 = (net.party side).numbered.length := by
  have listed : letter.serial ∈ (net.dialogue side).answers :=
    mem_answers.mpr ⟨letter, inbox ▸ List.mem_cons_self, ack, rfl⟩
  obtain ⟨verdict, heard, upTo, -⟩ := (sound.dialogue side).answered _ listed
  have asked := (List.getElem?_eq_some_iff.mp ((sound.dialogue side).heard verdict heard)).1
  have below : letter.serial < (net.party side).numbered.length := Nat.lt_of_le_of_lt upTo asked
  have id := sound.numbered.letters side letter (inbox ▸ List.mem_cons_self) (.inr ack)
  have reqid := sound.numbered.reqid side
  rw [id, reqid, UInt8.ofNat_add, UInt8.ofNat_add _ 1] at newest
  have residues := congrArg UInt8.toNat newest
  simp at residues
  omega

/-- Whatever holds of either end and is kept by its steps holds after a step of both. -/
theorem Net.parties_step {P : Party Layer → Prop}
    (kept : ∀ party serial event, P party → P (party.step T serial event))
    (holds : ∀ side, P (net.party side)) (event : NetEvent) (side : Side) :
    P ((netStep T net event).party side) := by
  have acts (net' : Net Layer) (same : net'.party = net.party) (actor : Side) (serial : Nat)
      (event : FsmEvent) : P ((net'.act T actor serial event).party side) := by
    revert side
    refine actor.cases_of ?_ ?_
    · rw [act_party, same]
      exact kept _ serial event (holds actor)
    · rw [act_party_other, same]
      exact holds actor.other
  cases event with
  | happen actor event own => exact acts net rfl actor 0 event
  | deliver actor junk =>
      cases inbox : net.inbox actor with
      | nil => simpa only [netStep, inbox] using holds side
      | cons letter rest => simpa only [netStep, inbox] using acts (net.pop actor) rfl actor _ _
  | lose actor => exact holds side

variable (h : Orderly T O)
include h

theorem Net.Sound.happen (sound : net.Sound) (side : Side) {event : FsmEvent}
    (own : event.own = true) : (net.act T side 0 event).Sound := by
  have silent (w : FsmWorld Layer) : answeredRequest T w event = none := by
    cases event <;> first | rfl | cases own
  have unacked (w : FsmWorld Layer) : acknowledgedId T w event = none := by
    cases event <;> first | rfl | cases own
  refine ⟨h.numbered_act sound.numbered ?_, side.cases_of ?_ ?_⟩
  · rw [unacked]
    exact nofun
  · refine (sound.dialogue side).steps (h.steps_asks fun accepted => ?_)
    rcases (h.fsmStep event (net.party side).world).accepted accepted with brings | before
    · obtain ⟨junk, packet, -, -, -, rfl, -⟩ := brings
      cases own
    · exact before
  · exact (sound.dialogue side.other).steps (h.steps_silent (silent _))

/-- What a packet that arrives may be for its receiver. -/
theorem Net.Sound.deliver (sound : net.Sound) {letter : Letter} {rest : List Letter}
    (inbox : net.inbox side = letter :: rest) (junk : Nat → UInt8)
    (fits : 4 + letter.payload.length < 65536)
    (timely : letter.code = .configAck →
      (net.party side).numbered.length ≤ letter.serial + 256) :
    ((net.pop side).act T side letter.serial (.input junk letter.packet)).Sound := by
  have popped := sound.pop side
  have read := readHeader_packet fits
  have answered {content : Bytes}
      (answered : answeredRequest T (net.party side).world (.input junk letter.packet) =
        some content) : letter.code = .configReq ∧ content = letter.payload := by
    simp only [answeredRequest, read, Option.ite_none_right_eq_some, Option.some.injEq] at answered
    exact ⟨(knownCode?_num answered.1.1).symm, answered.2.symm⟩
  refine ⟨h.numbered_act popped.numbered ?_, side.cases_of ?_ ?_⟩
  · intro id acked
    unfold acknowledgedId at acked
    dsimp only at acked
    split_ifs at acked with acknowledged
    · obtain ⟨content, found⟩ := Option.isSome_iff_exists.mp acknowledged
      have request := (answered (Option.eq_some_of_filter_eq_some found)).1
      have same : letter.id = id := by simpa [read] using acked
      rw [← same]
      exact sound.numbered.letters side letter (inbox ▸ List.mem_cons_self) (.inl request)
    · cases acked
  · by_cases brings : bringsAck T (net.party side).world (.input junk letter.packet)
    · obtain ⟨junk', packet, code, id, bp, same, header, known, newest⟩ := brings
      cases same
      obtain ⟨rfl, rfl, rfl⟩ : code = letter.code.num ∧ id = letter.id ∧ bp = letter.payload := by
        simpa [read, eq_comm] using header
      have ack := (knownCode?_num known).symm
      have agrees : Step (net.dialogue side)
          { (net.pop side).dialogue side with agreed := true } := by
        have answers : (net.dialogue side).answers =
            letter.serial :: rest.filterMap Letter.answer? := by
          simp [Net.dialogue, inbox, Letter.answer?, ack]
        have step := Step.agree answers (fresh_ack sound inbox ack (timely ack) newest)
        have result : (net.pop side).dialogue side = {
            net.dialogue side with answers := rest.filterMap Letter.answer? } := by
          simp only [Net.dialogue, Net.pop_party, Net.pop_inbox, Net.pop_inbox_other, inbox,
            List.tail_cons]
        rw [result]
        exact step
      exact ((sound.dialogue side).step agrees).steps (h.steps_asks fun _ => rfl)
    · refine (popped.dialogue side).steps (h.steps_asks fun accepted => ?_)
      exact ((h.fsmStep _ (net.party side).world).accepted accepted).resolve_left brings
  · cases request : answeredRequest T (net.party side).world (.input junk letter.packet) with
    | none => exact (popped.dialogue side.other).steps (h.steps_silent request)
    | some content =>
        obtain ⟨code, rfl⟩ := answered request
        have before : net.dialogue side.other = { (net.pop side).dialogue side.other with
            wire := (letter.serial, letter.payload) ::
              ((net.pop side).dialogue side.other).wire } := by
          simp [Net.dialogue, inbox, Letter.request?, code]
        have steps :=
          @Orderly.steps_answers _ _ _ _ O h (net.pop side) side letter.serial _ _ request
        rw [← before] at steps
        exact (sound.dialogue side.other).steps steps

theorem Net.Sound.step (sound : net.Sound) {event : NetEvent} (timely : Timely net event) :
    (netStep T net event).Sound := by
  cases event with
  | happen side event own => exact sound.happen h side own
  | deliver side junk =>
      cases inbox : net.inbox side with
      | nil => simpa only [netStep, inbox] using sound
      | cons letter rest =>
          obtain ⟨fits, fresh⟩ := timely letter (by rw [inbox]; rfl)
          simpa only [netStep, inbox] using sound.deliver h inbox junk fits fresh
  | lose side => exact sound.pop side

end Link

section Agreement

variable {T : FsmType Layer} {O : Outlook Layer View Record}

/-- Both ends after a history of events, from `FsmInit` on. -/
def netRun (T : FsmType Layer) (left right : Layer) (events : List NetEvent) : Net Layer :=
  Transition.run (netStep T) (Net.start (.init left) (.init right)) events

def TimelyRun (T : FsmType Layer) (left right : Layer) (events : List NetEvent) : Prop :=
  Transition.Meets (netStep T) Timely (Net.start (.init left) (.init right)) events

theorem Net.sound_start (left right : Layer) :
    (Net.start (FsmWorld.init left) (FsmWorld.init right)).Sound where
  numbered := by
    refine ⟨fun side => ?_, fun side letter member => ?_⟩
    · cases side <;> rfl
    · cases member
  dialogue side := by
    have empty : (Net.start (FsmWorld.init left) (FsmWorld.init right)).dialogue side =
        Agreement.start := by
      cases side <;> rfl
    rw [empty]
    exact Agreement.sound_start

theorem Net.sound_run (h : Orderly T O) {left right : Layer} {events : List NetEvent}
    (timely : TimelyRun T left right events) : (netRun T left right events).Sound :=
  Transition.invariant_run (netStep T) (fun _ _ sound timely => sound.step h timely)
    (Net.sound_start left right) timely

theorem Net.parties_run {left right : Layer} {P : Party Layer → Prop}
    (kept : ∀ party serial event, P party → P (party.step T serial event))
    (initialLeft : P { world := .init left, heard := none })
    (initialRight : P { world := .init right, heard := none }) (events : List NetEvent)
    (side : Side) : P ((netRun T left right events).party side) := by
  have always : Transition.Meets (netStep T) (fun _ _ => True)
      (Net.start (.init left) (.init right)) events :=
    Transition.meets_of_forall (netStep T) (fun _ _ => trivial) _ events
  have initial (side : Side) :
      P ((Net.start (FsmWorld.init left) (FsmWorld.init right)).party side) := by
    cases side
    · exact initialLeft
    · exact initialRight
  have step (net : Net Layer) (event : NetEvent) (holds : ∀ side, P (net.party side))
      (_ : True) : ∀ side, P ((netStep T net event).party side) :=
    Net.parties_step kept holds event
  exact Transition.invariant_run (netStep T) step initial always side

/-- Either end negotiates with a request that is current. -/
theorem Net.told_run (h : Orderly T O) (left right : Layer) (events : List NetEvent) (side : Side) :
    O.Told ((netRun T left right events).party side).world :=
  Net.parties_run (P := fun party => O.Told party.world)
    (fun party _ event => (h.fsmStep event party.world).told) nofun nofun events side

/-- What an end that takes its request for acknowledged can rely on. -/
theorem Net.Sound.agreement {net : Net Layer} {side : Side} (sound : net.Sound)
    (told : O.Told (net.party side).world)
    (accepted : (net.party side).world.fsm.state.accepted = true) :
    ∃ verdict, (net.party side.other).heard = some verdict ∧ verdict.accepted = true ∧
      O.view verdict.content = O.asks (net.party side).world := by
  obtain ⟨verdict, heard, acked, last⟩ := (sound.dialogue side).agreement accepted
  have current := told (by
    cases state : (net.party side).world.fsm.state <;>
      simp_all [FsmState.accepted, FsmState.negotiating])
  exact ⟨verdict, heard, acked,
    Option.some.inj ((congrArg (Option.map O.view) last).symm.trans current)⟩

def RecordsRight (T : FsmType Layer) (O : Outlook Layer View Record) (Right : Bytes → Record → Prop) :
    Prop :=
  ∀ w event bp, acknowledgedRequest T w event = some bp → Right bp (recordedRequest T O bp w)

def Party.Recorded (O : Outlook Layer View Record) (Right : Bytes → Record → Prop)
    (party : Party Layer) : Prop :=
  party.world.fsm.state.settled = true → ∃ verdict, party.heard = some verdict ∧
    Right verdict.content (O.records party.world)

theorem Party.Recorded.step (h : Orderly T O) {Right : Bytes → Record → Prop}
    (notes : RecordsRight T O Right) {party : Party Layer} (recorded : party.Recorded O Right)
    (serial : Nat) (event : FsmEvent) : (party.step T serial event).Recorded O Right := by
  intro settled
  have advances := h.fsmStep event party.world
  have records : O.records (party.step T serial event).world = recordedBy T O party.world event :=
    advances.records settled
  rw [records]
  cases answered : answeredRequest T party.world event with
  | none =>
      have unacked : acknowledgedId T party.world event = none := by
        cases event <;> simp [acknowledgedId, acknowledgedRequest, answered]
      have before := advances.settled settled
      rw [unacked] at before
      simpa [recordedBy, Party.step, answered] using recorded (by simpa using before)
  | some content =>
      cases acked : acknowledgedRequest T party.world event with
      | none =>
          have unsettled := h.unsettled_fsmStep answered acked
          exact absurd settled (by simp [Party.step, unsettled])
      | some acknowledged =>
          obtain rfl : content = acknowledged :=
            Option.some.inj (answered.symm.trans (Option.eq_some_of_filter_eq_some acked))
          refine ⟨_, by simp only [Party.step, answered]; rfl, ?_⟩
          simpa [recordedBy, answered] using notes party.world event content acked

/-- An end that stands by an acknowledgement has the right record of what it was for. -/
theorem peers_recorded (h : Orderly T O) {Right : Bytes → Record → Prop} (notes : RecordsRight T O Right)
    (left right : Layer) (events : List NetEvent) (side : Side) :
    ((netRun T left right events).party side).Recorded O Right :=
  Net.parties_run (P := Party.Recorded O Right)
    (fun _ serial event recorded => recorded.step h notes serial event) nofun nofun events side

/-- An end that takes its request for acknowledged is right. The request that the other end has
answered last stands for what this end asks for now, and the other end has acknowledged all of
it; as long as it stands by that, its record of it is right. -/
theorem peers_agree (h : Orderly T O) {Right : Bytes → Record → Prop} (notes : RecordsRight T O Right)
    {left right : Layer} {events : List NetEvent} (timely : TimelyRun T left right events)
    {side : Side}
    (accepted : ((netRun T left right events).party side).world.fsm.state.accepted = true) :
    ∃ verdict, ((netRun T left right events).party side.other).heard = some verdict ∧
      verdict.accepted = true ∧
      O.view verdict.content = O.asks ((netRun T left right events).party side).world ∧
      (((netRun T left right events).party side.other).world.fsm.state.settled = true →
        Right verdict.content
          (O.records ((netRun T left right events).party side.other).world)) := by
  obtain ⟨verdict, heard, acked, current⟩ := (Net.sound_run h timely).agreement
    (Net.told_run h left right events side) accepted
  refine ⟨verdict, heard, acked, current, fun settled => ?_⟩
  obtain ⟨known, heard', recorded⟩ := peers_recorded h notes left right events side.other settled
  obtain rfl : verdict = known := Option.some.inj (heard.symm.trans heard')
  exact recorded

structure Net.Standing (net : Net Layer) (side : Side) (verdict : Verdict Bytes) : Prop where
  settled : (net.party side).world.fsm.state.settled = true
  heard : (net.party side).heard = some verdict
  last : IsLast (net.party side.other).numbered verdict.serial

variable {Apart : View → View → Prop} {good : FsmWorld Layer → Prop}

def Checks (T : FsmType Layer) (O : Outlook Layer View Record) (good : FsmWorld Layer → Prop)
    (Apart : View → View → Prop) : Prop :=
  ∀ w event bp, good w → acknowledgedRequest T w event = some bp →
    (fsmStep T w event).fsm.state.settled = true →
      Apart (O.view bp) (O.asks (fsmStep T w event))

def Net.Differ (view : Bytes → View) (Apart : View → View → Prop) (net : Net Layer) : Prop :=
  ∀ side first second, net.Standing side first → net.Standing side.other second →
    Apart (view first.content) (view second.content)

/-- The step of one end between two acknowledgements that both ends stand by. -/
theorem Net.apart_act (h : Orderly T O) (checks : Checks T O good Apart) {net : Net Layer}
    {side : Side} {serial : Nat} {event : FsmEvent} {first second : Verdict Bytes}
    (differ : net.Differ O.view Apart) (holds : good (net.party side).world)
    (sound : (net.act T side serial event).Sound)
    (told : O.Told ((net.act T side serial event).party side).world)
    (own : (net.act T side serial event).Standing side first)
    (other : (net.act T side serial event).Standing side.other second) :
    Apart (O.view first.content) (O.view second.content) := by
  obtain ⟨settled, heard, last⟩ := own
  obtain ⟨settledOther, heardOther, lastOther⟩ := other
  have asked := (sound.dialogue side).heard second heardOther
  rw [Side.other_other] at lastOther
  have current := lastRequest_of_isLast asked lastOther
  rw [act_party_other] at last settledOther heardOther
  rw [act_party] at settled heard told lastOther
  simp only [dialogue, act_party] at current
  cases answered : answeredRequest T (net.party side).world event with
  | none =>
      -- Nothing new is acknowledged, so both have stood by these verdicts before.
      have before : (net.party side).world.fsm.state.settled = true := by
        have unacked : acknowledgedId T (net.party side).world event = none := by
          cases event <;> simp [acknowledgedId, acknowledgedRequest, answered]
        have kept := (h.fsmStep event (net.party side).world).settled settled
        rw [unacked] at kept
        simpa using kept
      rw [h.numbered_step] at lastOther
      refine differ side first second ⟨before, ?_, last⟩ ⟨settledOther, heardOther, ?_⟩
      · simpa [Party.step, answered] using heard
      · rw [Side.other_other]
        exact lastOther.of_append
  | some content =>
      obtain rfl : { serial, content, accepted :=
          (acknowledgedRequest T (net.party side).world event).isSome } = first := by
        simpa [Party.step, answered] using heard
      cases acked : acknowledgedRequest T (net.party side).world event with
      | none =>
          have unsettled := h.unsettled_fsmStep answered acked
          exact absurd settled (by simp [Party.step, unsettled])
      | some acknowledged =>
          obtain rfl : content = acknowledged := by
            have same := Option.eq_some_of_filter_eq_some acked
            exact Option.some.inj (answered.symm.trans same)
          have request := told (by
            cases state : ((net.party side).step T serial event).world.fsm.state <;>
              simp_all [FsmState.settled, FsmState.negotiating])
          have same := Option.some.inj ((congrArg (Option.map O.view) current).symm.trans request)
          rw [same]
          exact checks _ event content holds acked settled

theorem Net.differ_act (h : Orderly T O) (checks : Checks T O good Apart)
    (symm : ∀ {a b}, Apart a b → Apart b a) {net : Net Layer} {side : Side} {serial : Nat}
    {event : FsmEvent} (differ : net.Differ O.view Apart) (holds : good (net.party side).world)
    (sound : (net.act T side serial event).Sound)
    (told : O.Told ((net.act T side serial event).party side).world) :
    (net.act T side serial event).Differ O.view Apart := by
  refine side.cases_of ?_ ?_
  · intro first second own other
    exact apart_act h checks differ holds sound told own other
  · intro first second other own
    rw [Side.other_other] at own
    exact symm (apart_act h checks differ holds sound told own other)

/-- The loss of a packet does not touch what the ends stand by. -/
theorem Net.differ_pop {net : Net Layer} (side : Side) (differ : net.Differ O.view Apart) :
    (net.pop side).Differ O.view Apart :=
  fun actor first second own other => differ actor first second
    ⟨own.settled, own.heard, own.last⟩ ⟨other.settled, other.heard, other.last⟩

structure Net.Wary (O : Outlook Layer View Record) (good : FsmWorld Layer → Prop)
    (Apart : View → View → Prop) (net : Net Layer) : Prop where
  sound : net.Sound
  told : ∀ side, O.Told (net.party side).world
  good : ∀ side, good (net.party side).world
  differ : net.Differ O.view Apart

theorem Net.Wary.step (h : Orderly T O) (checks : Checks T O good Apart)
    (symm : ∀ {a b}, Apart a b → Apart b a) (kept : ∀ w event, good w → good (fsmStep T w event))
    {net : Net Layer} (wary : net.Wary O good Apart) {event : NetEvent}
    (timely : Timely net event) : (netStep T net event).Wary O good Apart := by
  have sound := wary.sound.step h timely
  have told := Net.parties_step (P := fun party => O.Told party.world)
    (fun party _ event => (h.fsmStep event party.world).told) wary.told event
  have holds := Net.parties_step (P := fun party => good party.world)
    (fun party _ event => kept party.world event) wary.good event
  refine ⟨sound, told, holds, ?_⟩
  cases event with
  | happen side event own =>
      exact differ_act h checks symm wary.differ (wary.good side) sound (told side)
  | deliver side junk =>
      cases inbox : net.inbox side with
      | nil => simpa only [netStep, inbox] using wary.differ
      | cons letter rest =>
          simp only [netStep, inbox] at sound told ⊢
          exact differ_act h checks symm (differ_pop side wary.differ) (wary.good side) sound
            (told side)
  | lose side => exact differ_pop side wary.differ

/-- Once both ends are Opened, what they have asked for is apart. -/
theorem peers_apart (h : Orderly T O) (checks : Checks T O good Apart)
    (symm : ∀ {a b}, Apart a b → Apart b a) (kept : ∀ w event, good w → good (fsmStep T w event))
    {left right : Layer} (goodLeft : good (.init left)) (goodRight : good (.init right))
    {events : List NetEvent} (timely : TimelyRun T left right events)
    (opened : ∀ side, ((netRun T left right events).party side).world.fsm.state = .opened) :
    Apart (O.asks ((netRun T left right events).party .left).world)
      (O.asks ((netRun T left right events).party .right).world) := by
  have initial : (Net.start (FsmWorld.init left) (FsmWorld.init right)).Wary O good Apart := by
    refine ⟨Net.sound_start left right, fun side => ?_, fun side => ?_,
      fun side first second own => ?_⟩
    · cases side <;> exact nofun
    · cases side
      · exact goodLeft
      · exact goodRight
    · have settled := own.settled
      cases side <;> cases settled
  have wary : (netRun T left right events).Wary O good Apart :=
    Transition.invariant_run (netStep T)
      (fun _ _ wary timely => wary.step h checks symm kept timely) initial timely
  have stands (side : Side) : ∃ verdict, (netRun T left right events).Standing side verdict ∧
      O.view verdict.content = O.asks ((netRun T left right events).party side.other).world := by
    obtain ⟨verdict, heard, -, last⟩ := (wary.sound.dialogue side.other).agreed (by
      simp [Net.dialogue, opened, FsmState.accepted])
    have asked := (wary.sound.dialogue side.other).heard verdict heard
    have current := wary.told side.other (by rw [opened]; rfl)
    refine ⟨verdict, ⟨by rw [opened]; rfl, ?_, last⟩, ?_⟩
    · simpa only [Net.dialogue, Side.other_other] using heard
    · have same := congrArg (Option.map O.view) (lastRequest_of_isLast asked last)
      exact Option.some.inj (same.symm.trans current)
  obtain ⟨first, standsLeft, asksRight⟩ := stands .left
  obtain ⟨second, standsRight, asksLeft⟩ := stands .right
  have apart := wary.differ .left first second standsLeft standsRight
  rw [asksRight, asksLeft] at apart
  exact symm apart

end Agreement

end Mpd
