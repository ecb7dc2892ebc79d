import Mathlib.Data.Finset.Card
import Mathlib.Data.List.ReduceOption
import Mathlib.Logic.Function.Basic
import Mpd.Pptp.Ctrl

/-! A control connection of `pptp_ctrl.c` with the channels that it has killed. What is killed is
freed by a timer only, so what is left of the running function still finds it, and can give it
a state again. -/

set_option autoImplicit false

namespace Mpd.PptpDying

inductive Mortal (σ : Type) where
  | live (state : σ)
  | dying
  deriving DecidableEq, Repr

/-- Whether the bit of a state is in a mask, which never has the one of `DYING`. -/
def Mortal.among {σ : Type} [DecidableEq σ] (states : List σ) : Mortal σ → Bool
  | .live state => state ∈ states
  | .dying => false

structure Chan where
  state : Mortal PptpChanState
  orig : Bool
  incoming : Bool
  cid : UInt16
  peerCid : UInt16 := 0
  cookie : Bool := false
  deriving DecidableEq, Repr

def Chan.isPns (ch : Chan) : Bool := xor (!ch.orig) (!ch.incoming)

def Chan.tryCid (ch : Chan) : PptpFind → UInt16
  | .myCid => ch.cid
  | .peerCid => ch.peerCid
  | .pnsCid => if ch.isPns then ch.cid else ch.peerCid
  | .pacCid => if !ch.isPns then ch.cid else ch.peerCid

structure PendRep where
  request : PptpType
  chan : Option Nat
  deriving DecidableEq, Repr

/-- `struct pptpctrl`, with the memory of its channels, the call ids, and what was written and
told to the link side. `next` is the next address of `Malloc`. -/
structure Ctrl where
  state : Mortal PptpCtrlState := .live .idle
  channels : List (Option Nat) := []
  reps : List PendRep := []
  echoId : UInt32 := 0
  unused_timer : Bool := false
  active_sessions : Int := 0
  mem : Nat → Chan
  next : Nat := 0
  gCallIds : UInt16 → Bool := fun _ => false
  gLastCallId : UInt16 := 0
  asked : Nat := 0
  sent : List PptpMsg := []
  told : List (Nat × PptpNote) := []

namespace Ctrl

def setChan (c : Ctrl) (ch : Nat) (f : Chan → Chan) : Ctrl :=
  { c with mem := Function.update c.mem ch (f (c.mem ch)) }

def tell (c : Ctrl) (ch : Nat) (note : PptpNote) : Ctrl :=
  { c with told := c.told ++ [(ch, note)] }

/-- The cancelling of a pending reply. -/
def cancel (c : Ctrl) (answered : Option PendRep) : Ctrl :=
  { c with reps := answered.elim c.reps fun prep => c.reps.erase prep }

def listed (c : Ctrl) : List Nat := c.channels.reduceOption

end Ctrl

def pptpCtrlNewChanState (c : Ctrl) (ch : Nat) (new : PptpChanState) : Ctrl :=
  c.setChan ch fun chan => { chan with state := .live new }

def pptpCtrlNewCtrlState (c : Ctrl) (new : PptpCtrlState) : Ctrl :=
  { c with state := .live new }

def pptpCtrlFindChan (c : Ctrl) (msg : PptpMsg) (incoming : Bool) : Option Nat :=
  match if incoming then (gPptpMsgInfo msg.type).findIn else (gPptpMsgInfo msg.type).findOut with
  | none => none
  | some how => c.listed.find? fun ch => msg.cidField incoming = (c.mem ch).tryCid how

def pptpCtrlKillChan (c : Ctrl) (ch : Nat) : Ctrl :=
  match (c.mem ch).state with
  | .dying => c
  | .live state =>
      let c :=
        if (c.mem ch).cookie then c.tell ch (if state = .waitAnswer then .cancel else .failed)
        else c
      { c.setChan ch fun chan => { chan with state := .dying } with
        reps := c.reps.filter (·.chan ≠ some ch)
        gCallIds := Function.update c.gCallIds (c.mem ch).cid false
        channels := c.channels.map fun slot => if slot = some ch then none else slot
        active_sessions := c.active_sessions - 1
        unused_timer :=
          c.unused_timer || decide (c.active_sessions - 1 = 0 ∧ c.state ≠ .dying) }

def pptpCtrlKillCtrl (c : Ctrl) : Ctrl :=
  match c.state with
  | .dying => c
  | .live _ =>
      { c.listed.foldl pptpCtrlKillChan { c with state := .dying } with
        reps := [], unused_timer := false }

section Code

-- Whether the calls that can fail succeed, in their order: the writes, and what the link side
-- does when it is asked.
variable (answer : Nat → Bool)

/-- `PptpCtrlWriteMsg`: whether the message was written. The socket of a connection that was
killed is closed. -/
def pptpCtrlWriteMsg (c : Ctrl) (msg : PptpMsg) : Bool × Ctrl :=
  match c.state with
  | .dying => (false, c)
  | .live _ =>
      if !answer c.asked then (false, pptpCtrlKillCtrl { c with asked := c.asked + 1 })
      else
        (true, { c with
          asked := c.asked + 1
          sent := c.sent ++ [msg]
          reps :=
            match (gPptpMsgInfo msg.type).reply with
            | none => c.reps
            | some _ => ⟨msg.type, pptpCtrlFindChan c msg false⟩ :: c.reps })

def pptpPacClear (c : Ctrl) (ch : Nat) (result : UInt8) : Ctrl :=
  pptpCtrlKillChan (pptpCtrlWriteMsg answer c (.callDiscNotify (c.mem ch).cid result)).2 ch

def pptpPnsClear (c : Ctrl) (ch : Nat) : Ctrl :=
  pptpCtrlNewChanState (pptpCtrlWriteMsg answer c (.callClearRequest (c.mem ch).cid)).2 ch
    .waitDisconnect

def pptpCtrlCloseChan (c : Ctrl) (ch : Nat) (result : UInt8) : Ctrl :=
  match (c.mem ch).state with
  | .live .established =>
      if (c.mem ch).isPns then pptpPnsClear answer c ch else pptpPacClear answer c ch result
  | .live .waitAnswer =>
      pptpCtrlKillChan
        (pptpCtrlWriteMsg answer c (.outCallReply 0 (c.mem ch).peerCid 7)).2 ch
  | .live .waitInReply => pptpPacClear answer c ch result
  | .live .waitOutReply | .live .waitConnect => pptpPnsClear answer c ch
  | .live .waitDisconnect => c
  | .live .waitCtrl => pptpCtrlKillChan c ch
  | .dying => c

def pptpCtrlConected (c : Ctrl) (ch : Nat) : Ctrl :=
  (pptpCtrlWriteMsg answer c (.inCallConn (c.mem ch).peerCid)).2

/-- `PptpResult` of a call that is connected. The link may have been closed before. When it
cannot attach it closes the call, and for an incoming call of its own it reports back. -/
def pptpResult (c : Ctrl) (ch : Nat) : Ctrl :=
  if !(c.mem ch).cookie then c
  else
    let c := c.tell ch .connected
    if !answer c.asked then { c with asked := c.asked + 1 }
    else
      let attached := answer (c.asked + 1)
      let c := { c with asked := c.asked + 2 }
      if !attached then pptpCtrlCloseChan answer c ch 3
      else if (c.mem ch).orig && (c.mem ch).incoming then pptpCtrlConected answer c ch
      else c

def pptpCheckChan (c : Ctrl) (ch : Nat) : Ctrl :=
  if (c.mem ch).state ≠ .live .waitCtrl then c
  else if (c.mem ch).incoming then
    (pptpCtrlWriteMsg answer (pptpCtrlNewChanState c ch .waitInReply)
      (.inCallRequest (c.mem ch).cid)).2
  else
    (pptpCtrlWriteMsg answer (pptpCtrlNewChanState c ch .waitOutReply)
      (.outCallRequest (c.mem ch).cid)).2

def pptpCtrlCheckConn (c : Ctrl) : Ctrl :=
  if c.state ≠ .live .established then c else c.listed.foldl (pptpCheckChan answer) c

/-- The call id of `PptpCtrlGetChan`, whose search does not end when there is none. -/
@[irreducible] def pptpNextCallId (c : Ctrl) : Option UInt16 :=
  ((List.range 65536).map fun i => c.gLastCallId + UInt16.ofNat i).find? fun cid =>
    !c.gCallIds cid

def pptpCtrlGetChan (c : Ctrl) (cid : UInt16) (state : PptpChanState) (orig incoming : Bool) :
    Ctrl :=
  { c with
    channels :=
      if none ∈ c.channels then c.channels.set (c.channels.idxOf none) (some c.next)
      else c.channels ++ [some c.next]
    mem := Function.update c.mem c.next ⟨.live state, orig, incoming, cid, 0, false⟩
    next := c.next + 1
    gCallIds := Function.update c.gCallIds cid true
    gLastCallId := cid
    unused_timer := false
    active_sessions := c.active_sessions + 1 }

def pptpTake (c : Ctrl) (ch : Nat) (peerCid : UInt16) : Ctrl :=
  c.setChan ch fun chan => { chan with peerCid := peerCid, cookie := true }

/-- `PptpCtrlOrigCall` on the connection that `PptpCtrlGetCtrl` has found or made, with the
cookie that it returns. -/
def pptpCtrlOrigCall (c : Ctrl) (incoming : Bool) : Option Nat × Ctrl :=
  match pptpNextCallId c with
  | none => (none, c)
  | some cid =>
      let ch := c.next
      let c := pptpTake (pptpCtrlGetChan c cid .waitCtrl true incoming) ch 0
      (some ch, pptpCtrlCheckConn answer c)

def pptpStartCtrlConnRequest (c : Ctrl) (vers : UInt16) : Ctrl :=
  if vers ≠ 0x0100 then
    match pptpCtrlWriteMsg answer c (.startCtrlConnReply 0x0100 5) with
    | (false, c) => c
    | (true, c) => pptpCtrlKillCtrl c
  else
    (pptpCtrlWriteMsg answer (pptpCtrlNewCtrlState c .established)
      (.startCtrlConnReply 0x0100 1)).2

def pptpStartCtrlConnReply (c : Ctrl) (vers : UInt16) (result : UInt8) : Ctrl :=
  if result ≠ 0 ∧ result ≠ 1 then pptpCtrlKillCtrl c
  else if vers ≠ 0x0100 then
    (pptpCtrlWriteMsg answer (pptpCtrlNewCtrlState c .waitStopReply) .stopCtrlConnRequest).2
  else pptpCtrlCheckConn answer (pptpCtrlNewCtrlState c .established)

def pptpStopCtrlConnRequest (c : Ctrl) : Ctrl :=
  match pptpCtrlWriteMsg answer (pptpCtrlNewCtrlState c .idle) .stopCtrlConnReply with
  | (false, c) => c
  | (true, c) => pptpCtrlKillCtrl c

def pptpEchoReply (c : Ctrl) (id : UInt32) (result : UInt8) : Ctrl :=
  if result ≠ 1 ∨ id ≠ c.echoId then pptpCtrlKillCtrl c else c

def pptpOutCallRequest (c : Ctrl) (cid : UInt16) : Ctrl :=
  match pptpNextCallId c with
  | none => c
  | some own =>
      let ch := c.next
      let c := pptpCtrlGetChan c own .waitAnswer false false
      let taken := answer c.asked
      let c := { c with asked := c.asked + 1 }
      if taken then pptpTake c ch cid
      else (pptpCtrlWriteMsg answer (pptpCtrlKillChan c ch) (.outCallReply 0 cid 7)).2

def pptpOutCallReply (c : Ctrl) (ch : Nat) (cid : UInt16) (result : UInt8) : Ctrl :=
  if result ≠ 1 then
    pptpCtrlKillChan (if (c.mem ch).cookie then c.tell ch .failed else c) ch
  else
    pptpResult answer
      (pptpCtrlNewChanState (c.setChan ch fun chan => { chan with peerCid := cid }) ch
        .established) ch

def pptpInCallRequest (c : Ctrl) (cid : UInt16) : Ctrl :=
  match pptpNextCallId c with
  | none => c
  | some own =>
      let ch := c.next
      let c := pptpCtrlGetChan c own .waitConnect false true
      let taken := answer c.asked
      let c := { c with asked := c.asked + 1 }
      if taken then (pptpCtrlWriteMsg answer (pptpTake c ch cid) (.inCallReply own cid 1)).2
      else
        match pptpCtrlWriteMsg answer c (.inCallReply own cid 3) with
        | (false, c) => c
        | (true, c) => pptpCtrlKillChan c ch

/-- `PptpInCallReply`, which does as `PptpOutCallReply` does. -/
def pptpInCallReply (c : Ctrl) (ch : Nat) (cid : UInt16) (result : UInt8) : Ctrl :=
  pptpOutCallReply answer c ch cid result

def pptpInCallConn (c : Ctrl) (ch : Nat) : Ctrl :=
  pptpCtrlNewChanState (pptpResult answer c ch) ch .established

def pptpCallClearRequest (c : Ctrl) (ch : Nat) : Ctrl :=
  if (c.mem ch).isPns then pptpCtrlKillCtrl c
  else
    (pptpCtrlWriteMsg answer (pptpCtrlKillChan c ch) (.callDiscNotify (c.mem ch).cid 4)).2

def pptpSetLinkInfo (c : Ctrl) (ch : Nat) : Ctrl :=
  if (c.mem ch).cookie then c.tell ch .linkInfo else c

def pptpCtrlHandler (c : Ctrl) : PptpMsg → Ctrl
  | .startCtrlConnRequest vers => pptpStartCtrlConnRequest answer c vers
  | .startCtrlConnReply vers result => pptpStartCtrlConnReply answer c vers result
  | .stopCtrlConnRequest => pptpStopCtrlConnRequest answer c
  | .stopCtrlConnReply => pptpCtrlKillCtrl c
  | .echoRequest id => (pptpCtrlWriteMsg answer c (.echoReply id 1)).2
  | .echoReply id result => pptpEchoReply c id result
  | .outCallRequest cid => pptpOutCallRequest answer c cid
  | .inCallRequest cid => pptpInCallRequest answer c cid
  | _ => c

def pptpChanHandler (c : Ctrl) (ch : Nat) : PptpMsg → Ctrl
  | .outCallReply cid _ result => pptpOutCallReply answer c ch cid result
  | .inCallReply cid _ result => pptpInCallReply answer c ch cid result
  | .inCallConn _ => pptpInCallConn answer c ch
  | .callClearRequest _ => pptpCallClearRequest answer c ch
  | .callDiscNotify .. => pptpCtrlKillChan c ch
  | .setLinkInfo _ => pptpSetLinkInfo c ch
  | _ => c

def pptpAnswered (c : Ctrl) (msg : PptpMsg) (ch : Option Nat) : Option PendRep :=
  c.reps.find? fun prep => (gPptpMsgInfo prep.request).reply = some msg.type ∧ prep.chan = ch

/-- A reply that answers nothing. -/
def pptpSpurious (c : Ctrl) (msg : PptpMsg) (ch : Option Nat) : Bool :=
  (pptpAnswered c msg ch).isNone && (gPptpMsgInfo msg.type).isReply

/-- `PptpCtrlMsg` once the channel is known. -/
def pptpCtrlMsgFor (c : Ctrl) (msg : PptpMsg) (ch : Option Nat) : Ctrl :=
  if pptpSpurious c msg ch then c
  else
    let c := c.cancel (pptpAnswered c msg ch)
    match ch with
    | none =>
        if c.state.among (gPptpMsgInfo msg.type).ctrlStates then pptpCtrlHandler answer c msg
        else pptpCtrlKillCtrl c
    | some ch =>
        if (c.mem ch).state.among (gPptpMsgInfo msg.type).chanStates then
          pptpChanHandler answer c ch msg
        else pptpCtrlKillCtrl c

def pptpCtrlMsg (c : Ctrl) (msg : PptpMsg) : Ctrl :=
  if (gPptpMsgInfo msg.type).findIn.isNone then pptpCtrlMsgFor answer c msg none
  else
    match pptpCtrlFindChan c msg true with
    | none => c
    | some ch => pptpCtrlMsgFor answer c msg (some ch)

inductive Call where
  | closeChan (ch : Nat) (result : UInt8)
  | origCall (incoming : Bool)
  | received (msg : PptpMsg)

/-- What a call leaves, with the cookie of a call that we make. -/
def call (c : Ctrl) : Call → Option Nat × Ctrl
  | .closeChan ch result => (none, pptpCtrlCloseChan answer c ch result)
  | .origCall incoming => pptpCtrlOrigCall answer c incoming
  | .received msg => (none, pptpCtrlMsg answer c msg)

end Code

/-- What a call may do to the dead: a channel that was killed stays so, a connection that the call
kills is killed with all the channels that it had or that the call has made, and a cookie is one
of a channel that lives. -/
structure DeadStaysDead (c : Ctrl) (after : Option Nat × Ctrl) : Prop where
  still : ∀ ch < c.next, (c.mem ch).state = .dying → (after.2.mem ch).state = .dying
  killed : c.state ≠ .dying → after.2.state = .dying →
    ∀ ch, ch ∈ c.listed ∨ c.next ≤ ch ∧ ch < after.2.next → (after.2.mem ch).state = .dying
  cookie : ∀ ch, after.1 = some ch → (after.2.mem ch).state ≠ .dying

section Invariant

variable {c c' c'' : Ctrl} {ch : Nat}

/-- What an operation keeps: dead channels stay dead, a channel leaves the array only when it is
killed, and a killed connection has only dead channels. -/
structure Safe (c c' : Ctrl) : Prop where
  next : c'.next = c.next
  dead : ∀ ch, (c.mem ch).state = .dying → (c'.mem ch).state = .dying
  listed : ∀ ch ∈ c.listed, ch ∈ c'.listed ∨ (c'.mem ch).state = .dying
  buried : (c.state = .dying → ∀ ch ∈ c.listed, (c.mem ch).state = .dying) →
    c'.state = .dying → ∀ ch ∈ c'.listed, (c'.mem ch).state = .dying

theorem Safe.refl (c : Ctrl) : Safe c c :=
  ⟨rfl, fun _ dead => dead, fun _ member => .inl member, fun buried => buried⟩

theorem Safe.trans (first : Safe c c') (second : Safe c' c'') : Safe c c'' where
  next := second.next.trans first.next
  dead ch dead := second.dead ch (first.dead ch dead)
  listed ch member := by
    rcases first.listed ch member with member | dead
    · exact second.listed ch member
    · exact .inr (second.dead ch dead)
  buried buried := second.buried (first.buried buried)

theorem Safe.of_same (next : c'.next = c.next) (mem : c'.mem = c.mem)
    (channels : c'.channels = c.channels) (state : c'.state = .dying → c.state = .dying) :
    Safe c c' where
  next := next
  dead ch dead := by rw [mem]; exact dead
  listed ch member := by
    unfold Ctrl.listed at member ⊢
    rw [channels]
    exact .inl member
  buried buried dying ch member := by
    unfold Ctrl.listed at member buried
    rw [channels] at member
    rw [mem]
    exact buried (state dying) ch member

theorem safe_asked (c : Ctrl) (asked : Nat) : Safe c { c with asked := asked } :=
  .of_same rfl rfl rfl fun dying => dying

theorem safe_tell (c : Ctrl) (ch : Nat) (note : PptpNote) : Safe c (c.tell ch note) :=
  .of_same rfl rfl rfl fun dying => dying

theorem Safe.foldl {step : Ctrl → Nat → Ctrl} (safe : ∀ c ch, Safe c (step c ch))
    (chans : List Nat) (c : Ctrl) : Safe c (chans.foldl step c) := by
  induction chans generalizing c with
  | nil => exact .refl c
  | cons ch chans ih => exact (safe c ch).trans (ih (step c ch))

theorem Safe.all_dead (safe : Safe c c') (alive : c.state ≠ .dying) (dying : c'.state = .dying)
    (member : ch ∈ c.listed) : (c'.mem ch).state = .dying := by
  rcases safe.listed ch member with member | dead
  · exact safe.buried (fun killed => absurd killed alive) dying ch member
  · exact dead

theorem DeadStaysDead.of_safe (safe : Safe c c') : DeadStaysDead c (none, c') := by
  refine ⟨fun ch _ dead => safe.dead ch dead, ?_, fun _ absent => by cases absent⟩
  intro alive dying ch had
  rcases had with member | ⟨above, below⟩
  · exact safe.all_dead alive dying member
  · have below : ch < c'.next := below
    rw [safe.next] at below
    exact absurd below (Nat.not_lt.mpr above)

theorem safe_setChan {f : Chan → Chan} (same : (f (c.mem ch)).state = (c.mem ch).state) :
    Safe c (c.setChan ch f) where
  next := rfl
  dead other dead := by
    by_cases this : other = ch
    · subst this
      simpa [Ctrl.setChan, same] using dead
    · simpa [Ctrl.setChan, this] using dead
  listed _ member := .inl member
  buried buried dying other member := by
    by_cases this : other = ch
    · subst this
      simpa [Ctrl.setChan, same] using buried dying other member
    · simpa [Ctrl.setChan, this] using buried dying other member

theorem safe_newChanState (lives : (c.mem ch).state ≠ .dying) (new : PptpChanState) :
    Safe c (pptpCtrlNewChanState c ch new) where
  next := rfl
  dead other dead := by
    have this : other ≠ ch := fun this => lives (this ▸ dead)
    simpa [pptpCtrlNewChanState, Ctrl.setChan, this] using dead
  listed _ member := .inl member
  buried buried dying other member := by
    have dead := buried dying other member
    have this : other ≠ ch := fun this => lives (this ▸ dead)
    simpa [pptpCtrlNewChanState, Ctrl.setChan, this] using dead

theorem state_newChanState (new : PptpChanState) :
    ((pptpCtrlNewChanState c ch new).mem ch).state = .live new := by
  simp [pptpCtrlNewChanState, Ctrl.setChan]

end Invariant

section Killing

variable {c : Ctrl} {ch : Nat}

/-- What `PptpCtrlKillChan` does to the channels, and that it leaves the connection as it is. -/
theorem killChan_spec (c : Ctrl) (ch : Nat) :
    (pptpCtrlKillChan c ch).state = c.state ∧ (pptpCtrlKillChan c ch).next = c.next ∧
      (pptpCtrlKillChan c ch).asked = c.asked ∧
      ((pptpCtrlKillChan c ch).mem ch).state = .dying ∧
      (∀ other ≠ ch, (pptpCtrlKillChan c ch).mem other = c.mem other) ∧
      (∀ other ∈ (pptpCtrlKillChan c ch).listed, other ∈ c.listed) ∧
      ∀ other ≠ ch, other ∈ c.listed → other ∈ (pptpCtrlKillChan c ch).listed := by
  unfold pptpCtrlKillChan
  cases state : (c.mem ch).state with
  | dying =>
      exact ⟨rfl, rfl, rfl, state, fun _ _ => rfl, fun _ member => member,
        fun _ _ member => member⟩
  | live state =>
      refine ⟨?_, ?_, ?_, ?_, ?_, ?_, ?_⟩
      · split_ifs <;> rfl
      · split_ifs <;> rfl
      · split_ifs <;> rfl
      · simp [Ctrl.setChan]
      · intro other ne
        split_ifs <;> simp [Ctrl.setChan, Ctrl.tell, ne]
      · intro other member
        have inside :
            some other ∈ c.channels.map fun slot => if slot = some ch then none else slot := by
          have inside := List.reduceOption_mem_iff.mp member
          dsimp only at inside
          split_ifs at inside <;> exact inside
        obtain ⟨slot, member, same⟩ := List.mem_map.mp inside
        split_ifs at same
        exact List.reduceOption_mem_iff.mpr (same ▸ member)
      · intro other ne member
        have inside :
            some other ∈ c.channels.map fun slot => if slot = some ch then none else slot := by
          refine List.mem_map.mpr ⟨some other, List.reduceOption_mem_iff.mp member, if_neg ?_⟩
          exact fun same => ne (Option.some.inj same)
        refine List.reduceOption_mem_iff.mpr ?_
        dsimp only
        split_ifs <;> exact inside

theorem killChan_dead (c : Ctrl) (ch : Nat) {other : Nat} (dead : (c.mem other).state = .dying) :
    ((pptpCtrlKillChan c ch).mem other).state = .dying := by
  obtain ⟨-, -, -, killed, others, -, -⟩ := killChan_spec c ch
  by_cases this : other = ch
  · exact this ▸ killed
  · rw [others other this]
    exact dead

theorem safe_killChan (c : Ctrl) (ch : Nat) : Safe c (pptpCtrlKillChan c ch) := by
  obtain ⟨state, next, -, killed, -, fewer, rest⟩ := killChan_spec c ch
  refine ⟨next, fun other dead => killChan_dead c ch dead, fun other member => ?_, ?_⟩
  · by_cases this : other = ch
    · exact .inr (this ▸ killed)
    · exact .inl (rest other this member)
  · intro buried dying other member
    exact killChan_dead c ch (buried (state ▸ dying) other (fewer other member))

theorem foldl_killChan (chans : List Nat) (c : Ctrl) :
    (chans.foldl pptpCtrlKillChan c).state = c.state ∧
      (∀ ch ∈ (chans.foldl pptpCtrlKillChan c).listed, ch ∈ c.listed) ∧
      ∀ ch ∈ chans, ((chans.foldl pptpCtrlKillChan c).mem ch).state = .dying := by
  induction chans generalizing c with
  | nil => exact ⟨rfl, fun _ member => member, fun _ member => by cases member⟩
  | cons first chans ih =>
      obtain ⟨state, fewer, dead⟩ := ih (pptpCtrlKillChan c first)
      obtain ⟨own, -, -, killed, -, own_fewer, -⟩ := killChan_spec c first
      refine ⟨state.trans own, fun ch member => own_fewer ch (fewer ch member), ?_⟩
      intro ch member
      rcases List.mem_cons.mp member with rfl | member
      · exact (Safe.foldl safe_killChan chans _).dead _ killed
      · exact dead ch member

theorem killCtrl_dying (c : Ctrl) : (pptpCtrlKillCtrl c).state = .dying := by
  unfold pptpCtrlKillCtrl
  cases state : c.state with
  | dying => exact state
  | live state => exact (foldl_killChan c.listed { c with state := .dying }).1

theorem safe_killCtrl (c : Ctrl) : Safe c (pptpCtrlKillCtrl c) := by
  unfold pptpCtrlKillCtrl
  cases state : c.state with
  | dying => exact .refl c
  | live state =>
      have safe := Safe.foldl safe_killChan c.listed { c with state := .dying }
      obtain ⟨-, fewer, dead⟩ := foldl_killChan c.listed { c with state := .dying }
      exact ⟨safe.next, safe.dead, safe.listed, fun _ _ ch member => dead ch (fewer ch member)⟩

end Killing

section Operations

variable {answer : Nat → Bool} {c : Ctrl} {ch : Nat}

theorem safe_writeMsg (c : Ctrl) (msg : PptpMsg) : Safe c (pptpCtrlWriteMsg answer c msg).2 := by
  unfold pptpCtrlWriteMsg
  cases state : c.state with
  | dying => exact .refl c
  | live own =>
      dsimp only
      split_ifs
      · have asked : Safe c { c with state := .live own, asked := c.asked + 1 } :=
          .of_same rfl rfl rfl fun dying => by cases dying
        exact asked.trans (safe_killCtrl _)
      · exact .of_same rfl rfl rfl fun dying => by cases dying

theorem writeMsg_dying (dying : c.state = .dying) (msg : PptpMsg) :
    (pptpCtrlWriteMsg answer c msg).2 = c := by
  simp [pptpCtrlWriteMsg, dying]

theorem writeMsg_failed (failed : answer c.asked = false) (msg : PptpMsg) :
    (pptpCtrlWriteMsg answer c msg).2.state = .dying := by
  unfold pptpCtrlWriteMsg
  cases state : c.state with
  | dying => exact state
  | live state =>
      simp only [failed, Bool.not_false, if_true]
      exact killCtrl_dying _

theorem writeMsg_written (alive : c.state ≠ .dying) (written : answer c.asked = true)
    (msg : PptpMsg) :
    let after := (pptpCtrlWriteMsg answer c msg).2
    after.state = c.state ∧ after.mem = c.mem ∧ after.asked = c.asked + 1 := by
  unfold pptpCtrlWriteMsg
  cases state : c.state with
  | dying => exact absurd state alive
  | live state => simp [written]

theorem safe_newCtrlState (c : Ctrl) (new : PptpCtrlState) :
    Safe c (pptpCtrlNewCtrlState c new) :=
  .of_same rfl rfl rfl fun dying => by cases dying

def Chan.clears (chan : Chan) : Bool :=
  match chan.state with
  | .live .established => chan.isPns
  | .live .waitOutReply | .live .waitConnect => true
  | _ => false

theorem lives_of_clears (clears : (c.mem ch).clears = true) : (c.mem ch).state ≠ .dying := by
  intro dying
  simp [Chan.clears, dying] at clears

theorem closeChan_clears (clears : (c.mem ch).clears = true) (result : UInt8) :
    pptpCtrlCloseChan answer c ch result = pptpPnsClear answer c ch := by
  unfold Chan.clears at clears
  unfold pptpCtrlCloseChan
  cases state : (c.mem ch).state with
  | dying => simp [state] at clears
  | live own => cases own <;> simp_all

theorem safe_closeChan_other (clears : (c.mem ch).clears = false) (result : UInt8) :
    Safe c (pptpCtrlCloseChan answer c ch result) := by
  have pac : Safe c (pptpPacClear answer c ch result) :=
    (safe_writeMsg c _).trans (safe_killChan _ ch)
  unfold Chan.clears at clears
  unfold pptpCtrlCloseChan
  cases state : (c.mem ch).state with
  | dying => exact .refl c
  | live own =>
      rw [state] at clears
      cases own with
      | established =>
          rw [show (c.mem ch).isPns = false from clears]
          exact pac
      | waitAnswer => exact (safe_writeMsg c _).trans (safe_killChan _ ch)
      | waitInReply => exact pac
      | waitOutReply => cases clears
      | waitConnect => cases clears
      | waitDisconnect => exact .refl c
      | waitCtrl => exact safe_killChan c ch

theorem safe_pnsClear (alive : c.state ≠ .dying) (lives : (c.mem ch).state ≠ .dying)
    (written : answer c.asked = true) : Safe c (pptpPnsClear answer c ch) := by
  have write := @safe_writeMsg answer c (.callClearRequest (c.mem ch).cid)
  refine write.trans (safe_newChanState ?_ .waitDisconnect)
  rw [(writeMsg_written alive written _).2.1]
  exact lives

/-- The clearing gives the channel a state, whether or not the write has killed it. -/
theorem pnsClear_state : ((pptpPnsClear answer c ch).mem ch).state = .live .waitDisconnect :=
  state_newChanState .waitDisconnect

theorem pnsClear_dying (failed : answer c.asked = false) :
    (pptpPnsClear answer c ch).state = .dying :=
  writeMsg_failed failed _

/-- A channel of the connection that lives after it was killed. -/
theorem not_deadStaysDead {c' : Ctrl} {state : PptpChanState} (alive : c.state ≠ .dying)
    (member : ch ∈ c.listed) (dying : c'.state = .dying) (lives : (c'.mem ch).state = .live state) :
    ¬ DeadStaysDead c (none, c') := by
  intro dead
  have killed : (c'.mem ch).state = .dying := dead.killed alive dying ch (.inl member)
  rw [lives] at killed
  cases killed

def Spares (ch : Nat) (c c' : Ctrl) : Prop :=
  ∀ other ≠ ch, (c.mem other).state = .dying → (c'.mem other).state = .dying

theorem Safe.spares {c' : Ctrl} (safe : Safe c c') (ch : Nat) : Spares ch c c' :=
  fun other _ dead => safe.dead other dead

theorem Spares.newChanState {c' : Ctrl} (spares : Spares ch c c') (new : PptpChanState) :
    Spares ch c (pptpCtrlNewChanState c' ch new) := by
  intro other ne dead
  have still := spares other ne dead
  simpa [pptpCtrlNewChanState, Ctrl.setChan, ne] using still

theorem Spares.still {c' : Ctrl} (spares : Spares ch c c') (lives : (c.mem ch).state ≠ .dying)
    (other : Nat) (dead : (c.mem other).state = .dying) : (c'.mem other).state = .dying :=
  spares other (fun this => lives (this ▸ dead)) dead

theorem pnsClear_spares (c : Ctrl) (ch : Nat) : Spares ch c (pptpPnsClear answer c ch) :=
  ((safe_writeMsg c _).spares ch).newChanState .waitDisconnect

theorem closeChan_spares (c : Ctrl) (ch : Nat) (result : UInt8) :
    Spares ch c (pptpCtrlCloseChan answer c ch result) := by
  cases clears : (c.mem ch).clears with
  | false => exact (safe_closeChan_other clears result).spares ch
  | true =>
      rw [closeChan_clears clears]
      exact pnsClear_spares c ch

theorem closeChan_dead_iff (c : Ctrl) (ch : Nat) (result : UInt8) :
    DeadStaysDead c (none, pptpCtrlCloseChan answer c ch result) ↔
      ¬(c.state ≠ .dying ∧ ch ∈ c.listed ∧ (c.mem ch).clears = true ∧
        answer c.asked = false) := by
  cases clears : (c.mem ch).clears with
  | false =>
      refine iff_of_true (.of_safe (safe_closeChan_other clears result)) ?_
      exact fun revives => Bool.false_ne_true revives.2.2.1
  | true =>
      rw [closeChan_clears clears]
      constructor
      · rintro dead ⟨alive, member, -, failed⟩
        exact not_deadStaysDead alive member (pnsClear_dying failed) pnsClear_state dead
      · intro right
        have lives := lives_of_clears clears
        refine ⟨fun other _ => (pnsClear_spares c ch).still lives other, ?_,
          fun _ absent => by cases absent⟩
        intro alive dying other had
        cases written : answer c.asked with
        | true =>
            have same := (writeMsg_written alive written (.callClearRequest (c.mem ch).cid)).1
            exact absurd (same.symm.trans dying) alive
        | false =>
            -- a channel that is not of this connection says nothing about it
            have absent : ch ∉ c.listed := fun member => right ⟨alive, member, rfl, written⟩
            have write := @safe_writeMsg answer c (.callClearRequest (c.mem ch).cid)
            have next : (pptpPnsClear answer c ch).next = c.next := write.next
            have member : other ∈ c.listed := by
              rcases had with member | ⟨above, below⟩
              · exact member
              · exact absurd (next ▸ below) (Nat.not_lt.mpr above)
            have ne : other ≠ ch := fun this => absent (this ▸ member)
            have killed := write.all_dead alive (writeMsg_failed written _) member
            simpa [pptpPnsClear, pptpCtrlNewChanState, Ctrl.setChan, ne] using killed

end Operations

section Results

variable {answer : Nat → Bool} {c : Ctrl} {ch : Nat}

def Ctrl.heard (c : Ctrl) (ch : Nat) : Ctrl := { c.tell ch .connected with asked := c.asked + 2 }

theorem safe_heard (c : Ctrl) (ch : Nat) : Safe c (c.heard ch) :=
  (safe_tell c ch .connected).trans (safe_asked _ _)

theorem result_quiet (quiet : ¬((c.mem ch).cookie = true ∧ answer c.asked = true)) :
    Safe c (pptpResult answer c ch) ∧ (pptpResult answer c ch).state = c.state := by
  unfold pptpResult
  cases cookie : (c.mem ch).cookie with
  | false => exact ⟨.refl c, rfl⟩
  | true =>
      have closed : answer c.asked = false :=
        Bool.eq_false_iff.mpr fun there => quiet ⟨cookie, there⟩
      simp only [Bool.not_true, Bool.false_eq_true, if_false, Ctrl.tell, closed, Bool.not_false,
        if_true]
      exact ⟨.of_same rfl rfl rfl fun dying => dying, trivial⟩

theorem result_attaches (cookie : (c.mem ch).cookie = true) (connecting : answer c.asked = true) :
    pptpResult answer c ch =
      if answer (c.asked + 1) then
        if (c.mem ch).orig && (c.mem ch).incoming then pptpCtrlConected answer (c.heard ch) ch
        else c.heard ch
      else pptpCtrlCloseChan answer (c.heard ch) ch 3 := by
  unfold pptpResult Ctrl.heard Ctrl.tell
  simp only [cookie, connecting, Bool.not_true, Bool.false_eq_true, if_false]
  cases answer (c.asked + 1) <;> rfl

/-- The callback does no harm as long as nothing that fails is written while the PNS clears. -/
theorem safe_result (alive : c.state ≠ .dying)
    (fine : (c.mem ch).cookie = true → answer c.asked = true → answer (c.asked + 1) = false →
      (c.mem ch).clears = true → answer (c.asked + 2) = true) :
    Safe c (pptpResult answer c ch) := by
  by_cases there : (c.mem ch).cookie = true ∧ answer c.asked = true
  · obtain ⟨cookie, connecting⟩ := there
    rw [result_attaches cookie connecting]
    refine (safe_heard c ch).trans ?_
    cases attached : answer (c.asked + 1) with
    | true =>
        simp only [if_true]
        split_ifs
        · exact safe_writeMsg _ _
        · exact .refl _
    | false =>
        simp only [Bool.false_eq_true, if_false]
        cases clears : (c.mem ch).clears with
        | false => exact safe_closeChan_other (c := c.heard ch) clears 3
        | true =>
            have written := fine cookie connecting attached clears
            rw [closeChan_clears (c := c.heard ch) clears]
            exact safe_pnsClear alive (lives_of_clears clears) written
  · exact (result_quiet there).1

/-- When it cannot attach, the clearing that fails kills the connection and gives the channel a
state. -/
theorem result_revives (cookie : (c.mem ch).cookie = true) (connecting : answer c.asked = true)
    (attached : answer (c.asked + 1) = false) (clears : (c.mem ch).clears = true)
    (failed : answer (c.asked + 2) = false) :
    (pptpResult answer c ch).state = .dying ∧
      ((pptpResult answer c ch).mem ch).state = .live .waitDisconnect := by
  rw [result_attaches cookie connecting, attached, if_neg Bool.false_ne_true,
    closeChan_clears (c := c.heard ch) clears]
  exact ⟨pnsClear_dying failed, pnsClear_state⟩

/-- The connection is killed by the callback if and only if the link side comes to write, and
the write fails. -/
theorem result_dying_iff (alive : c.state ≠ .dying) (clears : (c.mem ch).clears = true) :
    (pptpResult answer c ch).state = .dying ↔
      (c.mem ch).cookie = true ∧ answer c.asked = true ∧
        (answer (c.asked + 1) = false ∨ (c.mem ch).orig = true ∧ (c.mem ch).incoming = true) ∧
        answer (c.asked + 2) = false := by
  have heard_alive : (c.heard ch).state ≠ .dying := alive
  have write_iff (msg : PptpMsg) :
      (pptpCtrlWriteMsg answer (c.heard ch) msg).2.state = .dying ↔
        answer (c.asked + 2) = false := by
    cases written : answer (c.asked + 2) with
    | true =>
        rw [(writeMsg_written heard_alive written msg).1]
        simp [heard_alive]
    | false => simp [writeMsg_failed (c := c.heard ch) written msg]
  by_cases there : (c.mem ch).cookie = true ∧ answer c.asked = true
  · obtain ⟨cookie, connecting⟩ := there
    rw [result_attaches cookie connecting]
    simp only [cookie, connecting, true_and]
    cases attached : answer (c.asked + 1) with
    | true =>
        simp only [if_true, Bool.true_eq_false, false_or, ← Bool.and_eq_true]
        split_ifs with reports
        · simp only [reports, true_and]
          exact write_iff _
        · simp [heard_alive, reports]
    | false =>
        simp only [Bool.false_eq_true, if_false, true_or, true_and]
        rw [closeChan_clears (c := c.heard ch) clears]
        exact write_iff _
  · rw [(result_quiet there).2]
    exact ⟨fun dying => absurd dying alive, fun all => absurd ⟨all.1, all.2.1⟩ there⟩

end Results

section Handlers

variable {answer : Nat → Bool} {c : Ctrl} {ch : Nat}

theorem result_spares (c : Ctrl) (ch : Nat) : Spares ch c (pptpResult answer c ch) := by
  by_cases there : (c.mem ch).cookie = true ∧ answer c.asked = true
  · rw [result_attaches there.1 there.2]
    split_ifs
    · exact ((safe_heard c ch).trans (safe_writeMsg _ _)).spares ch
    · exact (safe_heard c ch).spares ch
    · exact closeChan_spares (c.heard ch) ch 3
  · exact (result_quiet there).1.spares ch

theorem inCallConn_dead_iff (member : ch ∈ c.listed)
    (waiting : (c.mem ch).state = .live .waitConnect) :
    DeadStaysDead c (none, pptpInCallConn answer c ch) ↔
      ¬(c.state ≠ .dying ∧ (c.mem ch).cookie = true ∧ answer c.asked = true ∧
        (answer (c.asked + 1) = false ∨ (c.mem ch).orig = true ∧ (c.mem ch).incoming = true) ∧
        answer (c.asked + 2) = false) := by
  have clears : (c.mem ch).clears = true := by simp [Chan.clears, waiting]
  constructor
  · rintro dead ⟨alive, revives⟩
    have killed : (pptpInCallConn answer c ch).state = .dying :=
      (result_dying_iff alive clears).mpr revives
    have revived : ((pptpInCallConn answer c ch).mem ch).state = .live .established :=
      state_newChanState .established
    exact not_deadStaysDead alive member killed revived dead
  · intro right
    have spares := (@result_spares answer c ch).newChanState .established
    refine ⟨fun other _ => spares.still (lives_of_clears clears) other, ?_,
      fun _ absent => by cases absent⟩
    exact fun alive dying => absurd ⟨alive, (result_dying_iff alive clears).mp dying⟩ right

theorem outCallReply_dead_iff (member : ch ∈ c.listed) (lives : (c.mem ch).state ≠ .dying)
    (cid : UInt16) (result : UInt8) :
    DeadStaysDead c (none, pptpOutCallReply answer c ch cid result) ↔
      ¬(c.state ≠ .dying ∧ (c.mem ch).cookie = true ∧ answer c.asked = true ∧ result = 1 ∧
        answer (c.asked + 1) = false ∧ (c.mem ch).isPns = true ∧ answer (c.asked + 2) = false) := by
  unfold pptpOutCallReply
  by_cases accepted : result = 1
  · rw [if_neg (not_not_intro accepted)]
    -- the channel is established before the link side is told
    let next :=
      pptpCtrlNewChanState (c.setChan ch fun chan => { chan with peerCid := cid }) ch .established
    have own : next.mem ch = { c.mem ch with peerCid := cid, state := .live .established } := by
      simp [next, pptpCtrlNewChanState, Ctrl.setChan]
    have same : ({ c.mem ch with peerCid := cid } : Chan).state = (c.mem ch).state := rfl
    have safe : Safe c next := by
      refine (safe_setChan same).trans (safe_newChanState ?_ .established)
      simpa [Ctrl.setChan] using lives
    have cookie : (next.mem ch).cookie = (c.mem ch).cookie := by rw [own]
    have clears : (next.mem ch).clears = (c.mem ch).isPns := by rw [own]; rfl
    constructor
    · rintro dead ⟨alive, taken, connecting, -, attached, pns, failed⟩
      obtain ⟨dying, state⟩ := @result_revives answer next ch (cookie.trans taken) connecting
        attached (clears.trans pns) failed
      exact not_deadStaysDead alive member dying state dead
    · intro right
      by_cases alive : c.state ≠ .dying
      · refine .of_safe (safe.trans (safe_result alive ?_))
        intro taken connecting attached pns
        refine Bool.eq_true_of_not_eq_false fun failed => right ⟨alive, ?_⟩
        exact ⟨cookie.symm.trans taken, connecting, accepted, attached, clears.symm.trans pns,
          failed⟩
      · have spares : Spares ch c (pptpResult answer next ch) := fun other ne dead =>
          result_spares next ch other ne (safe.dead other dead)
        exact ⟨fun other _ => spares.still lives other, fun alive' => absurd alive' alive,
          fun _ absent => by cases absent⟩
  · rw [if_pos accepted]
    have told : Safe c (if (c.mem ch).cookie then c.tell ch .failed else c) := by
      split_ifs
      · exact safe_tell c ch .failed
      · exact .refl c
    refine iff_of_true (.of_safe (told.trans (safe_killChan _ ch))) ?_
    exact fun revives => accepted revives.2.2.2.1

end Handlers

section Originating

variable {answer : Nat → Bool} {c : Ctrl} {ch : Nat}

def Ctrl.waiting (c : Ctrl) : Finset Nat :=
  c.listed.toFinset.filter fun ch => (c.mem ch).state = .live .waitCtrl

theorem checkChan_waiting (waits : (c.mem ch).state = .live .waitCtrl) :
    ∃ new msg, new ≠ .waitCtrl ∧ pptpCheckChan answer c ch =
      (pptpCtrlWriteMsg answer (pptpCtrlNewChanState c ch new) msg).2 := by
  unfold pptpCheckChan
  rw [if_neg (not_not_intro waits)]
  split_ifs
  · exact ⟨.waitInReply, _, by decide, rfl⟩
  · exact ⟨.waitOutReply, _, by decide, rfl⟩

theorem checkChan_other (waits : (c.mem ch).state ≠ .live .waitCtrl) :
    pptpCheckChan answer c ch = c :=
  if_pos waits

theorem lives_of_waits (waits : (c.mem ch).state = .live .waitCtrl) :
    (c.mem ch).state ≠ .dying := by
  rw [waits]
  exact nofun

theorem safe_checkChan (c : Ctrl) (ch : Nat) : Safe c (pptpCheckChan answer c ch) := by
  by_cases waits : (c.mem ch).state = .live .waitCtrl
  · obtain ⟨new, msg, -, same⟩ := @checkChan_waiting answer _ _ waits
    rw [same]
    exact (safe_newChanState (lives_of_waits waits) new).trans (safe_writeMsg _ msg)
  · rw [checkChan_other waits]
    exact .refl c

theorem foldl_checkChan_dying (chans : List Nat) (dying : c.state = .dying) :
    (chans.foldl (pptpCheckChan answer) c).state = .dying := by
  induction chans generalizing c with
  | nil => exact dying
  | cons ch chans ih =>
      refine ih ?_
      by_cases waits : (c.mem ch).state = .live .waitCtrl
      · obtain ⟨new, msg, -, same⟩ := @checkChan_waiting answer _ _ waits
        rw [same, writeMsg_dying (c := pptpCtrlNewChanState c ch new) dying msg]
        exact dying
      · rw [checkChan_other waits]
        exact dying

/-- The loop of `PptpCtrlCheckConn` writes once for each channel that waits, and kills none while
its writes succeed. -/
theorem foldl_checkChan (chans : List Nat) (alive : c.state ≠ .dying) :
    ((chans.foldl (pptpCheckChan answer) c).state = .dying ↔
      ∃ i < (chans.toFinset.filter fun ch => (c.mem ch).state = .live .waitCtrl).card,
        answer (c.asked + i) = false) ∧
    ((chans.foldl (pptpCheckChan answer) c).state ≠ .dying →
      ∀ ch, (c.mem ch).state ≠ .dying →
        ((chans.foldl (pptpCheckChan answer) c).mem ch).state ≠ .dying) := by
  induction chans generalizing c with
  | nil => exact ⟨by simp [alive], fun _ _ lives => lives⟩
  | cons first chans ih =>
      rw [List.foldl_cons, List.toFinset_cons, Finset.filter_insert]
      by_cases waits : (c.mem first).state = .live .waitCtrl
      · obtain ⟨new, msg, other, same⟩ := @checkChan_waiting answer _ _ waits
        rw [same, if_pos waits]
        let next := pptpCtrlNewChanState c first new
        cases written : answer c.asked with
        | false =>
            have dying := @foldl_checkChan_dying answer _ chans
              (writeMsg_failed (c := next) written msg)
            refine ⟨iff_of_true dying ⟨0, ?_, written⟩, fun lives => absurd dying lives⟩
            exact Finset.card_pos.mpr ⟨first, Finset.mem_insert_self ..⟩
        | true =>
            obtain ⟨state, mem, asked⟩ := writeMsg_written (c := next) alive written msg
            obtain ⟨killed, lives⟩ :=
              ih (c := (pptpCtrlWriteMsg answer next msg).2) (by rw [state]; exact alive)
            have own : (next.mem first).state = .live new := state_newChanState new
            have others (ch : Nat) (ne : ch ≠ first) : next.mem ch = c.mem ch := by
              simp [next, pptpCtrlNewChanState, Ctrl.setChan, ne]
            -- the channel that was written for waits no longer
            have rest : insert first
                (chans.toFinset.filter fun ch => (c.mem ch).state = .live .waitCtrl) =
                insert first
                  (chans.toFinset.filter fun ch => (next.mem ch).state = .live .waitCtrl) := by
              ext ch
              by_cases this : ch = first
              · simp [this]
              · simp [this, others ch this]
            have absent : first ∉
                chans.toFinset.filter fun ch => (next.mem ch).state = .live .waitCtrl := by
              simp [own, other]
            rw [rest, Finset.card_insert_of_notMem absent]
            rw [mem, asked] at killed
            rw [mem] at lives
            refine ⟨killed.trans ?_, fun alive' ch own_lives => lives alive' ch ?_⟩
            · rw [Nat.exists_lt_succ_left]
              simp only [Nat.add_zero, written, Bool.true_eq_false, false_or]
              refine exists_congr fun i => and_congr_right fun _ => ?_
              rw [show next.asked + 1 + i = c.asked + (i + 1) from by
                change c.asked + 1 + i = _
                omega]
            · by_cases this : ch = first
              · rw [this, own]
                exact nofun
              · rw [others ch this]
                exact own_lives
      · rw [checkChan_other waits, if_neg waits]
        exact ih alive

theorem mem_listed_getChan (c : Ctrl) (cid : UInt16) (state : PptpChanState)
    (orig incoming : Bool) (ch : Nat) :
    ch ∈ (pptpCtrlGetChan c cid state orig incoming).listed ↔ ch = c.next ∨ ch ∈ c.listed := by
  unfold Ctrl.listed
  rw [List.reduceOption_mem_iff, List.reduceOption_mem_iff]
  simp only [pptpCtrlGetChan]
  split_ifs with free
  · obtain ⟨front, back, parts, absent⟩ := List.eq_append_cons_of_mem free
    rw [parts, List.idxOf_append, if_neg absent, List.idxOf_cons_self, Nat.zero_add,
      List.set_append_right _ _ (Nat.le_refl _), Nat.sub_self, List.set_cons_zero]
    simp [or_left_comm]
  · simp [or_comm]

theorem dead_of_made {c₁ c₂ : Ctrl} (made : ∀ ch, ch ∈ c₁.listed ↔ ch = c.next ∨ ch ∈ c.listed)
    (next : c₁.next = c.next + 1) (alive : c₁.state ≠ .dying) (safe : Safe c₁ c₂)
    (dying : c₂.state = .dying) (ch : Nat)
    (had : ch ∈ c.listed ∨ c.next ≤ ch ∧ ch < c₂.next) : (c₂.mem ch).state = .dying := by
  refine safe.all_dead alive dying ((made ch).mpr ?_)
  rcases had with member | ⟨above, below⟩
  · exact .inr member
  · rw [safe.next, next] at below
    exact .inl (by omega)

theorem mem_getChan (c : Ctrl) (cid : UInt16) (state : PptpChanState) (orig incoming : Bool) :
    (pptpCtrlGetChan c cid state orig incoming).mem c.next =
      ⟨.live state, orig, incoming, cid, 0, false⟩ ∧
    ∀ ch ≠ c.next, (pptpCtrlGetChan c cid state orig incoming).mem ch = c.mem ch :=
  ⟨Function.update_self .., fun _ ne => Function.update_of_ne ne ..⟩

theorem safe_take (c : Ctrl) (ch : Nat) (peerCid : UInt16) : Safe c (pptpTake c ch peerCid) :=
  safe_setChan rfl

def Ctrl.withCall (c : Ctrl) (cid : UInt16) (incoming : Bool) : Ctrl :=
  pptpTake (pptpCtrlGetChan c cid .waitCtrl true incoming) c.next 0

theorem withCall_state (c : Ctrl) (cid : UInt16) (incoming : Bool) :
    ((c.withCall cid incoming).mem c.next).state = .live .waitCtrl := by
  simp [Ctrl.withCall, pptpTake, Ctrl.setChan, (mem_getChan c cid .waitCtrl true incoming).1]

theorem waiting_withCall (c : Ctrl) (cid : UInt16) (incoming : Bool) :
    (c.withCall cid incoming).waiting = insert c.next c.waiting := by
  have made (ch : Nat) : ch ∈ (c.withCall cid incoming).listed ↔ ch = c.next ∨ ch ∈ c.listed :=
    mem_listed_getChan c cid .waitCtrl true incoming ch
  ext ch
  simp only [Ctrl.waiting, Finset.mem_filter, List.mem_toFinset, Finset.mem_insert, made]
  by_cases this : ch = c.next
  · simp [this, withCall_state]
  · have same : (c.withCall cid incoming).mem ch = c.mem ch := by
      simp [Ctrl.withCall, pptpTake, Ctrl.setChan, this,
        (mem_getChan c cid .waitCtrl true incoming).2 ch this]
    simp [this, same]

theorem withCall_dead (cid : UInt16) (incoming : Bool) (made : ch < c.next)
    (dead : (c.mem ch).state = .dying) :
    ((c.withCall cid incoming).mem ch).state = .dying := by
  have ne : ch ≠ c.next := Nat.ne_of_lt made
  have same : (c.withCall cid incoming).mem ch = c.mem ch := by
    simp [Ctrl.withCall, pptpTake, Ctrl.setChan, ne,
      (mem_getChan c cid .waitCtrl true incoming).2 ch ne]
  rw [same]
  exact dead

/-- `PptpCtrlOrigCall` is right if and only if the connection survives what it writes. -/
theorem origCall_dead_iff (c : Ctrl) (incoming : Bool) :
    DeadStaysDead c (pptpCtrlOrigCall answer c incoming) ↔
      ¬(c.state = .live .established ∧ (pptpNextCallId c).isSome = true ∧
        ∃ i < (insert c.next c.waiting).card, answer (c.asked + i) = false) := by
  unfold pptpCtrlOrigCall
  cases free : pptpNextCallId c with
  | none => simp [DeadStaysDead.of_safe (.refl c)]
  | some cid =>
      change DeadStaysDead c (some c.next, pptpCtrlCheckConn answer (c.withCall cid incoming)) ↔ _
      have own := withCall_state c cid incoming
      unfold pptpCtrlCheckConn
      by_cases established : c.state = .live .established
      · have made_established : (c.withCall cid incoming).state = .live .established := established
        have alive : (c.withCall cid incoming).state ≠ .dying := by
          rw [made_established]
          exact nofun
        have safe := Safe.foldl (@safe_checkChan answer) (c.withCall cid incoming).listed
          (c.withCall cid incoming)
        rw [if_neg (not_not_intro made_established)]
        obtain ⟨killed, lives⟩ := @foldl_checkChan answer _ (c.withCall cid incoming).listed alive
        change _ ↔ ∃ i < (c.withCall cid incoming).waiting.card, answer (c.asked + i) = false
          at killed
        rw [waiting_withCall] at killed
        simp only [established, Option.isSome_some, true_and]
        rw [← killed]
        constructor
        · intro dead dying
          have below : c.next < (c.withCall cid incoming).next := Nat.lt_succ_self c.next
          refine dead.cookie c.next rfl (dead.killed alive dying c.next (.inr ⟨Nat.le_refl _, ?_⟩))
          exact safe.next ▸ below
        · intro survives
          refine ⟨fun ch made dead => safe.dead ch (withCall_dead cid incoming made dead),
            fun _ dying => absurd dying survives, fun ch same => ?_⟩
          cases same
          exact lives survives c.next (lives_of_waits own)
      · have idle : (c.withCall cid incoming).state ≠ .live .established := established
        rw [if_pos idle]
        refine iff_of_true ⟨fun ch made dead => withCall_dead cid incoming made dead,
          fun alive dying => absurd dying alive, fun ch same => ?_⟩ fun all => established all.1
        cases same
        exact lives_of_waits own

end Originating

section Messages

variable {answer : Nat → Bool} {c : Ctrl} {ch : Nat}

theorem safe_checkConn (c : Ctrl) : Safe c (pptpCtrlCheckConn answer c) := by
  unfold pptpCtrlCheckConn
  split_ifs
  · exact .refl c
  · exact Safe.foldl safe_checkChan c.listed c

theorem safe_writeMsg_then {next : Ctrl → Ctrl} (safe : ∀ c, Safe c (next c)) (c : Ctrl)
    (msg : PptpMsg) :
    Safe c (match pptpCtrlWriteMsg answer c msg with
      | (false, c) => c
      | (true, c) => next c) := by
  have write := @safe_writeMsg answer c msg
  split
  · rename_i failed
    rw [failed] at write
    exact write
  · rename_i written
    rw [written] at write
    exact write.trans (safe _)

theorem DeadStaysDead.of_made {c' : Ctrl} {cid : UInt16} {state : PptpChanState}
    {orig incoming : Bool} (safe : Safe (pptpCtrlGetChan c cid state orig incoming) c') :
    DeadStaysDead c (none, c') := by
  have made := mem_listed_getChan c cid state orig incoming
  refine ⟨fun ch below dead => safe.dead ch ?_, fun alive => dead_of_made made rfl alive safe,
    fun _ absent => by cases absent⟩
  rw [(mem_getChan c cid state orig incoming).2 ch (Nat.ne_of_lt below)]
  exact dead

theorem outCallRequest_dead (c : Ctrl) (cid : UInt16) :
    DeadStaysDead c (none, pptpOutCallRequest answer c cid) := by
  unfold pptpOutCallRequest
  cases free : pptpNextCallId c with
  | none => exact .of_safe (.refl c)
  | some own =>
      have asked := safe_asked (pptpCtrlGetChan c own .waitAnswer false false) (c.asked + 1)
      refine .of_made (asked.trans ?_)
      dsimp only
      split_ifs
      · exact safe_take _ _ _
      · exact (safe_killChan _ _).trans (safe_writeMsg _ _)

theorem inCallRequest_dead (c : Ctrl) (cid : UInt16) :
    DeadStaysDead c (none, pptpInCallRequest answer c cid) := by
  unfold pptpInCallRequest
  cases free : pptpNextCallId c with
  | none => exact .of_safe (.refl c)
  | some own =>
      have asked := safe_asked (pptpCtrlGetChan c own .waitConnect false true) (c.asked + 1)
      refine .of_made (asked.trans ?_)
      dsimp only
      split_ifs
      · exact (safe_take _ _ _).trans (safe_writeMsg _ _)
      · exact safe_writeMsg_then (fun after => safe_killChan after c.next) _ _

/-- The messages for a connection never give a dead channel a state. -/
theorem ctrlHandler_dead (c : Ctrl) (msg : PptpMsg) :
    DeadStaysDead c (none, pptpCtrlHandler answer c msg) := by
  cases msg with
  | outCallRequest cid => exact outCallRequest_dead c cid
  | inCallRequest cid => exact inCallRequest_dead c cid
  | startCtrlConnRequest vers =>
      refine .of_safe ?_
      change Safe c (pptpStartCtrlConnRequest answer c vers)
      unfold pptpStartCtrlConnRequest
      split_ifs
      · exact safe_writeMsg_then safe_killCtrl c _
      · exact (safe_newCtrlState c _).trans (safe_writeMsg _ _)
  | startCtrlConnReply vers result =>
      refine .of_safe ?_
      change Safe c (pptpStartCtrlConnReply answer c vers result)
      unfold pptpStartCtrlConnReply
      split_ifs
      · exact safe_killCtrl c
      · exact (safe_newCtrlState c _).trans (safe_writeMsg _ _)
      · exact (safe_newCtrlState c _).trans (safe_checkConn _)
  | stopCtrlConnRequest =>
      exact .of_safe ((safe_newCtrlState c _).trans (safe_writeMsg_then safe_killCtrl _ _))
  | stopCtrlConnReply => exact .of_safe (safe_killCtrl c)
  | echoRequest id => exact .of_safe (safe_writeMsg c _)
  | echoReply id result =>
      refine .of_safe ?_
      change Safe c (pptpEchoReply c id result)
      unfold pptpEchoReply
      split_ifs
      · exact safe_killCtrl c
      · exact .refl c
  | _ => exact .of_safe (.refl c)

/-- The handlers that run on with a channel which their callback may have killed. -/
def CallbackRevives (answer : Nat → Bool) (c : Ctrl) (ch : Nat) : PptpMsg → Prop
  | .inCallConn _ =>
      c.state ≠ .dying ∧ (c.mem ch).cookie = true ∧ answer c.asked = true ∧
        (answer (c.asked + 1) = false ∨ (c.mem ch).orig = true ∧ (c.mem ch).incoming = true) ∧
        answer (c.asked + 2) = false
  | .outCallReply _ _ result | .inCallReply _ _ result =>
      c.state ≠ .dying ∧ (c.mem ch).cookie = true ∧ answer c.asked = true ∧ result = 1 ∧
        answer (c.asked + 1) = false ∧ (c.mem ch).isPns = true ∧ answer (c.asked + 2) = false
  | _ => False

theorem among_iff {σ : Type} [DecidableEq σ] {states : List σ} {state : Mortal σ} :
    state.among states = true ↔ ∃ own ∈ states, state = .live own := by
  cases state <;> simp [Mortal.among]

theorem chanHandler_dead_iff (member : ch ∈ c.listed) (msg : PptpMsg)
    (taken : (c.mem ch).state.among (gPptpMsgInfo msg.type).chanStates = true) :
    DeadStaysDead c (none, pptpChanHandler answer c ch msg) ↔
      ¬ CallbackRevives answer c ch msg := by
  obtain ⟨state, among, own⟩ := among_iff.mp taken
  have lives : (c.mem ch).state ≠ .dying := by
    rw [own]
    exact nofun
  have right {c' : Ctrl} (safe : Safe c c') : DeadStaysDead c (none, c') ↔ ¬ False :=
    iff_of_true (.of_safe safe) not_false
  cases msg with
  | outCallReply cid peerCid result => exact outCallReply_dead_iff member lives cid result
  | inCallReply cid peerCid result => exact outCallReply_dead_iff member lives cid result
  | inCallConn peerCid =>
      have waiting : state = .waitConnect := List.mem_singleton.mp among
      exact inCallConn_dead_iff member (waiting ▸ own)
  | callClearRequest cid =>
      refine right ?_
      simp only [pptpChanHandler, pptpCallClearRequest]
      split_ifs
      · exact safe_killCtrl c
      · exact (safe_killChan c ch).trans (safe_writeMsg _ _)
  | callDiscNotify cid result => exact right (safe_killChan c ch)
  | setLinkInfo cid =>
      refine right ?_
      simp only [pptpChanHandler, pptpSetLinkInfo]
      split_ifs
      · exact safe_tell c ch .linkInfo
      · exact .refl c
  | _ => exact right (.refl c)

/-- The channel that a message is for, when the message is handled. -/
def Handled (c : Ctrl) (msg : PptpMsg) (ch : Nat) : Prop :=
  pptpCtrlFindChan c msg true = some ch ∧ pptpSpurious c msg (some ch) = false ∧
    (c.mem ch).state.among (gPptpMsgInfo msg.type).chanStates = true

theorem findChan_listed {msg : PptpMsg} (found : pptpCtrlFindChan c msg true = some ch) :
    ch ∈ c.listed := by
  unfold pptpCtrlFindChan at found
  split at found
  · cases found
  · exact List.mem_of_find?_eq_some found

theorem findChan_none {msg : PptpMsg} (ctrl : (gPptpMsgInfo msg.type).findIn = none) :
    pptpCtrlFindChan c msg true = none := by
  simp [pptpCtrlFindChan, ctrl]

theorem cancel_dead_iff {answered : Option PendRep} {after : Option Nat × Ctrl} :
    DeadStaysDead (c.cancel answered) after ↔ DeadStaysDead c after :=
  ⟨fun dead => ⟨dead.still, dead.killed, dead.cookie⟩,
    fun dead => ⟨dead.still, dead.killed, dead.cookie⟩⟩

theorem ctrlMsg_dead_iff (c : Ctrl) (msg : PptpMsg) :
    DeadStaysDead c (none, pptpCtrlMsg answer c msg) ↔
      ¬ ∃ ch, Handled c msg ch ∧ CallbackRevives answer c ch msg := by
  unfold pptpCtrlMsg
  cases ctrl : (gPptpMsgInfo msg.type).findIn with
  | none =>
      have no_channel : ¬ ∃ ch, Handled c msg ch ∧ CallbackRevives answer c ch msg := by
        rintro ⟨ch, ⟨found, -⟩, -⟩
        rw [findChan_none ctrl] at found
        cases found
      refine iff_of_true ?_ no_channel
      rw [if_pos (by rfl)]
      let next := c.cancel (pptpAnswered c msg none)
      have handled := cancel_dead_iff.mp (@ctrlHandler_dead answer next msg)
      have killed := cancel_dead_iff.mp (.of_safe (safe_killCtrl next))
      unfold pptpCtrlMsgFor
      dsimp only
      split_ifs
      · exact .of_safe (.refl c)
      · exact handled
      · exact killed
  | some how =>
      rw [if_neg (by simp)]
      cases found : pptpCtrlFindChan c msg true with
      | none =>
          refine iff_of_true (.of_safe (.refl c)) ?_
          rintro ⟨ch, ⟨found', -⟩, -⟩
          rw [found] at found'
          cases found'
      | some ch =>
          have only : (∃ ch, Handled c msg ch ∧ CallbackRevives answer c ch msg) ↔
              Handled c msg ch ∧ CallbackRevives answer c ch msg := by
            refine ⟨?_, fun both => ⟨ch, both⟩⟩
            rintro ⟨other, handled, revives⟩
            have same : ch = other := Option.some.inj (found.symm.trans handled.1)
            exact same ▸ ⟨handled, revives⟩
          rw [only]
          let next := c.cancel (pptpAnswered c msg (some ch))
          have killed := cancel_dead_iff.mp (.of_safe (safe_killCtrl next))
          unfold pptpCtrlMsgFor Handled
          dsimp only
          split_ifs with spurious taken
          · exact iff_of_true (.of_safe (.refl c)) (by simp [spurious])
          · have member : ch ∈ next.listed := findChan_listed found
            have handler := @chanHandler_dead_iff answer next ch member msg taken
            have same : CallbackRevives answer next ch msg ↔ CallbackRevives answer c ch msg := by
              cases msg <;> exact Iff.rfl
            have handled : Handled c msg ch :=
              ⟨found, Bool.eq_false_iff.mpr spurious, taken⟩
            refine cancel_dead_iff.symm.trans (handler.trans (not_congr (same.trans ?_)))
            exact ⟨fun revives => ⟨handled, revives⟩, fun both => both.2⟩
          · exact iff_of_true killed fun both => taken both.1.2.2

/-- The calls that give a channel of a killed connection a state, or return one. -/
def Revives (answer : Nat → Bool) (c : Ctrl) : Call → Prop
  | .closeChan ch _ =>
      c.state ≠ .dying ∧ ch ∈ c.listed ∧ (c.mem ch).clears = true ∧ answer c.asked = false
  | .origCall _ =>
      c.state = .live .established ∧ (pptpNextCallId c).isSome = true ∧
        ∃ i < (insert c.next c.waiting).card, answer (c.asked + i) = false
  | .received msg => ∃ ch, Handled c msg ch ∧ CallbackRevives answer c ch msg

/-- The dead stay dead except when the PNS clears a call with a write that fails, when a callback
of a channel does so or reports back so before the channel is established, and when a call of
ours is not written. -/
theorem call_dead_iff (answer : Nat → Bool) (c : Ctrl) (e : Call) :
    DeadStaysDead c (call answer c e) ↔ ¬ Revives answer c e := by
  cases e with
  | closeChan ch result => exact closeChan_dead_iff c ch result
  | origCall incoming =>
      simp only [call, Revives]
      exact origCall_dead_iff c incoming
  | received msg => exact ctrlMsg_dead_iff c msg

def oneCall : Ctrl where
  state := .live .established
  channels := [some 0]
  active_sessions := 1
  mem := fun _ => ⟨.live .established, true, false, 1, 1, true⟩
  next := 1
  gCallIds := fun cid => cid = 1
  gLastCallId := 1

/-- The write fails, and the call that was killed waits for its disconnection. -/
theorem not_call_dead :
    ¬ ∀ (answer : Nat → Bool) (c : Ctrl) (e : Call), DeadStaysDead c (call answer c e) := by
  intro all
  have dead := (all (fun _ => false) oneCall (.closeChan 0 3)).killed nofun rfl 0
    (.inl (by decide))
  cases dead

end Messages

end Mpd.PptpDying
