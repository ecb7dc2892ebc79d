import Mathlib.Data.List.Basic
import Mathlib.Data.Nat.Bitwise

/-! The message queue of `msg.c`: a ring of messages, the handlers that take
them out one by one, and the pipe that wakes the event loop. -/

set_option autoImplicit false

namespace Mpd.Msg

/-- The two settings of `MSG_QUEUE_LEN`, without and with `SMALL_SYSTEM`. -/
inductive Build where
  | usual | smallSystem
  deriving DecidableEq, Repr

def Build.queueLen : Build → Nat
  | usual => 8192
  | smallSystem => 512

def Build.queueMask : Build → Nat
  | usual => 0x1FFF
  | smallSystem => 0x1FF

structure MpMsg (Func Arg : Type) where
  type : Int
  func : Func
  arg : Arg
  dbg : String
  deriving DecidableEq, Repr

/-- `struct msghandler` once a function is registered in it. -/
structure MsgHandler (Func : Type) where
  func : Func
  dbg : String
  deriving DecidableEq, Repr

structure Thresholds where
  qThresMin : Int
  qThresMax : Int
  qThresDiff : Int
  deriving DecidableEq, Repr

def setOverload (thres : Thresholds) (queueLen : Nat) : Int :=
  let t : Int := queueLen
  if t > thres.qThresMax then 100
  else if t > thres.qThresMin then ((t - thres.qThresMin) * 100).tdiv thres.qThresDiff
  else 0

/-- Where the daemon stands: in the event loop, inside a handler that `MsgEvent`
called, or ended, by `DoExit` in `MsgSend` or by an assertion. -/
inductive Control where
  | idle | inHandler | overflowed | aborted
  deriving DecidableEq, Repr

section Daemon

variable {Handler Func Arg : Type}

/-- What the file keeps. `pipe` counts the bytes in the signalling pipe, and
`called` records the handler calls in their order. -/
structure Daemon (Handler Func Arg : Type) where
  handlers : Handler → Option (MsgHandler Func)
  msgqueue : Nat → Option (MpMsg Func Arg)
  msgqueueh : Nat
  msgqueuet : Nat
  pipe : Nat
  msgpipesent : Bool
  overload : Int
  control : Control
  called : List (MpMsg Func Arg)

/-- What happens to the queue from outside: `MsgRegister`, `MsgUnRegister` and
`MsgSend` are called, `MsgEvent` is, and the handler that it called returns. -/
inductive Act (Handler Func Arg : Type) where
  | register (m : Handler) (func : Func) (dbg : String)
  | unRegister (m : Handler)
  | send (m : Handler) (type : Int) (arg : Arg)
  | msgEvent
  | handlerReturns

/-- The queue before the first message. -/
def start (handlers : Handler → Option (MsgHandler Func)) : Daemon Handler Func Arg where
  handlers
  msgqueue := fun _ => none
  msgqueueh := 0
  msgqueuet := 0
  pipe := 0
  msgpipesent := false
  overload := 0
  control := .idle
  called := []

/-- The settings that do not change: the build, the thresholds of the overload
level and how many bytes the pipe holds. -/
structure Settings where
  build : Build
  thres : Thresholds
  capacity : Nat
  deriving DecidableEq, Repr

variable (cfg : Settings)

def queueLen (d : Daemon Handler Func Arg) : Nat :=
  if d.msgqueueh ≥ d.msgqueuet then d.msgqueueh - d.msgqueuet
  else d.msgqueueh + cfg.build.queueLen - d.msgqueuet

def flushPipe : Nat → Nat
  | rest + 16 => flushPipe rest
  | _ => 0

/-- The head of the loop of `MsgEvent`: the handler of the next message is
called, unless there is none. -/
def nextMessage (d : Daemon Handler Func Arg) : Daemon Handler Func Arg :=
  if d.msgqueuet ≠ d.msgqueueh then
    match d.msgqueue d.msgqueuet with
    | some msg => { d with control := .inHandler, called := d.called ++ [msg] }
    | none => { d with control := .aborted }
  else { d with control := .idle }

/-- `MsgEvent` up to the first handler. -/
def msgEvent (d : Daemon Handler Func Arg) : Daemon Handler Func Arg :=
  nextMessage { d with msgpipesent := false, pipe := flushPipe d.pipe }

def handlerReturns (d : Daemon Handler Func Arg) : Daemon Handler Func Arg :=
  let d := { d with msgqueuet := (d.msgqueuet + 1) &&& cfg.build.queueMask }
  nextMessage { d with overload := setOverload cfg.thres (queueLen cfg d) }

/-- The wake-up of `MsgSend`. A write into a full pipe fails. -/
def signal (d : Daemon Handler Func Arg) : Daemon Handler Func Arg :=
  if !d.msgpipesent ∧ d.pipe < cfg.capacity then
    { d with pipe := d.pipe + 1, msgpipesent := true }
  else d

def enqueue (msg : MpMsg Func Arg) (d : Daemon Handler Func Arg) : Daemon Handler Func Arg :=
  let d := { d with
    msgqueue := fun slot => if slot = d.msgqueueh then some msg else d.msgqueue slot
    msgqueueh := (d.msgqueueh + 1) &&& cfg.build.queueMask }
  if d.msgqueuet = d.msgqueueh then { d with control := .overflowed }
  else signal cfg { d with overload := setOverload cfg.thres (queueLen cfg d) }

def msgSend (m : Handler) (type : Int) (arg : Arg) (d : Daemon Handler Func Arg) :
    Daemon Handler Func Arg :=
  match d.handlers m with
  | some handler => enqueue cfg ⟨type, handler.func, arg, handler.dbg⟩ d
  | none => { d with control := .aborted }

variable [DecidableEq Handler]

def setHandler (handlers : Handler → Option (MsgHandler Func)) (m : Handler)
    (handler : Option (MsgHandler Func)) : Handler → Option (MsgHandler Func) :=
  fun other => if other = m then handler else handlers other

/-- One step, where it can happen: `MsgEvent` is called from the event loop
only, and a handler may register and send as the event loop may. -/
def step (d : Daemon Handler Func Arg) (act : Act Handler Func Arg) :
    Option (Daemon Handler Func Arg) :=
  match d.control, act with
  | .overflowed, _ | .aborted, _ => none
  | _, .register m func dbg => some { d with handlers := setHandler d.handlers m (some ⟨func, dbg⟩) }
  | _, .unRegister m => some { d with handlers := setHandler d.handlers m none }
  | _, .send m type arg => some (msgSend cfg m type arg d)
  | .idle, .msgEvent => some (msgEvent d)
  | .inHandler, .msgEvent => none
  | .inHandler, .handlerReturns => some (handlerReturns cfg d)
  | .idle, .handlerReturns => none

def run (d : Daemon Handler Func Arg) : List (Act Handler Func Arg) →
    Option (Daemon Handler Func Arg)
  | [] => some d
  | act :: acts => (step cfg d act).bind fun next => run next acts

/-- What a queue without an end would have to do with the same steps: which
messages were sent, each with the function registered at that time, and how
many handlers have returned. -/
structure Ledger (Handler Func Arg : Type) where
  handlers : Handler → Option (MsgHandler Func)
  sent : List (MpMsg Func Arg)
  returned : Nat

namespace Ledger

def outstanding (ledger : Ledger Handler Func Arg) : Nat :=
  ledger.sent.length - ledger.returned

def note (ledger : Ledger Handler Func Arg) :
    Act Handler Func Arg → Ledger Handler Func Arg
  | .register m func dbg =>
      { ledger with handlers := setHandler ledger.handlers m (some ⟨func, dbg⟩) }
  | .unRegister m => { ledger with handlers := setHandler ledger.handlers m none }
  | .send m type arg =>
      match ledger.handlers m with
      | some handler =>
          { ledger with sent := ledger.sent ++ [⟨type, handler.func, arg, handler.dbg⟩] }
      | none => ledger
  | .msgEvent => ledger
  | .handlerReturns => { ledger with returned := ledger.returned + 1 }

/-- The ledger after a run from the start. -/
def after (handlers : Handler → Option (MsgHandler Func)) (acts : List (Act Handler Func Arg)) :
    Ledger Handler Func Arg :=
  acts.foldl note ⟨handlers, [], 0⟩

end Ledger

section Arithmetic

variable (build : Build)

theorem and_queueMask (n : Nat) : n &&& build.queueMask = n % build.queueLen := by
  cases build with
  | usual => exact Nat.and_two_pow_sub_one_eq_mod n 13
  | smallSystem => exact Nat.and_two_pow_sub_one_eq_mod n 9

theorem queueLen_pos : 0 < build.queueLen := by
  cases build <;> decide

theorem slot_ne {tail i n : Nat} (before : i < n) (round : n < build.queueLen) :
    (tail + i) % build.queueLen ≠ (tail + n) % build.queueLen := by
  cases build <;> simp only [Build.queueLen] at round ⊢ <;> omega

/-- The indices are equal on the empty ring and after a whole round. -/
theorem tail_eq_slot_iff {tail n : Nat} (inside : tail < build.queueLen)
    (round : n ≤ build.queueLen) :
    tail = (tail + n) % build.queueLen ↔ n = 0 ∨ n = build.queueLen := by
  cases build <;> simp only [Build.queueLen] at inside round ⊢ <;> omega

end Arithmetic

@[simp] theorem flushPipe_eq_zero (bytes : Nat) : flushPipe bytes = 0 := by
  fun_induction flushPipe bytes with
  | case1 rest ih => exact ih
  | case2 => rfl

/-- How the ring, the pipe and its flag agree with the ledger. The flag is set
exactly while the one byte is in the pipe. -/
structure Ring (d : Daemon Handler Func Arg) (ledger : Ledger Handler Func Arg) : Prop where
  handlers : d.handlers = ledger.handlers
  covered : ledger.returned ≤ ledger.sent.length
  room : ledger.outstanding < cfg.build.queueLen
  tail : d.msgqueuet < cfg.build.queueLen
  head : d.msgqueueh = (d.msgqueuet + ledger.outstanding) % cfg.build.queueLen
  slots : ∀ i < ledger.outstanding,
    d.msgqueue ((d.msgqueuet + i) % cfg.build.queueLen) = ledger.sent[ledger.returned + i]?
  pipe : d.pipe = if d.msgpipesent then 1 else 0

structure Inv (d : Daemon Handler Func Arg) (ledger : Ledger Handler Func Arg) : Prop
    extends Ring cfg d ledger where
  inside : d.control ≠ .overflowed
  called : d.called = ledger.sent.take d.called.length ∧
    (d.called.length = ledger.returned ∨ d.called.length = ledger.returned + 1)
  idle : d.control = .idle → d.called = ledger.sent.take ledger.returned ∧
    (0 < ledger.outstanding → d.msgpipesent = true)
  inHandler : d.control = .inHandler → 0 < ledger.outstanding ∧
    d.called = ledger.sent.take (ledger.returned + 1)

variable {cfg} {d : Daemon Handler Func Arg} {ledger : Ledger Handler Func Arg}

omit [DecidableEq Handler] in
theorem Ring.queueLen_eq (ring : Ring cfg d ledger) : queueLen cfg d = ledger.outstanding := by
  have head := ring.head
  have tail := ring.tail
  have room := ring.room
  unfold queueLen
  cases build : cfg.build <;>
    simp only [build, Build.queueLen] at head tail room ⊢ <;> split_ifs <;> omega

omit [DecidableEq Handler] in
theorem Ring.empty_iff (ring : Ring cfg d ledger) :
    d.msgqueuet = d.msgqueueh ↔ ledger.outstanding = 0 := by
  have round := ring.room
  rw [ring.head, tail_eq_slot_iff cfg.build ring.tail (Nat.le_of_lt round)]
  omega

omit [DecidableEq Handler] in
/-- The head of the loop, once every handler that was called has returned. -/
theorem Ring.nextMessage (ring : Ring cfg d ledger)
    (called : d.called = ledger.sent.take ledger.returned) :
    Inv cfg (nextMessage d) ledger := by
  have covered := ring.covered
  have counted : d.called.length = ledger.returned := by
    rw [called, List.length_take]
    omega
  unfold Msg.nextMessage
  by_cases empty : d.msgqueuet = d.msgqueueh
  · have none := ring.empty_iff.mp empty
    rw [if_neg (by simp [empty])]
    exact {
      toRing := { ring with }
      inside := by simp
      called := ⟨by rw [counted]; exact called, .inl counted⟩
      idle := fun _ => ⟨called, by omega⟩
      inHandler := nofun }
  · have some : 0 < ledger.outstanding := Nat.pos_of_ne_zero fun none =>
      empty (ring.empty_iff.mpr none)
    have inRange : ledger.returned < ledger.sent.length := by
      unfold Ledger.outstanding at some
      omega
    have slot := ring.slots 0 some
    rw [Nat.add_zero, Nat.mod_eq_of_lt ring.tail, Nat.add_zero,
      List.getElem?_eq_getElem inRange] at slot
    have next : d.called ++ [ledger.sent[ledger.returned]] =
        ledger.sent.take (ledger.returned + 1) := by
      rw [called, List.take_append_getElem]
    rw [if_pos empty, slot]
    exact {
      toRing := { ring with }
      inside := by simp
      called := by
        have length : (d.called ++ [ledger.sent[ledger.returned]]).length =
            ledger.returned + 1 := by
          rw [List.length_append, counted, List.length_singleton]
        refine ⟨?_, .inr length⟩
        rw [length]
        exact next
      idle := nofun
      inHandler := fun _ => ⟨some, next⟩ }

omit [DecidableEq Handler] in
theorem Inv.msgEvent (inv : Inv cfg d ledger) (idle : d.control = .idle) :
    Inv cfg (msgEvent d) ledger := by
  refine Ring.nextMessage ?_ (inv.idle idle).1
  exact { inv.toRing with pipe := by simp }

omit [DecidableEq Handler] in
theorem Inv.handlerReturns (inv : Inv cfg d ledger) (running : d.control = .inHandler) :
    Inv cfg (handlerReturns cfg d) { ledger with returned := ledger.returned + 1 } := by
  obtain ⟨some, called⟩ := inv.inHandler running
  have covered := inv.covered
  have counted : ledger.outstanding = ledger.sent.length - ledger.returned := rfl
  have fewer : Ledger.outstanding { ledger with returned := ledger.returned + 1 } =
      ledger.outstanding - 1 := by
    simp only [Ledger.outstanding]
    omega
  have room := inv.room
  have tail := inv.tail
  refine Ring.nextMessage ?_ called
  exact {
    handlers := inv.handlers
    covered := by simp only; omega
    room := by omega
    tail := by
      simp only [and_queueMask]
      exact Nat.mod_lt _ (queueLen_pos cfg.build)
    head := by
      simp only [and_queueMask, fewer, Nat.mod_add_mod]
      rw [inv.head]
      congr 1
      omega
    slots := by
      intro i below
      have slot := inv.slots (i + 1) (by omega)
      simp only [and_queueMask, Nat.mod_add_mod]
      rw [Nat.add_assoc, Nat.add_comm 1 i, slot, Nat.add_assoc, Nat.add_comm 1 i]
    pipe := inv.pipe }

omit [DecidableEq Handler] in
theorem signal_eq (roomy : 0 < cfg.capacity)
    (pipe : d.pipe = if d.msgpipesent then 1 else 0) :
    signal cfg d = { d with pipe := 1, msgpipesent := true } := by
  obtain ⟨handlers, msgqueue, head, tail, bytes, sent, overload, control, called⟩ := d
  unfold signal
  cases sent with
  | true =>
      simp only [if_true] at pipe
      simp [pipe]
  | false =>
      simp only [Bool.false_eq_true, if_false] at pipe
      simp [pipe, roomy]

/-- What a run has come to: the invariant holds, or as many messages are
outstanding as the ring has slots. -/
def Kept (cfg : Settings) (d : Daemon Handler Func Arg) (ledger : Ledger Handler Func Arg) : Prop :=
  Inv cfg d ledger ∨ d.control = .overflowed ∧ ledger.outstanding = cfg.build.queueLen

omit [DecidableEq Handler] in
theorem Inv.enqueue (roomy : 0 < cfg.capacity) (inv : Inv cfg d ledger) (msg : MpMsg Func Arg) :
    Kept cfg (enqueue cfg msg d) { ledger with sent := ledger.sent ++ [msg] } := by
  have covered := inv.covered
  have room := inv.room
  have tail := inv.tail
  have counted : ledger.outstanding = ledger.sent.length - ledger.returned := rfl
  have more : Ledger.outstanding { ledger with sent := ledger.sent ++ [msg] } =
      ledger.outstanding + 1 := by
    simp only [Ledger.outstanding, List.length_append, List.length_singleton]
    omega
  have head : (d.msgqueueh + 1) &&& cfg.build.queueMask =
      (d.msgqueuet + (ledger.outstanding + 1)) % cfg.build.queueLen := by
    rw [and_queueMask, inv.head, Nat.mod_add_mod, Nat.add_assoc]
  have full := tail_eq_slot_iff cfg.build tail (n := ledger.outstanding + 1) (by omega)
  unfold Msg.enqueue
  simp only [head]
  by_cases overflow : d.msgqueuet =
      (d.msgqueuet + (ledger.outstanding + 1)) % cfg.build.queueLen
  · rw [if_pos overflow]
    refine .inr ⟨rfl, ?_⟩
    rcases full.mp overflow with none | all
    · omega
    · rw [more, all]
  · rw [if_neg overflow]
    have below : ledger.outstanding + 1 < cfg.build.queueLen := by
      refine Nat.lt_of_le_of_ne (by omega) ?_
      intro all
      exact overflow (full.mpr (.inr all))
    -- What was called so far is the same part of the longer list.
    have calledBefore {count : Nat} (small : count ≤ ledger.sent.length)
        (called : d.called = ledger.sent.take count) :
        d.called = (ledger.sent ++ [msg]).take count := by
      rw [called, List.take_append_of_le_length small]
    have calledCount : d.called.length ≤ ledger.sent.length := by
      rw [inv.called.1]
      exact List.length_take_le' _ _
    left
    rw [signal_eq roomy]
    on_goal 2 => exact inv.pipe
    exact {
      handlers := inv.handlers
      covered := by
        simp only [List.length_append]
        omega
      room := by rw [more]; exact below
      tail
      head := by rw [more]
      slots := by
        intro i inside
        rw [more] at inside
        simp only
        by_cases last : i = ledger.outstanding
        · have position : ledger.returned + ledger.outstanding = ledger.sent.length := by omega
          rw [last, ← inv.head, if_pos rfl, position, List.getElem?_concat_length]
        · have before : i < ledger.outstanding := by omega
          have inList : ledger.returned + i < ledger.sent.length := by omega
          rw [inv.head, if_neg (slot_ne cfg.build before room), inv.slots i before,
            List.getElem?_append_left inList]
      pipe := rfl
      inside := inv.inside
      called := by
        exact ⟨calledBefore calledCount inv.called.1, inv.called.2⟩
      idle := by
        intro idle
        refine ⟨calledBefore covered (inv.idle idle).1, fun _ => rfl⟩
      inHandler := by
        intro running
        obtain ⟨some, called⟩ := inv.inHandler running
        have inList : ledger.returned + 1 ≤ ledger.sent.length := by omega
        exact ⟨by rw [more]; omega, calledBefore inList called⟩ }

omit [DecidableEq Handler] in
theorem Inv.abort (inv : Inv cfg d ledger) : Inv cfg { d with control := .aborted } ledger where
  toRing := { inv.toRing with }
  inside := nofun
  called := inv.called
  idle := nofun
  inHandler := nofun

theorem Inv.setHandler (inv : Inv cfg d ledger) (m : Handler)
    (handler : Option (MsgHandler Func)) :
    Inv cfg { d with handlers := Msg.setHandler d.handlers m handler }
      { ledger with handlers := Msg.setHandler ledger.handlers m handler } where
  toRing := { inv.toRing with handlers := by rw [inv.handlers] }
  inside := inv.inside
  called := inv.called
  idle := inv.idle
  inHandler := inv.inHandler

theorem Inv.msgSend (roomy : 0 < cfg.capacity) (inv : Inv cfg d ledger) (m : Handler)
    (type : Int) (arg : Arg) :
    Kept cfg (msgSend cfg m type arg d) (ledger.note (.send m type arg)) := by
  have noted : ledger.handlers m = d.handlers m := by rw [inv.handlers]
  unfold Msg.msgSend Ledger.note
  simp only [noted]
  cases registered : d.handlers m with
  | none => exact .inl inv.abort
  | some handler => exact inv.enqueue roomy _

/-- One step keeps what a run has come to. -/
theorem Kept.step (roomy : 0 < cfg.capacity) (kept : Kept cfg d ledger)
    {act : Act Handler Func Arg} {next : Daemon Handler Func Arg}
    (stepped : step cfg d act = some next) : Kept cfg next (ledger.note act) := by
  rcases kept with inv | ⟨overflowed, -⟩
  · cases control : d.control with
    | overflowed => exact absurd control inv.inside
    | aborted =>
        simp [Msg.step, control] at stepped
    | idle =>
        cases act with
        | register m func dbg =>
            simp only [Msg.step, control, Option.some.injEq] at stepped
            rw [← stepped, ← control]
            exact .inl (inv.setHandler m _)
        | unRegister m =>
            simp only [Msg.step, control, Option.some.injEq] at stepped
            rw [← stepped, ← control]
            exact .inl (inv.setHandler m _)
        | send m type arg =>
            simp only [Msg.step, control, Option.some.injEq] at stepped
            rw [← stepped]
            exact inv.msgSend roomy m type arg
        | msgEvent =>
            simp only [Msg.step, control, Option.some.injEq] at stepped
            rw [← stepped]
            exact .inl (inv.msgEvent control)
        | handlerReturns => simp [Msg.step, control] at stepped
    | inHandler =>
        cases act with
        | register m func dbg =>
            simp only [Msg.step, control, Option.some.injEq] at stepped
            rw [← stepped, ← control]
            exact .inl (inv.setHandler m _)
        | unRegister m =>
            simp only [Msg.step, control, Option.some.injEq] at stepped
            rw [← stepped, ← control]
            exact .inl (inv.setHandler m _)
        | send m type arg =>
            simp only [Msg.step, control, Option.some.injEq] at stepped
            rw [← stepped]
            exact inv.msgSend roomy m type arg
        | msgEvent => simp [Msg.step, control] at stepped
        | handlerReturns =>
            simp only [Msg.step, control, Option.some.injEq] at stepped
            rw [← stepped]
            exact .inl (inv.handlerReturns control)
  · simp [Msg.step, overflowed] at stepped

theorem Kept.run (roomy : 0 < cfg.capacity) (kept : Kept cfg d ledger)
    {acts : List (Act Handler Func Arg)} {final : Daemon Handler Func Arg}
    (ran : run cfg d acts = some final) : Kept cfg final (acts.foldl Ledger.note ledger) := by
  induction acts generalizing d ledger with
  | nil =>
      rw [Msg.run, Option.some.injEq] at ran
      rw [← ran]
      exact kept
  | cons act acts ih =>
      rw [Msg.run, Option.bind_eq_some_iff] at ran
      obtain ⟨next, stepped, rest⟩ := ran
      exact ih (kept.step roomy stepped) rest

variable (cfg) in
omit [DecidableEq Handler] in
theorem kept_start (handlers : Handler → Option (MsgHandler Func)) :
    Kept cfg (start handlers : Daemon Handler Func Arg) ⟨handlers, [], 0⟩ := by
  left
  exact {
    handlers := rfl
    covered := Nat.le_refl 0
    room := queueLen_pos cfg.build
    tail := queueLen_pos cfg.build
    head := by simp [start, Ledger.outstanding]
    slots := by simp [Ledger.outstanding]
    pipe := rfl
    inside := nofun
    called := ⟨rfl, .inl rfl⟩
    idle := fun _ => ⟨rfl, by simp [Ledger.outstanding]⟩
    inHandler := nofun }

end Daemon

section Delivery

variable {Handler Func Arg : Type} [DecidableEq Handler]

/-- After any run of sends, of `MsgEvent` and of returning handlers, in any
nesting, with fewer messages outstanding than the ring has slots: the handler
calls are the messages that were sent, in their order and with the functions of
that time, up to the one whose handler runs. Every outstanding message is still
in its slot. Outside `MsgEvent` a queue that is not empty has its byte in the
pipe, and once the queue is empty everything sent was delivered. -/
theorem msgQueue_delivers (cfg : Settings) (roomy : 0 < cfg.capacity)
    (handlers : Handler → Option (MsgHandler Func)) (acts : List (Act Handler Func Arg))
    (d : Daemon Handler Func Arg) (ran : run cfg (start handlers) acts = some d)
    (fewer : (Ledger.after handlers acts).outstanding < cfg.build.queueLen) :
    let ledger := Ledger.after handlers acts
    d.control ≠ .overflowed ∧ queueLen cfg d = ledger.outstanding ∧
    d.called <+: ledger.sent ∧
    (d.called.length = ledger.returned ∨ d.called.length = ledger.returned + 1) ∧
    (∀ i < ledger.outstanding,
      d.msgqueue ((d.msgqueuet + i) &&& cfg.build.queueMask) =
        ledger.sent[ledger.returned + i]?) ∧
    (d.control = .idle → d.msgqueuet ≠ d.msgqueueh → 0 < d.pipe) ∧
    (d.control = .idle → d.msgqueuet = d.msgqueueh → d.called = ledger.sent) := by
  intro ledger
  have kept : Kept cfg d ledger := (kept_start cfg handlers).run roomy ran
  rcases kept with inv | ⟨-, full⟩
  · have covered := inv.covered
    have counted : ledger.outstanding = ledger.sent.length - ledger.returned := rfl
    refine ⟨inv.inside, inv.queueLen_eq, ?_, inv.called.2, ?_, ?_, ?_⟩
    · rw [inv.called.1]
      exact List.take_prefix _ _
    · intro i below
      rw [and_queueMask]
      exact inv.slots i below
    · intro idle some
      have pending : 0 < ledger.outstanding := Nat.pos_of_ne_zero fun none =>
        some (inv.empty_iff.mpr none)
      rw [inv.pipe, (inv.idle idle).2 pending, if_pos rfl]
      exact Nat.one_pos
    · intro idle empty
      have none := inv.empty_iff.mp empty
      rw [(inv.idle idle).1]
      exact List.take_of_length_le (by omega)
  · exact absurd full (Nat.ne_of_lt fewer)

/-- Two sends, the second from the handler of the first, and the rest of the
`MsgEvent` that runs both. -/
theorem msgQueue_delivers_nested :
    ∃ d : Daemon Unit Nat Nat,
      run ⟨.usual, ⟨64, 256, 192⟩, 4096⟩ (start fun _ => some ⟨7, "LinkMsg()"⟩)
        [.send () 1 10, .msgEvent, .send () 2 11, .handlerReturns, .handlerReturns] = some d ∧
      d.called = [⟨1, 7, 10, "LinkMsg()"⟩, ⟨2, 7, 11, "LinkMsg()"⟩] :=
  ⟨_, rfl, (msgQueue_delivers ⟨.usual, ⟨64, 256, 192⟩, 4096⟩ (by decide)
    (fun _ => some ⟨7, "LinkMsg()"⟩)
    [.send () 1 10, .msgEvent, .send () 2 11, .handlerReturns, .handlerReturns] _ rfl
    (by decide)).2.2.2.2.2.2 rfl rfl⟩

end Delivery

end Mpd.Msg
