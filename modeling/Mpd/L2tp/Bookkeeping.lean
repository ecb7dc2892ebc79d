import Mathlib.Data.Fintype.Card
import Mathlib.Data.List.Perm.Basic
import Mpd.L2tp.DataEvent
import Mpd.Outcome

/-! What a control connection keeps about its sessions and its end: an abstract state with the
moves that the code makes on it, and the invariant of these moves. -/

set_option autoImplicit false

namespace Mpd

open Outcome

structure L2tpSessBook where
  session_id : UInt16
  state : L2tpSessState
  close_timer : Bool
  death_timer : Bool
  deriving DecidableEq

structure L2tpBook where
  state : L2tpCtrlState
  sessions : List L2tpSessBook
  close_timer : Bool
  death_timer : Option L2tpDeath
  active_sessions : UInt32
  underflow : Bool
  deriving DecidableEq

def L2tpSess.book (sess : L2tpSess) : L2tpSessBook :=
  ⟨sess.session_id, sess.state, sess.close_timer, sess.death_timer⟩

def L2tpWorld.book (w : L2tpWorld) : L2tpBook :=
  ⟨w.ctrl.state, w.ctrl.sessions.map L2tpSess.book, w.ctrl.close_timer, w.ctrl.death_timer,
    w.ctrl.active_sessions, w.underflow⟩

/-- `do_close` has not run for the session. -/
def L2tpSessBook.active (sess : L2tpSessBook) : Bool :=
  sess.state ≠ .dying || sess.close_timer

namespace L2tpBook

def setSess (b : L2tpBook) (session_id : UInt16) (f : L2tpSessBook → L2tpSessBook) : L2tpBook :=
  { b with
    sessions := b.sessions.map fun sess => if sess.session_id = session_id then f sess else sess }

def close (b : L2tpBook) : L2tpBook :=
  if b.state = .dying then b
  else { b with state := .dying, close_timer := true, death_timer := none }

/-- The sessions with an id are not dying. -/
def Live (b : L2tpBook) (session_id : UInt16) : Prop :=
  ∀ sess ∈ b.sessions, sess.session_id = session_id → sess.state ≠ .dying

def closeSess (sess : L2tpSessBook) : L2tpSessBook :=
  { sess with state := .dying, close_timer := true, death_timer := false }

inductive BookMoves : L2tpBook → L2tpBook → Prop
  | close (b : L2tpBook) : BookMoves b b.close
  | proceed (b : L2tpBook) (state : L2tpCtrlState) : b.state ≠ .dying → state ≠ .dying →
      (b.sessions ≠ [] → state = .established) → BookMoves b { b with state := state }
  | startUnused (b : L2tpBook) : b.state ≠ .dying → b.active_sessions = 0 →
      BookMoves b { b with death_timer := some .unusedTimeout }
  | stopUnused (b : L2tpBook) : b.state = .established → BookMoves b { b with death_timer := none }
  | proceedSess (b : L2tpBook) (session_id : UInt16) (state : L2tpSessState) :
      b.Live session_id → state ≠ .dying →
      BookMoves b (b.setSess session_id fun sess => { sess with state := state })
  | closeSess (b : L2tpBook) (session_id : UInt16) : b.Live session_id →
      BookMoves b (b.setSess session_id closeSess)
  | create (b : L2tpBook) (session_id : UInt16) (state : L2tpSessState)
      (sessions : List L2tpSessBook) :
      b.state = .established → (∀ sess ∈ b.sessions, sess.session_id ≠ session_id) →
      state ≠ .dying → sessions.Perm (⟨session_id, state, false, false⟩ :: b.sessions) →
      BookMoves b
        { b with
          sessions := sessions, death_timer := none, active_sessions := b.active_sessions + 1 }
  | reorder (b : L2tpBook) (sessions : List L2tpSessBook) : sessions.Perm b.sessions →
      BookMoves b { b with sessions := sessions }

structure Kept (b : L2tpBook) : Prop where
  distinct : (b.sessions.map (·.session_id)).Nodup
  counted : b.active_sessions.toNat = b.sessions.countP (·.active)
  noUnderflow : b.underflow = false
  sessTimers : ∀ sess ∈ b.sessions,
    (sess.state ≠ .dying → sess.close_timer = false) ∧
      (sess.death_timer = true ↔ sess.state = .dying ∧ sess.close_timer = false)
  unusedTimer : b.death_timer = some .unusedTimeout → b.state ≠ .dying ∧ b.active_sessions = 0
  deathTimer : b.death_timer = some .deathTimeout → b.state = .dying ∧ b.active_sessions = 0
  closeTimer : b.close_timer = true → b.state = .dying
  early : b.state ≠ .established → b.state ≠ .dying → b.sessions = []

/-- No more sessions than session ids. -/
theorem Kept.few {b : L2tpBook} (kept : b.Kept) : b.sessions.length ≤ 65536 := by
  have distinct : ((b.sessions.map (·.session_id)).map UInt16.toNat).Nodup :=
    kept.distinct.map fun _ _ same => UInt16.toNat_inj.mp same
  have small : (b.sessions.map (·.session_id)).map UInt16.toNat ⊆ List.range 65536 := by
    intro number member
    obtain ⟨session_id, -, rfl⟩ := List.mem_map.mp member
    exact List.mem_range.mpr session_id.toNat_lt
  simpa using (distinct.subperm small).length_le

theorem countP_setSess {sessions : List L2tpSessBook} {session_id : UInt16}
    {f : L2tpSessBook → L2tpSessBook}
    (same : ∀ sess ∈ sessions, sess.session_id = session_id → (f sess).active = sess.active) :
    (sessions.map fun sess => if sess.session_id = session_id then f sess else sess).countP
      (·.active) = sessions.countP (·.active) := by
  rw [List.countP_map]
  apply List.countP_congr
  intro sess member
  dsimp only [Function.comp_apply]
  split
  · rw [same sess member ‹_›]
  · rfl

theorem ids_setSess {sessions : List L2tpSessBook} {session_id : UInt16}
    {f : L2tpSessBook → L2tpSessBook} (same : ∀ sess, (f sess).session_id = sess.session_id) :
    (sessions.map fun sess => if sess.session_id = session_id then f sess else sess).map
      (·.session_id) = sessions.map (·.session_id) := by
  rw [List.map_map]
  apply List.map_congr_left
  intro sess _
  dsimp only [Function.comp_apply]
  split
  · exact same sess
  · rfl

/-- A change of one session that keeps its id, its activity and the rule of its timers. -/
theorem Kept.setSess {b : L2tpBook} (kept : b.Kept) {session_id : UInt16}
    {f : L2tpSessBook → L2tpSessBook} (ids : ∀ sess, (f sess).session_id = sess.session_id)
    (active : ∀ sess ∈ b.sessions, sess.session_id = session_id →
      (f sess).active = sess.active)
    (timers : ∀ sess ∈ b.sessions, sess.session_id = session_id →
      ((f sess).state ≠ .dying → (f sess).close_timer = false) ∧
        ((f sess).death_timer = true ↔ (f sess).state = .dying ∧ (f sess).close_timer = false)) :
    (b.setSess session_id f).Kept where
  distinct := by
    rw [L2tpBook.setSess, ids_setSess ids]
    exact kept.distinct
  counted := by
    rw [L2tpBook.setSess, countP_setSess active]
    exact kept.counted
  noUnderflow := kept.noUnderflow
  sessTimers := by
    intro sess member
    obtain ⟨before, was, rfl⟩ := List.mem_map.mp member
    split
    · exact timers before was ‹_›
    · exact kept.sessTimers before was
  unusedTimer := kept.unusedTimer
  deathTimer := kept.deathTimer
  closeTimer := kept.closeTimer
  early := by
    intro notEstablished notDying
    simp [L2tpBook.setSess, kept.early notEstablished notDying]

theorem active_of_not_dying {sess : L2tpSessBook} (alive : sess.state ≠ .dying) :
    sess.active = true := by
  simp [L2tpSessBook.active, alive]

theorem Kept.close {b : L2tpBook} (kept : b.Kept) : b.close.Kept := by
  unfold L2tpBook.close
  split
  · exact kept
  · exact
      { distinct := kept.distinct
        counted := kept.counted
        noUnderflow := kept.noUnderflow
        sessTimers := kept.sessTimers
        unusedTimer := fun none => nomatch none
        deathTimer := fun none => nomatch none
        closeTimer := fun _ => rfl
        early := fun _ notDying => absurd rfl notDying }

theorem Kept.create {b : L2tpBook} (kept : b.Kept) {session_id : UInt16} {state : L2tpSessState}
    {sessions : List L2tpSessBook} (established : b.state = .established)
    (fresh : ∀ sess ∈ b.sessions, sess.session_id ≠ session_id) (alive : state ≠ .dying)
    (perm : sessions.Perm (⟨session_id, state, false, false⟩ :: b.sessions)) :
    Kept
      { b with
        sessions := sessions, death_timer := none, active_sessions := b.active_sessions + 1 } where
  distinct := by
    rw [(perm.map _).nodup_iff]
    refine List.nodup_cons.mpr ⟨fun member => ?_, kept.distinct⟩
    obtain ⟨sess, was, same⟩ := List.mem_map.mp member
    exact fresh sess was same
  counted := by
    have few := kept.few
    have counted := kept.counted
    have atMost : b.sessions.countP (·.active) ≤ b.sessions.length := List.countP_le_length
    rw [perm.countP_eq, List.countP_cons_of_pos (active_of_not_dying alive), ← counted,
      UInt32.toNat_add]
    exact Nat.mod_eq_of_lt (by change b.active_sessions.toNat + 1 < 2 ^ 32; omega)
  noUnderflow := kept.noUnderflow
  sessTimers := by
    intro sess member
    cases List.mem_cons.mp (perm.mem_iff.mp member) with
    | inl new => subst new; simp [alive]
    | inr old => exact kept.sessTimers sess old
  unusedTimer := fun none => nomatch none
  deathTimer := fun none => nomatch none
  closeTimer := kept.closeTimer
  early := fun notEstablished => absurd established notEstablished

theorem Kept.reorder {b : L2tpBook} (kept : b.Kept) {sessions : List L2tpSessBook}
    (perm : sessions.Perm b.sessions) : Kept { b with sessions := sessions } where
  distinct := (perm.map _).nodup_iff.mpr kept.distinct
  counted := kept.counted.trans (perm.countP_eq _).symm
  noUnderflow := kept.noUnderflow
  sessTimers := fun sess member => kept.sessTimers sess (perm.mem_iff.mp member)
  unusedTimer := kept.unusedTimer
  deathTimer := kept.deathTimer
  closeTimer := kept.closeTimer
  early := fun notEstablished notDying =>
    List.perm_nil.mp (kept.early notEstablished notDying ▸ perm)

theorem Kept.moves {b b' : L2tpBook} (kept : b.Kept) (moves : BookMoves b b') : b'.Kept := by
  cases moves with
  | close => exact kept.close
  | proceed state notDying stays settled =>
      exact
        { distinct := kept.distinct
          counted := kept.counted
          noUnderflow := kept.noUnderflow
          sessTimers := kept.sessTimers
          unusedTimer := fun unused => ⟨stays, (kept.unusedTimer unused).2⟩
          deathTimer := fun death => absurd (kept.deathTimer death).1 notDying
          closeTimer := fun close => absurd (kept.closeTimer close) notDying
          early := fun notEstablished _ => by_contra fun some => notEstablished (settled some) }
  | startUnused notDying unused =>
      exact
        { distinct := kept.distinct
          counted := kept.counted
          noUnderflow := kept.noUnderflow
          sessTimers := kept.sessTimers
          unusedTimer := fun _ => ⟨notDying, unused⟩
          deathTimer := fun death => nomatch Option.some.inj death
          closeTimer := kept.closeTimer
          early := kept.early }
  | stopUnused established =>
      exact
        { distinct := kept.distinct
          counted := kept.counted
          noUnderflow := kept.noUnderflow
          sessTimers := kept.sessTimers
          unusedTimer := fun none => nomatch none
          deathTimer := fun none => nomatch none
          closeTimer := kept.closeTimer
          early := kept.early }
  | proceedSess session_id state live stays =>
      apply kept.setSess
      · exact fun _ => rfl
      · intro sess member same
        rw [active_of_not_dying (live sess member same)]
        exact active_of_not_dying stays
      · intro sess member same
        have timers := kept.sessTimers sess member
        have closeOff := timers.1 (live sess member same)
        refine ⟨fun _ => closeOff, fun death => ?_, fun dying => absurd dying.1 stays⟩
        exact absurd (timers.2.mp death).1 (live sess member same)
  | closeSess session_id live =>
      apply kept.setSess
      · exact fun _ => rfl
      · intro sess member same
        rw [active_of_not_dying (live sess member same)]
        simp [L2tpSessBook.active, closeSess]
      · intro sess member same
        simp [closeSess]
  | create session_id state sessions established fresh alive perm =>
      exact kept.create established fresh alive perm
  | reorder sessions perm => exact kept.reorder perm

def Lingers (b : L2tpBook) : Prop :=
  b.state = .dying → b.close_timer = true ∨ b.death_timer = some .deathTimeout ∨
    ∀ sess ∈ b.sessions, sess.state = .dying

def Waits (b : L2tpBook) : Prop :=
  b.state = .dying → b.close_timer = true ∨ b.death_timer = some .deathTimeout ∨
    b.active_sessions ≠ 0

def Stable (also : L2tpBook → Prop) : Prop :=
  ∀ b b', BookMoves b b' → also b → also b'

theorem stable_dying : Stable fun b => b.state = .dying := by
  intro b b' moves dying
  cases moves with
  | close => rw [L2tpBook.close, if_pos dying]; exact dying
  | proceed state notDying => exact absurd dying notDying
  | _ => exact dying

theorem close_stable {b : L2tpBook} {waits : L2tpBook → Prop}
    (held : waits b) (closing : waits { b with state := .dying, close_timer := true, death_timer := none }) :
    waits b.close := by
  unfold L2tpBook.close
  split
  · exact held
  · exact closing

theorem stable_lingers : Stable Lingers := by
  intro b b' moves lingers
  cases moves with
  | close => exact close_stable lingers fun _ => Or.inl rfl
  | proceed state _ stays => exact fun dying => absurd dying stays
  | startUnused notDying => exact fun dying => absurd dying notDying
  | stopUnused established => exact fun dying => nomatch established.symm.trans dying
  | proceedSess session_id state live =>
      intro dying
      obtain close | death | allDie := lingers dying
      · exact Or.inl close
      · exact Or.inr (Or.inl death)
      · refine Or.inr (Or.inr fun sess member => ?_)
        obtain ⟨before, was, rfl⟩ := List.mem_map.mp member
        split
        · exact absurd (allDie before was) (live before was ‹_›)
        · exact allDie before was
  | closeSess session_id live =>
      intro dying
      obtain close | death | allDie := lingers dying
      · exact Or.inl close
      · exact Or.inr (Or.inl death)
      · refine Or.inr (Or.inr fun sess member => ?_)
        obtain ⟨before, was, rfl⟩ := List.mem_map.mp member
        split
        · rfl
        · exact allDie before was
  | create _ _ _ established => exact fun dying => nomatch established.symm.trans dying
  | reorder sessions perm =>
      intro dying
      obtain close | death | allDie := lingers dying
      · exact Or.inl close
      · exact Or.inr (Or.inl death)
      · exact Or.inr (Or.inr fun sess member => allDie sess (perm.mem_iff.mp member))

theorem stable_waits : Stable Waits := by
  intro b b' moves waits
  cases moves with
  | close => exact close_stable waits fun _ => Or.inl rfl
  | proceed state _ stays => exact fun dying => absurd dying stays
  | startUnused notDying => exact fun dying => absurd dying notDying
  | stopUnused established => exact fun dying => nomatch established.symm.trans dying
  | proceedSess session_id state live => exact waits
  | closeSess session_id live => exact waits
  | create _ _ _ established => exact fun dying => nomatch established.symm.trans dying
  | reorder sessions perm => exact waits

theorem Stable.and {first second : L2tpBook → Prop} (one : Stable first) (two : Stable second) :
    Stable fun b => first b ∧ second b :=
  fun b b' moves held => ⟨one b b' moves held.1, two b b' moves held.2⟩

end L2tpBook

end Mpd
