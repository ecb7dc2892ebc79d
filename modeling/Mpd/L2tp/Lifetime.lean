import Mpd.L2tp.Handlers
import Mpd.L2tp.Plain

/-! The timers of a control connection, and what holds in every state that a run reaches. -/

set_option autoImplicit false

namespace Mpd

open Outcome L2tpBook L2tpWorld

namespace L2tpBook

/-- A session taken out of a list in which no other has its id. -/
theorem perm_cons_filter {sessions : List L2tpSessBook} {sess : L2tpSessBook}
    (distinct : (sessions.map (·.session_id)).Nodup) (member : sess ∈ sessions) :
    sessions.Perm (sess :: sessions.filter (·.session_id ≠ sess.session_id)) := by
  induction sessions with
  | nil => exact nomatch member
  | cons head tail ih =>
      obtain ⟨fresh, distinct⟩ := List.nodup_cons.mp distinct
      cases member with
      | head =>
          have others : tail.filter (·.session_id ≠ sess.session_id) = tail := by
            rw [List.filter_eq_self]
            intro other listed
            have different : other.session_id ≠ sess.session_id := fun same =>
              fresh (List.mem_map.mpr ⟨other, listed, same⟩)
            simpa using different
          rw [List.filter_cons_of_neg (by simp), others]
      | tail _ listed =>
          have different : head.session_id ≠ sess.session_id := fun same =>
            fresh (List.mem_map.mpr ⟨sess, listed, same.symm⟩)
          rw [List.filter_cons_of_pos (by simpa using different)]
          exact ((ih distinct listed).cons head).trans (List.Perm.swap _ _ _)

/-- A session removed, with the number of the remaining active ones. -/
theorem Kept.remove {b : L2tpBook} (kept : b.Kept) {sess : L2tpSessBook}
    {rest : List L2tpSessBook} (perm : b.sessions.Perm (sess :: rest)) {active : UInt32}
    (counted : active.toNat = rest.countP (·.active)) {death_timer : Option L2tpDeath}
    (unusedTimer : death_timer = some .unusedTimeout → b.state ≠ .dying ∧ active = 0)
    (deathTimer : death_timer = some .deathTimeout → b.state = .dying ∧ active = 0) :
    Kept
      { b with sessions := rest, active_sessions := active, death_timer := death_timer } where
  distinct := (List.nodup_cons.mp ((perm.map _).nodup_iff.mp kept.distinct)).2
  counted := counted
  noUnderflow := kept.noUnderflow
  sessTimers := fun other member =>
    kept.sessTimers other (perm.mem_iff.mpr (List.mem_cons_of_mem _ member))
  unusedTimer := unusedTimer
  deathTimer := deathTimer
  closeTimer := kept.closeTimer
  early := by
    intro notEstablished notDying
    have empty := kept.early notEstablished notDying
    rw [empty] at perm
    exact nomatch List.nil_perm.mp perm

end L2tpBook

/-- The invariant of a run: the bookkeeping is right and a dying connection does not linger. -/
def L2tpBook.Settled (b : L2tpBook) : Prop := Lingers b ∧ Waits b

theorem stable_settled : Stable L2tpBook.Settled := stable_lingers.and stable_waits

section Timers

variable (env : L2tpEnv) {w : L2tpWorld}

theorem keeps_deathStart (kept : w.book.Kept) (dying : w.book.state = .dying)
    (last : w.book.active_sessions = 0) :
    Ends NoAssert (L2tpWorld.Keeps L2tpBook.Settled) (l2tpCtrlDeathStart w) := by
  unfold l2tpCtrlDeathStart
  rw [if_neg (not_not.mpr (show w.ctrl.state = .dying from dying))]
  refine ⟨?_, fun _ => Or.inr (Or.inl rfl), fun _ => Or.inr (Or.inl rfl)⟩
  exact
    { distinct := kept.distinct
      counted := kept.counted
      noUnderflow := kept.noUnderflow
      sessTimers := kept.sessTimers
      unusedTimer := fun unused => nomatch Option.some.inj unused
      deathTimer := fun _ => ⟨dying, last⟩
      closeTimer := kept.closeTimer
      early := kept.early }

/-- When the last session has closed, the death timer or the unused timer starts. -/
theorem keeps_afterLast (keeps : w.Keeps Lingers) :
    Ends NoAssert (L2tpWorld.Keeps L2tpBook.Settled) (l2tpAfterLast w) := by
  obtain ⟨kept, lingers⟩ := keeps
  unfold l2tpAfterLast
  by_cases last : w.ctrl.active_sessions = 0
  case neg =>
    rw [if_neg last]
    exact ⟨kept, lingers, fun _ => Or.inr (Or.inr last)⟩
  rw [if_pos last]
  by_cases dying : w.ctrl.state = .dying
  · rw [if_pos dying]
    exact keeps_deathStart kept dying last
  · rw [if_neg dying]
    have started : (l2tpStartUnused w).book = _ := book_startUnused kept dying
    change (l2tpStartUnused w).Keeps L2tpBook.Settled
    unfold L2tpWorld.Keeps
    rw [started]
    refine ⟨kept.moves (.startUnused _ dying last), ?_, ?_⟩
    · exact fun isDying => absurd isDying dying
    · exact fun isDying => absurd isDying dying

/-- The bookkeeping after `active_sessions--`, for a session that was active. -/
theorem decActive_of_active (kept : w.book.Kept) {sess : L2tpSessBook}
    {rest : List L2tpSessBook} (perm : w.book.sessions.Perm (sess :: rest))
    (active : sess.active = true) :
    w.ctrl.active_sessions ≠ 0 ∧
      (w.ctrl.active_sessions - 1).toNat = rest.countP (·.active) := by
  have counted : w.ctrl.active_sessions.toNat = rest.countP (·.active) + 1 :=
    kept.counted.trans ((perm.countP_eq _).trans (List.countP_cons_of_pos active))
  have positive : w.ctrl.active_sessions ≠ 0 := by
    intro zero
    rw [zero] at counted
    exact nomatch counted
  refine ⟨positive, ?_⟩
  have atLeast : (1 : UInt32) ≤ w.ctrl.active_sessions := by
    rw [UInt32.le_iff_toNat_le, counted]
    exact Nat.succ_le_succ (Nat.zero_le _)
  rw [UInt32.toNat_sub_of_le _ _ atLeast, counted]
  rfl

theorem active_iff {sess : L2tpSess} :
    sess.book.active = true ↔ sess.state ≠ .dying ∨ sess.close_timer = true := by
  change (decide (sess.state ≠ .dying) || sess.close_timer) = true ↔ _
  rw [Bool.or_eq_true, decide_eq_true_iff]

theorem death_timer_off (kept : w.book.Kept) (positive : w.ctrl.active_sessions ≠ 0) :
    w.ctrl.death_timer = none := by
  cases timer : w.ctrl.death_timer with
  | none => rfl
  | some handler =>
      cases handler with
      | unusedTimeout => exact absurd (kept.unusedTimer timer).2 positive
      | deathTimeout => exact absurd (kept.deathTimer timer).2 positive

theorem book_decActive (w : L2tpWorld) : w.decActive.book =
    { w.book with
      active_sessions := w.ctrl.active_sessions - 1
      underflow := w.underflow || w.ctrl.active_sessions == 0 } := rfl

/-- What `ppp_l2tp_sess_do_close` does to a session. -/
def L2tpBook.doCloseSess (sess : L2tpSessBook) : L2tpSessBook :=
  { sess with close_timer := false, death_timer := true }

theorem keeps_doCloseSess (keeps : w.Keeps L2tpBook.Settled) {session_id : UInt16}
    {sess : L2tpSess} (found : w.sess? session_id = some sess)
    (pending : sess.close_timer = true) :
    (w.setSess session_id fun sess =>
      { sess with close_timer := false, death_timer := true }).decActive.Keeps Lingers := by
  obtain ⟨kept, lingers, -⟩ := keeps
  obtain ⟨listed, its⟩ := sess?_mem found
  have member : sess.book ∈ w.book.sessions := List.mem_map_of_mem listed
  have dying : sess.state = .dying := by
    by_contra alive
    have closeOff : sess.close_timer = false := (kept.sessTimers sess.book member).1 alive
    cases closeOff.symm.trans pending
  have perm := perm_cons_filter kept.distinct member
  have active : sess.book.active = true := active_iff.mpr (Or.inr pending)
  obtain ⟨positive, counted⟩ := decActive_of_active kept perm active
  have off := death_timer_off kept positive
  generalize after : (w.setSess session_id fun sess =>
    { sess with close_timer := false, death_timer := true }).decActive = v
  have book : v.book =
      { w.book.setSess session_id L2tpBook.doCloseSess with
        active_sessions := w.ctrl.active_sessions - 1, underflow := false } := by
    have changed := book_setSess w session_id
      (f := fun sess => { sess with close_timer := false, death_timer := true })
      (g := L2tpBook.doCloseSess) fun _ => rfl
    have noUnderflow : (w.underflow || w.ctrl.active_sessions == 0) = false := by
      rw [beq_false_of_ne positive, Bool.or_false]
      exact kept.noUnderflow
    rw [← after, book_decActive, changed, ← noUnderflow]
    rfl
  unfold L2tpWorld.Keeps
  rw [book]
  have states : ∀ other ∈ (w.book.setSess session_id L2tpBook.doCloseSess).sessions,
      ∃ before ∈ w.book.sessions, other = before ∧ before.session_id ≠ session_id ∨
        other = L2tpBook.doCloseSess sess.book ∧ before = sess.book := by
    intro other changed
    obtain ⟨before, was, rfl⟩ := List.mem_map.mp changed
    by_cases same : before.session_id = session_id
    · rw [if_pos same]
      have one := book_of_mem kept listed was (same.trans its.symm)
      exact ⟨before, was, Or.inr ⟨by rw [one], one⟩⟩
    · rw [if_neg same]
      exact ⟨before, was, Or.inl ⟨rfl, same⟩⟩
  refine ⟨?_, ?_⟩
  · exact
      { distinct := by
          have same := @ids_setSess w.book.sessions session_id L2tpBook.doCloseSess fun _ => rfl
          exact same ▸ kept.distinct
        counted := by
          have others : ∀ other ∈ w.book.sessions.filter (·.session_id ≠ sess.book.session_id),
              (if other.session_id = session_id then L2tpBook.doCloseSess other else other) =
                id other := by
            intro other among
            have different : other.session_id ≠ sess.session_id :=
              of_decide_eq_true (List.mem_filter.mp among).2
            exact if_neg fun same => different (same.trans its.symm)
          have inactive : (L2tpBook.doCloseSess sess.book).active ≠ true := by
            simp [L2tpSessBook.active, L2tpBook.doCloseSess, L2tpSess.book, dying]
          refine counted.trans (Eq.symm (((perm.map _).countP_eq _).trans ?_))
          rw [List.map_cons, if_pos (show sess.book.session_id = session_id from its),
            List.countP_cons_of_neg inactive, List.map_congr_left others, List.map_id]
        noUnderflow := rfl
        sessTimers := by
          intro other changed
          obtain ⟨before, was, ⟨rfl, -⟩ | ⟨rfl, -⟩⟩ := states other changed
          · exact kept.sessTimers other was
          · exact ⟨fun alive => absurd dying alive, fun _ => ⟨dying, rfl⟩, fun _ => rfl⟩
        unusedTimer := by
          intro unused
          cases off.symm.trans unused
        deathTimer := by
          intro death
          cases off.symm.trans death
        closeTimer := kept.closeTimer
        early := by
          intro notEstablished notDying
          rw [kept.early notEstablished notDying] at member
          cases member }
  · intro isDying
    obtain close | death | allDie := lingers isDying
    · exact Or.inl close
    · exact Or.inr (Or.inl death)
    · refine Or.inr (Or.inr fun other changed => ?_)
      obtain ⟨before, was, ⟨rfl, -⟩ | ⟨rfl, -⟩⟩ := states other changed
      · exact allDie other was
      · exact dying

theorem keeps_sessDoClose (keeps : w.Keeps L2tpBook.Settled) {session_id : UInt16}
    {sess : L2tpSess} (found : w.sess? session_id = some sess)
    (pending : sess.close_timer = true) :
    Ends NoAssert (L2tpWorld.Keeps L2tpBook.Settled) (l2tpSessDoClose env w session_id) := by
  have closed := keeps_doCloseSess keeps found pending
  unfold l2tpSessDoClose
  dsimp only
  generalize (w.setSess session_id fun sess =>
    { sess with close_timer := false, death_timer := true }).decActive = v at closed ⊢
  cases v.sess? session_id with
  | none => exact keeps_afterLast closed
  | some sess =>
      dsimp only
      split
      · exact keeps_afterLast closed
      · apply Ends.bind (p := L2tpWorld.Keeps Lingers)
        · apply keeps_callback env stable_lingers
          exact closed.same (book_setSess_same v session_id fun _ => rfl)
        · exact fun u keepsU => keeps_afterLast keepsU

/-- `ppp_l2tp_sess_destroy` takes a session out of the connection and of the count. -/
theorem kept_sessDestroy (kept : w.book.Kept) {sess : L2tpSess} (listed : sess ∈ w.ctrl.sessions) :
    Ends NoAssert (fun v => v.book.Kept ∧
      v.ctrl.sessions.Perm (w.ctrl.sessions.filter (·.session_id ≠ sess.session_id)))
      (l2tpSessDestroy env w sess) := by
  have member : sess.book ∈ w.book.sessions := List.mem_map_of_mem listed
  have perm := perm_cons_filter kept.distinct member
  have rest : ∀ v : L2tpWorld, v.ctrl.sessions = w.ctrl.sessions →
      w.book.sessions.Perm (sess.book ::
        (env.order (v.ctrl.sessions.filter (·.session_id ≠ sess.session_id))).map
          L2tpSess.book) := by
    intro v same
    refine perm.trans (List.Perm.cons _ (List.Perm.symm ?_))
    have removed := book_sessDestroy_sessions env (v := v) sess.session_id
    rw [show v.book.sessions = w.book.sessions from congrArg (List.map L2tpSess.book) same]
      at removed
    exact removed
  have destroyed : ∀ v : L2tpWorld, v.ctrl.sessions = w.ctrl.sessions →
      v.ctrl.state = w.ctrl.state → v.ctrl.close_timer = w.ctrl.close_timer →
      v.underflow = false →
      v.ctrl.active_sessions.toNat =
        (w.book.sessions.filter (·.session_id ≠ sess.book.session_id)).countP (·.active) →
      (v.ctrl.death_timer = some .unusedTimeout →
        w.ctrl.state ≠ .dying ∧ v.ctrl.active_sessions = 0) →
      (v.ctrl.death_timer = some .deathTimeout →
        w.ctrl.state = .dying ∧ v.ctrl.active_sessions = 0) →
      (v.setCtrl fun ctrl =>
        { ctrl with
          sessions := env.order
            (ctrl.sessions.filter (·.session_id ≠ sess.session_id)) }).book.Kept := by
    intro v sessions state closing noUnderflow counted unused death
    have others := (rest v sessions).symm.trans perm
    have removed := kept.remove (rest v sessions)
      (counted.trans (others.cons_inv.countP_eq _).symm) unused death
    have was : w.underflow = false := kept.noUnderflow
    simp only [L2tpWorld.book, L2tpWorld.setCtrl, state, closing, noUnderflow] at removed ⊢
    rw [was] at removed
    exact removed
  have order := fun v : L2tpWorld => env.order_perm
    (v.ctrl.sessions.filter (·.session_id ≠ sess.session_id))
  unfold l2tpSessDestroy
  by_cases active : sess.state ≠ .dying ∨ sess.close_timer = true
  case neg =>
    rw [if_neg active]
    refine ⟨destroyed w rfl rfl rfl kept.noUnderflow ?_ kept.unusedTimer kept.deathTimer, order w⟩
    have inactive : sess.book.active ≠ true := fun counts => active (active_iff.mp counts)
    exact kept.counted.trans
      ((perm.countP_eq _).trans (List.countP_cons_of_neg inactive))
  rw [if_pos active]
  have counts : sess.book.active = true := active_iff.mpr active
  obtain ⟨positive, counted⟩ := decActive_of_active kept perm counts
  have off := death_timer_off kept positive
  have noUnderflow : w.decActive.underflow = false := by
    change (w.underflow || w.ctrl.active_sessions == 0) = false
    rw [beq_false_of_ne positive, Bool.or_false]
    exact kept.noUnderflow
  have offAfter : w.decActive.ctrl.death_timer = none := off
  unfold l2tpAfterLast
  split
  · rename_i last
    split
    · rename_i dying
      unfold l2tpCtrlDeathStart
      rw [if_neg (not_not.mpr dying)]
      refine ⟨destroyed _ rfl rfl rfl noUnderflow counted ?_ ?_, order w⟩
      · intro unused
        cases Option.some.inj unused
      · exact fun _ => ⟨dying, last⟩
    · rename_i notDying
      refine ⟨destroyed (l2tpStartUnused w.decActive) rfl rfl rfl noUnderflow counted ?_ ?_,
        order w⟩
      · exact fun _ => ⟨notDying, last⟩
      · intro death
        simp only [l2tpStartUnused, L2tpWorld.setCtrl, offAfter, Option.getD_none] at death
        cases Option.some.inj death
  · refine ⟨destroyed _ rfl rfl rfl noUnderflow counted ?_ ?_, order w⟩
    · intro unused
      cases offAfter.symm.trans unused
    · intro death
      cases offAfter.symm.trans death

theorem kept_destroyAll (sessions : List L2tpSess) {w : L2tpWorld} (kept : w.book.Kept)
    (distinct : (sessions.map (·.session_id)).Nodup)
    (listed : ∀ sess ∈ sessions, sess ∈ w.ctrl.sessions) :
    Ends NoAssert (fun v => v.book.Kept) (sessions.foldlM (l2tpSessDestroy env) w) := by
  induction sessions generalizing w with
  | nil => exact kept
  | cons sess sessions ih =>
      obtain ⟨fresh, distinct⟩ := List.nodup_cons.mp distinct
      rw [List.foldlM_cons]
      apply Ends.bind (kept_sessDestroy env kept (listed sess (List.mem_cons_self ..)))
      intro v ⟨keptV, remaining⟩
      apply ih keptV distinct
      intro other member
      have different : other.session_id ≠ sess.session_id := fun same =>
        fresh (List.mem_map.mpr ⟨other, member, same⟩)
      rw [remaining.mem_iff, List.mem_filter]
      exact ⟨listed other (List.mem_cons_of_mem _ member), by simpa using different⟩

theorem ids_distinct (kept : w.book.Kept) : (w.ctrl.sessions.map (·.session_id)).Nodup := by
  have distinct := kept.distinct
  simp only [L2tpWorld.book, List.map_map] at distinct
  exact distinct

/-- What holds after a step: the connection is gone or its bookkeeping is right. -/
def L2tpWorld.Sound (w : L2tpWorld) : Prop :=
  w.underflow = false ∧ (w.gone = true ∨ w.Keeps L2tpBook.Settled)

theorem Sound.of_keeps (keeps : w.Keeps L2tpBook.Settled) : w.Sound :=
  ⟨keeps.1.noUnderflow, Or.inr keeps⟩

theorem sound_ctrlDestroy (kept : w.book.Kept) :
    Ends NoAssert L2tpWorld.Sound (l2tpCtrlDestroy env w) := by
  unfold l2tpCtrlDestroy
  apply Ends.bind (kept_destroyAll env w.ctrl.sessions kept (ids_distinct kept) fun _ it => it)
  exact fun v keptV => ⟨keptV.noUnderflow, Or.inl rfl⟩

theorem keeps_sessDeath (keeps : w.Keeps L2tpBook.Settled) {session_id : UInt16} {sess : L2tpSess}
    (found : w.sess? session_id = some sess) (pending : sess.death_timer = true) :
    Ends NoAssert (L2tpWorld.Keeps L2tpBook.Settled)
      (l2tpSessDestroy env w { sess with death_timer := false }) := by
  obtain ⟨kept, lingers, waits⟩ := keeps
  obtain ⟨listed, -⟩ := sess?_mem found
  have member : sess.book ∈ w.book.sessions := List.mem_map_of_mem listed
  obtain ⟨dying, closed⟩ := (kept.sessTimers sess.book member).2.mp pending
  have inactive : ¬ (sess.state ≠ .dying ∨ sess.close_timer = true) := by
    intro active
    cases active with
    | inl alive => exact alive dying
    | inr close => exact nomatch close.symm.trans closed
  have destroyed := kept_sessDestroy env kept listed
  unfold l2tpSessDestroy at destroyed ⊢
  rw [if_neg inactive] at destroyed ⊢
  refine ⟨destroyed.1, fun isDying => ?_, waits⟩
  obtain close | death | allDie := lingers isDying
  · exact Or.inl close
  · exact Or.inr (Or.inl death)
  · refine Or.inr (Or.inr fun other remains => allDie other ?_)
    have remaining := book_sessDestroy_sessions env (v := w) sess.session_id
    exact List.mem_of_mem_filter (remaining.mem_iff.mp remains)

/-- The death timer of a connection is off when its handler is called. -/
theorem kept_deathOff (kept : w.book.Kept) {off : L2tpWorld}
    (book : off.book = { w.book with death_timer := none }) : off.book.Kept := by
  rw [book]
  exact
    { distinct := kept.distinct
      counted := kept.counted
      noUnderflow := kept.noUnderflow
      sessTimers := kept.sessTimers
      unusedTimer := fun none => nomatch none
      deathTimer := fun none => nomatch none
      closeTimer := kept.closeTimer
      early := kept.early }

theorem keeps_unusedTimeout (kept : w.book.Kept)
    (pending : w.ctrl.death_timer = some .unusedTimeout) {off : L2tpWorld}
    (book : off.book = { w.book with death_timer := none }) :
    Ends NoAssert (L2tpWorld.Keeps L2tpBook.Settled) (l2tpUnusedTimeout env off) := by
  obtain ⟨notDying, unused⟩ := kept.unusedTimer pending
  have active : off.ctrl.active_sessions = 0 :=
    (congrArg L2tpBook.active_sessions book).trans unused
  have alive : off.ctrl.state ≠ .dying := by
    rw [show off.ctrl.state = w.book.state from congrArg L2tpBook.state book]
    exact notDying
  unfold l2tpUnusedTimeout
  rw [if_neg (not_not.mpr active), if_neg alive]
  apply keeps_ctrlClose env stable_settled
  exact ⟨kept_deathOff kept book, fun dying => absurd dying alive, fun dying => absurd dying alive⟩

theorem sound_deathTimeout (kept : w.book.Kept) {off : L2tpWorld}
    (book : off.book = { w.book with death_timer := none }) :
    Ends NoAssert L2tpWorld.Sound (l2tpCtrlDeathTimeout env off) := by
  unfold l2tpCtrlDeathTimeout
  apply Ends.bind (p := L2tpWorld.Keeps fun _ => True)
  · apply keeps_callback env fun _ _ _ held => held
    exact ⟨kept_deathOff kept book, trivial⟩
  · exact fun v keepsV => sound_ctrlDestroy env keepsV.1

/-- The second walk of `ppp_l2tp_ctrl_do_close`: afterwards all sessions are dying. -/
theorem closeAll (ids : List UInt16) {w : L2tpWorld} (kept : w.book.Kept)
    (dying : w.book.state = .dying)
    (rest : ∀ sess ∈ w.book.sessions, sess.state = .dying ∨ sess.session_id ∈ ids) :
    (ids.foldl (l2tpCtrlCloseSess env) w).book.Kept ∧
      (ids.foldl (l2tpCtrlCloseSess env) w).book.active_sessions = w.book.active_sessions ∧
      ∀ sess ∈ (ids.foldl (l2tpCtrlCloseSess env) w).book.sessions, sess.state = .dying := by
  induction ids generalizing w with
  | nil => exact ⟨kept, rfl, fun sess member => (rest sess member).resolve_right nofun⟩
  | cons session_id ids ih =>
      rw [List.foldl_cons]
      have noted := book_setSess_same w session_id
        (f := fun sess => { sess with peer_notified := true }) fun _ => rfl
      obtain ⟨same, closed⟩ | ⟨live, closed⟩ := book_sessClose env (noted.symm ▸ kept) session_id
        l2tpResultError l2tpErrorGeneric (some (ascii "control connection closing"))
      · have still : (l2tpCtrlCloseSess env w session_id).book = w.book := same.trans noted
        rw [noted] at closed
        rw [← still] at kept dying rest closed ⊢
        apply ih kept dying
        intro sess member
        obtain isDying | listed := rest sess member
        · exact Or.inl isDying
        · obtain here | later := List.mem_cons.mp listed
          · exact Or.inl (closed sess member here)
          · exact Or.inr later
      · rw [noted] at live closed
        have book : (l2tpCtrlCloseSess env w session_id).book =
            w.book.setSess session_id L2tpBook.closeSess := by
          obtain one | other := closed
          · exact one
          · refine other.trans ?_
            rw [← setSess_close, L2tpBook.close, if_pos dying]
        have moved := kept.moves (.closeSess _ session_id live)
        have state : (w.book.setSess session_id L2tpBook.closeSess).state = .dying := dying
        rw [← book] at moved state
        obtain ⟨keptRest, active, allDie⟩ := ih moved state (by
          intro sess member
          rw [book] at member
          obtain ⟨before, was, rfl⟩ := List.mem_map.mp member
          by_cases here : before.session_id = session_id
          · rw [if_pos here]
            exact Or.inl rfl
          · rw [if_neg here]
            obtain isDying | listed := rest before was
            · exact Or.inl isDying
            · exact Or.inr ((List.mem_cons.mp listed).resolve_left here))
        refine ⟨keptRest, active.trans ?_, allDie⟩
        rw [book]
        rfl

theorem keeps_ctrlNotifySess (keeps : w.Keeps fun b => b.state = .dying) (session_id : UInt16) :
    Ends NoAssert (L2tpWorld.Keeps fun b => b.state = .dying)
      (l2tpCtrlNotifySess env w session_id) := by
  unfold l2tpCtrlNotifySess
  cases w.sess? session_id with
  | none => exact keeps
  | some sess =>
      dsimp only
      split
      · exact keeps
      · apply keeps_callback env stable_dying
        exact keeps.same (book_setSess_same w session_id fun _ => rfl)

/-- A connection that closes starts to die or has only dying sessions left. -/
theorem keeps_ctrlDoClose (kept : w.book.Kept) (dying : w.book.state = .dying) :
    Ends NoAssert (L2tpWorld.Keeps L2tpBook.Settled) (l2tpCtrlDoClose env w) := by
  unfold l2tpCtrlDoClose
  dsimp only
  have off : (w.setCtrl fun ctrl => { ctrl with close_timer := false }).Keeps
      fun b => b.state = .dying := by
    refine ⟨?_, dying⟩
    exact
      { distinct := kept.distinct
        counted := kept.counted
        noUnderflow := kept.noUnderflow
        sessTimers := kept.sessTimers
        unusedTimer := kept.unusedTimer
        deathTimer := kept.deathTimer
        closeTimer := fun none => nomatch none
        early := kept.early }
  generalize (w.setCtrl fun ctrl => { ctrl with close_timer := false }) = v at off ⊢
  have finish : ∀ u : L2tpWorld, (u.Keeps fun b => b.state = .dying) →
      Ends NoAssert (L2tpWorld.Keeps L2tpBook.Settled)
        (if u.ctrl.active_sessions = 0 then l2tpCtrlDeathStart u
          else pure (u.walk.foldl (l2tpCtrlCloseSess env) u)) := by
    intro u ⟨keptU, dyingU⟩
    by_cases last : u.ctrl.active_sessions = 0
    · rw [if_pos last]
      exact keeps_deathStart keptU dyingU last
    · rw [if_neg last]
      obtain ⟨keptAll, active, allDie⟩ := closeAll env u.walk keptU dyingU (by
        intro sess member
        obtain ⟨listed, was, rfl⟩ := List.mem_map.mp member
        exact Or.inr (List.mem_map_of_mem was))
      refine ⟨keptAll, fun _ => Or.inr (Or.inr allDie), fun _ => Or.inr (Or.inr ?_)⟩
      rw [active]
      exact last
  apply Ends.bind (p := L2tpWorld.Keeps fun b => b.state = .dying)
  · apply Ends.foldlM _ off
    exact fun session_id _ u keepsU => keeps_ctrlNotifySess env keepsU session_id
  · intro u keepsU
    split
    · exact finish u keepsU
    · have notified : (u.setCtrl fun ctrl => { ctrl with link_notified := true }).Keeps
          fun b => b.state = .dying := keepsU.same rfl
      apply Ends.bind (keeps_callback env stable_dying notified _)
      exact finish

theorem keeps_sessExpire (keeps : w.Keeps L2tpBook.Settled) (session_id : UInt16)
    {pending : L2tpSess → Bool} {expire : L2tpSess → Except L2tpFault L2tpWorld}
    (expires : ∀ sess, w.sess? session_id = some sess → pending sess = true →
      Ends NoAssert (L2tpWorld.Keeps L2tpBook.Settled) (expire sess)) :
    Ends NoAssert (L2tpWorld.Keeps L2tpBook.Settled)
      (l2tpSessExpire w session_id pending expire) := by
  unfold l2tpSessExpire
  cases found : w.sess? session_id with
  | none => exact keeps
  | some sess =>
      dsimp only
      split
      · exact expires sess found ‹_›
      · exact keeps

theorem keeps_idleTimeout (keeps : w.Keeps L2tpBook.Settled) :
    (l2tpIdleTimeout env w).Keeps L2tpBook.Settled := by
  have on : (w.setCtrl fun ctrl => { ctrl with idle_timer := true }).Keeps L2tpBook.Settled :=
    keeps.same rfl
  exact keeps_ctrlSend env stable_settled on ..

theorem keeps_replyTimeout (keeps : w.Keeps L2tpBook.Settled) :
    (l2tpReplyTimeout env w).Keeps L2tpBook.Settled :=
  keeps_ctrlClose env stable_settled keeps _ _ _

theorem sound_step (sound : w.Sound) (event : L2tpEvent) :
    Ends NoAssert L2tpWorld.Sound (l2tpStep env w event) := by
  unfold l2tpStep
  by_cases gone : w.gone = true
  · rw [if_pos gone]
    exact sound
  rw [if_neg gone]
  have keeps := sound.2.resolve_left gone
  cases event with
  | call call => exact (keeps_call env stable_settled call keeps).mono fun _ => Sound.of_keeps
  | received packet =>
      exact (keeps_dataEvent env stable_settled keeps packet).mono fun _ => Sound.of_keeps
  | nodeMessage msg =>
      apply Sound.of_keeps
      cases msg with
      | unreadable => exact keeps_ctrlClose env stable_settled keeps _ _ _
      | ackFailure => exact keeps_ctrlClose env stable_settled keeps _ _ _
      | other => exact keeps
  | tieLost =>
      apply Sound.of_keeps
      split
      · exact keeps_ctrlClose env stable_settled keeps _ _ _
      · exact keeps
  | destroy => exact sound_ctrlDestroy env keeps.1
  | idleTimer =>
      apply Sound.of_keeps
      split
      · exact keeps_idleTimeout env keeps
      · exact keeps
  | replyTimer =>
      apply Sound.of_keeps
      split
      · have off : (w.setCtrl fun ctrl => { ctrl with reply_timer := false }).Keeps
            L2tpBook.Settled := keeps.same rfl
        exact keeps_replyTimeout env off
      · exact keeps
  | closeTimer =>
      dsimp only
      split
      · rename_i pending
        have dying := keeps.1.closeTimer pending
        exact (keeps_ctrlDoClose env keeps.1 dying).mono fun _ => Sound.of_keeps
      · exact sound
  | deathTimer =>
      dsimp only
      split
      · exact sound
      · rename_i pending
        exact (keeps_unusedTimeout env keeps.1 pending rfl).mono fun _ => Sound.of_keeps
      · exact sound_deathTimeout env keeps.1 rfl
  | sessReplyTimer session_id =>
      refine (keeps_sessExpire keeps session_id fun sess _ _ => ?_).mono fun _ => Sound.of_keeps
      have off := book_setSess_same w session_id
        (f := fun sess => { sess with reply_timer := false }) fun _ => rfl
      exact keeps_replyTimeout env (keeps.same off)
  | sessNotifyTimer session_id =>
      refine (keeps_sessExpire keeps session_id fun sess _ _ => ?_).mono fun _ => Sound.of_keeps
      have off := book_setSess_same w sess.session_id
        (f := fun sess => { sess with notify_timer := false }) fun _ => rfl
      exact keeps_callback env stable_settled (keeps.same off) _
  | sessCloseTimer session_id =>
      exact (keeps_sessExpire keeps session_id fun sess found pending =>
        keeps_sessDoClose env keeps found pending).mono fun _ => Sound.of_keeps
  | sessDeathTimer session_id =>
      exact (keeps_sessExpire keeps session_id fun sess found pending =>
        keeps_sessDeath env keeps found pending).mono fun _ => Sound.of_keeps

theorem sound_start (setup : L2tpSetup) : (l2tpStart env setup).Sound := by
  apply Sound.of_keeps
  have new : (l2tpCtrlCreate setup.avps setup.secret setup.hide_avps setup.tunnel_id
      setup.chal setup.hostname).book = ⟨.idle, [], false, none, 0, false⟩ := rfl
  have created : (l2tpCtrlCreate setup.avps setup.secret setup.hide_avps setup.tunnel_id
      setup.chal setup.hostname).Keeps L2tpBook.Settled := by
    unfold L2tpWorld.Keeps
    rw [new]
    have settled : L2tpBook.Settled ⟨.idle, [], false, none, 0, false⟩ := by
      constructor
      · exact fun dying => nomatch dying
      · exact fun dying => nomatch dying
    refine ⟨?_, settled⟩
    exact
      { distinct := List.nodup_nil
        counted := rfl
        noUnderflow := rfl
        sessTimers := nofun
        unusedTimer := fun none => nomatch none
        deathTimer := fun none => nomatch none
        closeTimer := fun none => nomatch none
        early := fun _ _ => rfl }
  unfold l2tpStart
  dsimp only
  generalize l2tpCtrlCreate setup.avps setup.secret setup.hide_avps setup.tunnel_id
    setup.chal setup.hostname = w at new created ⊢
  have idle : w.book.state = .idle := congrArg L2tpBook.state new
  split
  · unfold l2tpCtrlInitiate
    have waits := @keeps_proceed _ stable_settled w created (by rw [idle]; decide)
      (by rw [idle]; decide) .waitCtlReply (by decide)
    exact L2tpWorld.Keeps.same (keeps_ctrlSend env stable_settled waits ..) rfl
  · exact created

theorem sound_run (setup : L2tpSetup) (events : List L2tpEvent) :
    Ends NoAssert L2tpWorld.Sound (l2tpRun env setup events) := by
  unfold l2tpRun
  generalize started : (Except.ok (l2tpStart env setup) : Except L2tpFault L2tpWorld) = start
  have sound : Ends NoAssert L2tpWorld.Sound start := started ▸ sound_start env setup
  clear started
  induction events generalizing start with
  | nil => exact sound
  | cons event events ih =>
      rw [Transition.run_cons]
      exact ih _ (Ends.bind sound fun v soundV => sound_step env soundV event)

end Timers

/-- The number of sessions that `ppp_l2tp_sess_do_close` has not run for. -/
def L2tpWorld.openSessions (w : L2tpWorld) : Nat :=
  w.ctrl.sessions.countP fun sess => ¬(sess.state = .dying ∧ sess.close_timer = false)

/-- A dying connection that is not gone waits for its close timer, for its death timer, or for
the close timer of a session. -/
def L2tpWorld.AwaitsEnd (w : L2tpWorld) : Prop :=
  w.ctrl.state = .dying → w.ctrl.close_timer = true ∨ w.ctrl.death_timer = some .deathTimeout ∨
    ∃ sess ∈ w.ctrl.sessions, sess.state = .dying ∧ sess.close_timer = true

theorem openSessions_eq (w : L2tpWorld) :
    w.openSessions = w.book.sessions.countP (·.active) := by
  rw [L2tpWorld.openSessions, L2tpWorld.book, List.countP_map]
  apply List.countP_congr
  intro sess _
  simp only [decide_eq_true_eq, Function.comp_apply, active_iff]
  cases sess.close_timer <;> simp

theorem awaitsEnd_of_keeps {w : L2tpWorld} (keeps : w.Keeps L2tpBook.Settled) : w.AwaitsEnd := by
  obtain ⟨kept, lingers, waits⟩ := keeps
  intro dying
  obtain close | death | active := waits dying
  · exact Or.inl close
  · exact Or.inr (Or.inl death)
  obtain close | death | allDie := lingers dying
  · exact Or.inl close
  · exact Or.inr (Or.inl death)
  refine Or.inr (Or.inr ?_)
  have some : 0 < w.book.sessions.countP (·.active) := by
    rw [← kept.counted]
    exact Nat.pos_of_ne_zero fun zero => active (UInt32.toNat_inj.mp zero)
  obtain ⟨book, member, isActive⟩ := List.countP_pos_iff.mp some
  obtain ⟨sess, listed, rfl⟩ := List.mem_map.mp member
  exact ⟨sess, listed, allDie _ member, (active_iff.mp isActive).resolve_left
    (not_not.mpr (allDie _ member))⟩

/-- In every run `active_sessions` is the number of sessions that `do_close` has not run for and
never goes below zero, no `assert` fails, and a dying connection waits for a timer that takes it
further or is gone. -/
theorem bookkeeping_run (env : L2tpEnv) (setup : L2tpSetup) (events : List L2tpEvent) :
    match l2tpRun env setup events with
    | .error fault => fault ≠ .assertion
    | .ok w =>
        w.underflow = false ∧
          (w.gone = true ∨
            w.ctrl.active_sessions.toNat = w.openSessions ∧ w.AwaitsEnd) := by
  have sound := sound_run env setup events
  cases ran : l2tpRun env setup events with
  | error fault => exact sound.fault ran
  | ok w =>
      obtain ⟨noUnderflow, gone | keeps⟩ := sound.value ran
      · exact ⟨noUnderflow, Or.inl gone⟩
      · refine ⟨noUnderflow, Or.inr ⟨?_, awaitsEnd_of_keeps keeps⟩⟩
        rw [openSessions_eq]
        exact keeps.1.counted

/-- A connection that is shut down while it has a session waits neither for its close timer nor
for its death timer once its close timer has expired. -/
theorem not_close_or_death_timer :
    ¬ ∀ (env : L2tpEnv) (setup : L2tpSetup) (events : List L2tpEvent) (w : L2tpWorld),
      l2tpRun env setup events = .ok w → w.gone = false → w.ctrl.state = .dying →
        w.ctrl.close_timer = true ∨ w.ctrl.death_timer = some .deathTimeout := by
  intro always
  have ran := l2tpRun_sccrp
    [.call (.initiate false false false []), .call (.shutdown 6 0 none), .closeTimer]
  have shut : (Transition.run (fun r event => r.bind fun w => l2tpStep l2tpCalmEnv w event)
      (l2tpEstablished l2tpCalmEnv)
      [.call (.initiate false false false []), .call (.shutdown 6 0 none), .closeTimer]).map
      (fun w => (w.gone, w.ctrl.state, w.ctrl.close_timer, w.ctrl.death_timer)) =
      .ok (false, .dying, false, none) := by rfl
  rw [← ran] at shut
  cases reached : l2tpRun l2tpCalmEnv { initiates := true }
      [.received (some (l2tpPlainMsg 0 l2tpSccrpAvps)), .call (.initiate false false false []),
        .call (.shutdown 6 0 none), .closeTimer] with
  | error fault => rw [reached] at shut; cases shut
  | ok w =>
      rw [reached] at shut
      have fields := Except.ok.inj shut
      simp only [Prod.mk.injEq] at fields
      obtain ⟨here, dying, close, death⟩ := fields
      obtain pending | pending := always _ _ _ w reached here dying
      · cases close.symm.trans pending
      · cases death.symm.trans pending

end Mpd
