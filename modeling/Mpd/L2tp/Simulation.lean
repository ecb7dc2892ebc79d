import Mpd.L2tp.Bookkeeping

/-! Calls, callbacks and message handlers make moves of the bookkeeping. -/

set_option autoImplicit false

namespace Mpd

open Outcome L2tpBook

def NoAssert (fault : L2tpFault) : Prop := fault ≠ .assertion

def L2tpWorld.Keeps (also : L2tpBook → Prop) (w : L2tpWorld) : Prop := w.book.Kept ∧ also w.book

namespace L2tpWorld

variable {also : L2tpBook → Prop} {w after : L2tpWorld}

theorem Keeps.same (keeps : w.Keeps also) (same : after.book = w.book) : after.Keeps also := by
  unfold L2tpWorld.Keeps
  rw [same]
  exact keeps

theorem Keeps.moves (keeps : w.Keeps also) (stable : Stable also)
    (moves : BookMoves w.book after.book) : after.Keeps also :=
  ⟨keeps.1.moves moves, stable _ _ moves keeps.2⟩

@[simp] theorem book_act (w : L2tpWorld) (a : L2tpAct) : (w.act a).book = w.book := rfl

@[simp] theorem book_ask (env : L2tpEnv) (w : L2tpWorld) : (w.ask env).2.book = w.book := rfl

theorem book_setSess (w : L2tpWorld) (session_id : UInt16) {f : L2tpSess → L2tpSess}
    {g : L2tpSessBook → L2tpSessBook} (same : ∀ sess, (f sess).book = g sess.book) :
    (w.setSess session_id f).book = w.book.setSess session_id g := by
  have sessions : (w.ctrl.sessions.map fun sess =>
      if sess.session_id = session_id then f sess else sess).map L2tpSess.book =
      (w.ctrl.sessions.map L2tpSess.book).map fun sess =>
        if sess.session_id = session_id then g sess else sess := by
    rw [List.map_map, List.map_map]
    apply List.map_congr_left
    intro sess _
    change L2tpSess.book (if sess.session_id = session_id then f sess else sess) =
      if sess.session_id = session_id then g sess.book else sess.book
    split
    · exact same sess
    · rfl
  simp only [book, setSess, setCtrl, L2tpBook.setSess, sessions]

theorem book_setSess_same (w : L2tpWorld) (session_id : UInt16) {f : L2tpSess → L2tpSess}
    (same : ∀ sess, (f sess).book = sess.book) : (w.setSess session_id f).book = w.book := by
  rw [book_setSess w session_id (g := id) same]
  simp [L2tpBook.setSess]

theorem sess?_mem {session_id : UInt16} {sess : L2tpSess} (found : w.sess? session_id = some sess) :
    sess ∈ w.ctrl.sessions ∧ sess.session_id = session_id :=
  ⟨List.mem_of_find?_eq_some found, by simpa using List.find?_some found⟩

/-- A session is the only one with its id. -/
theorem book_of_mem (kept : w.book.Kept) {sess : L2tpSess} (listed : sess ∈ w.ctrl.sessions)
    {other : L2tpSessBook} (member : other ∈ w.book.sessions)
    (same : other.session_id = sess.session_id) : other = sess.book := by
  have book : sess.book ∈ w.book.sessions := List.mem_map_of_mem listed
  exact List.inj_on_of_nodup_map kept.distinct member book same

theorem live_of_mem (kept : w.book.Kept) {sess : L2tpSess} (listed : sess ∈ w.ctrl.sessions)
    (alive : sess.state ≠ .dying) : w.book.Live sess.session_id := by
  intro other member same
  rw [book_of_mem kept listed member same]
  exact alive

theorem live_of_sess? (kept : w.book.Kept) {session_id : UInt16} {sess : L2tpSess}
    (found : w.sess? session_id = some sess) (alive : sess.state ≠ .dying) :
    w.book.Live session_id := by
  obtain ⟨listed, its⟩ := sess?_mem found
  exact its ▸ live_of_mem kept listed alive

theorem fresh_of_sess? {session_id : UInt16} (missing : w.sess? session_id = none) :
    ∀ sess ∈ w.book.sessions, sess.session_id ≠ session_id := by
  intro sess member
  obtain ⟨listed, was, rfl⟩ := List.mem_map.mp member
  have other := List.find?_eq_none.mp missing listed was
  simpa [L2tpSess.book] using other

end L2tpWorld

open L2tpWorld

section BookMoves

variable (env : L2tpEnv)

theorem book_ctrlWrite (w : L2tpWorld) (session_id : UInt16) (msgtype : L2tpMsgType)
    (avps : List Avp) : (l2tpCtrlWrite env w session_id msgtype avps).2.book = w.book := by
  unfold l2tpCtrlWrite
  dsimp only [ask]
  generalize Option.isNone _ = unpackable
  cases unpackable with
  | true => rfl
  | false => cases env.answer w.asked <;> rfl

theorem book_ctrlClose (w : L2tpWorld) (result error : UInt16) (errmsg : Option Bytes) :
    (l2tpCtrlClose env w result error errmsg).book = w.book.close := by
  unfold l2tpCtrlClose L2tpBook.close
  by_cases dying : w.ctrl.state = .dying
  · rw [if_pos dying, if_pos (show w.book.state = .dying from dying)]
  rw [if_neg dying, if_neg (show ¬ w.book.state = .dying from dying)]
  dsimp only
  split
  · rfl
  · generalize noted : ((w.setCtrl _).setCtrl _ : L2tpWorld) = asked
    have written := book_ctrlWrite env asked 0 .stopCcn
      [avpOfWord16 .assignedTunnelId asked.ctrl.tunnel_id, avpOfResult result error errmsg]
    have before : asked.book = { w.book with state := .dying } := by
      rw [← noted]
      rfl
    generalize l2tpCtrlWrite env asked 0 .stopCcn _ = sent at written ⊢
    have sessions : sent.2.ctrl.sessions.map L2tpSess.book = w.book.sessions :=
      congrArg L2tpBook.sessions (written.trans before)
    have others := written.trans before
    simp only [book, L2tpBook.mk.injEq] at others
    simp only [book, setCtrl, List.map_map, L2tpBook.mk.injEq]
    exact ⟨others.1, sessions, trivial, trivial, others.2.2.2.2.1, others.2.2.2.2.2⟩

theorem book_ctrlSend (w : L2tpWorld) (session_id : UInt16) (msgtype : L2tpMsgType)
    (avps : List Avp) :
    (l2tpCtrlSend env w session_id msgtype avps).book = w.book ∨
      (l2tpCtrlSend env w session_id msgtype avps).book = w.book.close := by
  have written := book_ctrlWrite env w session_id msgtype avps
  unfold l2tpCtrlSend
  dsimp only
  split
  · exact Or.inl written
  · rw [book_ctrlClose, written]
    exact Or.inr rfl

/-- Unless it is dying, a connection has no other handler at its death timer. -/
theorem book_startUnused {w : L2tpWorld} (kept : w.book.Kept) (notDying : w.book.state ≠ .dying) :
    (l2tpStartUnused w).book = { w.book with death_timer := some .unusedTimeout } := by
  cases timer : w.ctrl.death_timer with
  | none => simp only [l2tpStartUnused, setCtrl, book, timer, Option.getD_none]
  | some handler =>
      cases handler with
      | unusedTimeout => simp only [l2tpStartUnused, setCtrl, book, timer, Option.getD_some]
      | deathTimeout => exact absurd (kept.deathTimer timer).1 notDying

variable {also : L2tpBook → Prop} (stable : Stable also) {w : L2tpWorld}
include stable

theorem keeps_ctrlClose (keeps : w.Keeps also) (result error : UInt16) (errmsg : Option Bytes) :
    (l2tpCtrlClose env w result error errmsg).Keeps also := by
  apply keeps.moves stable
  rw [book_ctrlClose]
  exact .close _

theorem keeps_ctrlSend (keeps : w.Keeps also) (session_id : UInt16) (msgtype : L2tpMsgType)
    (avps : List Avp) : (l2tpCtrlSend env w session_id msgtype avps).Keeps also := by
  obtain same | closed := book_ctrlSend env w session_id msgtype avps
  · exact keeps.same same
  · apply keeps.moves stable
    rw [closed]
    exact .close _

omit stable in
theorem keeps_sessCheckReply (keeps : w.Keeps also) (session_id : UInt16) :
    (l2tpSessCheckReply w session_id).Keeps also :=
  keeps.same (book_setSess_same w session_id fun _ => rfl)

omit stable in
theorem setSess_close (b : L2tpBook) (session_id : UInt16) (f : L2tpSessBook → L2tpSessBook) :
    b.close.setSess session_id f = (b.setSess session_id f).close := by
  unfold L2tpBook.close
  split <;> rename_i dying <;> simp only [L2tpBook.setSess, dying, if_true, if_false]

omit stable in
theorem setSess_setSess (b : L2tpBook) (session_id : UInt16) {f g h : L2tpSessBook → L2tpSessBook}
    (ids : ∀ sess, (f sess).session_id = sess.session_id) (same : ∀ sess, g (f sess) = h sess) :
    (b.setSess session_id f).setSess session_id g = b.setSess session_id h := by
  simp only [L2tpBook.setSess, List.map_map]
  congr 1
  apply List.map_congr_left
  intro sess _
  dsimp only [Function.comp_apply]
  by_cases its : sess.session_id = session_id
  · simp [its, ids, same]
  · simp [its]

omit stable in
/-- A session that closes may close the connection, when its CDN cannot be sent. -/
theorem book_sessClose (kept : w.book.Kept) (session_id result error : UInt16)
    (errmsg : Option Bytes) :
    ((l2tpSessClose env w session_id result error errmsg).book = w.book ∧
        ∀ sess ∈ w.book.sessions, sess.session_id = session_id → sess.state = .dying) ∨
      w.book.Live session_id ∧
        ((l2tpSessClose env w session_id result error errmsg).book =
            w.book.setSess session_id closeSess ∨
          (l2tpSessClose env w session_id result error errmsg).book =
            (w.book.setSess session_id closeSess).close) := by
  unfold l2tpSessClose
  cases found : w.sess? session_id with
  | none =>
      refine Or.inl ⟨rfl, fun sess member same => ?_⟩
      exact absurd same (fresh_of_sess? found sess member)
  | some sess =>
      dsimp only
      by_cases dying : sess.state = .dying
      · rw [if_pos dying]
        refine Or.inl ⟨rfl, fun other member same => ?_⟩
        obtain ⟨listed, its⟩ := sess?_mem found
        rw [book_of_mem kept listed member (same.trans its.symm)]
        exact dying
      rw [if_neg dying]
      refine Or.inr ⟨live_of_sess? kept found dying, ?_⟩
      have last : ∀ v : L2tpWorld, (v.setSess session_id fun sess =>
          { sess with
            notify_timer := false, reply_timer := false, death_timer := false,
            close_timer := true }).book = v.book.setSess session_id fun sess =>
          { sess with death_timer := false, close_timer := true } :=
        fun v => book_setSess v session_id fun _ => rfl
      have first : (w.setSess session_id fun sess =>
          { sess with state := .dying, result := result, error := error, errmsg := errmsg }).book =
          w.book.setSess session_id fun sess => { sess with state := .dying } :=
        book_setSess w session_id fun _ => rfl
      have both : (w.book.setSess session_id fun sess => { sess with state := .dying }).setSess
          session_id (fun sess => { sess with death_timer := false, close_timer := true }) =
          w.book.setSess session_id closeSess :=
        setSess_setSess w.book session_id (fun _ => rfl) fun _ => rfl
      split
      · left
        rw [last, first, both]
      · have noted : ((w.setSess session_id fun sess =>
            { sess with state := .dying, result := result, error := error,
                        errmsg := errmsg }).setSess session_id fun sess =>
            { sess with peer_notified := true }).book =
            w.book.setSess session_id fun sess => { sess with state := .dying } := by
          refine Eq.trans (book_setSess_same _ session_id ?_) first
          exact fun _ => rfl
        rw [last]
        obtain same | closed := book_ctrlSend env ((w.setSess session_id fun sess =>
            { sess with state := .dying, result := result, error := error,
                        errmsg := errmsg }).setSess session_id fun sess =>
            { sess with peer_notified := true }) sess.peer_id .cdn
          [avpOfWord16 .assignedSessionId session_id, avpOfResult result error errmsg]
        · left
          rw [same, noted, both]
        · right
          rw [closed, noted, setSess_close, both]

theorem keeps_sessClose (keeps : w.Keeps also) (session_id result error : UInt16)
    (errmsg : Option Bytes) :
    (l2tpSessClose env w session_id result error errmsg).Keeps also := by
  obtain ⟨same, -⟩ | ⟨live, closed | closed⟩ :=
    book_sessClose env keeps.1 session_id result error errmsg
  · exact keeps.same same
  · apply keeps.moves stable
    rw [closed]
    exact .closeSess _ session_id live
  · have one : BookMoves w.book (w.book.setSess session_id closeSess) := .closeSess _ session_id live
    have two := BookMoves.close (w.book.setSess session_id closeSess)
    unfold L2tpWorld.Keeps
    rw [closed]
    exact ⟨(keeps.1.moves one).moves two, stable _ _ two (stable _ _ one keeps.2)⟩

omit stable in
theorem book_sessHook (w : L2tpWorld) (sess : L2tpSess) :
    (l2tpSessHook env w sess).2.book = w.book := by
  unfold l2tpSessHook
  dsimp only [ask]
  cases env.answer w.asked with
  | false => rfl
  | true => cases env.answer (w.asked + 1) <;> rfl

theorem keeps_sessSetup (keeps : w.Keeps also) {session_id : UInt16}
    (live : w.book.Live session_id) : (l2tpSessSetup env w session_id).2.Keeps also := by
  unfold l2tpSessSetup
  cases found : w.sess? session_id with
  | none => exact keeps
  | some sess =>
      dsimp only
      generalize started : (if sess.side = .sideLns ∨ sess.orig = .origLocal then
        w.setSess session_id fun sess => { sess with notify_timer := true } else w) = v
      have same : v.book = w.book := by
        rw [← started]
        split
        · exact book_setSess_same w session_id fun _ => rfl
        · rfl
      have hooked := book_sessHook env v sess
      generalize l2tpSessHook env v sess = hook at hooked ⊢
      split
      · apply keeps.moves stable
        rw [book_setSess hook.2 session_id (g := fun sess => { sess with state := .established })
          fun _ => rfl, hooked, same]
        exact .proceedSess _ session_id _ live (by decide)
      · apply keeps.same
        refine Eq.trans (book_setSess_same hook.2 session_id ?_) (hooked.trans same)
        exact fun _ => rfl

theorem keeps_sessCheckLiic (keeps : w.Keeps also) {session_id : UInt16}
    (live : w.book.Live session_id) : (l2tpSessCheckLiic env w session_id).2.Keeps also := by
  unfold l2tpSessCheckLiic
  cases w.sess? session_id with
  | none => exact keeps
  | some sess =>
      dsimp only
      split
      · exact keeps
      · have set := keeps_sessSetup env stable keeps live
        split
        · exact keeps_ctrlSend env stable set ..
        · exact set

theorem keeps_connected (keeps : w.Keeps also) (session_id : UInt16) (avps : List Avp) :
    (l2tpConnected env w session_id avps).Keeps also := by
  unfold l2tpConnected
  cases found : w.sess? session_id with
  | none => exact keeps
  | some sess =>
      dsimp only
      by_cases established : w.ctrl.state ≠ .established
      · rw [if_pos established]
        exact keeps
      rw [if_neg established]
      by_cases inappropriate : sess.side ≠ .sideLac ∨
          ¬((sess.orig = .origRemote ∧ sess.state = .waitAnswer) ∨
            (sess.orig = .origLocal ∧ sess.state = .waitReply))
      · rw [if_pos inappropriate]
        exact keeps
      rw [if_neg inappropriate]
      have alive : sess.state ≠ .dying := by
        intro dying
        simp [dying] at inappropriate
      have live := live_of_sess? keeps.1 found alive
      generalize avpListDefault _ _ _ = my_avps
      have noted := book_setSess_same w session_id
        (f := fun sess => { sess with my_avps := my_avps }) fun _ => rfl
      generalize (w.setSess session_id fun sess => { sess with my_avps := my_avps }) = v at noted ⊢
      have keepsV : v.Keeps also := keeps.same noted
      have liveV : v.book.Live session_id := noted ▸ live
      by_cases here : sess.orig = .origLocal
      · have responded := book_setSess_same v session_id
          (f := fun sess => { sess with link_responded := true }) fun _ => rfl
        have checked := keeps_sessCheckLiic env stable (keepsV.same responded)
          (responded ▸ liveV)
        simp only [if_pos here]
        split
        · exact checked
        · exact keeps_sessClose env stable checked ..
      · have setup := keeps_sessSetup env stable keepsV liveV
        simp only [if_neg here]
        generalize l2tpSessSetup env v session_id = set at setup ⊢
        cases set.1 with
        | true => exact keeps_ctrlSend env stable setup ..
        | false => exact keeps_sessClose env stable setup ..

theorem keeps_sessTerminate (keeps : w.Keeps also) (session_id result error : UInt16)
    (errmsg : Option Bytes) : (l2tpTerminate env w session_id result error errmsg).Keeps also := by
  have noted := book_setSess_same w session_id
    (f := fun sess => { sess with link_notified := true }) fun _ => rfl
  unfold l2tpTerminate
  split
  · exact keeps.same noted
  split
  · exact keeps
  · exact keeps_sessClose env stable (keeps.same noted) ..

theorem keeps_setLinkInfo (keeps : w.Keeps also) (session_id : UInt16) (xmit recv : UInt32) :
    (l2tpSetLinkInfo env w session_id xmit recv).Keeps also := by
  unfold l2tpSetLinkInfo
  split
  · exact keeps
  split
  · exact keeps
  · exact keeps_ctrlSend env stable keeps ..

omit stable in
theorem book_sessDestroy_sessions {v : L2tpWorld} (session_id : UInt16) :
    (env.order (v.ctrl.sessions.filter (·.session_id ≠ session_id))).map L2tpSess.book |>.Perm
      (v.book.sessions.filter (·.session_id ≠ session_id)) := by
  refine ((env.order_perm _).map _).trans (List.Perm.of_eq ?_)
  rw [book, List.filter_map]
  rfl

/-- A session that could not be put into the table leaves the connection as it was, but for the
start of the unused timer. -/
theorem keeps_sessCreate_failed (keeps : w.Keeps also) (established : w.book.state = .established)
    {sess : L2tpSess} (alive : sess.state ≠ .dying)
    (fresh : ∀ other ∈ w.book.sessions, other.session_id ≠ sess.session_id) {v : L2tpWorld}
    (counted : v.book =
      { w.book with death_timer := none, active_sessions := w.book.active_sessions + 1 }) :
    Ends NoAssert (L2tpWorld.Keeps also) (l2tpSessDestroy env v sess) := by
  have few := keeps.1.few
  have atMost : w.book.sessions.countP (·.active) ≤ w.book.sessions.length := List.countP_le_length
  have counts : w.ctrl.active_sessions.toNat = _ := keeps.1.counted
  have positive : (w.ctrl.active_sessions + 1 == 0) = false := by
    apply beq_false_of_ne
    intro zero
    have total := congrArg UInt32.toNat zero
    rw [UInt32.toNat_add, Nat.mod_eq_of_lt] at total
    · exact nomatch total
    · change w.ctrl.active_sessions.toNat + 1 < 2 ^ 32
      omega
  have decremented : v.decActive.book = { w.book with death_timer := none } := by
    have active : v.ctrl.active_sessions = w.ctrl.active_sessions + 1 :=
      congrArg L2tpBook.active_sessions counted
    have underflow : v.underflow = w.underflow := congrArg L2tpBook.underflow counted
    have others := counted
    simp only [book, L2tpBook.mk.injEq] at others
    simp only [book, decActive, active, underflow, positive, Bool.or_false, L2tpBook.mk.injEq]
    exact ⟨others.1, others.2.1, others.2.2.1, others.2.2.2.1, UInt32.add_sub_cancel _ _, trivial⟩
  unfold l2tpSessDestroy
  rw [if_pos (Or.inl alive)]
  have stopped : v.decActive.Keeps also := by
    apply keeps.moves stable
    rw [decremented]
    exact .stopUnused _ established
  have still : v.decActive.book.state = .established := by
    rw [decremented]
    exact established
  have sessions : v.decActive.book.sessions = w.book.sessions := by rw [decremented]
  apply Ends.bind (p := fun u => u.Keeps also ∧ u.book.sessions = w.book.sessions)
  · unfold l2tpAfterLast
    split
    · rename_i zero
      rw [if_neg (by rw [show v.decActive.ctrl.state = .established from still]; decide)]
      refine ⟨stopped.moves stable ?_, sessions⟩
      have notDying : v.decActive.book.state ≠ .dying := by
        rw [still]
        decide
      rw [book_startUnused stopped.1 notDying]
      exact .startUnused _ notDying zero
    · exact ⟨stopped, sessions⟩
  · intro u ⟨keepsU, sessions⟩
    apply keepsU.moves stable
    refine .reorder _ _ ((book_sessDestroy_sessions env sess.session_id).trans
      (List.Perm.of_eq (List.filter_eq_self.mpr ?_)))
    intro other member
    rw [sessions] at member
    simpa using fresh other member

theorem keeps_sessCreate (keeps : w.Keeps also) (established : w.book.state = .established)
    (orig : L2tpOrig) (side : L2tpSide) (serial : UInt32) :
    Ends NoAssert (fun created : Option UInt16 × L2tpWorld => created.2.Keeps also)
      (l2tpSessCreate env w orig side serial) := by
  unfold l2tpSessCreate
  dsimp only
  by_cases taken : env.drawn w.created = 0 ∨ (w.sess? (env.drawn w.created)).isSome
  · rw [if_pos taken]
    exact nofun
  rw [if_neg taken]
  have missing : w.sess? (env.drawn w.created) = none := by
    simpa using fun found => taken (Or.inr found)
  have fresh := fresh_of_sess? missing
  have alive : (if orig = L2tpOrig.origLocal then L2tpSessState.waitReply
      else if side = .sideLns then .waitConnect else .waitAnswer) ≠ .dying := by
    split_ifs <;> decide
  obtain ⟨put, asked⟩ : ∃ put, (l2tpCountSess w).ask env =
      (put, { l2tpCountSess w with asked := (l2tpCountSess w).asked + 1 }) := ⟨_, rfl⟩
  rw [asked]
  cases put with
  | true =>
      apply keeps.moves stable
      exact .create _ _ _ _ established fresh alive ((env.order_perm _).map _)
  | false =>
      apply Ends.map (keeps_sessCreate_failed env stable keeps established alive fresh rfl)
      exact fun _ keepsU => keepsU

theorem keeps_initiate (keeps : w.Keeps also) (out include_length enable_dseq : Bool)
    (avps : List Avp) :
    Ends NoAssert (L2tpWorld.Keeps also)
      (l2tpInitiate env w out include_length enable_dseq avps) := by
  unfold l2tpInitiate
  by_cases established : w.ctrl.state ≠ .established
  · rw [if_pos established]
    exact keeps
  rw [if_neg established]
  split
  · exact keeps
  have counted : ({ w with next_serial := w.next_serial + 1 } : L2tpWorld).Keeps also :=
    keeps.same rfl
  apply Ends.bind
  · exact keeps_sessCreate env stable counted (not_not.mp established) _ _ _
  · intro ⟨created, v⟩ keepsV
    cases created with
    | none => exact keepsV
    | some session_id =>
        apply keeps_sessCheckReply
        apply keeps_ctrlSend env stable
        exact L2tpWorld.Keeps.same keepsV (book_setSess_same _ _ fun _ => rfl)

theorem keeps_call (call : L2tpCall) {w : L2tpWorld} (keeps : w.Keeps also) :
    Ends NoAssert (L2tpWorld.Keeps also) (l2tpCall env w call) := by
  cases call with
  | initiate out include_length enable_dseq avps => exact keeps_initiate env stable keeps _ _ _ _
  | connected sess avps => exact keeps_connected env stable keeps sess avps
  | terminate sess result error errmsg => exact keeps_sessTerminate env stable keeps _ _ _ _
  | setLinkInfo sess xmit recv => exact keeps_setLinkInfo env stable keeps sess xmit recv
  | shutdown result error errmsg => exact keeps_ctrlClose env stable keeps result error errmsg

theorem keeps_callback (keeps : w.Keeps also) (call : L2tpCallback) :
    Ends NoAssert (L2tpWorld.Keeps also) (l2tpCallback env w call) := by
  apply Ends.foldlM
  · exact fun call _ v keepsV => keeps_call env stable call keepsV
  · exact keeps.same rfl

end BookMoves

end Mpd
