import Mathlib.Data.List.Nodup
import Mpd.L2tp.Plain
import Mpd.L2tp.Quiet

/-! The reply timer of a session: it is pending only while the session waits for the peer, in
every run in which the link side does not connect a session of its own that the peer has
already answered. -/

set_option autoImplicit false

namespace Mpd

open Outcome

/-- The session waits for the peer, and not both sides have answered. -/
def L2tpSess.Waiting (sess : L2tpSess) : Prop :=
  (sess.state = .waitReply ∨ sess.state = .waitConnect ∨ sess.state = .waitAnswer) ∧
    ¬(sess.link_responded = true ∧ sess.peer_responded = true)

/-- What holds of every session. Of one whose id is `strict` the set-up has not failed. -/
structure L2tpSess.Timely (strict : UInt16 → Prop) (sess : L2tpSess) : Prop where
  timer : sess.reply_timer = true → sess.state = .waitReply ∨ sess.state = .waitConnect
  lac : sess.link_responded = true ∨ sess.peer_responded = true → sess.side = .sideLac
  connect : sess.state = .waitConnect → sess.side = .sideLns
  both : sess.state = .waitReply → sess.link_responded = true → sess.peer_responded = true →
    sess.reply_timer = false ∧ ¬strict sess.session_id

structure L2tpWorld.Timed (strict : UInt16 → Prop) (w : L2tpWorld) : Prop where
  distinct : (w.ctrl.sessions.map (·.session_id)).Nodup
  each : ∀ sess ∈ w.ctrl.sessions, sess.Timely strict

def L2tpWorld.Off (w : L2tpWorld) (session_id : UInt16) : Prop :=
  ∀ sess ∈ w.ctrl.sessions, sess.session_id = session_id → sess.reply_timer = false

theorem L2tpSess.Timely.waiting {strict : UInt16 → Prop} {sess : L2tpSess}
    (timely : sess.Timely strict) (pending : sess.reply_timer = true) : sess.Waiting := by
  refine ⟨(timely.timer pending).imp id .inl, fun ⟨link, peer⟩ => ?_⟩
  rcases timely.timer pending with reply | connect
  · simp [(timely.both reply link peer).1] at pending
  · have lns := timely.connect connect
    rw [timely.lac (.inl link)] at lns
    cases lns

theorem L2tpSess.Timely.mono {strict weaker : UInt16 → Prop} {sess : L2tpSess}
    (timely : sess.Timely strict)
    (implies : weaker sess.session_id → strict sess.session_id) : sess.Timely weaker :=
  { timely with
    both := fun reply link peer =>
      ⟨(timely.both reply link peer).1, fun weak => (timely.both reply link peer).2 (implies weak)⟩ }

namespace L2tpWorld.Timed

variable {strict weaker : UInt16 → Prop} {w v : L2tpWorld}

theorem mono (timed : w.Timed strict) (implies : ∀ id, weaker id → strict id) : w.Timed weaker :=
  ⟨timed.distinct, fun sess member => (timed.each sess member).mono (implies _)⟩

theorem same (timed : w.Timed strict) (sessions : v.ctrl.sessions = w.ctrl.sessions) :
    v.Timed strict := by
  constructor
  · rw [sessions]
    exact timed.distinct
  · rw [sessions]
    exact timed.each

/-- A change of every session that keeps its id. -/
theorem map (timed : w.Timed strict) {f : L2tpSess → L2tpSess}
    (sessions : v.ctrl.sessions = w.ctrl.sessions.map f)
    (ids : ∀ sess, (f sess).session_id = sess.session_id)
    (kept : ∀ sess ∈ w.ctrl.sessions, sess.Timely strict → (f sess).Timely weaker) :
    v.Timed weaker := by
  constructor
  · rw [sessions, List.map_map]
    simpa only [Function.comp_def, ids] using timed.distinct
  · intro sess member
    rw [sessions] at member
    obtain ⟨before, listed, rfl⟩ := List.mem_map.mp member
    exact kept before listed (timed.each before listed)

theorem setSess (timed : w.Timed strict) (session_id : UInt16) {f : L2tpSess → L2tpSess}
    (ids : ∀ sess, (f sess).session_id = sess.session_id)
    (kept : ∀ sess ∈ w.ctrl.sessions, sess.session_id = session_id → sess.Timely strict →
      (f sess).Timely strict) : (w.setSess session_id f).Timed strict := by
  refine timed.map rfl (fun sess => ?_) fun sess member timely => ?_
  · split
    · exact ids sess
    · rfl
  · split
    · exact kept sess member ‹_› timely
    · exact timely

/-- A change of one session that no rule looks at. -/
theorem touch (timed : w.Timed strict) (session_id : UInt16) {f : L2tpSess → L2tpSess}
    (same : ∀ sess, (f sess).session_id = sess.session_id ∧ (f sess).state = sess.state ∧
      (f sess).side = sess.side ∧ (f sess).reply_timer = sess.reply_timer ∧
      (f sess).link_responded = sess.link_responded ∧
      (f sess).peer_responded = sess.peer_responded) : (w.setSess session_id f).Timed strict := by
  refine timed.setSess session_id (fun sess => (same sess).1) fun sess _ _ timely => ?_
  obtain ⟨ids, state, side, timer, link, peer⟩ := same sess
  constructor
  · rw [timer, state]
    exact timely.timer
  · rw [link, peer, side]
    exact timely.lac
  · rw [state, side]
    exact timely.connect
  · rw [state, link, peer, timer, ids]
    exact timely.both

theorem found (timed : w.Timed strict) {session_id : UInt16} {sess other : L2tpSess}
    (here : w.sess? session_id = some sess) (member : other ∈ w.ctrl.sessions)
    (its : other.session_id = session_id) : other = sess := by
  have listed := List.mem_of_find?_eq_some here
  have same : sess.session_id = session_id := by simpa using List.find?_some here
  exact List.inj_on_of_nodup_map timed.distinct member listed (its.trans same.symm)

end L2tpWorld.Timed

theorem off_setSess {w : L2tpWorld} {session_id : UInt16} (off : w.Off session_id)
    {f : L2tpSess → L2tpSess} (timer : ∀ sess, (f sess).reply_timer = sess.reply_timer) :
    (w.setSess session_id f).Off session_id := by
  intro sess member its
  obtain ⟨before, listed, rfl⟩ := List.mem_map.mp member
  split at its
  case isTrue here =>
    rw [if_pos here, timer]
    exact off before listed here
  case isFalse away => exact absurd its away

section Calls

variable (env : L2tpEnv) {strict : UInt16 → Prop} {w : L2tpWorld} (timed : w.Timed strict)

theorem sessHook_ctrl (w : L2tpWorld) (sess : L2tpSess) :
    (l2tpSessHook env w sess).2.ctrl = w.ctrl := by
  unfold l2tpSessHook
  dsimp only [L2tpWorld.ask]
  cases env.answer w.asked with
  | false => rfl
  | true => cases env.answer (w.asked + 1) <;> rfl

include timed

theorem timed_ctrlClose (result error : UInt16) (errmsg : Option Bytes) :
    (l2tpCtrlClose env w result error errmsg).Timed strict := by
  unfold l2tpCtrlClose
  split
  · exact timed
  dsimp only
  split
  · exact timed.same rfl
  · refine timed.map (f := fun sess => { sess with peer_notified := true }) ?_ (fun _ => rfl)
      fun sess _ timely => ⟨timely.timer, timely.lac, timely.connect, timely.both⟩
    dsimp only [L2tpWorld.setCtrl]
    rw [ctrlWrite_ctrl]

theorem timed_ctrlSend (session_id : UInt16) (msgtype : L2tpMsgType) (avps : List Avp) :
    (l2tpCtrlSend env w session_id msgtype avps).Timed strict := by
  have written : (l2tpCtrlWrite env w session_id msgtype avps).2.Timed strict :=
    timed.same (by rw [ctrlWrite_ctrl])
  unfold l2tpCtrlSend
  dsimp only
  split
  · exact written
  · exact timed_ctrlClose env written ..

/-- The reply timer is set by the state alone. -/
theorem timed_sessCheckReply (session_id : UInt16)
    (fresh : ∀ sess ∈ w.ctrl.sessions, sess.session_id = session_id → sess.state = .waitReply →
      ¬(sess.link_responded = true ∧ sess.peer_responded = true)) :
    (l2tpSessCheckReply w session_id).Timed strict := by
  unfold l2tpSessCheckReply
  refine timed.setSess session_id (fun _ => rfl) fun sess member its timely => ?_
  refine ⟨fun pending => by simpa using pending, timely.lac, timely.connect, ?_⟩
  exact fun reply link peer => absurd ⟨link, peer⟩ (fresh sess member its reply)

theorem timed_afterLast : Ends AnyFault (L2tpWorld.Timed strict) (l2tpAfterLast w) := by
  unfold l2tpAfterLast l2tpCtrlDeathStart
  split
  · split
    · split
      · trivial
      · exact timed.same rfl
    · exact timed.same rfl
  · exact timed

omit timed in
/-- Sessions that differ at most in who knows of their end. -/
def Notes (w v : L2tpWorld) : Prop :=
  ∃ g : L2tpSess → L2tpSess, v.ctrl.sessions = w.ctrl.sessions.map g ∧
    ∀ sess, g sess = { sess with peer_notified := (g sess).peer_notified }

omit timed in
theorem notes_ctrlSend (w : L2tpWorld) (session_id : UInt16) (msgtype : L2tpMsgType)
    (avps : List Avp) : Notes w (l2tpCtrlSend env w session_id msgtype avps) := by
  have written := ctrlWrite_ctrl env w session_id msgtype avps
  unfold l2tpCtrlSend
  dsimp only
  split
  · exact ⟨id, by rw [written, List.map_id], fun _ => rfl⟩
  unfold l2tpCtrlClose
  split
  · exact ⟨id, by rw [written, List.map_id], fun _ => rfl⟩
  dsimp only
  split
  · exact ⟨id, by dsimp only [L2tpWorld.setCtrl]; rw [written, List.map_id], fun _ => rfl⟩
  · refine ⟨fun sess => { sess with peer_notified := true }, ?_, fun _ => rfl⟩
    dsimp only [L2tpWorld.setCtrl]
    rw [ctrlWrite_ctrl, written]

/-- A session that is closed is no longer set up. -/
theorem timed_sessClose_strict (session_id result error : UInt16) (errmsg : Option Bytes) :
    (l2tpSessClose env w session_id result error errmsg).Timed
      fun other => other = session_id ∨ strict other := by
  have widen : (∀ sess ∈ w.ctrl.sessions, sess.session_id = session_id → sess.state = .dying) →
      w.Timed fun other => other = session_id ∨ strict other := by
    intro ended
    refine ⟨timed.distinct, fun sess member => ?_⟩
    by_cases its : sess.session_id = session_id
    · obtain ⟨timer, lac, connect, -⟩ := timed.each sess member
      have dying := ended sess member its
      refine ⟨timer, lac, connect, fun reply => ?_⟩
      rw [dying] at reply
      cases reply
    · exact (timed.each sess member).mono fun or => or.resolve_left its
  unfold l2tpSessClose
  split
  case h_1 missing =>
    refine widen fun sess member its => ?_
    have none := List.find?_eq_none.mp missing sess member
    simp [its] at none
  split
  case isTrue found dying =>
    refine widen fun sess member its => ?_
    rw [timed.found found member its]
    exact dying
  -- the state goes first and the timer last, with only notes in between
  have closed : ∀ v : L2tpWorld, Notes (w.setSess session_id fun sess =>
      { sess with state := .dying, result := result, error := error, errmsg := errmsg }) v →
      (v.setSess session_id fun sess =>
        { sess with
          notify_timer := false, reply_timer := false, death_timer := false,
          close_timer := true }).Timed fun other => other = session_id ∨ strict other := by
    intro v ⟨g, sessions, notes⟩
    have ids : ∀ sess, (g sess).session_id = sess.session_id := fun sess => by rw [notes]
    refine timed.map (f := fun sess =>
      if sess.session_id = session_id then
        { g { sess with
              state := .dying, result := result, error := error, errmsg := errmsg } with
          notify_timer := false, reply_timer := false, death_timer := false,
          close_timer := true }
      else g sess) ?_ ?_ ?_
    · dsimp only [L2tpWorld.setSess, L2tpWorld.setCtrl] at sessions ⊢
      rw [sessions, List.map_map, List.map_map]
      apply List.map_congr_left
      intro sess _
      by_cases its : sess.session_id = session_id
      · simp [its, ids]
      · simp [its, ids]
    · intro sess
      dsimp only
      split <;> exact ids _
    · intro sess _ timely
      dsimp only
      split
      · rw [notes]
        exact ⟨nofun, timely.lac, nofun, nofun⟩
      case isFalse other =>
        rw [notes]
        refine ⟨timely.timer, timely.lac, timely.connect, fun reply link peer => ?_⟩
        obtain ⟨off, open'⟩ := timely.both reply link peer
        exact ⟨off, not_or.mpr ⟨other, open'⟩⟩
  apply closed
  split
  · exact ⟨id, by rw [List.map_id], fun _ => rfl⟩
  · obtain ⟨g, sessions, notes⟩ := notes_ctrlSend env ((w.setSess session_id fun sess =>
      { sess with state := .dying, result := result, error := error, errmsg := errmsg }).setSess
        session_id fun sess => { sess with peer_notified := true }) _ _ _
    refine ⟨_, sessions.trans List.map_map, fun sess => ?_⟩
    dsimp only [Function.comp_apply]
    rw [notes]
    split <;> rfl

theorem timed_sessClose (session_id result error : UInt16) (errmsg : Option Bytes) :
    (l2tpSessClose env w session_id result error errmsg).Timed strict :=
  (timed_sessClose_strict env timed session_id result error errmsg).mono fun _ => .inr

theorem timed_sessDestroy (sess : L2tpSess) :
    Ends AnyFault (L2tpWorld.Timed strict) (l2tpSessDestroy env w sess) := by
  have removed : ∀ v : L2tpWorld, v.Timed strict → (v.setCtrl fun ctrl =>
      { ctrl with
        sessions := env.order
          (ctrl.sessions.filter (·.session_id ≠ sess.session_id)) }).Timed strict := by
    intro v kept
    have order := env.order_perm (v.ctrl.sessions.filter (·.session_id ≠ sess.session_id))
    constructor
    · refine (order.map _).nodup_iff.mpr ?_
      exact kept.distinct.sublist (List.filter_sublist.map _)
    · exact fun other member => kept.each other (List.mem_filter.mp (order.mem_iff.mp member)).1
  have counted : w.decActive.Timed strict := timed.same rfl
  unfold l2tpSessDestroy
  split
  · exact Ends.bind (timed_afterLast counted) removed
  · exact removed w timed

/-- A new session, whose id was free, may be added. -/
theorem timed_sessCreate (orig : L2tpOrig) (side : L2tpSide) (serial : UInt32) :
    Ends AnyFault (fun created : Option UInt16 × L2tpWorld => created.2.Timed strict ∧
      ∀ session_id, created.1 = some session_id → ∀ sess ∈ created.2.ctrl.sessions,
        sess.session_id = session_id → sess.link_responded = false)
      (l2tpSessCreate env w orig side serial) := by
  unfold l2tpSessCreate
  dsimp only
  split
  · trivial
  case isFalse free =>
  have counted : ((l2tpCountSess w).ask env).2.Timed strict := timed.same rfl
  have unseen : ∀ sess ∈ w.ctrl.sessions, sess.session_id ≠ env.drawn w.created := by
    intro sess member same
    refine free (.inr ?_)
    unfold L2tpWorld.sess?
    rw [List.find?_isSome]
    exact ⟨sess, member, by simpa using same⟩
  split
  case isTrue =>
    refine ⟨⟨?_, ?_⟩, ?_⟩
    · refine ((env.order_perm _).map _).nodup_iff.mpr ?_
      rw [List.map_cons, List.nodup_cons]
      refine ⟨fun listed => ?_, counted.distinct⟩
      obtain ⟨sess, member, same⟩ := List.mem_map.mp listed
      exact unseen sess member same
    · intro sess member
      rcases List.mem_cons.mp ((env.order_perm _).mem_iff.mp member) with rfl | old
      · refine ⟨nofun, by simp, ?_, nofun⟩
        dsimp only
        split
        · exact nofun
        · split
          · exact fun _ => ‹_›
          · exact nofun
      · exact counted.each sess old
    · intro _ chosen sess member its
      cases chosen
      rcases List.mem_cons.mp ((env.order_perm _).mem_iff.mp member) with rfl | old
      · rfl
      · exact absurd its (unseen sess old)
  case isFalse =>
    apply Ends.map (timed_sessDestroy env counted _)
    exact fun _ kept => ⟨kept, nofun⟩

theorem timed_initiate (out include_length enable_dseq : Bool) (avps : List Avp) :
    Ends AnyFault (L2tpWorld.Timed strict)
      (l2tpInitiate env w out include_length enable_dseq avps) := by
  unfold l2tpInitiate
  split
  · exact timed
  split
  · exact timed
  have numbered : L2tpWorld.Timed strict { w with next_serial := w.next_serial + 1 } :=
    timed.same rfl
  apply Ends.bind (timed_sessCreate env numbered ..)
  intro ⟨created, v⟩ ⟨kept, fresh⟩
  cases created with
  | none => exact kept
  | some session_id =>
      have stored : (v.setSess session_id fun sess =>
          { sess with
            include_length := include_length, enable_dseq := enable_dseq,
            my_avps := l2tpRequestAvps v.ctrl out sess.my_avps avps }).Timed strict :=
        kept.touch session_id fun _ => ⟨rfl, rfl, rfl, rfl, rfl, rfl⟩
      refine timed_sessCheckReply (timed_ctrlSend env stored ..) session_id ?_
      obtain ⟨g, sessions, notes⟩ := notes_ctrlSend env (v.setSess session_id fun sess =>
        { sess with
          include_length := include_length, enable_dseq := enable_dseq,
          my_avps := l2tpRequestAvps v.ctrl out sess.my_avps avps }) 0
        (if out then .ocrq else .icrq) _
      intro sess member its _ ⟨link, _⟩
      rw [sessions] at member
      obtain ⟨middle, between, rfl⟩ := List.mem_map.mp member
      obtain ⟨before, listed, rfl⟩ := List.mem_map.mp between
      rw [notes] at its link
      split at its
      case isTrue here =>
        rw [if_pos here] at link
        simp [fresh session_id rfl before listed here] at link
      case isFalse away => exact away its

/-- A session whose reply timer is off may be set up. -/
theorem timed_sessSetup {session_id : UInt16} (off : w.Off session_id) :
    (l2tpSessSetup env w session_id).2.Timed strict ∧
      ((l2tpSessSetup env w session_id).1 = true →
        ∀ sess ∈ (l2tpSessSetup env w session_id).2.ctrl.sessions,
          sess.session_id = session_id → sess.state = .established) := by
  unfold l2tpSessSetup
  split
  · exact ⟨timed, nofun⟩
  case h_2 sess _ =>
    dsimp only
    generalize started : (if sess.side = .sideLns ∨ sess.orig = .origLocal then
      w.setSess session_id fun sess => { sess with notify_timer := true } else w) = v
    have kept : v.Timed strict ∧ v.Off session_id := by
      rw [← started]
      split
      · exact ⟨timed.touch session_id fun _ => ⟨rfl, rfl, rfl, rfl, rfl, rfl⟩,
          off_setSess off fun _ => rfl⟩
      · exact ⟨timed, off⟩
    have hooked := sessHook_ctrl env v sess
    generalize l2tpSessHook env v sess = hook at hooked ⊢
    have same : hook.2.Timed strict := kept.1.same (by rw [hooked])
    have still : hook.2.Off session_id := by
      unfold L2tpWorld.Off
      rw [hooked]
      exact kept.2
    split
    · refine ⟨same.setSess session_id (fun _ => rfl) fun sess member its timely =>
        ⟨fun pending => ?_, timely.lac, nofun, nofun⟩, fun _ other member its => ?_⟩
      · dsimp only at pending
        rw [still sess member its] at pending
        cases pending
      · obtain ⟨before, _, rfl⟩ := List.mem_map.mp member
        split at its
        case isTrue here => rw [if_pos here]
        case isFalse away => exact absurd its away
    · exact ⟨same.touch session_id fun _ => ⟨rfl, rfl, rfl, rfl, rfl, rfl⟩, nofun⟩

omit timed in
theorem sessCheckLiic_unanswered {v : L2tpWorld} {session_id : UInt16}
    (unanswered : ∀ sess, v.sess? session_id = some sess → sess.peer_responded = false) :
    l2tpSessCheckLiic env v session_id = (true, v) := by
  unfold l2tpSessCheckLiic
  cases found : v.sess? session_id with
  | none => rfl
  | some sess => simp [unanswered sess found]

omit timed in
/-- The session is one of the local side that the peer has answered, and `connected` would
establish it. -/
def L2tpWorld.Answered (w : L2tpWorld) (session_id : UInt16) : Prop :=
  ∃ sess, w.sess? session_id = some sess ∧ w.ctrl.state = .established ∧
    sess.orig = .origLocal ∧ sess.side = .sideLac ∧ sess.state = .waitReply ∧
    sess.peer_responded = true

omit timed in
/-- The call does not connect a session that the peer has answered. -/
def CallTimely (w : L2tpWorld) : L2tpCall → Prop
  | .connected session_id _ => ¬w.Answered session_id
  | _ => True

theorem timed_connected {session_id : UInt16} (timely : ¬w.Answered session_id)
    (avps : List Avp) : (l2tpConnected env w session_id avps).Timed strict := by
  unfold l2tpConnected
  cases found : w.sess? session_id with
  | none => exact timed
  | some sess =>
      dsimp only
      split
      · exact timed
      case isFalse established =>
      split
      · exact timed
      case isFalse proper =>
      generalize avpListDefault (avpListDefault avps _ _) _ _ = my_avps
      obtain ⟨lac, cases⟩ : sess.side = .sideLac ∧
          ((sess.orig = .origRemote ∧ sess.state = .waitAnswer) ∨
            (sess.orig = .origLocal ∧ sess.state = .waitReply)) :=
        ⟨not_not.mp fun other => proper (.inl other), not_not.mp fun other => proper (.inr other)⟩
      have stored : (w.setSess session_id fun sess => { sess with my_avps := my_avps }).Timed
          strict := timed.touch session_id fun _ => ⟨rfl, rfl, rfl, rfl, rfl, rfl⟩
      split
      case isTrue isLocal =>
        have waits : sess.state = .waitReply := by
          rcases cases with ⟨remote, _⟩ | ⟨_, waits⟩
          · rw [isLocal] at remote
            cases remote
          · exact waits
        have unanswered : sess.peer_responded = false := by
          cases answered : sess.peer_responded with
          | false => rfl
          | true =>
              exact absurd ⟨sess, found, not_not.mp established, isLocal, lac, waits, answered⟩
                timely
        have responded : ((w.setSess session_id fun sess =>
            { sess with my_avps := my_avps }).setSess session_id fun sess =>
              { sess with link_responded := true }).Timed strict := by
          refine stored.setSess session_id (fun _ => rfl) fun other member its timely => ?_
          obtain ⟨before, listed, rfl⟩ := List.mem_map.mp member
          split at its
          case isFalse away => exact absurd its away
          case isTrue here =>
            have same := timed.found found listed here
            subst same
            rw [if_pos here] at timely ⊢
            exact ⟨timely.timer, fun _ => lac, timely.connect,
              fun _ _ peer => by simp [unanswered] at peer⟩
        have quiet : ∀ other, ((w.setSess session_id fun sess =>
            { sess with my_avps := my_avps }).setSess session_id fun sess =>
              { sess with link_responded := true }).sess? session_id = some other →
            other.peer_responded = false := by
          intro other here
          have member := List.mem_of_find?_eq_some here
          have its : other.session_id = session_id := by simpa using List.find?_some here
          obtain ⟨middle, between, rfl⟩ := List.mem_map.mp member
          obtain ⟨before, listed, rfl⟩ := List.mem_map.mp between
          by_cases named : before.session_id = session_id
          · have same := timed.found found listed named
            subst same
            simp [named, unanswered]
          · simp [named] at its
        rw [sessCheckLiic_unanswered env quiet]
        exact responded
      case isFalse isRemote =>
        have waits : sess.state = .waitAnswer := by
          rcases cases with ⟨_, waits⟩ | ⟨isLocal, _⟩
          · exact waits
          · exact absurd isLocal isRemote
        have off : w.Off session_id := by
          intro other member its
          have same := timed.found found member its
          subst same
          cases pending : other.reply_timer with
          | false => rfl
          | true => rcases (timed.each other member).timer pending with h | h <;> simp [waits] at h
        have set := (timed_sessSetup env stored (off_setSess off fun _ => rfl)).1
        generalize l2tpSessSetup env _ session_id = outcome at set ⊢
        obtain ⟨configured, v⟩ := outcome
        cases configured with
        | true => exact timed_ctrlSend env set ..
        | false => exact timed_sessClose env set ..

theorem timed_terminate (session_id result error : UInt16) (errmsg : Option Bytes) :
    (l2tpTerminate env w session_id result error errmsg).Timed strict := by
  have noted : (w.setSess session_id fun sess => { sess with link_notified := true }).Timed
      strict := timed.touch session_id fun _ => ⟨rfl, rfl, rfl, rfl, rfl, rfl⟩
  unfold l2tpTerminate
  split
  · exact noted
  split
  · exact timed
  · exact timed_sessClose env noted ..

theorem timed_call {call : L2tpCall} (timely : CallTimely w call) :
    Ends AnyFault (L2tpWorld.Timed strict) (l2tpCall env w call) := by
  cases call with
  | initiate => exact timed_initiate env timed ..
  | connected => exact timed_connected env timed timely _
  | terminate => exact timed_terminate env timed ..
  | setLinkInfo session_id xmit recv =>
      change (l2tpSetLinkInfo env w session_id xmit recv).Timed strict
      unfold l2tpSetLinkInfo
      split
      · exact timed
      split
      · exact timed
      · exact timed_ctrlSend env timed ..
  | shutdown => exact timed_ctrlClose env timed ..

omit timed in
def CallsTimely : L2tpWorld → List L2tpCall → Prop
  | _, [] => True
  | w, call :: calls => CallTimely w call ∧ ∀ v, l2tpCall env w call = .ok v → CallsTimely v calls

theorem timed_calls {calls : List L2tpCall} (timely : CallsTimely env w calls) :
    Ends AnyFault (L2tpWorld.Timed strict) (calls.foldlM (l2tpCall env) w) := by
  induction calls generalizing w with
  | nil => exact timed
  | cons call calls ih =>
      rw [List.foldlM_cons]
      have first := timed_call env timed timely.1
      cases called : l2tpCall env w call with
      | error fault => trivial
      | ok v =>
          rw [called] at first
          exact ih first (timely.2 v called)

theorem timed_ctrlCloseSess (session_id : UInt16) :
    (l2tpCtrlCloseSess env w session_id).Timed strict := by
  have noted : (w.setSess session_id fun sess => { sess with peer_notified := true }).Timed
      strict := timed.touch session_id fun _ => ⟨rfl, rfl, rfl, rfl, rfl, rfl⟩
  exact timed_sessClose env noted ..

theorem timed_ctrlDestroy : Ends AnyFault (L2tpWorld.Timed strict) (l2tpCtrlDestroy env w) := by
  unfold l2tpCtrlDestroy
  refine Ends.bind (p := L2tpWorld.Timed strict) ?_ fun v kept => show L2tpWorld.Timed strict _ from
    kept.same rfl
  exact Ends.foldlM (fun item _ v kept => timed_sessDestroy env kept item) timed

end Calls

section Callbacks

variable (env : L2tpEnv) {strict : UInt16 → Prop} {w : L2tpWorld} (timed : w.Timed strict)

/-- In its callbacks the link side makes timely calls only. -/
def L2tpEnv.Timely : Prop :=
  ∀ (w : L2tpWorld) (call : L2tpCallback),
    CallsTimely env (w.act (.callback call)) (env.callback w call)

variable (timely : env.Timely)
include timed timely

theorem timed_callback (call : L2tpCallback) :
    Ends AnyFault (L2tpWorld.Timed strict) (l2tpCallback env w call) := by
  have told : (w.act (.callback call)).Timed strict := timed.same rfl
  exact timed_calls env told (timely w call)

theorem timed_ctrlNotifySess (session_id : UInt16) :
    Ends AnyFault (L2tpWorld.Timed strict) (l2tpCtrlNotifySess env w session_id) := by
  unfold l2tpCtrlNotifySess
  split
  · exact timed
  split
  · exact timed
  · apply timed_callback env _ timely
    exact timed.touch session_id fun _ => ⟨rfl, rfl, rfl, rfl, rfl, rfl⟩

theorem timed_ctrlDoClose : Ends AnyFault (L2tpWorld.Timed strict) (l2tpCtrlDoClose env w) := by
  have last : ∀ v : L2tpWorld, v.Timed strict → Ends AnyFault (L2tpWorld.Timed strict)
      (if v.ctrl.active_sessions = 0 then l2tpCtrlDeathStart v
        else pure (v.walk.foldl (l2tpCtrlCloseSess env) v)) := by
    intro v told
    split
    · unfold l2tpCtrlDeathStart
      split
      · trivial
      · exact told.same rfl
    · refine List.foldlRecOn (motive := L2tpWorld.Timed strict) v.walk (l2tpCtrlCloseSess env) told ?_
      exact fun y closed session_id _ => timed_ctrlCloseSess env closed session_id
  unfold l2tpCtrlDoClose
  refine Ends.bind (p := L2tpWorld.Timed strict) ?_ fun v kept => ?_
  · exact Ends.foldlM (fun item _ v kept => timed_ctrlNotifySess env kept timely item)
      (timed.same rfl)
  dsimp only
  split
  · exact last v kept
  · have noted : (v.setCtrl fun ctrl => { ctrl with link_notified := true }).Timed strict :=
      kept.same rfl
    exact Ends.bind (timed_callback env noted timely _) last

theorem timed_sessDoClose (session_id : UInt16) :
    Ends AnyFault (L2tpWorld.Timed strict) (l2tpSessDoClose env w session_id) := by
  have done : (w.setSess session_id fun sess =>
      { sess with close_timer := false, death_timer := true }).Timed strict :=
    timed.touch session_id fun _ => ⟨rfl, rfl, rfl, rfl, rfl, rfl⟩
  have off := done.same (v := (w.setSess session_id fun sess =>
    { sess with close_timer := false, death_timer := true }).decActive) rfl
  unfold l2tpSessDoClose
  dsimp only
  split
  · exact timed_afterLast off
  split
  · exact timed_afterLast off
  · refine Ends.bind (timed_callback env ?_ timely _) fun _ kept => timed_afterLast kept
    exact off.touch session_id fun _ => ⟨rfl, rfl, rfl, rfl, rfl, rfl⟩

end Callbacks

section Handlers

variable (env : L2tpEnv) {strict : UInt16 → Prop} {w : L2tpWorld} (timed : w.Timed strict)
  (ptrs : AvpPtrs)
include timed

theorem timed_ctrlSetup1 :
    Ends AnyFault (fun handled : Bool × L2tpWorld => handled.2.Timed strict)
      (l2tpCtrlSetup1 env w ptrs) := by
  unfold l2tpCtrlSetup1
  apply Ends.bind (any_follow ptrs _)
  intro hostname _
  apply Ends.bind (any_follow ptrs _)
  intro _ _
  apply Ends.bind (any_follow ptrs _)
  intro tunnelid _
  apply Ends.bind (any_follow ptrs _)
  intro framingcap _
  have asked : ((w.setCtrl (l2tpLearnPeer ptrs hostname tunnelid framingcap)).ask env).2.Timed
      strict := timed.same rfl
  dsimp only
  split
  · unfold l2tpAnswerChallenge
    split
    · exact asked
    split
    · exact timed_ctrlClose env asked ..
    · apply Ends.bind (any_follow ptrs _)
      exact fun mesgtype _ => show L2tpWorld.Timed strict _ from asked.same rfl
  · exact asked

theorem timed_ctrlSetup2 :
    Ends AnyFault (fun handled : Bool × L2tpWorld => handled.2.Timed strict)
      (l2tpCtrlSetup2 env w ptrs) := by
  have asked : ((w.setCtrl fun ctrl => { ctrl with match_id := true }).ask env).2.Timed strict :=
    timed.same rfl
  unfold l2tpCtrlSetup2
  dsimp only
  split
  · exact asked
  refine Ends.bind (p := fun handled : Bool × L2tpWorld => handled.2.Timed strict) ?_ ?_
  · unfold l2tpVerifyResponse
    split
    · exact asked
    split
    · exact timed_ctrlClose env asked ..
    · apply Ends.bind (any_follow ptrs _)
      intro mesgtype _
      change Ends AnyFault _ (if _ then pure _ else pure _)
      split
      · exact asked
      · exact timed_ctrlClose env asked ..
  · intro ⟨verified, v⟩ kept
    cases verified with
    | true => exact show L2tpWorld.Timed strict _ from kept.same rfl
    | false => exact kept

theorem timed_acceptSccrq :
    Ends AnyFault (fun handled : Bool × L2tpWorld => handled.2.Timed strict)
      (l2tpAcceptSccrq env w ptrs) := by
  unfold l2tpAcceptSccrq
  apply Ends.bind (timed_ctrlSetup1 env timed ptrs)
  intro ⟨set, v⟩ kept
  cases set with
  | false => exact kept
  | true =>
      have waits : (v.setCtrl fun ctrl => { ctrl with state := .waitCtlConnect }).Timed strict :=
        kept.same rfl
      exact timed_ctrlSend env waits ..

theorem timed_handleStopCcn :
    Ends AnyFault (fun handled : Bool × L2tpWorld => handled.2.Timed strict)
      (l2tpHandleStopCcn env w ptrs) := by
  unfold l2tpHandleStopCcn
  apply Ends.bind (any_follow ptrs _)
  intro errresultcode _
  have noted : (w.setCtrl fun ctrl =>
      { ctrl with
        peer_notified := true
        sessions := ctrl.sessions.map fun sess =>
          { sess with peer_notified := true } }).Timed strict :=
    timed.map rfl (fun _ => rfl) fun sess _ timely =>
      ⟨timely.timer, timely.lac, timely.connect, timely.both⟩
  exact timed_ctrlClose env noted ..

variable (timely : env.Timely)
include timely

omit timed in
theorem timed_established (kept : w.Timed strict) :
    Ends AnyFault (fun handled : Bool × L2tpWorld => handled.2.Timed strict)
      (do pure (true, ← l2tpCallback env w .ctrlConnected)) :=
  Ends.bind (timed_callback env kept timely _) fun _ told => told

theorem timed_handleRequest (side : L2tpSide) (out : Bool) (avps : List Avp)
    {respond : L2tpWorld → L2tpSess → L2tpWorld}
    (responds : ∀ v sess, v.Timed strict → (respond v sess).Timed strict) :
    Ends AnyFault (fun handled : Bool × L2tpWorld => handled.2.Timed strict)
      (l2tpHandleRequest env w side out avps ptrs respond) := by
  unfold l2tpHandleRequest
  apply Ends.bind (any_follow ptrs _)
  intro serialnum _
  apply Ends.bind (timed_sessCreate env timed ..)
  intro ⟨created, v⟩ ⟨kept, _⟩
  cases created with
  | none => exact kept
  | some session_id =>
      apply Ends.bind (any_follow ptrs _)
      intro sessionid _
      have named : (v.setSess session_id fun sess => { sess with peer_id := sessionid }).Timed
          strict := kept.touch session_id fun _ => ⟨rfl, rfl, rfl, rfl, rfl, rfl⟩
      apply Ends.bind (timed_callback env named timely _)
      intro x told
      have fields : (x.setSess session_id fun sess =>
          { sess with include_length := (env.fields x).1,
                      enable_dseq := (env.fields x).2 }).Timed strict :=
        told.touch session_id fun _ => ⟨rfl, rfl, rfl, rfl, rfl, rfl⟩
      dsimp only
      split
      · exact fields
      · change L2tpWorld.Timed strict (if _ then _ else _)
        split
        · exact fields
        · exact responds _ _ fields

/-- The handlers of the tunnel's messages, where no session has a failed set-up. -/
theorem timed_ctrlHandler (always : ∀ session_id, strict session_id) (avps : List Avp)
    (msgtype : L2tpMsgType) :
    Ends AnyFault (fun handled : Bool × L2tpWorld => handled.2.Timed strict)
      (l2tpCtrlHandler env w avps ptrs msgtype) := by
  cases msgtype with
  | sccrq =>
      change Ends AnyFault _ (l2tpHandleSccrq env w ptrs)
      unfold l2tpHandleSccrq
      split
      · exact timed_acceptSccrq env timed ptrs
      split
      · exact timed_acceptSccrq env timed ptrs
      · have closed := timed_ctrlClose env timed l2tpResultDupCtrl 0 none
        exact show L2tpWorld.Timed strict _ from closed.same rfl
      · exact timed_ctrlClose env timed ..
      · have told : (w.act (.closeOther l2tpResultDupCtrl)).Timed strict := timed.same rfl
        exact timed_acceptSccrq env told ptrs
  | sccrp =>
      change Ends AnyFault _ (l2tpHandleSccrp env w ptrs)
      unfold l2tpHandleSccrp
      apply Ends.bind (timed_ctrlSetup1 env timed ptrs)
      intro ⟨first, v⟩ kept
      cases first with
      | false => exact kept
      | true =>
          apply Ends.bind (timed_ctrlSetup2 env kept ptrs)
          intro ⟨second, x⟩ further
          cases second with
          | false => exact further
          | true =>
              have reached : (x.setCtrl fun ctrl => { ctrl with state := .established }).Timed
                  strict := further.same rfl
              have sent := timed_ctrlSend env reached 0 .scccn
                (x.setCtrl fun ctrl => { ctrl with state := .established }).ctrl.avps
              exact timed_established env timely sent
  | scccn =>
      change Ends AnyFault _ (l2tpHandleScccn env w ptrs)
      unfold l2tpHandleScccn
      apply Ends.bind (timed_ctrlSetup2 env timed ptrs)
      intro ⟨second, x⟩ further
      cases second with
      | false => exact further
      | true =>
          have reached : (x.setCtrl fun ctrl => { ctrl with state := .established }).Timed
              strict := further.same rfl
          exact timed_established env timely reached
  | stopCcn => exact timed_handleStopCcn env timed ptrs
  | icrq =>
      change Ends AnyFault _ (l2tpHandleIcrq env w avps ptrs)
      unfold l2tpHandleIcrq
      refine timed_handleRequest env timed ptrs timely _ _ avps fun v sess kept => ?_
      refine timed_sessCheckReply (timed_ctrlSend env kept ..) _ ?_
      intro other member _ reply ⟨link, peer⟩
      have sent := timed_ctrlSend env kept sess.peer_id .icrp sess.my_avps
      exact ((sent.each other member).both reply link peer).2 (always _)
  | ocrq =>
      change Ends AnyFault _ (l2tpHandleOcrq env w avps ptrs)
      unfold l2tpHandleOcrq
      exact timed_handleRequest env timed ptrs timely _ _ avps fun v sess kept =>
        timed_ctrlSend env kept ..
  | _ => exact timed

end Handlers

end Mpd
