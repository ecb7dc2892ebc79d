import Mpd.L2tp.DataEvent
import Mpd.Outcome

/-! What the calls, the callbacks and most of the handlers leave alone: the state but for its
end, the secret, the challenge and what was sent. -/

set_option autoImplicit false

namespace Mpd

open Outcome

def AnyFault (_ : L2tpFault) : Prop := True

/-- The secret and the challenge are the same, what was sent and what is to be sent is still
there, and the state is the same or dying. -/
structure L2tpWorld.Quiet (w v : L2tpWorld) : Prop where
  state : v.ctrl.state = w.ctrl.state ∨ v.ctrl.state = .dying
  secret : v.ctrl.secret = w.ctrl.secret
  chal : v.ctrl.chal = w.ctrl.chal
  avps : ∀ avp ∈ w.ctrl.avps, avp ∈ v.ctrl.avps
  acts : ∀ act ∈ w.acts, act ∈ v.acts

namespace L2tpWorld.Quiet

theorem refl (w : L2tpWorld) : w.Quiet w :=
  ⟨.inl rfl, rfl, rfl, fun _ member => member, fun _ member => member⟩

theorem trans {u v w : L2tpWorld} (first : u.Quiet v) (second : v.Quiet w) : u.Quiet w where
  state := by
    rcases second.state with same | dying
    · rw [same]
      exact first.state
    · exact .inr dying
  secret := second.secret.trans first.secret
  chal := second.chal.trans first.chal
  avps := fun avp member => second.avps avp (first.avps avp member)
  acts := fun act member => second.acts act (first.acts act member)

theorem established {u v : L2tpWorld} (quiet : u.Quiet v)
    (reached : v.ctrl.state = .established) : u.ctrl.state = .established := by
  rcases quiet.state with same | dying
  · exact same.symm.trans reached
  · rw [reached] at dying
    cases dying

end L2tpWorld.Quiet

theorem ctrlWrite_ctrl (env : L2tpEnv) (w : L2tpWorld) (session_id : UInt16)
    (msgtype : L2tpMsgType) (avps : List Avp) :
    (l2tpCtrlWrite env w session_id msgtype avps).2.ctrl = w.ctrl := by
  unfold l2tpCtrlWrite
  dsimp only [L2tpWorld.ask]
  generalize Option.isNone _ = unpackable
  cases unpackable with
  | true => rfl
  | false => cases env.answer w.asked <;> rfl

theorem ctrlClose_dying (env : L2tpEnv) (w : L2tpWorld) (result error : UInt16)
    (errmsg : Option Bytes) :
    (l2tpCtrlClose env w result error errmsg).ctrl.state = .dying := by
  unfold l2tpCtrlClose
  split
  · assumption
  dsimp only
  split
  · rfl
  · dsimp only [L2tpWorld.setCtrl]
    rw [ctrlWrite_ctrl]

section Calls

variable (env : L2tpEnv) {u w : L2tpWorld} (quiet : u.Quiet w)
include quiet

/-- A change that leaves alone what counts. -/
theorem quiet_same {v : L2tpWorld} (state : v.ctrl.state = w.ctrl.state)
    (secret : v.ctrl.secret = w.ctrl.secret) (chal : v.ctrl.chal = w.ctrl.chal)
    (avps : v.ctrl.avps = w.ctrl.avps) (acts : v.acts = w.acts) : u.Quiet v :=
  quiet.trans ⟨.inl state, secret, chal, fun _ member => by rwa [avps], fun _ member => by rwa [acts]⟩

theorem quiet_act (a : L2tpAct) : u.Quiet (w.act a) :=
  quiet.trans ⟨.inl rfl, rfl, rfl, fun _ member => member,
    fun _ member => List.mem_append_left _ member⟩

theorem quiet_setSess (session_id : UInt16) (f : L2tpSess → L2tpSess) :
    u.Quiet (w.setSess session_id f) :=
  quiet_same quiet rfl rfl rfl rfl rfl

theorem quiet_setCtrl (f : L2tpCtrl → L2tpCtrl) (state : (f w.ctrl).state = w.ctrl.state)
    (secret : (f w.ctrl).secret = w.ctrl.secret) (chal : (f w.ctrl).chal = w.ctrl.chal)
    (avps : (f w.ctrl).avps = w.ctrl.avps) : u.Quiet (w.setCtrl f) :=
  quiet_same quiet state secret chal avps rfl

theorem quiet_ctrlWrite (session_id : UInt16) (msgtype : L2tpMsgType) (avps : List Avp) :
    u.Quiet (l2tpCtrlWrite env w session_id msgtype avps).2 := by
  have asked : u.Quiet (w.ask env).2 := quiet_same quiet rfl rfl rfl rfl rfl
  unfold l2tpCtrlWrite
  dsimp only
  generalize (avpPack _ _ _ _ _ _).isNone = packed
  cases packed with
  | true => exact quiet
  | false =>
      cases (w.ask env).1 with
      | true => exact quiet_act asked _
      | false => exact asked

theorem quiet_ctrlClose (result error : UInt16) (errmsg : Option Bytes) :
    u.Quiet (l2tpCtrlClose env w result error errmsg) := by
  unfold l2tpCtrlClose
  split
  · exact quiet
  have dying : u.Quiet (w.setCtrl fun ctrl =>
      { ctrl with state := .dying, result := result, error := error, errmsg := errmsg }) :=
    quiet.trans ⟨.inr rfl, rfl, rfl, fun _ member => member, fun _ member => member⟩
  dsimp only
  refine quiet_setCtrl ?_ _ rfl rfl rfl rfl
  split
  · exact dying
  · refine quiet_setCtrl ?_ _ rfl rfl rfl rfl
    exact quiet_ctrlWrite env (quiet_setCtrl dying _ rfl rfl rfl rfl) ..

theorem quiet_ctrlSend (session_id : UInt16) (msgtype : L2tpMsgType) (avps : List Avp) :
    u.Quiet (l2tpCtrlSend env w session_id msgtype avps) := by
  have written := quiet_ctrlWrite env quiet session_id msgtype avps
  unfold l2tpCtrlSend
  dsimp only
  split
  · exact written
  · exact quiet_ctrlClose env written ..

theorem quiet_ctrlCheckReply : u.Quiet (l2tpCtrlCheckReply w) :=
  quiet_same quiet rfl rfl rfl rfl rfl

theorem quiet_startUnused : u.Quiet (l2tpStartUnused w) :=
  quiet_same quiet rfl rfl rfl rfl rfl

theorem quiet_deathStart : Ends AnyFault u.Quiet (l2tpCtrlDeathStart w) := by
  unfold l2tpCtrlDeathStart
  split
  · trivial
  · exact quiet_same quiet rfl rfl rfl rfl rfl

theorem quiet_afterLast : Ends AnyFault u.Quiet (l2tpAfterLast w) := by
  unfold l2tpAfterLast
  split
  · split
    · exact quiet_deathStart quiet
    · exact quiet_startUnused quiet
  · exact quiet

theorem quiet_sessClose (session_id result error : UInt16) (errmsg : Option Bytes) :
    u.Quiet (l2tpSessClose env w session_id result error errmsg) := by
  unfold l2tpSessClose
  split
  · exact quiet
  split
  · exact quiet
  apply quiet_setSess
  split
  · exact quiet_setSess quiet ..
  · apply quiet_ctrlSend env
    exact quiet_setSess (quiet_setSess quiet ..) ..

theorem quiet_sessDestroy (sess : L2tpSess) : Ends AnyFault u.Quiet (l2tpSessDestroy env w sess) := by
  have counted : u.Quiet w.decActive := quiet_same quiet rfl rfl rfl rfl rfl
  unfold l2tpSessDestroy
  split
  · apply Ends.bind (quiet_afterLast counted)
    exact fun v kept => show u.Quiet _ from quiet_setCtrl kept _ rfl rfl rfl rfl
  · exact quiet_setCtrl quiet _ rfl rfl rfl rfl

theorem quiet_sessCreate (orig : L2tpOrig) (side : L2tpSide) (serial : UInt32) :
    Ends AnyFault (fun created : Option UInt16 × L2tpWorld => u.Quiet created.2)
      (l2tpSessCreate env w orig side serial) := by
  unfold l2tpSessCreate
  dsimp only
  split
  · trivial
  have asked : u.Quiet ((l2tpCountSess w).ask env).2 := quiet_same quiet rfl rfl rfl rfl rfl
  split
  · exact quiet_same asked rfl rfl rfl rfl rfl
  · apply Ends.map (quiet_sessDestroy env asked _)
    exact fun _ kept => kept

theorem quiet_initiate (out include_length enable_dseq : Bool) (avps : List Avp) :
    Ends AnyFault u.Quiet (l2tpInitiate env w out include_length enable_dseq avps) := by
  unfold l2tpInitiate
  split
  · exact quiet
  split
  · exact quiet
  have numbered : u.Quiet { w with next_serial := w.next_serial + 1 } :=
    quiet_same quiet rfl rfl rfl rfl rfl
  apply Ends.bind (quiet_sessCreate env numbered ..)
  intro ⟨created, v⟩ kept
  cases created with
  | none => exact kept
  | some session_id =>
      have stored := quiet_setSess kept session_id fun sess =>
        { sess with
          include_length := include_length, enable_dseq := enable_dseq,
          my_avps := l2tpRequestAvps v.ctrl out sess.my_avps avps }
      exact quiet_setSess (quiet_ctrlSend env stored ..) ..

theorem quiet_sessHook (sess : L2tpSess) : u.Quiet (l2tpSessHook env w sess).2 := by
  have asked : u.Quiet (w.ask env).2 := quiet_same quiet rfl rfl rfl rfl rfl
  have twice : u.Quiet ((w.ask env).2.ask env).2 := quiet_same quiet rfl rfl rfl rfl rfl
  have thrice : u.Quiet (((w.ask env).2.ask env).2.ask env).2 :=
    quiet_same quiet rfl rfl rfl rfl rfl
  unfold l2tpSessHook
  dsimp only
  split
  · exact asked
  split
  · exact twice
  · exact quiet_act thrice _

theorem quiet_sessSetup (session_id : UInt16) : u.Quiet (l2tpSessSetup env w session_id).2 := by
  unfold l2tpSessSetup
  split
  · exact quiet
  case h_2 sess _ =>
    dsimp only
    generalize started : (if sess.side = .sideLns ∨ sess.orig = .origLocal then
      w.setSess session_id fun sess => { sess with notify_timer := true } else w) = v
    have kept : u.Quiet v := by
      rw [← started]
      split
      · exact quiet_setSess quiet ..
      · exact quiet
    have hooked := quiet_sessHook env kept sess
    generalize l2tpSessHook env v sess = hook at hooked ⊢
    split
    · exact quiet_setSess hooked ..
    · exact quiet_setSess hooked ..

theorem quiet_sessCheckLiic (session_id : UInt16) :
    u.Quiet (l2tpSessCheckLiic env w session_id).2 := by
  unfold l2tpSessCheckLiic
  split
  · exact quiet
  split
  · exact quiet
  have set := quiet_sessSetup env quiet session_id
  dsimp only
  split
  · exact quiet_ctrlSend env set ..
  · exact set

theorem quiet_connected (session_id : UInt16) (avps : List Avp) :
    u.Quiet (l2tpConnected env w session_id avps) := by
  unfold l2tpConnected
  split
  · exact quiet
  split
  · exact quiet
  split
  · exact quiet
  case h_2.isFalse.isFalse sess _ _ _ =>
    dsimp only
    generalize avpListDefault (avpListDefault avps _ _) _ _ = my_avps
    have stored := quiet_setSess quiet session_id fun sess => { sess with my_avps := my_avps }
    split
    case isTrue =>
      have responded := quiet_setSess stored session_id fun sess =>
        { sess with link_responded := true }
      have checked := quiet_sessCheckLiic env responded session_id
      split
      · exact checked
      · exact quiet_sessClose env checked ..
    case isFalse =>
      have set := quiet_sessSetup env stored session_id
      generalize l2tpSessSetup env _ session_id = outcome at set ⊢
      obtain ⟨configured, v⟩ := outcome
      cases configured with
      | true => exact quiet_ctrlSend env set ..
      | false => exact quiet_sessClose env set ..

theorem quiet_terminate (session_id result error : UInt16) (errmsg : Option Bytes) :
    u.Quiet (l2tpTerminate env w session_id result error errmsg) := by
  unfold l2tpTerminate
  split
  · exact quiet_setSess quiet ..
  split
  · exact quiet
  · exact quiet_sessClose env (quiet_setSess quiet ..) ..

theorem quiet_setLinkInfo (session_id : UInt16) (xmit recv : UInt32) :
    u.Quiet (l2tpSetLinkInfo env w session_id xmit recv) := by
  unfold l2tpSetLinkInfo
  split
  · exact quiet
  split
  · exact quiet
  · exact quiet_ctrlSend env quiet ..

theorem quiet_apiCall (call : L2tpCall) : Ends AnyFault u.Quiet (l2tpCall env w call) := by
  cases call with
  | initiate => exact quiet_initiate env quiet ..
  | connected => exact quiet_connected env quiet ..
  | terminate => exact quiet_terminate env quiet ..
  | setLinkInfo => exact quiet_setLinkInfo env quiet ..
  | shutdown => exact quiet_ctrlClose env quiet ..

theorem quiet_callback (call : L2tpCallback) :
    Ends AnyFault u.Quiet (l2tpCallback env w call) := by
  unfold l2tpCallback
  exact Ends.foldlM (fun item _ v kept => quiet_apiCall env kept item) (quiet_act quiet _)

theorem quiet_ctrlNotifySess (session_id : UInt16) :
    Ends AnyFault u.Quiet (l2tpCtrlNotifySess env w session_id) := by
  unfold l2tpCtrlNotifySess
  split
  · exact quiet
  split
  · exact quiet
  · exact quiet_callback env (quiet_setSess quiet ..) _

theorem quiet_ctrlDoClose : Ends AnyFault u.Quiet (l2tpCtrlDoClose env w) := by
  have last : ∀ v : L2tpWorld, u.Quiet v → Ends AnyFault u.Quiet
      (if v.ctrl.active_sessions = 0 then l2tpCtrlDeathStart v
        else pure (v.walk.foldl (l2tpCtrlCloseSess env) v)) := by
    intro v told
    split
    · exact quiet_deathStart told
    · refine List.foldlRecOn (motive := u.Quiet) v.walk (l2tpCtrlCloseSess env) told ?_
      intro y closed session_id _
      exact quiet_sessClose env (quiet_setSess closed ..) ..
  unfold l2tpCtrlDoClose
  refine Ends.bind (p := u.Quiet) ?_ fun v kept => ?_
  · exact Ends.foldlM (fun item _ v kept => quiet_ctrlNotifySess env kept item)
      (quiet_same quiet rfl rfl rfl rfl rfl)
  dsimp only
  split
  · exact last v kept
  · exact Ends.bind (quiet_callback env (quiet_setCtrl kept _ rfl rfl rfl rfl) _) last

theorem quiet_sessDoClose (session_id : UInt16) :
    Ends AnyFault u.Quiet (l2tpSessDoClose env w session_id) := by
  have off : u.Quiet ((w.setSess session_id fun sess =>
      { sess with close_timer := false, death_timer := true }).decActive) :=
    quiet_same quiet rfl rfl rfl rfl rfl
  unfold l2tpSessDoClose
  dsimp only
  split
  · exact quiet_afterLast off
  split
  · exact quiet_afterLast off
  · exact Ends.bind (quiet_callback env (quiet_setSess off ..) _) fun _ kept => quiet_afterLast kept

theorem quiet_ctrlDestroy : Ends AnyFault u.Quiet (l2tpCtrlDestroy env w) := by
  unfold l2tpCtrlDestroy
  refine Ends.bind (p := u.Quiet) ?_ fun v kept => show u.Quiet _ from
    quiet_same kept rfl rfl rfl rfl rfl
  exact Ends.foldlM (fun item _ v kept => quiet_sessDestroy env kept item) quiet

theorem quiet_sessExpire (session_id : UInt16) (pending : L2tpSess → Bool)
    {expire : L2tpSess → Except L2tpFault L2tpWorld}
    (expires : ∀ sess, Ends AnyFault u.Quiet (expire sess)) :
    Ends AnyFault u.Quiet (l2tpSessExpire w session_id pending expire) := by
  unfold l2tpSessExpire
  split
  · exact quiet
  split
  · exact expires _
  · exact quiet

end Calls

section Handlers

variable (env : L2tpEnv) {u w : L2tpWorld} (quiet : u.Quiet w) (ptrs : AvpPtrs)

theorem any_follow (type : AvpType) : Ends AnyFault (fun _ => True) (ptrs.follow type) := by
  unfold AvpPtrs.follow
  split <;> trivial

include quiet

theorem quiet_answerChallenge :
    Ends AnyFault (fun handled : Bool × L2tpWorld => u.Quiet handled.2)
      (l2tpAnswerChallenge env w ptrs) := by
  unfold l2tpAnswerChallenge
  split
  · exact quiet
  split
  · exact quiet_ctrlClose env quiet ..
  · apply Ends.bind (any_follow ptrs _)
    intro mesgtype _
    exact quiet.trans ⟨.inl rfl, rfl, rfl, fun _ member => List.mem_append_left _ member,
      fun _ member => member⟩

theorem quiet_ctrlSetup1 :
    Ends AnyFault (fun handled : Bool × L2tpWorld => u.Quiet handled.2)
      (l2tpCtrlSetup1 env w ptrs) := by
  unfold l2tpCtrlSetup1
  apply Ends.bind (any_follow ptrs _)
  intro hostname _
  apply Ends.bind (any_follow ptrs _)
  intro _ _
  apply Ends.bind (any_follow ptrs _)
  intro tunnelid _
  apply Ends.bind (any_follow ptrs _)
  intro framingcap _
  have asked : u.Quiet
      ((w.setCtrl (l2tpLearnPeer ptrs hostname tunnelid framingcap)).ask env).2 :=
    quiet_same quiet rfl rfl rfl rfl rfl
  dsimp only
  split
  · exact quiet_answerChallenge env asked ptrs
  · exact asked

theorem quiet_handleStopCcn :
    Ends AnyFault (fun handled : Bool × L2tpWorld => u.Quiet handled.2)
      (l2tpHandleStopCcn env w ptrs) := by
  unfold l2tpHandleStopCcn
  apply Ends.bind (any_follow ptrs _)
  intro errresultcode _
  exact quiet_ctrlClose env (quiet_setCtrl quiet _ rfl rfl rfl rfl) ..

theorem quiet_handleRequest (side : L2tpSide) (out : Bool) (avps : List Avp)
    {respond : L2tpWorld → L2tpSess → L2tpWorld}
    (responds : ∀ v sess, u.Quiet v → u.Quiet (respond v sess)) :
    Ends AnyFault (fun handled : Bool × L2tpWorld => u.Quiet handled.2)
      (l2tpHandleRequest env w side out avps ptrs respond) := by
  unfold l2tpHandleRequest
  apply Ends.bind (any_follow ptrs _)
  intro serialnum _
  apply Ends.bind (quiet_sessCreate env quiet ..)
  intro ⟨created, v⟩ kept
  cases created with
  | none => exact kept
  | some session_id =>
      apply Ends.bind (any_follow ptrs _)
      intro sessionid _
      apply Ends.bind (quiet_callback env (quiet_setSess kept ..) _)
      intro x told
      have fields := quiet_setSess told session_id fun sess =>
        { sess with include_length := (env.fields x).1, enable_dseq := (env.fields x).2 }
      dsimp only
      split
      · exact fields
      · change u.Quiet (if _ then _ else _)
        split
        · exact fields
        · exact responds _ _ fields

theorem quiet_sessHandler (sess : L2tpSess) (avps : List Avp) (msgtype : L2tpMsgType) :
    Ends AnyFault (fun handled : Bool × L2tpWorld => u.Quiet handled.2)
      (l2tpSessHandler env w sess avps ptrs msgtype) := by
  have xccn : Ends AnyFault (fun handled : Bool × L2tpWorld => u.Quiet handled.2)
      (l2tpHandleXccn env w sess avps ptrs) := by
    unfold l2tpHandleXccn
    split
    · exact quiet
    · exact quiet_sessSetup env (quiet_setSess quiet ..) _
  cases msgtype with
  | icrp =>
      change Ends AnyFault _ (l2tpHandleIcrp env w sess ptrs)
      unfold l2tpHandleIcrp
      split
      · exact quiet
      apply Ends.bind (any_follow ptrs _)
      intro sessionid _
      have stored := quiet_setSess quiet sess.session_id fun sess =>
        { sess with peer_id := sessionid }
      dsimp only
      split
      · exact quiet_ctrlClose env stored ..
      · exact quiet_sessCheckLiic env (quiet_setSess stored ..) _
  | ocrp =>
      change Ends AnyFault _ (l2tpHandleOcrp w sess ptrs)
      unfold l2tpHandleOcrp
      split
      · exact quiet
      apply Ends.bind (any_follow ptrs _)
      exact fun _ _ => quiet_setSess quiet ..
  | iccn => exact xccn
  | occn => exact xccn
  | cdn =>
      change Ends AnyFault _ (l2tpHandleCdn env w sess ptrs)
      unfold l2tpHandleCdn
      apply Ends.bind (any_follow ptrs _)
      exact fun _ _ => quiet_sessClose env (quiet_setSess quiet ..) ..
  | wen =>
      change Ends AnyFault _ (l2tpHandleWen env w sess ptrs)
      unfold l2tpHandleWen
      split
      · exact quiet
      split
      · exact quiet
      apply Ends.bind (any_follow ptrs _)
      intro errors _
      exact Ends.bind (quiet_callback env quiet _) fun _ told => told
  | sli =>
      change Ends AnyFault _ (l2tpHandleSli env w sess ptrs)
      unfold l2tpHandleSli
      split
      · exact quiet
      apply Ends.bind (any_follow ptrs _)
      intro accm _
      exact Ends.bind (quiet_callback env quiet _) fun _ told => told
  | _ => exact quiet

theorem quiet_sessMessage (session_id : UInt16) (info : L2tpMsgInfo)
    (valid_states : List L2tpSessState) (valid_orig : List L2tpOrig)
    (valid_side : List L2tpSide) (avps : List Avp) :
    Ends AnyFault u.Quiet
      (l2tpSessMessage env w session_id info valid_states valid_orig valid_side avps ptrs) := by
  unfold l2tpSessMessage
  split
  · exact quiet
  split
  · exact quiet_ctrlClose env quiet ..
  · apply Ends.bind (quiet_sessHandler env (quiet_setSess quiet ..) ptrs ..)
    intro ⟨handled, v⟩ kept
    cases handled with
    | true => exact quiet_setSess kept ..
    | false => exact quiet_ctrlClose env kept ..

end Handlers

section Events

variable (env : L2tpEnv) (w : L2tpWorld)

/-- Only a packet can do more. -/
theorem quiet_event {event : L2tpEvent} (unread : ∀ packet, event ≠ .received (some packet)) :
    Ends AnyFault w.Quiet (l2tpStep env w event) := by
  have same : w.Quiet w := .refl w
  unfold l2tpStep
  split
  · exact same
  cases event with
  | call call => exact quiet_apiCall env (.refl w) call
  | received packet =>
      cases packet with
      | none =>
          have ticking : w.Quiet (w.setCtrl fun ctrl => { ctrl with idle_timer := true }) :=
            quiet_setCtrl (.refl w) _ rfl rfl rfl rfl
          exact quiet_ctrlClose env ticking ..
      | some packet => exact absurd rfl (unread packet)
  | nodeMessage msg =>
      cases msg with
      | unreadable => exact quiet_ctrlClose env (.refl w) ..
      | ackFailure => exact quiet_ctrlClose env (.refl w) ..
      | other => exact same
  | tieLost =>
      dsimp only
      split
      · exact quiet_ctrlClose env (.refl w) ..
      · exact same
  | destroy => exact quiet_ctrlDestroy env (.refl w)
  | idleTimer =>
      dsimp only
      split
      · have ticking : w.Quiet (w.setCtrl fun ctrl => { ctrl with idle_timer := true }) :=
          quiet_setCtrl (.refl w) _ rfl rfl rfl rfl
        exact quiet_ctrlSend env ticking ..
      · exact same
  | replyTimer =>
      dsimp only
      split
      · have off : w.Quiet (w.setCtrl fun ctrl => { ctrl with reply_timer := false }) :=
          quiet_setCtrl (.refl w) _ rfl rfl rfl rfl
        exact quiet_ctrlClose env off ..
      · exact same
  | closeTimer =>
      dsimp only
      split
      · exact quiet_ctrlDoClose env (.refl w)
      · exact same
  | deathTimer =>
      have off : w.Quiet (w.setCtrl fun ctrl => { ctrl with death_timer := none }) :=
        quiet_setCtrl (.refl w) _ rfl rfl rfl rfl
      dsimp only
      split
      · exact same
      · unfold l2tpUnusedTimeout
        split
        · trivial
        split
        · trivial
        · exact quiet_ctrlClose env off ..
      · unfold l2tpCtrlDeathTimeout
        apply Ends.bind (quiet_callback env off _)
        exact fun v told => quiet_ctrlDestroy env told
  | sessReplyTimer session_id =>
      refine quiet_sessExpire (.refl w) session_id _ fun sess => ?_
      have off := quiet_setSess (.refl w) session_id fun sess => { sess with reply_timer := false }
      exact quiet_ctrlClose env off ..
  | sessNotifyTimer session_id =>
      refine quiet_sessExpire (.refl w) session_id _ fun sess => ?_
      exact quiet_callback env (quiet_setSess (.refl w) ..) _
  | sessCloseTimer session_id =>
      refine quiet_sessExpire (.refl w) session_id _ fun sess => ?_
      exact quiet_sessDoClose env (.refl w) session_id
  | sessDeathTimer session_id =>
      refine quiet_sessExpire (.refl w) session_id _ fun sess => ?_
      exact quiet_sessDestroy env (.refl w) _

end Events

section Messages

variable {P : L2tpWorld → Prop} (env : L2tpEnv) {w : L2tpWorld} (session_id : UInt16)

/-- What a message leaves, by the connection that it may close and the handler that it may reach. -/
theorem ends_message (avps : List Avp) (keeps : P w)
    (closes : ∀ result error errmsg, P (l2tpCtrlClose env w result error errmsg))
    (ctrl : ∀ info ∈ l2tpMsgInfo, ∀ valid_states, info.expected = .ctrl valid_states →
      ∀ ptrs, avpList2ptrs avps = .ok ptrs →
        Ends AnyFault P (l2tpCtrlMessage env w info valid_states avps ptrs))
    (sess : ∀ info ∈ l2tpMsgInfo, ∀ valid_states valid_orig valid_side,
      info.expected = .sess valid_states valid_orig valid_side →
      ∀ first rest, avps = first :: rest → avpWord16 first 0 = .ok info.type.num → ∀ ptrs,
        Ends AnyFault P
          (l2tpSessMessage env w session_id info valid_states valid_orig valid_side avps ptrs)) :
    Ends AnyFault P (l2tpMessage env w session_id avps) := by
  unfold l2tpMessage
  split
  · exact closes ..
  split
  · exact closes ..
  case h_2.isFalse first rest _ =>
  cases word : avpWord16 first 0 with
  | error fault => trivial
  | ok msgtype =>
      dsimp only [bind, Except.bind]
      cases found : l2tpMsgInfo.find? fun info => info.type.num = msgtype with
      | none =>
          dsimp only
          split
          · exact closes ..
          · exact keeps
      | some info =>
          have listed := List.mem_of_find?_eq_some found
          have num : info.type.num = msgtype := by simpa using List.find?_some found
          dsimp only
          unfold l2tpKnownMessage
          split
          · exact closes ..
          cases pointers : avpList2ptrs (first :: rest) with
          | error fault => trivial
          | ok ptrs =>
              dsimp only [bind, Except.bind]
              split
              case h_1 expects => exact ctrl info listed _ expects ptrs pointers
              case h_2 expects =>
                exact sess info listed _ _ _ expects first rest rfl (num ▸ word) ptrs

end Messages

end Mpd
