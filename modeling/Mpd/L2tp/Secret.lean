import Mpd.L2tp.Handlers
import Mpd.L2tp.Quiet
import Mpd.L2tp.Plain

/-! A control connection with a shared secret: which steps can bring it to the established
state, and what the peer has shown by then. -/

set_option autoImplicit false

namespace Mpd

open Outcome

def challengeAvp (chal : Vector UInt8 16) : Avp := ⟨true, 0, AvpType.challenge.num, chal.toList⟩

/-- A message of this type with the challenge was sent. -/
def ChallengeIn (chal : Vector UInt8 16) (msgtype : L2tpMsgType) (w : L2tpWorld) : Prop :=
  ∃ avps, .send 0 msgtype avps ∈ w.acts ∧ challengeAvp chal ∈ avps

/-- The AVPs answer the challenge: the response is the digest of their message type, the
secret and the challenge. -/
def Answers (md5 : Md5) (secret : Bytes) (chal : Vector UInt8 16) (ptrs : AvpPtrs) : Prop :=
  ∃ (mesgtype : UInt16) (response : Bytes),
    ptrs .messageType = some mesgtype ∧ ptrs .challengeResponse = some response ∧
      response.take 16 =
        (md5 (UInt8.ofNat mesgtype.toNat :: (secret ++ chal.toList))).toList

structure Challenging (secret : Bytes) (chal : Vector UInt8 16) (w : L2tpWorld) : Prop where
  hasSecret : w.ctrl.secret = some secret
  hasChal : w.ctrl.chal = chal
  avps : challengeAvp chal ∈ w.ctrl.avps
  reply : w.ctrl.state = .waitCtlReply → ChallengeIn chal .sccrq w
  connect : w.ctrl.state = .waitCtlConnect → ChallengeIn chal .sccrp w

section Secret

variable {secret : Bytes} {chal : Vector UInt8 16} {u w : L2tpWorld}

theorem ChallengeIn.quiet {msgtype : L2tpMsgType} (sent : ChallengeIn chal msgtype u)
    (quiet : u.Quiet w) : ChallengeIn chal msgtype w := by
  obtain ⟨avps, member, carries⟩ := sent
  exact ⟨avps, quiet.acts _ member, carries⟩

theorem Challenging.quiet (challenging : Challenging secret chal u) (quiet : u.Quiet w) :
    Challenging secret chal w where
  hasSecret := quiet.secret.trans challenging.hasSecret
  hasChal := quiet.chal.trans challenging.hasChal
  avps := quiet.avps _ challenging.avps
  reply waits := by
    rcases quiet.state with same | dying
    · exact (challenging.reply (same.symm.trans waits)).quiet quiet
    · rw [waits] at dying
      cases dying
  connect waits := by
    rcases quiet.state with same | dying
    · exact (challenging.connect (same.symm.trans waits)).quiet quiet
    · rw [waits] at dying
      cases dying

/-- What a step makes of a connection, where `shown` says what the peer has shown. -/
structure SecretStep (secret : Bytes) (chal : Vector UInt8 16) (shown : Prop) (u w : L2tpWorld) :
    Prop where
  challenging : Challenging secret chal w
  established : w.ctrl.state = .established → u.ctrl.state = .established ∨
    shown ∧ (ChallengeIn chal .sccrq u ∨ ChallengeIn chal .sccrp u)

theorem SecretStep.of_quiet {shown : Prop} (challenging : Challenging secret chal u)
    (quiet : u.Quiet w) : SecretStep secret chal shown u w where
  challenging := challenging.quiet quiet
  established reached := .inl (quiet.established reached)

/-- The state becomes the established one. -/
theorem SecretStep.establish {shown : Prop} {v : L2tpWorld} (challenging : Challenging secret chal u)
    (quiet : u.Quiet v)
    (answered : shown ∧ (ChallengeIn chal .sccrq u ∨ ChallengeIn chal .sccrp u)) :
    SecretStep secret chal shown u (v.setCtrl fun ctrl => { ctrl with state := .established }) where
  challenging :=
    have before := challenging.quiet quiet
    ⟨before.hasSecret, before.hasChal, before.avps, nofun, nofun⟩
  established _ := .inr answered

theorem SecretStep.then {shown : Prop} {v : L2tpWorld} (step : SecretStep secret chal shown u v)
    (quiet : v.Quiet w) : SecretStep secret chal shown u w where
  challenging := step.challenging.quiet quiet
  established reached := step.established (quiet.established reached)

variable (env : L2tpEnv)

/-- A message is sent, or its connection is dying. -/
theorem ctrlSend_sent (w : L2tpWorld) (session_id : UInt16) (msgtype : L2tpMsgType)
    (avps : List Avp) :
    (l2tpCtrlSend env w session_id msgtype avps).ctrl.state = .dying ∨
      .send session_id msgtype (avpOfWord16 .messageType msgtype.num ::
        avpListRemove avps .messageType) ∈ (l2tpCtrlSend env w session_id msgtype avps).acts := by
  unfold l2tpCtrlSend l2tpCtrlWrite
  dsimp only
  generalize (avpPack _ _ _ _ _ _).isNone = packed
  cases packed with
  | true => exact .inl (ctrlClose_dying env _ _ _ _)
  | false =>
      cases (w.ask env).1 with
      | true => exact .inr (List.mem_append_right _ (List.mem_singleton.mpr rfl))
      | false => exact .inl (ctrlClose_dying env _ _ _ _)

theorem challengeAvp_kept {avps : List Avp} (member : challengeAvp chal ∈ avps) (avp : Avp) :
    challengeAvp chal ∈ avp :: avpListRemove avps .messageType := by
  apply List.mem_cons_of_mem
  refine (List.mem_eraseP_of_neg ?_).mpr member
  simp only [challengeAvp, decide_eq_true_eq]
  exact fun ⟨_, same⟩ => nomatch same

/-- The state in which the peer is waited for, once the challenge is on its way. -/
theorem Challenging.send {msgtype : L2tpMsgType} {state : L2tpCtrlState}
    (challenging : Challenging secret chal w)
    (pair : state = .waitCtlReply ∧ msgtype = .sccrq ∨ state = .waitCtlConnect ∧ msgtype = .sccrp) :
    Challenging secret chal (l2tpCtrlSend env (w.setCtrl fun ctrl => { ctrl with state := state })
      0 msgtype (w.setCtrl fun ctrl => { ctrl with state := state }).ctrl.avps) ∧
    (l2tpCtrlSend env (w.setCtrl fun ctrl => { ctrl with state := state }) 0 msgtype
      (w.setCtrl fun ctrl => { ctrl with state := state }).ctrl.avps).ctrl.state ≠ .established := by
  have quiet := quiet_ctrlSend env (.refl (w.setCtrl fun ctrl => { ctrl with state := state })) 0
    msgtype (w.setCtrl fun ctrl => { ctrl with state := state }).ctrl.avps
  have sent := ctrlSend_sent env (w.setCtrl fun ctrl => { ctrl with state := state }) 0 msgtype
    (w.setCtrl fun ctrl => { ctrl with state := state }).ctrl.avps
  have carried : ∀ t, (l2tpCtrlSend env (w.setCtrl fun ctrl => { ctrl with state := state }) 0
      msgtype (w.setCtrl fun ctrl => { ctrl with state := state }).ctrl.avps).ctrl.state ≠ .dying →
      t = msgtype → ChallengeIn chal t (l2tpCtrlSend env
        (w.setCtrl fun ctrl => { ctrl with state := state }) 0 msgtype
        (w.setCtrl fun ctrl => { ctrl with state := state }).ctrl.avps) := by
    rintro _ alive rfl
    exact ⟨_, sent.resolve_left alive, challengeAvp_kept challenging.avps _⟩
  generalize l2tpCtrlSend env _ 0 msgtype _ = v at quiet carried ⊢
  have states := quiet.state
  refine ⟨⟨quiet.secret.trans challenging.hasSecret, quiet.chal.trans challenging.hasChal,
    quiet.avps _ challenging.avps, fun waits => ?_, fun waits => ?_⟩, fun reached => ?_⟩
  · rcases pair with ⟨rfl, rfl⟩ | ⟨rfl, rfl⟩
    · exact carried _ (by simp [waits]) rfl
    · rw [waits] at states
      exact nomatch states
  · rcases pair with ⟨rfl, rfl⟩ | ⟨rfl, rfl⟩
    · rw [waits] at states
      exact nomatch states
    · exact carried _ (by simp [waits]) rfl
  · rw [reached] at states
    rcases pair with ⟨rfl, _⟩ | ⟨rfl, _⟩ <;> exact nomatch states

section Handlers

variable (ptrs : AvpPtrs)

/-- The second part of the set-up succeeds only with an answer to the challenge. -/
theorem answers_ctrlSetup2 (challenging : Challenging secret chal w) :
    Ends AnyFault (fun handled : Bool × L2tpWorld =>
      w.Quiet handled.2 ∧ (handled.1 = true → Answers env.md5 secret chal ptrs))
      (l2tpCtrlSetup2 env w ptrs) := by
  have asked : w.Quiet ((w.setCtrl fun ctrl => { ctrl with match_id := true }).ask env).2 :=
    quiet_same (.refl w) rfl rfl rfl rfl rfl
  unfold l2tpCtrlSetup2
  dsimp only
  generalize (w.setCtrl fun ctrl => { ctrl with match_id := true }).ask env = outcome at asked ⊢
  obtain ⟨configured, v⟩ := outcome
  have kept := challenging.quiet asked
  cases configured with
  | false => exact ⟨asked, nofun⟩
  | true =>
      have verified : Ends AnyFault (fun handled : Bool × L2tpWorld =>
          w.Quiet handled.2 ∧ (handled.1 = true → Answers env.md5 secret chal ptrs))
          (l2tpVerifyResponse env v ptrs) := by
        unfold l2tpVerifyResponse
        rw [kept.hasSecret]
        dsimp only
        cases response : ptrs .challengeResponse with
        | none => exact ⟨quiet_ctrlClose env asked .., nofun⟩
        | some value =>
            dsimp only
            cases mesgtype : ptrs .messageType with
            | none =>
                rw [AvpPtrs.follow, mesgtype]
                trivial
            | some number =>
                rw [AvpPtrs.follow, mesgtype]
                change Ends AnyFault _ (if _ then pure _ else pure _)
                split
                case isTrue equal =>
                  refine ⟨asked, fun _ => ⟨number, value, mesgtype, response, ?_⟩⟩
                  rw [kept.hasChal] at equal
                  exact equal.symm
                case isFalse => exact ⟨quiet_ctrlClose env asked .., nofun⟩
      refine Ends.bind verified ?_
      intro ⟨answered, x⟩ ⟨quiet, answers⟩
      cases answered with
      | true => exact ⟨quiet_startUnused quiet, answers⟩
      | false => exact ⟨quiet, nofun⟩

theorem challenging_acceptSccrq (challenging : Challenging secret chal w) :
    Ends AnyFault (fun handled : Bool × L2tpWorld => Challenging secret chal handled.2 ∧
      (handled.2.ctrl.state = .established → w.ctrl.state = .established))
      (l2tpAcceptSccrq env w ptrs) := by
  unfold l2tpAcceptSccrq
  apply Ends.bind (quiet_ctrlSetup1 env (.refl w) ptrs)
  intro ⟨set, v⟩ quiet
  cases set with
  | false => exact ⟨challenging.quiet quiet, quiet.established⟩
  | true =>
      obtain ⟨kept, never⟩ := (challenging.quiet quiet).send env
        (.inr ⟨(rfl : L2tpCtrlState.waitCtlConnect = _), (rfl : L2tpMsgType.sccrp = _)⟩)
      exact ⟨kept, fun reached => absurd reached never⟩

theorem challenging_handleSccrq (challenging : Challenging secret chal w) :
    Ends AnyFault (fun handled : Bool × L2tpWorld => Challenging secret chal handled.2 ∧
      (handled.2.ctrl.state = .established → w.ctrl.state = .established))
      (l2tpHandleSccrq env w ptrs) := by
  have quietly : ∀ v, w.Quiet v → Challenging secret chal v ∧
      (v.ctrl.state = .established → w.ctrl.state = .established) :=
    fun _ quiet => ⟨challenging.quiet quiet, quiet.established⟩
  unfold l2tpHandleSccrq
  split
  · exact challenging_acceptSccrq env ptrs challenging
  split
  · exact challenging_acceptSccrq env ptrs challenging
  · exact quietly _ (quiet_act (quiet_ctrlClose env (.refl w) ..) _)
  · exact quietly _ (quiet_ctrlClose env (.refl w) ..)
  · exact challenging_acceptSccrq env ptrs (challenging.quiet (quiet_act (.refl w) _))

theorem step_handleSccrp (challenging : Challenging secret chal w)
    (waits : w.ctrl.state = .waitCtlReply) :
    Ends AnyFault (fun handled : Bool × L2tpWorld =>
      SecretStep secret chal (Answers env.md5 secret chal ptrs) w handled.2)
      (l2tpHandleSccrp env w ptrs) := by
  unfold l2tpHandleSccrp
  apply Ends.bind (quiet_ctrlSetup1 env (.refl w) ptrs)
  intro ⟨first, v⟩ quiet
  cases first with
  | false => exact SecretStep.of_quiet challenging quiet
  | true =>
      apply Ends.bind (answers_ctrlSetup2 env ptrs (challenging.quiet quiet))
      intro ⟨second, x⟩ ⟨further, answers⟩
      have kept := quiet.trans further
      cases second with
      | false => exact SecretStep.of_quiet challenging kept
      | true =>
          -- from here on the state is the established one, or dying
          have reached := SecretStep.establish challenging kept
            ⟨answers rfl, .inl (challenging.reply waits)⟩
          apply Ends.bind (quiet_callback env (quiet_ctrlSend env (.refl _) ..) _)
          exact fun _ told => reached.then told

theorem step_handleScccn (challenging : Challenging secret chal w)
    (waits : w.ctrl.state = .waitCtlConnect) :
    Ends AnyFault (fun handled : Bool × L2tpWorld =>
      SecretStep secret chal (Answers env.md5 secret chal ptrs) w handled.2)
      (l2tpHandleScccn env w ptrs) := by
  unfold l2tpHandleScccn
  apply Ends.bind (answers_ctrlSetup2 env ptrs challenging)
  intro ⟨second, x⟩ ⟨kept, answers⟩
  cases second with
  | false => exact SecretStep.of_quiet challenging kept
  | true =>
      have reached := SecretStep.establish challenging kept
        ⟨answers rfl, .inr (challenging.connect waits)⟩
      apply Ends.bind (quiet_callback env (.refl _) _)
      exact fun _ told => reached.then told

theorem step_ctrlHandler (challenging : Challenging secret chal w) {msgtype : L2tpMsgType}
    (calledIn : l2tpCalledIn msgtype w.ctrl.state = true) (avps : List Avp) :
    Ends AnyFault (fun handled : Bool × L2tpWorld =>
      SecretStep secret chal (Answers env.md5 secret chal ptrs) w handled.2)
      (l2tpCtrlHandler env w avps ptrs msgtype) := by
  have quietly : ∀ handled : Bool × L2tpWorld, w.Quiet handled.2 →
      SecretStep secret chal (Answers env.md5 secret chal ptrs) w handled.2 :=
    fun _ quiet => SecretStep.of_quiet challenging quiet
  cases msgtype with
  | sccrq =>
      exact (challenging_handleSccrq env ptrs challenging).mono fun _ kept =>
        ⟨kept.1, fun reached => .inl (kept.2 reached)⟩
  | sccrp => exact step_handleSccrp env ptrs challenging (by simpa [l2tpCalledIn] using calledIn)
  | scccn => exact step_handleScccn env ptrs challenging (by simpa [l2tpCalledIn] using calledIn)
  | stopCcn => exact (quiet_handleStopCcn env (.refl w) ptrs).mono quietly
  | icrq =>
      change Ends AnyFault _ (l2tpHandleIcrq env w avps ptrs)
      unfold l2tpHandleIcrq
      refine (quiet_handleRequest env (.refl w) ptrs _ _ avps ?_).mono quietly
      exact fun v sess quiet => quiet_setSess (quiet_ctrlSend env quiet ..) ..
  | ocrq =>
      change Ends AnyFault _ (l2tpHandleOcrq env w avps ptrs)
      unfold l2tpHandleOcrq
      refine (quiet_handleRequest env (.refl w) ptrs _ _ avps ?_).mono quietly
      exact fun v sess quiet => quiet_ctrlSend env quiet ..
  | _ => exact quietly _ (.refl w)

theorem secret_ctrlMessage (challenging : Challenging secret chal w) {info : L2tpMsgInfo}
    {valid_states : List L2tpCtrlState} (listed : info ∈ l2tpMsgInfo)
    (expects : info.expected = .ctrl valid_states) (avps : List Avp) :
    Ends AnyFault (SecretStep secret chal (Answers env.md5 secret chal ptrs) w)
      (l2tpCtrlMessage env w info valid_states avps ptrs) := by
  unfold l2tpCtrlMessage
  split
  · split
    · exact SecretStep.of_quiet challenging (.refl w)
    · exact SecretStep.of_quiet challenging (quiet_ctrlClose env (.refl w) ..)
  case isFalse valid =>
    have calledIn : l2tpCalledIn info.type w.ctrl.state = true := by
      have all := List.all_eq_true.mp l2tpMsgInfo_calledIn info listed
      rw [expects] at all
      exact List.all_eq_true.mp all _ (not_not.mp valid)
    have off : w.Quiet (w.setCtrl fun ctrl => { ctrl with reply_timer := false }) :=
      quiet_setCtrl (.refl w) _ rfl rfl rfl rfl
    apply Ends.bind (step_ctrlHandler env ptrs (challenging.quiet off) calledIn avps)
    intro ⟨handled, v⟩ step
    have since : SecretStep secret chal (Answers env.md5 secret chal ptrs) w v :=
      ⟨step.challenging, step.established⟩
    cases handled with
    | true =>
        exact since.then (quiet_ctrlCheckReply (.refl v))
    | false =>
        have failed : v.Quiet (l2tpFailErrno env v) := quiet_ctrlClose env (.refl v) ..
        exact since.then failed

end Handlers

/-- The packet carries an answer to the challenge. -/
def AnsweredBy (md5 : Md5) (secret : Bytes) (chal : Vector UInt8 16) (packet : Bytes) : Prop :=
  ∃ avps ptrs, avpUnpack md5 pppL2tpAvpInfoList (some secret) ((packet.take 4096).drop 2) =
    .ok avps ∧ avpList2ptrs avps = .ok ptrs ∧ Answers md5 secret chal ptrs

theorem secret_message (challenging : Challenging secret chal w) (session_id : UInt16)
    (avps : List Avp) :
    Ends AnyFault (SecretStep secret chal
      (∃ ptrs, avpList2ptrs avps = .ok ptrs ∧ Answers env.md5 secret chal ptrs) w)
      (l2tpMessage env w session_id avps) := by
  have quietly : ∀ v, w.Quiet v → SecretStep secret chal
      (∃ ptrs, avpList2ptrs avps = .ok ptrs ∧ Answers env.md5 secret chal ptrs) w v :=
    fun _ quiet => SecretStep.of_quiet challenging quiet
  refine ends_message env session_id avps (quietly w (.refl w))
    (fun _ _ _ => quietly _ (quiet_ctrlClose env (.refl w) ..)) ?_ ?_
  · intro info listed _ expects ptrs pointers
    refine (secret_ctrlMessage env ptrs challenging listed expects avps).mono ?_
    intro v step
    exact ⟨step.challenging, fun reached => (step.established reached).imp id
      fun ⟨answers, sent⟩ => ⟨⟨ptrs, pointers, answers⟩, sent⟩⟩
  · intro info _ _ _ _ _ _ _ _ _ ptrs
    exact (quiet_sessMessage env (.refl w) ptrs ..).mono quietly

def Shows (md5 : Md5) (secret : Bytes) (chal : Vector UInt8 16) : L2tpEvent → Prop
  | .received (some packet) => AnsweredBy md5 secret chal packet
  | _ => False

theorem secret_received (challenging : Challenging secret chal w) (packet : Bytes) :
    Ends AnyFault (SecretStep secret chal (AnsweredBy env.md5 secret chal packet) w)
      (l2tpDataEvent env w (some packet)) := by
  have ticking : w.Quiet (w.setCtrl fun ctrl => { ctrl with idle_timer := true }) :=
    quiet_setCtrl (.refl w) _ rfl rfl rfl rfl
  have acts : (w.setCtrl fun ctrl => { ctrl with idle_timer := true }).acts = w.acts := rfl
  unfold l2tpDataEvent
  dsimp only
  generalize (w.setCtrl fun ctrl => { ctrl with idle_timer := true }) = v at ticking acts ⊢
  have kept := challenging.quiet ticking
  unfold AnsweredBy l2tpPacket
  split
  case h_2 => trivial
  case h_1 a b data taken =>
    rw [taken, kept.hasSecret]
    split
    · exact SecretStep.of_quiet challenging (quiet_ctrlClose env ticking ..)
    · exact SecretStep.of_quiet challenging (quiet_ctrlClose env ticking ..)
    · exact SecretStep.of_quiet challenging (quiet_ctrlClose env ticking ..)
    case h_4 avps unpacked =>
      cases l2tpCtrlDump env avps with
      | error fault => trivial
      | ok names =>
          refine (secret_message env kept (be16 a b) avps).mono fun x step => ?_
          refine ⟨step.challenging, fun reached => ?_⟩
          rcases step.established reached with before | ⟨⟨ptrs, pointers, answers⟩, sent⟩
          · exact .inl (ticking.established before)
          · unfold ChallengeIn at sent ⊢
            rw [acts] at sent
            exact .inr ⟨⟨avps, ptrs, unpacked, pointers, answers⟩, sent⟩

/-- Only a message with an answer to the challenge brings a connection to its established
state. -/
theorem step_secret (challenging : Challenging secret chal w) (event : L2tpEvent) :
    Ends AnyFault (SecretStep secret chal (Shows env.md5 secret chal event) w)
      (l2tpStep env w event) := by
  have quietly : ∀ v, w.Quiet v → SecretStep secret chal (Shows env.md5 secret chal event) w v :=
    fun _ quiet => SecretStep.of_quiet challenging quiet
  match event with
  | .received (some packet) =>
      unfold l2tpStep
      split
      · exact quietly w (.refl w)
      · exact secret_received env challenging packet
  | .received none | .call _ | .nodeMessage _ | .tieLost | .destroy | .idleTimer | .replyTimer
  | .closeTimer | .deathTimer | .sessReplyTimer _ | .sessNotifyTimer _ | .sessCloseTimer _
  | .sessDeathTimer _ => exact (quiet_event env w (by rintro _ ⟨⟩)).mono quietly

/-- A new connection with a secret, whether it initiates or waits. -/
theorem challenging_start (setup : L2tpSetup) (configured : setup.secret = some secret) :
    Challenging secret setup.chal (l2tpStart env setup) ∧
      (l2tpStart env setup).ctrl.state ≠ .established := by
  have created : Challenging secret setup.chal (l2tpCtrlCreate setup.avps setup.secret
      setup.hide_avps setup.tunnel_id setup.chal setup.hostname) := by
    refine ⟨configured, rfl, ?_, nofun, nofun⟩
    rw [configured]
    exact List.mem_append_right _ (List.mem_singleton.mpr rfl)
  unfold l2tpStart
  dsimp only
  split
  · obtain ⟨kept, never⟩ := created.send env
      (.inl ⟨(rfl : L2tpCtrlState.waitCtlReply = _), (rfl : L2tpMsgType.sccrq = _)⟩)
    have checked := quiet_ctrlCheckReply (.refl (l2tpCtrlSend env
      ((l2tpCtrlCreate setup.avps setup.secret setup.hide_avps setup.tunnel_id setup.chal
        setup.hostname).setCtrl fun ctrl => { ctrl with state := .waitCtlReply }) 0 .sccrq
      ((l2tpCtrlCreate setup.avps setup.secret setup.hide_avps setup.tunnel_id setup.chal
        setup.hostname).setCtrl fun ctrl => { ctrl with state := .waitCtlReply }).ctrl.avps))
    exact ⟨kept.quiet checked, fun reached => never (checked.established reached)⟩
  · exact ⟨created, nofun⟩

theorem l2tpRun_concat (setup : L2tpSetup) (events : List L2tpEvent) (event : L2tpEvent) :
    l2tpRun env setup (events ++ [event]) =
      (l2tpRun env setup events).bind fun w => l2tpStep env w event := by
  unfold l2tpRun
  rw [Transition.run_concat]

theorem challenging_run {setup : L2tpSetup} (configured : setup.secret = some secret)
    {events : List L2tpEvent} {w : L2tpWorld} (ran : l2tpRun env setup events = .ok w) :
    Challenging secret setup.chal w := by
  induction events using List.reverseRecOn generalizing w with
  | nil =>
      cases ran
      exact (challenging_start env setup configured).1
  | append_singleton events event ih =>
      rw [l2tpRun_concat] at ran
      cases before : l2tpRun env setup events with
      | error fault =>
          rw [before] at ran
          cases ran
      | ok v =>
          rw [before] at ran
          exact ((step_secret env (ih before) event).value ran).challenging

/-- An established connection with a secret has received a message whose challenge response
is the digest of the message type, the secret and the challenge that it had sent by then. -/
theorem established_answered {setup : L2tpSetup} (configured : setup.secret = some secret)
    {events : List L2tpEvent} {w : L2tpWorld} (ran : l2tpRun env setup events = .ok w)
    (established : w.ctrl.state = .established) :
    ∃ before packet after v, events = before ++ .received (some packet) :: after ∧
      l2tpRun env setup before = .ok v ∧ v.ctrl.state ≠ .established ∧
      AnsweredBy env.md5 secret setup.chal packet ∧
      (ChallengeIn setup.chal .sccrq v ∨ ChallengeIn setup.chal .sccrp v) := by
  induction events using List.reverseRecOn generalizing w with
  | nil =>
      cases ran
      exact absurd established (challenging_start env setup configured).2
  | append_singleton events event ih =>
      rw [l2tpRun_concat] at ran
      cases before : l2tpRun env setup events with
      | error fault =>
          rw [before] at ran
          cases ran
      | ok v =>
          rw [before] at ran
          have step := (step_secret env (challenging_run env configured before) event).value ran
          by_cases already : v.ctrl.state = .established
          · obtain ⟨first, packet, after, x, rfl, rest⟩ := ih before already
            exact ⟨first, packet, after ++ [event], x, by simp, rest⟩
          · obtain ⟨shows, sent⟩ := (step.established established).resolve_left already
            match event, shows with
            | .received (some packet), answered =>
                exact ⟨events, packet, [], v, rfl, before, already, answered, sent⟩

end Secret

def sccrpDigest : Vector UInt8 16 :=
  #v[49, 102, 0, 54, 20, 22, 62, 121, 196, 146, 184, 78, 86, 81, 161, 219]

def digestEnv : L2tpEnv := { l2tpCalmEnv with md5 := fun _ => sccrpDigest }

def secretSetup : L2tpSetup := { secret := some (ascii "s"), initiates := true }

def answeringAvps : List Avp :=
  l2tpSccrpAvps ++ [⟨true, 0, AvpType.challengeResponse.num, sccrpDigest.toList⟩]

theorem established_sccrp :
    ∃ w, l2tpRun digestEnv secretSetup [.received (some (l2tpPlainMsg 0 answeringAvps))] = .ok w ∧
      w.ctrl.state = .established := by
  unfold l2tpRun
  rw [Transition.run_cons, Transition.run_nil]
  dsimp only [Except.bind]
  rw [l2tpStep_plainMsg digestEnv (by decide) 0 (by decide) (by decide)]
  exact ⟨_, rfl, rfl⟩

theorem answered_sccrp :
    ∃ before packet after v,
      [L2tpEvent.received (some (l2tpPlainMsg 0 answeringAvps))] =
        before ++ .received (some packet) :: after ∧
      l2tpRun digestEnv secretSetup before = .ok v ∧ v.ctrl.state ≠ .established ∧
      AnsweredBy digestEnv.md5 (ascii "s") secretSetup.chal packet ∧
      (ChallengeIn secretSetup.chal .sccrq v ∨ ChallengeIn secretSetup.chal .sccrp v) := by
  obtain ⟨w, ran, established⟩ := established_sccrp
  exact established_answered digestEnv rfl ran established

end Mpd
