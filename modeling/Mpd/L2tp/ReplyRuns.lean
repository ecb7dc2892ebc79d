import Mpd.L2tp.Disconnect
import Mpd.L2tp.ReplyTimer

/-! The reply timers of the sessions over whole runs. -/

set_option autoImplicit false

namespace Mpd

open Outcome

section Handlers

variable (env : L2tpEnv) {strict : UInt16 → Prop} {w : L2tpWorld}

def TimedHandled (strict : UInt16 → Prop) (session_id : UInt16) (handled : Bool × L2tpWorld) :
    Prop :=
  (handled.1 = true → handled.2.Timed fun other => other = session_id ∨ strict other) ∧
    handled.2.Timed fun other => other ≠ session_id ∧ strict other

theorem TimedHandled.of_timed {session_id : UInt16} (held : strict session_id)
    {handled : Bool × L2tpWorld} (timed : handled.2.Timed strict) :
    TimedHandled strict session_id handled := by
  refine ⟨fun _ => timed.mono ?_, timed.mono fun _ kept => kept.2⟩
  rintro other (rfl | kept)
  · exact held
  · exact kept

variable (timed : w.Timed strict) {sess : L2tpSess} (ptrs : AvpPtrs)
include timed

theorem timed_handleIcrp (held : strict sess.session_id) (off : w.Off sess.session_id)
    (lac : ∀ other ∈ w.ctrl.sessions, other.session_id = sess.session_id →
      other.side = .sideLac) :
    Ends AnyFault (TimedHandled strict sess.session_id) (l2tpHandleIcrp env w sess ptrs) := by
  unfold l2tpHandleIcrp
  split
  · exact TimedHandled.of_timed held timed
  apply Ends.bind (any_follow ptrs _)
  intro sessionid _
  have named : (w.setSess sess.session_id fun sess => { sess with peer_id := sessionid }).Timed
      strict := timed.touch sess.session_id fun _ => ⟨rfl, rfl, rfl, rfl, rfl, rfl⟩
  have still : (w.setSess sess.session_id fun sess => { sess with peer_id := sessionid }).Off
      sess.session_id := off_setSess off fun _ => rfl
  have local' : ∀ other ∈ (w.setSess sess.session_id fun sess =>
      { sess with peer_id := sessionid }).ctrl.sessions,
      other.session_id = sess.session_id → other.side = .sideLac := by
    intro other member its
    obtain ⟨before, listed, rfl⟩ := List.mem_map.mp member
    split at its
    case isTrue here =>
      rw [if_pos here]
      exact lac before listed here
    case isFalse away => exact absurd its away
  dsimp only
  generalize (w.setSess sess.session_id fun sess => { sess with peer_id := sessionid }) = v
    at named still local' ⊢
  split
  · exact TimedHandled.of_timed held (timed_ctrlClose env named ..)
  -- the peer's answer may be the second one, and then the set-up follows at once
  have answered : (v.setSess sess.session_id fun sess =>
      { sess with peer_responded := true }).Timed
        fun other => other ≠ sess.session_id ∧ strict other := by
    have weakened : v.Timed fun other => other ≠ sess.session_id ∧ strict other :=
      named.mono fun _ kept => kept.2
    refine weakened.setSess sess.session_id (fun _ => rfl) fun other member its timely => ?_
    refine ⟨timely.timer, fun _ => local' other member its, timely.connect, fun _ _ _ => ?_⟩
    exact ⟨still other member its, fun weak => weak.1 its⟩
  have quiet : (v.setSess sess.session_id fun sess =>
      { sess with peer_responded := true }).Off sess.session_id := off_setSess still fun _ => rfl
  generalize (v.setSess sess.session_id fun sess => { sess with peer_responded := true }) = u
    at answered quiet ⊢
  -- what is left of the session is settled by its state or by an answer that is missing
  have settle : ∀ x : L2tpWorld,
      x.Timed (fun other => other ≠ sess.session_id ∧ strict other) →
      (∀ other ∈ x.ctrl.sessions, other.session_id = sess.session_id → other.state = .waitReply →
        ¬(other.link_responded = true ∧ other.peer_responded = true)) →
      x.Timed fun other => other = sess.session_id ∨ strict other := by
    intro x kept fresh
    refine ⟨kept.distinct, fun other member => ?_⟩
    obtain ⟨timer, side, connect, both⟩ := kept.each other member
    refine ⟨timer, side, connect, fun reply link peer => ?_⟩
    have away : other.session_id ≠ sess.session_id :=
      fun its => fresh other member its reply ⟨link, peer⟩
    obtain ⟨cancelled, unsettled⟩ := both reply link peer
    exact ⟨cancelled, fun or => unsettled ⟨away, or.resolve_left away⟩⟩
  change TimedHandled strict sess.session_id (l2tpSessCheckLiic env u sess.session_id)
  unfold l2tpSessCheckLiic
  split
  case h_1 missing =>
    refine ⟨fun _ => settle u answered fun other member its => ?_, answered⟩
    have none := List.find?_eq_none.mp missing other member
    simp [its] at none
  case h_2 now found =>
    split
    case isTrue lacking =>
      refine ⟨fun _ => settle u answered fun other member its _ both => ?_, answered⟩
      rw [answered.found found member its] at both
      simp [both] at lacking
    have set := timed_sessSetup env answered quiet
    dsimp only
    generalize l2tpSessSetup env u sess.session_id = outcome at set ⊢
    obtain ⟨configured, x⟩ := outcome
    cases configured with
    | false => exact ⟨nofun, set.1⟩
    | true =>
        have established := settle x set.1 fun other member its reply => by
          rw [set.2 rfl other member its] at reply
          cases reply
        have sent := timed_ctrlSend env established now.peer_id .iccn now.my_avps
        exact ⟨fun _ => sent, sent.mono fun other kept => .inr kept.2⟩

theorem timed_handleXccn (held : strict sess.session_id) (off : w.Off sess.session_id)
    (avps : List Avp) :
    Ends AnyFault (TimedHandled strict sess.session_id)
      (l2tpHandleXccn env w sess avps ptrs) := by
  have noted : (w.setSess sess.session_id fun sess =>
      { sess with
        peer_avps := some avps, dseq_required := (ptrs .sequencingRequired).isSome }).Timed
      strict := timed.touch sess.session_id fun _ => ⟨rfl, rfl, rfl, rfl, rfl, rfl⟩
  unfold l2tpHandleXccn
  split
  · exact TimedHandled.of_timed held timed
  · exact TimedHandled.of_timed held (timed_sessSetup env noted (off_setSess off fun _ => rfl)).1

theorem timed_handleOcrp (held : strict sess.session_id)
    (lns : ∀ other ∈ w.ctrl.sessions, other.session_id = sess.session_id →
      other.side = .sideLns) :
    Ends AnyFault (TimedHandled strict sess.session_id) (l2tpHandleOcrp w sess ptrs) := by
  unfold l2tpHandleOcrp
  split
  · exact TimedHandled.of_timed held timed
  apply Ends.bind (any_follow ptrs _)
  intro sessionid _
  apply TimedHandled.of_timed held
  refine timed.setSess sess.session_id (fun _ => rfl) fun other member its timely => ?_
  exact ⟨fun _ => .inr rfl, timely.lac, fun _ => lns other member its, nofun⟩

theorem timed_handleCdn :
    Ends AnyFault (TimedHandled strict sess.session_id) (l2tpHandleCdn env w sess ptrs) := by
  have noted : (w.setSess sess.session_id fun sess => { sess with peer_notified := true }).Timed
      strict := timed.touch sess.session_id fun _ => ⟨rfl, rfl, rfl, rfl, rfl, rfl⟩
  unfold l2tpHandleCdn
  apply Ends.bind (any_follow ptrs _)
  intro errresultcode _
  have closed := timed_sessClose_strict env noted sess.session_id errresultcode.result
    errresultcode.error (some (avpCstr errresultcode.errmsg))
  exact ⟨fun _ => closed, closed.mono fun _ kept => .inr kept.2⟩

variable (timely : env.Timely)
include timely

/-- The handlers of a session's messages, for a session whose set-up has not failed. A CDN may
come to any session. -/
theorem timed_sessHandler {msgtype : L2tpMsgType}
    (held : strict sess.session_id ∨ msgtype = .cdn) (off : w.Off sess.session_id)
    (side : ∀ other ∈ w.ctrl.sessions, other.session_id = sess.session_id →
      (msgtype = .icrp → other.side = .sideLac) ∧ (msgtype = .ocrp → other.side = .sideLns))
    (avps : List Avp) :
    Ends AnyFault (TimedHandled strict sess.session_id)
      (l2tpSessHandler env w sess avps ptrs msgtype) := by
  cases msgtype with
  | icrp =>
      exact timed_handleIcrp env timed ptrs (held.resolve_right nofun) off
        fun other member its => (side other member its).1 rfl
  | ocrp =>
      exact timed_handleOcrp timed ptrs (held.resolve_right nofun)
        fun other member its => (side other member its).2 rfl
  | iccn => exact timed_handleXccn env timed ptrs (held.resolve_right nofun) off avps
  | occn => exact timed_handleXccn env timed ptrs (held.resolve_right nofun) off avps
  | cdn => exact timed_handleCdn env timed ptrs
  | wen =>
      change Ends AnyFault _ (l2tpHandleWen env w sess ptrs)
      unfold l2tpHandleWen
      split
      · exact TimedHandled.of_timed (held.resolve_right nofun) timed
      split
      · exact TimedHandled.of_timed (held.resolve_right nofun) timed
      apply Ends.bind (any_follow ptrs _)
      intro errors _
      apply Ends.bind (timed_callback env timed timely _)
      exact fun _ told => TimedHandled.of_timed (held.resolve_right nofun) told
  | sli =>
      change Ends AnyFault _ (l2tpHandleSli env w sess ptrs)
      unfold l2tpHandleSli
      split
      · exact TimedHandled.of_timed (held.resolve_right nofun) timed
      apply Ends.bind (any_follow ptrs _)
      intro accm _
      apply Ends.bind (timed_callback env timed timely _)
      exact fun _ told => TimedHandled.of_timed (held.resolve_right nofun) told
  | _ => exact TimedHandled.of_timed (held.resolve_right nofun) timed

end Handlers

section Messages

variable (env : L2tpEnv) {strict : UInt16 → Prop} {w : L2tpWorld} (timed : w.Timed strict)
  (ptrs : AvpPtrs)

/-- Both sides have answered for the session and it is still not set up. -/
def L2tpSess.Failed (sess : L2tpSess) : Prop :=
  sess.state = .waitReply ∧ sess.link_responded = true ∧ sess.peer_responded = true

/-- No session has a failed set-up, unless the connection ends. -/
def L2tpWorld.Held (w : L2tpWorld) : Prop :=
  w.Timed (fun _ => True) ∨ (w.ctrl.state = .dying ∧ w.Timed fun _ => False)

theorem matches_of_mismatch {info : L2tpMsgInfo} {sess : L2tpSess}
    {valid_states : List L2tpSessState} {valid_orig : List L2tpOrig} {valid_side : List L2tpSide}
    (none : l2tpSessMismatch info sess valid_states valid_orig valid_side = none) :
    sess.state ∈ valid_states ∧ sess.side ∈ valid_side := by
  unfold l2tpSessMismatch at none
  dsimp only at none
  split_ifs at none with state orig side
  exact ⟨state, side⟩

/-- An ICRP is for the LAC and an OCRP for the LNS, and but for a CDN only an ICRP comes to
a LAC that waits for a reply. -/
theorem l2tpMsgInfo_sides : ∀ info ∈ l2tpMsgInfo,
    match info.expected with
    | .ctrl _ => True
    | .sess valid_states _ valid_side =>
        (info.type = .icrp → valid_side = [.sideLac]) ∧
          (info.type = .ocrp → valid_side = [.sideLns]) ∧
          (.waitReply ∈ valid_states → .sideLac ∈ valid_side →
            info.type = .icrp ∨ info.type = .cdn) := by
  simp [l2tpMsgInfo]

include timed

theorem timed_sessMessage (timely : env.Timely) (session_id : UInt16) {info : L2tpMsgInfo}
    (listed : info ∈ l2tpMsgInfo) {valid_states : List L2tpSessState}
    {valid_orig : List L2tpOrig} {valid_side : List L2tpSide}
    (expected : info.expected = .sess valid_states valid_orig valid_side) (avps : List Avp)
    (held : ∀ sess, l2tpFindSess w session_id info.type = some sess →
      sess.state ∈ valid_states → sess.side ∈ valid_side →
      strict sess.session_id ∨ info.type = .cdn) :
    Ends AnyFault (fun v : L2tpWorld =>
        v.Timed strict ∨ (v.ctrl.state = .dying ∧ v.Timed fun _ => False))
      (l2tpSessMessage env w session_id info valid_states valid_orig valid_side avps ptrs) := by
  unfold l2tpSessMessage
  cases found : l2tpFindSess w session_id info.type with
  | none => exact .inl timed
  | some sess =>
      dsimp only
      cases mismatch : l2tpSessMismatch info sess valid_states valid_orig valid_side with
      | some ebuf => exact .inl (timed_ctrlClose env timed ..)
      | none =>
          obtain ⟨state, side⟩ := matches_of_mismatch mismatch
          have sides := l2tpMsgInfo_sides info listed
          rw [expected] at sides
          have unique : ∀ other ∈ w.ctrl.sessions, other.session_id = sess.session_id →
              other = sess := fun other member its =>
            List.inj_on_of_nodup_map timed.distinct member (mem_of_findSess found) its
          have cancelled : (w.setSess sess.session_id fun sess =>
              { sess with reply_timer := false }).Timed strict := by
            refine timed.setSess sess.session_id (fun _ => rfl) fun other _ _ timely => ?_
            exact ⟨nofun, timely.lac, timely.connect, fun reply link peer =>
              ⟨rfl, (timely.both reply link peer).2⟩⟩
          have off : (w.setSess sess.session_id fun sess =>
              { sess with reply_timer := false }).Off sess.session_id := by
            intro other member its
            obtain ⟨before, _, rfl⟩ := List.mem_map.mp member
            split at its
            case isTrue here => rw [if_pos here]
            case isFalse away => exact absurd its away
          have proper : ∀ other ∈ (w.setSess sess.session_id fun sess =>
              { sess with reply_timer := false }).ctrl.sessions,
              other.session_id = sess.session_id →
              (info.type = .icrp → other.side = .sideLac) ∧
                (info.type = .ocrp → other.side = .sideLns) := by
            intro other member its
            obtain ⟨before, listed, rfl⟩ := List.mem_map.mp member
            split at its
            case isFalse away => exact absurd its away
            case isTrue here =>
              rw [if_pos here, unique before listed here]
              refine ⟨fun icrp => ?_, fun ocrp => ?_⟩
              · rw [sides.1 icrp] at side
                exact List.mem_singleton.mp side
              · rw [sides.2.1 ocrp] at side
                exact List.mem_singleton.mp side
          apply Ends.bind (timed_sessHandler env cancelled ptrs timely (held sess found state side)
            off proper avps)
          intro ⟨handled, v⟩ ⟨success, failure⟩
          cases handled with
          | false =>
              refine .inr ⟨ctrlClose_dying env v _ _ _, ?_⟩
              exact (timed_ctrlClose env failure ..).mono fun _ => False.elim
          | true =>
              have checked : (l2tpSessCheckReply v sess.session_id).Timed
                  fun other => other = sess.session_id ∨ strict other := by
                refine timed_sessCheckReply (success rfl) sess.session_id ?_
                intro other member its reply ⟨link, peer⟩
                exact (((success rfl).each other member).both reply link peer).2 (.inl its)
              exact .inl (checked.mono fun _ => .inr)

omit timed in
/-- A dying connection takes no message but StopCCN and HELLO. -/
theorem l2tpMsgInfo_dying : ∀ info ∈ l2tpMsgInfo,
    match info.expected with
    | .ctrl valid_states => .dying ∈ valid_states → info.type = .stopCcn ∨ info.type = .hello
    | .sess _ _ _ => True := by
  simp [l2tpMsgInfo]

omit timed in
theorem L2tpWorld.Quiet.dying {u v : L2tpWorld} (quiet : u.Quiet v)
    (dying : u.ctrl.state = .dying) : v.ctrl.state = .dying := by
  rcases quiet.state with same | ends
  · exact same.trans dying
  · exact ends

omit timed in
theorem held_close (held : w.Held) (result error : UInt16) (errmsg : Option Bytes) :
    (l2tpCtrlClose env w result error errmsg).Held := by
  rcases held with timed | ⟨_, timed⟩
  · exact .inl (timed_ctrlClose env timed ..)
  · exact .inr ⟨ctrlClose_dying env w .., timed_ctrlClose env timed ..⟩

omit timed in
theorem held_ctrlMessage (timely : env.Timely) (held : w.Held) {info : L2tpMsgInfo}
    (listed : info ∈ l2tpMsgInfo) {valid_states : List L2tpCtrlState}
    (expected : info.expected = .ctrl valid_states) (avps : List Avp) :
    Ends AnyFault L2tpWorld.Held (l2tpCtrlMessage env w info valid_states avps ptrs) := by
  unfold l2tpCtrlMessage
  split
  · split
    · exact held
    · exact held_close env held ..
  case isFalse valid =>
  have still : w.Quiet (w.setCtrl fun ctrl => { ctrl with reply_timer := false }) :=
    quiet_setCtrl (.refl w) _ rfl rfl rfl rfl
  rcases held with timed | ⟨dying, timed⟩
  · have cancelled : (w.setCtrl fun ctrl => { ctrl with reply_timer := false }).Timed
        fun _ => True := timed.same rfl
    apply Ends.bind (timed_ctrlHandler env cancelled ptrs timely (fun _ => trivial) avps info.type)
    intro ⟨handled, v⟩ kept
    cases handled with
    | true => exact .inl (L2tpWorld.Timed.same kept rfl)
    | false => exact .inl (timed_ctrlClose env kept ..)
  · have cancelled : (w.setCtrl fun ctrl => { ctrl with reply_timer := false }).Timed
        fun _ => False := timed.same rfl
    have row := l2tpMsgInfo_dying info listed
    rw [expected] at row
    have ends : Ends AnyFault (fun handled : Bool × L2tpWorld =>
        w.Quiet handled.2 ∧ handled.2.Timed fun _ => False)
        (l2tpCtrlHandler env (w.setCtrl fun ctrl => { ctrl with reply_timer := false }) avps ptrs
          info.type) := by
      rcases row (dying ▸ not_not.mp valid) with stop | hello
      · rw [stop]
        exact (quiet_handleStopCcn env still ptrs).and (timed_handleStopCcn env cancelled ptrs)
      · rw [hello]
        exact ⟨still, cancelled⟩
    apply Ends.bind ends
    intro ⟨handled, v⟩ ⟨quiet, kept⟩
    cases handled with
    | true => exact .inr ⟨quiet.dying dying, L2tpWorld.Timed.same kept rfl⟩
    | false => exact .inr ⟨ctrlClose_dying env v _ _ _, timed_ctrlClose env kept ..⟩

omit timed in
theorem held_sessMessage (timely : env.Timely) (held : w.Held) (session_id : UInt16)
    {info : L2tpMsgInfo} (listed : info ∈ l2tpMsgInfo) {valid_states : List L2tpSessState}
    {valid_orig : List L2tpOrig} {valid_side : List L2tpSide}
    (expected : info.expected = .sess valid_states valid_orig valid_side) (avps : List Avp)
    (unfailed : info.type = .icrp → ∀ sess, l2tpFindSess w session_id .icrp = some sess →
      ¬sess.Failed) :
    Ends AnyFault L2tpWorld.Held
      (l2tpSessMessage env w session_id info valid_states valid_orig valid_side avps ptrs) := by
  rcases held with timed | ⟨dying, timed⟩
  · exact timed_sessMessage env timed ptrs timely session_id listed expected avps
      fun _ _ _ _ => .inl trivial
  -- but for the session it is for, the message needs nothing of the others
  have strictly : w.Timed fun other => ∃ sess,
      l2tpFindSess w session_id info.type = some sess ∧ other = sess.session_id ∧
        ¬sess.Failed := by
    refine ⟨timed.distinct, fun other member => ?_⟩
    obtain ⟨timer, lac, connect, both⟩ := timed.each other member
    refine ⟨timer, lac, connect, fun reply link peer => ⟨(both reply link peer).1, ?_⟩⟩
    rintro ⟨sess, found, its, open'⟩
    have same := List.inj_on_of_nodup_map timed.distinct member (mem_of_findSess found) its
    subst same
    exact open' ⟨reply, link, peer⟩
  have handled := timed_sessMessage env strictly ptrs timely session_id listed expected avps ?_
  · refine (handled.and (quiet_sessMessage env (.refl w) ptrs session_id info valid_states
      valid_orig valid_side avps)).mono ?_
    rintro v ⟨kept | ⟨ends, kept⟩, quiet⟩
    · exact .inr ⟨quiet.dying dying, kept.mono fun _ => False.elim⟩
    · exact .inr ⟨ends, kept⟩
  · intro sess found state side
    by_cases failed : sess.Failed
    · have sides := l2tpMsgInfo_sides info listed
      rw [expected] at sides
      have lac := (timed.each sess (mem_of_findSess found)).lac (.inl failed.2.1)
      rw [failed.1] at state
      rw [lac] at side
      rcases sides.2.2 state side with icrp | cdn
      · rw [icrp] at found
        exact absurd failed (unfailed icrp sess found)
      · exact .inr cdn
    · exact .inl ⟨sess, found, rfl, failed⟩

def L2tpWorld.RepeatsIn (w : L2tpWorld) (session_id : UInt16) (avps : List Avp) : Prop :=
  ∃ first rest sess, avps = first :: rest ∧ avpWord16 first 0 = .ok L2tpMsgType.icrp.num ∧
    w.sess? session_id = some sess ∧ sess.Failed

omit timed in
theorem held_message (timely : env.Timely) (held : w.Held) (session_id : UInt16)
    {avps : List Avp} (unique : ¬w.RepeatsIn session_id avps) :
    Ends AnyFault L2tpWorld.Held (l2tpMessage env w session_id avps) := by
  refine ends_message env session_id avps held (fun _ _ _ => held_close env held ..) ?_ ?_
  · intro info listed _ expects ptrs _
    exact held_ctrlMessage env ptrs timely held listed expects avps
  · intro info listed _ _ _ expects first rest same word ptrs
    refine held_sessMessage env ptrs timely held session_id listed expects avps ?_
    intro icrp sess its failed
    unfold l2tpFindSess at its
    split at its
    · simp at its
    · rw [icrp] at word
      exact unique ⟨first, rest, sess, same, word, its, failed⟩

end Messages

section Runs

variable (env : L2tpEnv) {strict : UInt16 → Prop} {w : L2tpWorld}

def L2tpWorld.Repeats (env : L2tpEnv) (w : L2tpWorld) (packet : Bytes) : Prop :=
  ∃ a b data avps, packet.take 4096 = a :: b :: data ∧
    avpUnpack env.md5 pppL2tpAvpInfoList w.ctrl.secret data = .ok avps ∧
    w.RepeatsIn (be16 a b) avps

/-- The link side does not connect a session of its own that the peer has already answered,
and the peer does not answer once more for a session whose set-up has failed. -/
def EventTimely (w : L2tpWorld) : L2tpEvent → Prop
  | .call call => CallTimely w call
  | .received (some packet) => ¬w.Repeats env packet
  | _ => True

variable (timely : env.Timely)
include timely

theorem held_received (held : w.Held) {packet : Bytes} (unique : ¬w.Repeats env packet) :
    Ends AnyFault L2tpWorld.Held (l2tpDataEvent env w (some packet)) := by
  have ticking : (w.setCtrl fun ctrl => { ctrl with idle_timer := true }).Held :=
    held.imp (fun timed => timed.same rfl) fun ⟨dying, timed⟩ => ⟨dying, timed.same rfl⟩
  unfold l2tpDataEvent l2tpPacket
  dsimp only
  split
  case h_2 => trivial
  case h_1 a b data taken =>
    split
    · exact held_close env ticking ..
    · exact held_close env ticking ..
    · exact held_close env ticking ..
    case h_4 avps unpacked =>
      cases l2tpCtrlDump env avps with
      | error fault => trivial
      | ok names =>
          refine held_message env timely ticking (be16 a b) fun repeated => ?_
          exact unique ⟨a, b, data, avps, taken, unpacked, repeated⟩

omit timely in
theorem timed_sessExpire (timed : w.Timed strict) (session_id : UInt16)
    (pending : L2tpSess → Bool) {expire : L2tpSess → Except L2tpFault L2tpWorld}
    (expires : ∀ sess, Ends AnyFault (L2tpWorld.Timed strict) (expire sess)) :
    Ends AnyFault (L2tpWorld.Timed strict) (l2tpSessExpire w session_id pending expire) := by
  unfold l2tpSessExpire
  split
  · exact timed
  split
  · exact expires _
  · exact timed

theorem timed_event (timed : w.Timed strict) {event : L2tpEvent}
    (unread : ∀ packet, event ≠ .received (some packet)) (proper : EventTimely env w event) :
    Ends AnyFault (L2tpWorld.Timed strict) (l2tpStep env w event) := by
  unfold l2tpStep
  split
  · exact timed
  cases event with
  | call call => exact timed_call env timed proper
  | received packet =>
      cases packet with
      | none =>
          have ticking : (w.setCtrl fun ctrl => { ctrl with idle_timer := true }).Timed strict :=
            timed.same rfl
          exact timed_ctrlClose env ticking ..
      | some packet => exact absurd rfl (unread packet)
  | nodeMessage msg =>
      cases msg with
      | unreadable => exact timed_ctrlClose env timed ..
      | ackFailure => exact timed_ctrlClose env timed ..
      | other => exact timed
  | tieLost =>
      dsimp only
      split
      · exact timed_ctrlClose env timed ..
      · exact timed
  | destroy => exact timed_ctrlDestroy env timed
  | idleTimer =>
      dsimp only
      split
      · have ticking : (w.setCtrl fun ctrl => { ctrl with idle_timer := true }).Timed strict :=
          timed.same rfl
        exact timed_ctrlSend env ticking ..
      · exact timed
  | replyTimer =>
      dsimp only
      split
      · have off : (w.setCtrl fun ctrl => { ctrl with reply_timer := false }).Timed strict :=
          timed.same rfl
        exact timed_ctrlClose env off ..
      · exact timed
  | closeTimer =>
      dsimp only
      split
      · exact timed_ctrlDoClose env timed timely
      · exact timed
  | deathTimer =>
      have off : (w.setCtrl fun ctrl => { ctrl with death_timer := none }).Timed strict :=
        timed.same rfl
      dsimp only
      split
      · exact timed
      · unfold l2tpUnusedTimeout
        split
        · trivial
        split
        · trivial
        · exact timed_ctrlClose env off ..
      · unfold l2tpCtrlDeathTimeout
        apply Ends.bind (timed_callback env off timely _)
        exact fun v told => timed_ctrlDestroy env told
  | sessReplyTimer session_id =>
      refine timed_sessExpire timed session_id _ fun sess => ?_
      have off : (w.setSess session_id fun sess => { sess with reply_timer := false }).Timed
          strict := by
        refine timed.setSess session_id (fun _ => rfl) fun other _ _ kept => ?_
        exact ⟨nofun, kept.lac, kept.connect, fun reply link peer =>
          ⟨rfl, (kept.both reply link peer).2⟩⟩
      exact timed_ctrlClose env off ..
  | sessNotifyTimer session_id =>
      refine timed_sessExpire timed session_id _ fun sess => ?_
      have off : (w.setSess sess.session_id fun sess => { sess with notify_timer := false }).Timed
          strict := timed.touch sess.session_id fun _ => ⟨rfl, rfl, rfl, rfl, rfl, rfl⟩
      exact timed_callback env off timely _
  | sessCloseTimer session_id =>
      refine timed_sessExpire timed session_id _ fun sess => ?_
      exact timed_sessDoClose env timed timely session_id
  | sessDeathTimer session_id =>
      refine timed_sessExpire timed session_id _ fun sess => ?_
      exact timed_sessDestroy env timed _

theorem held_step (held : w.Held) {event : L2tpEvent} (proper : EventTimely env w event) :
    Ends AnyFault L2tpWorld.Held (l2tpStep env w event) := by
  by_cases packet : ∃ packet, event = .received (some packet)
  · obtain ⟨packet, rfl⟩ := packet
    unfold l2tpStep
    split
    · exact held
    · exact held_received env timely held proper
  have unread : ∀ packet, event ≠ .received (some packet) :=
    fun taken is => packet ⟨taken, is⟩
  rcases held with timed | ⟨dying, timed⟩
  · exact (timed_event env timely timed unread proper).mono fun _ => .inl
  · refine ((quiet_event env w unread).and (timed_event env timely timed unread proper)).mono ?_
    exact fun v ⟨quiet, kept⟩ => .inr ⟨quiet.dying dying, kept⟩

omit timely in
theorem held_start (setup : L2tpSetup) : (l2tpStart env setup).Held := by
  have sessions : (l2tpCtrlCreate setup.avps setup.secret setup.hide_avps setup.tunnel_id
      setup.chal setup.hostname).ctrl.sessions = [] := rfl
  left
  unfold l2tpStart
  dsimp only
  generalize l2tpCtrlCreate setup.avps setup.secret setup.hide_avps setup.tunnel_id
    setup.chal setup.hostname = v at sessions ⊢
  have timed : v.Timed fun _ => True := by
    constructor
    · rw [sessions]
      exact List.nodup_nil
    · rw [sessions]
      exact fun sess member => absurd member List.not_mem_nil
  split
  · unfold l2tpCtrlInitiate
    have waits : (v.setCtrl fun ctrl => { ctrl with state := .waitCtlReply }).Timed
        fun _ => True := timed.same rfl
    exact (timed_ctrlSend env waits ..).same rfl
  · exact timed

/-- In a run of timely events a session's reply timer is pending only while the session waits
for the peer. -/
theorem replyTimer_waiting (setup : L2tpSetup) {events : List L2tpEvent}
    (proper : Transition.Meets
      (fun (r : Except L2tpFault L2tpWorld) event => r.bind fun w => l2tpStep env w event)
      (fun r event => ∀ w, r = .ok w → EventTimely env w event) (.ok (l2tpStart env setup)) events)
    {w : L2tpWorld} (ran : l2tpRun env setup events = .ok w) :
    ∀ sess ∈ w.ctrl.sessions, sess.reply_timer = true → sess.Waiting := by
  have held : Ends AnyFault L2tpWorld.Held (l2tpRun env setup events) := by
    have step : ∀ (r : Except L2tpFault L2tpWorld) event, Ends AnyFault L2tpWorld.Held r →
        (∀ w, r = .ok w → EventTimely env w event) →
        Ends AnyFault L2tpWorld.Held (r.bind fun w => l2tpStep env w event) := by
      intro r event kept allowed
      cases r with
      | error fault => trivial
      | ok v => exact held_step env timely kept (allowed v rfl)
    exact Transition.invariant_run _ step
      (show Ends AnyFault L2tpWorld.Held (.ok (l2tpStart env setup)) from held_start env setup)
      proper
  intro sess member pending
  rcases held.value ran with timed | ⟨_, timed⟩
  · exact (timed.each sess member).waiting pending
  · exact (timed.each sess member).waiting pending

end Runs

/-- A session of the local side that waits for the peer's answer. -/
theorem replyTimer_initiated :
    ∃ w, l2tpRun l2tpCalmEnv { initiates := true }
        [.received (some (l2tpPlainMsg 0 l2tpSccrpAvps)),
          .call (.initiate false false false [])] = .ok w ∧
      w.ctrl.sessions.map (fun sess => (sess.session_id, sess.peer_id, sess.state)) =
        [(1, 0, .waitReply)] ∧
      ∀ sess ∈ w.ctrl.sessions, sess.reply_timer = true → sess.Waiting := by
  obtain ⟨w, ran, -, sessions⟩ := l2tpRun_initiate
  refine ⟨w, ran, sessions, ?_⟩
  refine replyTimer_waiting l2tpCalmEnv (fun _ _ => trivial) { initiates := true } ?_ ran
  refine ⟨fun v started => ?_, fun _ _ => trivial, trivial⟩
  cases started
  rintro ⟨a, b, data, avps, -, -, first, rest, sess, -, -, found, -⟩
  have none : (l2tpStart l2tpCalmEnv { initiates := true }).ctrl.sessions = [] := by rfl
  unfold L2tpWorld.sess? at found
  rw [none] at found
  cases found

def l2tpIcrpAvps : List Avp :=
  [avpOfWord16 .messageType L2tpMsgType.icrp.num, avpOfWord16 .assignedSessionId 5]

/-- With the peer's answer before the local one, an established session has its reply timer. -/
theorem not_replyTimer_waiting :
    ¬ ∀ (env : L2tpEnv) (setup : L2tpSetup) (events : List L2tpEvent) (w : L2tpWorld),
      l2tpRun env setup events = .ok w →
        ∀ sess ∈ w.ctrl.sessions, sess.reply_timer = true → sess.Waiting := by
  intro always
  have ran := l2tpRun_sccrp
    [.call (.initiate false false false []), .received (some (l2tpPlainMsg 1 l2tpIcrpAvps)),
      .call (.connected 1 [])]
  rw [Transition.run_cons, Transition.run_cons, Transition.run_cons, Transition.run_nil] at ran
  have here : ∀ w, ((l2tpEstablished l2tpCalmEnv).bind fun w =>
      l2tpStep l2tpCalmEnv w (.call (.initiate false false false []))) = .ok w →
      w.gone = false := by
    intro w initiated
    have gone : ((l2tpEstablished l2tpCalmEnv).bind fun w =>
        l2tpStep l2tpCalmEnv w (.call (.initiate false false false []))).map
        (fun w => w.gone) = .ok false := by rfl
    rw [initiated] at gone
    exact Except.ok.inj gone
  have answered : (((l2tpEstablished l2tpCalmEnv).bind fun w =>
      l2tpStep l2tpCalmEnv w (.call (.initiate false false false []))).bind fun w =>
        l2tpStep l2tpCalmEnv w (.received (some (l2tpPlainMsg 1 l2tpIcrpAvps)))) =
      ((l2tpEstablished l2tpCalmEnv).bind fun w =>
        l2tpStep l2tpCalmEnv w (.call (.initiate false false false []))).bind fun w =>
          l2tpMessage l2tpCalmEnv (w.setCtrl fun ctrl => { ctrl with idle_timer := true }) 1
            l2tpIcrpAvps := by
    cases initiated : (l2tpEstablished l2tpCalmEnv).bind fun w =>
      l2tpStep l2tpCalmEnv w (.call (.initiate false false false [])) with
    | error fault => rfl
    | ok w => exact l2tpStep_plainMsg l2tpCalmEnv (here w initiated) 1 (by decide) (by decide)
  rw [answered] at ran
  have outcome : ((((l2tpEstablished l2tpCalmEnv).bind fun w =>
      l2tpStep l2tpCalmEnv w (.call (.initiate false false false []))).bind fun w =>
        l2tpMessage l2tpCalmEnv (w.setCtrl fun ctrl => { ctrl with idle_timer := true }) 1
          l2tpIcrpAvps).bind fun w => l2tpStep l2tpCalmEnv w (.call (.connected 1 []))).map
      (fun w => w.ctrl.sessions.map fun sess => (sess.reply_timer, sess.state)) =
      .ok [(true, .established)] := by rfl
  rw [← ran] at outcome
  cases reached : l2tpRun l2tpCalmEnv { initiates := true }
      [.received (some (l2tpPlainMsg 0 l2tpSccrpAvps)), .call (.initiate false false false []),
        .received (some (l2tpPlainMsg 1 l2tpIcrpAvps)), .call (.connected 1 [])] with
  | error fault => rw [reached] at outcome; exact nomatch outcome
  | ok w =>
      rw [reached] at outcome
      have sessions : w.ctrl.sessions.map (fun sess => (sess.reply_timer, sess.state)) =
          [(true, .established)] := Except.ok.inj outcome
      cases listed : w.ctrl.sessions with
      | nil => rw [listed] at sessions; exact nomatch sessions
      | cons sess others =>
          rw [listed, List.map_cons] at sessions
          have fields := (List.cons.inj sessions).1
          simp only [Prod.mk.injEq] at fields
          obtain ⟨pending, established⟩ := fields
          have waits := always _ _ _ w reached sess (by rw [listed]; exact List.mem_cons_self ..)
            pending
          unfold L2tpSess.Waiting at waits
          rw [established] at waits
          simp at waits

end Mpd
