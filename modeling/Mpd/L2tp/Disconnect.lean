import Mpd.L2tp.Lifetime
import Mpd.L2tp.Unpacked

/-! Which session a Call-Disconnect-Notify closes. -/

set_option autoImplicit false

namespace Mpd

open Outcome L2tpBook L2tpWorld

/-- A Call-Disconnect-Notify with the AVPs that it must carry. -/
structure IsCdn (avps : List Avp) (assigned : UInt16) : Prop where
  messageType : ∃ first, avps.head? = some first ∧ first.type = AvpType.messageType.num ∧
    avpWord16 first 0 = .ok L2tpMsgType.cdn.num
  resultCode : ∃ avp ∈ avps, avp.type = AvpType.resultCode.num
  assignedSessionId : ∃ avp ∈ avps, avp.type = AvpType.assignedSessionId.num
  assigned : ∃ ptrs : AvpPtrs, avpList2ptrs avps = .ok ptrs ∧
    ptrs .assignedSessionId = some (show AvpData .assignedSessionId from assigned)

/-- The session that a CDN identifies, by our id or else by the peer's. -/
def l2tpIdentified (w : L2tpWorld) (session_id assigned : UInt16) : Option UInt16 :=
  if session_id ≠ 0 then (w.sess? session_id).map (·.session_id)
  else (w.ctrl.sessions.find? fun sess => sess.peer_id = assigned).map (·.session_id)

def L2tpWorld.stateOf (w : L2tpWorld) (session_id : UInt16) : Option L2tpSessState :=
  (w.sess? session_id).map (·.state)

/-- Of the sessions and the tunnel itself nothing but the target is closed. -/
structure ClosesOnly (w after : L2tpWorld) (target : Option UInt16) : Prop where
  tunnel : after.ctrl.state = w.ctrl.state
  sessions : ∀ session_id, after.stateOf session_id =
    if target = some session_id then some .dying else w.stateOf session_id

section Closes

variable {w after : L2tpWorld}

theorem stateOf_book (w : L2tpWorld) (session_id : UInt16) : w.stateOf session_id =
    (w.book.sessions.find? (·.session_id = session_id)).map (·.state) := by
  rw [L2tpWorld.book, List.find?_map, Option.map_map]
  rfl

theorem sess?_of_mem (kept : w.book.Kept) {sess : L2tpSess} (listed : sess ∈ w.ctrl.sessions) :
    w.sess? sess.session_id = some sess := by
  cases found : w.sess? sess.session_id with
  | none =>
      have member : sess.book ∈ w.book.sessions := List.mem_map_of_mem listed
      exact absurd rfl (fresh_of_sess? found sess.book member)
  | some other =>
      obtain ⟨also, same⟩ := sess?_mem found
      have distinct : (w.ctrl.sessions.map (·.session_id)).Nodup := by
        have ids := kept.distinct
        rw [L2tpWorld.book, List.map_map] at ids
        exact ids
      rw [List.inj_on_of_nodup_map distinct also listed same]

theorem stateOf_of_mem (kept : w.book.Kept) {sess : L2tpSess} (listed : sess ∈ w.ctrl.sessions) :
    w.stateOf sess.session_id = some sess.state := by
  rw [L2tpWorld.stateOf, sess?_of_mem kept listed, Option.map_some]

theorem ClosesOnly.none (same : after.book = w.book) : ClosesOnly w after none where
  tunnel := congrArg L2tpBook.state same
  sessions := fun session_id => by
    rw [stateOf_book, same, ← stateOf_book]
    rfl

/-- A session that is closed, or was dying before. -/
theorem ClosesOnly.some (kept : w.book.Kept) {sess : L2tpSess} (listed : sess ∈ w.ctrl.sessions)
    (closed : after.book = w.book.setSess sess.session_id closeSess ∨
      after.book = w.book ∧ sess.state = .dying) :
    ClosesOnly w after (some sess.session_id) := by
  have there := stateOf_of_mem kept listed
  obtain closed | ⟨same, dying⟩ := closed
  · refine ⟨congrArg L2tpBook.state closed, fun session_id => ?_⟩
    rw [stateOf_book after, closed, L2tpBook.setSess, List.find?_map]
    have ids : ((fun other : L2tpSessBook => decide (other.session_id = session_id)) ∘
        fun other => if other.session_id = sess.session_id then closeSess other else other) =
        fun other => decide (other.session_id = session_id) := by
      funext other
      dsimp only [Function.comp_apply]
      split <;> rfl
    rw [ids, Option.map_map]
    rw [stateOf_book] at there ⊢
    cases found : w.book.sessions.find? (·.session_id = session_id) with
    | none =>
        rw [Option.map_none, Option.map_none, if_neg]
        intro same
        cases Option.some.inj same
        rw [found] at there
        cases there
    | some book =>
        have its : book.session_id = session_id := by simpa using List.find?_some found
        rw [Option.map_some, Option.map_some, Function.comp_apply]
        by_cases same : sess.session_id = session_id
        · rw [if_pos (its.trans same.symm), if_pos (congrArg Option.some same)]
          rfl
        · rw [if_neg fun is => same (is.symm.trans its),
            if_neg fun is => same (Option.some.inj is)]
  · refine ⟨congrArg L2tpBook.state same, fun session_id => ?_⟩
    rw [stateOf_book, same, ← stateOf_book]
    split
    · rename_i same
      cases Option.some.inj same
      rw [there, dying]
    · rfl

end Closes

section Cdn

variable (env : L2tpEnv) {w : L2tpWorld}

/-- The CDN that would answer a CDN is not sent. -/
theorem book_sessClose_notified {sess : L2tpSess}
    (found : w.sess? sess.session_id = some sess) (notified : sess.peer_notified = true)
    (result error : UInt16) (errmsg : Option Bytes) :
    (l2tpSessClose env w sess.session_id result error errmsg).book =
        w.book.setSess sess.session_id closeSess ∨
      (l2tpSessClose env w sess.session_id result error errmsg).book = w.book ∧
        sess.state = .dying := by
  unfold l2tpSessClose
  rw [found]
  dsimp only
  by_cases dying : sess.state = .dying
  · rw [if_pos dying]
    exact Or.inr ⟨rfl, dying⟩
  rw [if_neg dying, if_pos notified]
  have first := book_setSess w sess.session_id
    (f := fun sess =>
      { sess with state := .dying, result := result, error := error, errmsg := errmsg })
    (g := fun sess => { sess with state := .dying }) fun _ => rfl
  have last := fun v : L2tpWorld => book_setSess v sess.session_id
    (f := fun sess =>
      { sess with
        notify_timer := false, reply_timer := false, death_timer := false, close_timer := true })
    (g := fun sess => { sess with death_timer := false, close_timer := true }) fun _ => rfl
  rw [last, first]
  exact Or.inl (setSess_setSess w.book sess.session_id (fun _ => rfl) fun _ => rfl)

theorem sess?_setSess {session_id : UInt16} {f : L2tpSess → L2tpSess}
    (ids : ∀ sess, (f sess).session_id = sess.session_id) {sess : L2tpSess}
    (found : w.sess? session_id = some sess) :
    (w.setSess session_id f).sess? session_id = some (f sess) := by
  obtain ⟨-, its⟩ := sess?_mem found
  unfold L2tpWorld.sess? L2tpWorld.setSess L2tpWorld.setCtrl
  dsimp only
  have same : ((fun other : L2tpSess => decide (other.session_id = session_id)) ∘
      fun other => if other.session_id = session_id then f other else other) =
      fun other => decide (other.session_id = session_id) := by
    funext other
    dsimp only [Function.comp_apply]
    split
    · rw [ids]
    · rfl
  rw [List.find?_map, same]
  unfold L2tpWorld.sess? at found
  rw [found, Option.map_some, if_pos its]

theorem closesOnly_handleCdn (kept : w.book.Kept) {sess now : L2tpSess}
    (found : w.sess? sess.session_id = some now) {ptrs : AvpPtrs}
    (present : (ptrs .resultCode).isSome = true) :
    ∃ after, l2tpHandleCdn env w sess ptrs = .ok (true, after) ∧
      ClosesOnly w after (some sess.session_id) := by
  obtain ⟨errresultcode, pointer⟩ := Option.isSome_iff_exists.mp present
  obtain ⟨listed, its⟩ := sess?_mem found
  unfold l2tpHandleCdn AvpPtrs.follow
  rw [pointer]
  refine ⟨_, rfl, ?_⟩
  have noted := book_setSess_same w sess.session_id
    (f := fun sess => { sess with peer_notified := true }) fun _ => rfl
  have has := sess?_setSess (f := fun sess => { sess with peer_notified := true })
    (fun _ => rfl) found
  generalize (w.setSess sess.session_id fun sess => { sess with peer_notified := true }) = v
    at noted has ⊢
  have closed := @book_sessClose_notified env v { now with peer_notified := true }
    (its.symm ▸ has) rfl errresultcode.result errresultcode.error
    (some (avpCstr errresultcode.errmsg))
  rw [noted] at closed
  rw [← its]
  exact ClosesOnly.some kept listed closed

theorem ClosesOnly.same {before after middle last : L2tpWorld} {target : Option UInt16}
    (closes : ClosesOnly before after target) (first : before.book = middle.book)
    (second : last.book = after.book) : ClosesOnly middle last target := by
  obtain ⟨tunnel, sessions⟩ := closes
  refine ⟨(congrArg L2tpBook.state second).trans
    (tunnel.trans (congrArg L2tpBook.state first)), fun session_id => ?_⟩
  rw [stateOf_book last, second, ← stateOf_book, sessions, stateOf_book middle, ← first,
    ← stateOf_book]

theorem l2tpMsgInfo_cdn : l2tpMsgInfo.find? (fun info => info.type.num = L2tpMsgType.cdn.num) =
    some ⟨"CDN", .cdn,
      .sess [.waitReply, .waitConnect, .waitAnswer, .established, .dying]
        [.origLocal, .origRemote] [.sideLac, .sideLns],
      [.resultCode, .assignedSessionId]⟩ := by rfl

/-- A CDN is expected in every state of a session, whoever originated it. -/
theorem l2tpSessMismatch_cdn (sess : L2tpSess) (info : L2tpMsgInfo) :
    l2tpSessMismatch info sess [.waitReply, .waitConnect, .waitAnswer, .established, .dying]
      [.origLocal, .origRemote] [.sideLac, .sideLns] = none := by
  unfold l2tpSessMismatch
  have state : sess.state ∈
      [L2tpSessState.waitReply, .waitConnect, .waitAnswer, .established, .dying] := by
    cases sess.state <;> decide
  have orig : sess.orig ∈ [L2tpOrig.origLocal, .origRemote] := by cases sess.orig <;> decide
  have side : sess.side ∈ [L2tpSide.sideLac, .sideLns] := by cases sess.side <;> decide
  rw [if_neg (not_not.mpr state), if_neg (not_not.mpr orig), if_neg (not_not.mpr side)]

theorem closesOnly_message (kept : w.book.Kept) (session_id : UInt16) {avps : List Avp}
    (known : ∀ avp ∈ avps, avp.Known pppL2tpAvpInfoList) {assigned : UInt16}
    (cdn : IsCdn avps assigned) :
    ∃ after, l2tpMessage env w session_id avps = .ok after ∧
      ClosesOnly w after ((l2tpFindSess w session_id .cdn).map (·.session_id)) := by
  obtain ⟨⟨first, head, isType, word⟩, ⟨code, isCode, codeType⟩, ⟨sid, isSid, sidType⟩, -⟩ := cdn
  obtain ⟨ptrs, stored, filled⟩ := ptrs_of_known known
  have missing : l2tpMissing ⟨"CDN", .cdn,
      .sess [.waitReply, .waitConnect, .waitAnswer, .established, .dying]
        [.origLocal, .origRemote] [.sideLac, .sideLns],
      [.resultCode, .assignedSessionId]⟩ avps = none := by
    unfold l2tpMissing
    rw [List.find?_eq_none]
    intro type member
    simp only [List.all_eq_true, decide_eq_true_eq, not_forall, not_not]
    cases member with
    | head => exact ⟨code, isCode, codeType⟩
    | tail _ member =>
        cases member with
        | head => exact ⟨sid, isSid, sidType⟩
        | tail _ member => exact nomatch member
  cases avps with
  | nil => exact nomatch head
  | cons avp avps =>
      cases Option.some.inj head
      unfold l2tpMessage
      dsimp only
      rw [if_neg (not_not.mpr isType), word]
      dsimp only [bind, Except.bind]
      rw [l2tpMsgInfo_cdn]
      dsimp only
      unfold l2tpKnownMessage
      rw [missing]
      dsimp only
      rw [stored]
      dsimp only [bind, Except.bind]
      unfold l2tpSessMessage
      cases found : l2tpFindSess w session_id .cdn with
      | none => exact ⟨w, rfl, ClosesOnly.none rfl⟩
      | some sess =>
          dsimp only
          rw [l2tpSessMismatch_cdn]
          dsimp only
          have listed := mem_of_findSess found
          have off := book_setSess_same w sess.session_id
            (f := fun sess => { sess with reply_timer := false }) fun _ => rfl
          have has := sess?_setSess (f := fun sess => { sess with reply_timer := false })
            (fun _ => rfl) (sess?_of_mem kept listed)
          generalize (w.setSess sess.session_id fun sess => { sess with reply_timer := false }) = v
            at off has ⊢
          obtain ⟨after, handled, closes⟩ := closesOnly_handleCdn env (off ▸ kept) has
            (filled code isCode .resultCode codeType)
          change ∃ after, (l2tpHandleCdn env v sess ptrs).bind _ = _ ∧ _
          rw [handled]
          refine ⟨_, rfl, closes.same off ?_⟩
          exact book_setSess_same after sess.session_id fun _ => rfl

/-- The step of a control connection that receives a CDN. -/
theorem closesOnly_step (kept : w.book.Kept) (here : w.gone = false) {buf : Bytes} {a b : UInt8}
    {data : Bytes} (packet : buf.take 4096 = a :: b :: data) {avps : List Avp}
    (unpacked : avpUnpack env.md5 pppL2tpAvpInfoList w.ctrl.secret data = .ok avps)
    {assigned : UInt16} (cdn : IsCdn avps assigned) :
    ((∃ after, l2tpStep env w (.received (some buf)) = .ok after) ↔ l2tpDumpSafe env avps) ∧
      ∀ after, l2tpStep env w (.received (some buf)) = .ok after →
        ClosesOnly w after ((l2tpFindSess w (be16 a b) .cdn).map (·.session_id)) := by
  have same : (w.setCtrl fun ctrl => { ctrl with idle_timer := true }).book = w.book := rfl
  obtain ⟨after, done, closes⟩ := closesOnly_message env
    (w := w.setCtrl fun ctrl => { ctrl with idle_timer := true }) (same ▸ kept) (be16 a b)
    (known_of_avpUnpack unpacked) cdn
  have step : l2tpStep env w (.received (some buf)) =
      (l2tpCtrlDump env avps >>= fun _ => .ok after) := by
    unfold l2tpStep l2tpDataEvent l2tpPacket
    rw [if_neg (by rw [here]; exact Bool.false_ne_true)]
    dsimp only
    rw [packet]
    dsimp only
    rw [show (w.setCtrl fun ctrl => { ctrl with idle_timer := true }).ctrl.secret =
      w.ctrl.secret from rfl, unpacked]
    dsimp only
    rw [done]
  rw [step, ← l2tpCtrlDump_ok_iff]
  clear step done unpacked
  cases l2tpCtrlDump env avps with
  | error fault =>
      constructor
      · constructor
        · intro ⟨_, is⟩
          exact nomatch is
        · intro ⟨_, is⟩
          exact nomatch is
      · intro _ is
        exact nomatch is
  | ok names =>
      refine ⟨⟨fun _ => ⟨names, rfl⟩, fun _ => ⟨after, rfl⟩⟩, fun other is => ?_⟩
      have one : after = other := Except.ok.inj is
      subst one
      exact closes.same same rfl

end Cdn

/-- A CDN without a session id in its header finds the session that it identifies. The lookup
compares the peer's ids with the zero of the header, not with the id of the AVP. -/
def CdnFindsIts (w : L2tpWorld) (session_id assigned : UInt16) : Prop :=
  session_id ≠ 0 ∨ assigned = 0 ∨
    ∀ peer_id, peer_id = 0 ∨ peer_id = assigned →
      ∀ sess, w.ctrl.sessions.find? (·.peer_id = peer_id) = some sess → sess.state = .dying

theorem closesOnly_identified_iff {w after : L2tpWorld} (kept : w.book.Kept)
    {session_id assigned : UInt16}
    (closes : ClosesOnly w after ((l2tpFindSess w session_id .cdn).map (·.session_id))) :
    ClosesOnly w after (l2tpIdentified w session_id assigned) ↔
      CdnFindsIts w session_id assigned := by
  unfold l2tpFindSess at closes
  unfold l2tpIdentified CdnFindsIts
  by_cases zero : session_id = 0
  case neg =>
    rw [if_neg zero] at closes
    rw [if_pos zero]
    exact ⟨fun _ => Or.inl zero, fun _ => closes⟩
  rw [if_pos zero, if_neg (not_not.mpr rfl), zero] at closes
  rw [if_neg (not_not.mpr zero)]
  by_cases none : assigned = 0
  · rw [none]
    exact ⟨fun _ => Or.inr (Or.inl rfl), fun _ => closes⟩
  have found : ∀ {peer_id : UInt16} {sess : L2tpSess},
      w.ctrl.sessions.find? (·.peer_id = peer_id) = some sess →
        sess ∈ w.ctrl.sessions ∧ sess.peer_id = peer_id := by
    intro peer_id sess is
    exact ⟨List.mem_of_find?_eq_some is, by simpa using List.find?_some is⟩
  have state : ∀ {target : Option UInt16} {sess : L2tpSess}, ClosesOnly w after target →
      sess ∈ w.ctrl.sessions → after.stateOf sess.session_id =
        if target = some sess.session_id then some .dying else some sess.state := by
    intro target sess closes listed
    rw [closes.sessions, stateOf_of_mem kept listed]
  have different : ∀ {one two : L2tpSess}, one ∈ w.ctrl.sessions → two ∈ w.ctrl.sessions →
      one.peer_id ≠ two.peer_id → one.session_id ≠ two.session_id := by
    intro one two listed also differ same
    have first := sess?_of_mem kept listed
    rw [same, sess?_of_mem kept also] at first
    exact differ (congrArg L2tpSess.peer_id (Option.some.inj first)).symm
  constructor
  · intro identified
    refine Or.inr (Or.inr fun peer_id which sess is => ?_)
    obtain ⟨listed, its⟩ := found is
    have one := state closes listed
    have two := state identified listed
    rw [one] at two
    cases which with
    | inl own =>
        subst own
        rw [is, Option.map_some, if_pos rfl, if_neg] at two
        · exact (Option.some.inj two).symm
        · intro same
          obtain ⟨other, isOther, ids⟩ := Option.map_eq_some_iff.mp same
          obtain ⟨also, theirs⟩ := found isOther
          refine different also listed ?_ ids
          rw [theirs, its]
          exact none
    | inr theirs =>
        subst theirs
        rw [is, Option.map_some, if_pos rfl, if_neg] at two
        · exact Option.some.inj two
        · intro same
          obtain ⟨other, isOther, ids⟩ := Option.map_eq_some_iff.mp same
          obtain ⟨also, zeroes⟩ := found isOther
          refine different also listed ?_ ids
          rw [zeroes, its]
          exact fun is => none is.symm
  · intro findsIts
    have dying := (findsIts.resolve_left (not_not.mpr zero)).resolve_left none
    have unchanged : ∀ {target : Option UInt16} {peer_id : UInt16},
        peer_id = 0 ∨ peer_id = assigned →
        target = (w.ctrl.sessions.find? (·.peer_id = peer_id)).map (·.session_id) →
        ∀ session_id, (if target = some session_id then some .dying else w.stateOf session_id) =
          w.stateOf session_id := by
      intro target peer_id which is session_id
      split
      · rename_i targeted
        rw [is] at targeted
        obtain ⟨sess, first, ids⟩ := Option.map_eq_some_iff.mp targeted
        rw [← ids, stateOf_of_mem kept (found first).1, dying peer_id which sess first]
      · rfl
    refine ⟨closes.tunnel, fun session_id => ?_⟩
    rw [closes.sessions, unchanged (Or.inl rfl) rfl, unchanged (Or.inr rfl) rfl]

/-- A CDN closes the session that it identifies, and nothing else, exactly when the lookup finds
that session and the debug log can name every message type in it. -/
theorem cdn_closes_iff (env : L2tpEnv) (setup : L2tpSetup) (events : List L2tpEvent)
    {w : L2tpWorld} (reached : l2tpRun env setup events = .ok w) (here : w.gone = false)
    {buf : Bytes} {a b : UInt8} {data : Bytes} (packet : buf.take 4096 = a :: b :: data)
    {avps : List Avp}
    (unpacked : avpUnpack env.md5 pppL2tpAvpInfoList w.ctrl.secret data = .ok avps)
    {assigned : UInt16} (cdn : IsCdn avps assigned) :
    (∃ after, l2tpStep env w (.received (some buf)) = .ok after ∧
        ClosesOnly w after (l2tpIdentified w (be16 a b) assigned)) ↔
      l2tpDumpSafe env avps ∧ CdnFindsIts w (be16 a b) assigned := by
  obtain ⟨-, gone | keeps⟩ := (sound_run env setup events).value reached
  · cases here.symm.trans gone
  obtain ⟨ends, closes⟩ := closesOnly_step env keeps.1 here packet unpacked cdn
  constructor
  · intro closed
    obtain ⟨after, done, identified⟩ := closed
    exact ⟨ends.mp ⟨after, done⟩,
      (closesOnly_identified_iff keeps.1 (closes after done)).mp identified⟩
  · intro found
    obtain ⟨safe, findsIts⟩ := found
    obtain ⟨after, done⟩ := ends.mpr safe
    exact ⟨after, done,
      (closesOnly_identified_iff keeps.1 (closes after done)).mpr findsIts⟩

def l2tpCdnAvps : List Avp :=
  [avpOfWord16 .messageType L2tpMsgType.cdn.num, avpOfResult 1 0 none,
    avpOfWord16 .assignedSessionId 5]

theorem isCdn_cdnAvps : IsCdn l2tpCdnAvps 5 where
  messageType := ⟨avpOfWord16 .messageType L2tpMsgType.cdn.num, rfl, rfl, rfl⟩
  resultCode := ⟨avpOfResult 1 0 none, by decide, rfl⟩
  assignedSessionId := ⟨avpOfWord16 .assignedSessionId 5, by decide, rfl⟩
  assigned := by
    obtain ⟨ptrs, stored, -⟩ := avpList2ptrs_ok l2tpCdnAvps
    refine ⟨ptrs, stored, ?_⟩
    have value : (avpList2ptrs l2tpCdnAvps).map (fun ptrs => ptrs .assignedSessionId) =
        .ok (some (show AvpData .assignedSessionId from (5 : UInt16))) := by rfl
    rw [stored] at value
    exact Except.ok.inj value

/-- A run after which there is one session, for which the peer has not answered. -/
theorem l2tpRun_initiate :
    ∃ w, l2tpRun l2tpCalmEnv { initiates := true }
        [.received (some (l2tpPlainMsg 0 l2tpSccrpAvps)),
          .call (.initiate false false false [])] = .ok w ∧ w.gone = false ∧
      w.ctrl.sessions.map (fun sess => (sess.session_id, sess.peer_id, sess.state)) =
        [(1, 0, .waitReply)] := by
  have ran := l2tpRun_sccrp [.call (.initiate false false false [])]
  have initiated : (Transition.run (fun r event => r.bind fun w => l2tpStep l2tpCalmEnv w event)
      (l2tpEstablished l2tpCalmEnv) [.call (.initiate false false false [])]).map
      (fun w => (w.gone, w.ctrl.sessions.map
        fun sess => (sess.session_id, sess.peer_id, sess.state))) =
      .ok (false, [(1, 0, .waitReply)]) := by rfl
  rw [← ran] at initiated
  cases reached : l2tpRun l2tpCalmEnv { initiates := true }
      [.received (some (l2tpPlainMsg 0 l2tpSccrpAvps)),
        .call (.initiate false false false [])] with
  | error fault => rw [reached] at initiated; exact nomatch initiated
  | ok w =>
      rw [reached] at initiated
      have fields := Except.ok.inj initiated
      rw [Prod.mk.injEq] at fields
      exact ⟨w, rfl, fields⟩

/-- A CDN whose header names the session closes it. -/
theorem cdn_closes_named :
    ∃ w, w.ctrl.sessions.map (fun sess => (sess.session_id, sess.peer_id, sess.state)) =
        [(1, 0, .waitReply)] ∧
      ((∃ after, l2tpStep l2tpCalmEnv w (.received (some (l2tpPlainMsg 1 l2tpCdnAvps))) =
            .ok after ∧ ClosesOnly w after (l2tpIdentified w 1 5)) ↔
        l2tpDumpSafe l2tpCalmEnv l2tpCdnAvps ∧ CdnFindsIts w 1 5) := by
  obtain ⟨w, reached, here, sessions⟩ := l2tpRun_initiate
  have packet : (l2tpPlainMsg 1 l2tpCdnAvps).take 4096 =
      0 :: 1 :: l2tpCdnAvps.flatMap avpPlainBytes := rfl
  have unpacked : avpUnpack l2tpCalmEnv.md5 pppL2tpAvpInfoList w.ctrl.secret
      (l2tpCdnAvps.flatMap avpPlainBytes) = .ok l2tpCdnAvps :=
    avpUnpackFrom_plainList l2tpCalmEnv.md5 w.ctrl.secret none (by decide)
  exact ⟨w, sessions, cdn_closes_iff l2tpCalmEnv { initiates := true } _ reached here packet
    unpacked isCdn_cdnAvps⟩

/-- A CDN without a session id in its header closes a session that the peer has not answered,
whatever the id of its AVP. -/
theorem not_closesOnly_identified :
    ¬ ∀ (env : L2tpEnv) (setup : L2tpSetup) (events : List L2tpEvent) (w after : L2tpWorld)
      (buf data : Bytes) (a b : UInt8) (avps : List Avp) (assigned : UInt16),
      l2tpRun env setup events = .ok w → w.gone = false → buf.take 4096 = a :: b :: data →
      avpUnpack env.md5 pppL2tpAvpInfoList w.ctrl.secret data = .ok avps →
      IsCdn avps assigned → l2tpStep env w (.received (some buf)) = .ok after →
        ClosesOnly w after (l2tpIdentified w (be16 a b) assigned) := by
  intro always
  obtain ⟨w, reached, here, sessions⟩ := l2tpRun_initiate
  obtain ⟨-, gone | keeps⟩ := (sound_run l2tpCalmEnv { initiates := true } _).value reached
  · cases here.symm.trans gone
  have packet : (l2tpPlainMsg 0 l2tpCdnAvps).take 4096 =
      0 :: 0 :: l2tpCdnAvps.flatMap avpPlainBytes := rfl
  have unpacked : avpUnpack l2tpCalmEnv.md5 pppL2tpAvpInfoList w.ctrl.secret
      (l2tpCdnAvps.flatMap avpPlainBytes) = .ok l2tpCdnAvps :=
    avpUnpackFrom_plainList l2tpCalmEnv.md5 w.ctrl.secret none (by decide)
  obtain ⟨ends, closes⟩ := closesOnly_step l2tpCalmEnv keeps.1 here packet unpacked isCdn_cdnAvps
  have safe : l2tpDumpSafe l2tpCalmEnv l2tpCdnAvps := fun debug => by cases debug
  obtain ⟨after, done⟩ := ends.mpr safe
  have identified := always _ _ _ _ _ _ _ _ _ _ _ reached here packet unpacked isCdn_cdnAvps done
  have findsIts := (closesOnly_identified_iff keeps.1 (closes after done)).mp identified
  cases listed : w.ctrl.sessions with
  | nil => rw [listed] at sessions; cases sessions
  | cons sess others =>
      rw [listed, List.map_cons] at sessions
      have fields := (List.cons.inj sessions).1
      simp only [Prod.mk.injEq] at fields
      obtain ⟨-, zero, waits⟩ := fields
      obtain named | none | dying := findsIts
      · exact named rfl
      · cases none
      · have first : w.ctrl.sessions.find? (·.peer_id = 0) = some sess := by
          rw [listed, List.find?_cons_of_pos (by simpa using zero)]
        cases waits.symm.trans (dying 0 (Or.inl rfl) sess first)

end Mpd
