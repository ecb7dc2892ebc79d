import Mpd.L2tp.Simulation

/-! The message handlers make moves of the bookkeeping. -/

set_option autoImplicit false

namespace Mpd

open Outcome L2tpBook L2tpWorld

def l2tpCalledIn : L2tpMsgType → L2tpCtrlState → Bool
  | .sccrq, state => state = .idle
  | .sccrp, state => state = .waitCtlReply
  | .scccn, state => state = .waitCtlConnect
  | .icrq, state | .ocrq, state => state = .established
  | _, _ => true

theorem l2tpMsgInfo_calledIn : (l2tpMsgInfo.all fun info =>
    match info.expected with
    | .ctrl valid_states => valid_states.all (l2tpCalledIn info.type)
    | .sess .. => true) = true := by
  decide

def L2tpKeepsHandled (also : L2tpBook → Prop) (handled : Bool × L2tpWorld) : Prop :=
  handled.2.Keeps also

section Handlers

variable (env : L2tpEnv) {also : L2tpBook → Prop} (stable : Stable also) {w : L2tpWorld}
  (ptrs : AvpPtrs)

theorem ends_follow (type : AvpType) :
    Ends NoAssert (fun _ => True) (ptrs.follow type) := by
  unfold AvpPtrs.follow
  split
  · trivial
  · exact nofun

include stable

/-- The first part of the set-up changes nothing that the bookkeeping sees, unless it fails. -/
theorem keeps_answerChallenge (keeps : w.Keeps also) :
    Ends NoAssert (fun handled : Bool × L2tpWorld =>
      handled.2.Keeps also ∧ (handled.1 = true → handled.2.book = w.book))
      (l2tpAnswerChallenge env w ptrs) := by
  unfold l2tpAnswerChallenge
  split
  · exact ⟨keeps, fun _ => rfl⟩
  split
  · exact ⟨keeps_ctrlClose env stable keeps _ _ _, fun failed => nomatch failed⟩
  · apply Ends.bind (ends_follow ptrs _)
    exact fun _ _ => ⟨keeps.same rfl, fun _ => rfl⟩

theorem keeps_ctrlSetup1 (keeps : w.Keeps also) :
    Ends NoAssert (fun handled : Bool × L2tpWorld =>
      handled.2.Keeps also ∧ (handled.1 = true → handled.2.book = w.book))
      (l2tpCtrlSetup1 env w ptrs) := by
  unfold l2tpCtrlSetup1
  apply Ends.bind (ends_follow ptrs _)
  intro hostname _
  apply Ends.bind (ends_follow ptrs _)
  intro _ _
  apply Ends.bind (ends_follow ptrs _)
  intro tunnelid _
  apply Ends.bind (ends_follow ptrs _)
  intro framingcap _
  have same : ((w.setCtrl (l2tpLearnPeer ptrs hostname tunnelid framingcap)).ask env).2.book =
      w.book := rfl
  generalize (w.setCtrl (l2tpLearnPeer ptrs hostname tunnelid framingcap)).ask env = asked
    at same ⊢
  obtain ⟨configured, v⟩ := asked
  cases configured with
  | false => exact ⟨keeps.same same, fun failed => nomatch failed⟩
  | true =>
      apply (keeps_answerChallenge env stable ptrs (keeps.same same)).mono
      exact fun _ holds => ⟨holds.1, fun worked => (holds.2 worked).trans same⟩

theorem keeps_verifyResponse (keeps : w.Keeps also) :
    Ends NoAssert (fun handled : Bool × L2tpWorld =>
      handled.2.Keeps also ∧ (handled.1 = true → handled.2.book = w.book))
      (l2tpVerifyResponse env w ptrs) := by
  unfold l2tpVerifyResponse
  split
  · exact ⟨keeps, fun _ => rfl⟩
  split
  · exact ⟨keeps_ctrlClose env stable keeps _ _ _, fun failed => nomatch failed⟩
  · apply Ends.bind (ends_follow ptrs _)
    intro mesgtype _
    dsimp only
    split
    · exact ⟨keeps, fun _ => rfl⟩
    · exact ⟨keeps_ctrlClose env stable keeps _ _ _, fun failed => nomatch failed⟩

omit stable in
theorem active_of_early (kept : w.book.Kept) (notEstablished : w.book.state ≠ .established)
    (notDying : w.book.state ≠ .dying) : w.book.active_sessions = 0 := by
  have counted := kept.counted
  rw [kept.early notEstablished notDying] at counted
  exact UInt32.toNat_inj.mp counted

/-- The second part starts the unused timer of a connection that has no sessions yet. -/
theorem keeps_startUnused (keeps : w.Keeps also) (notEstablished : w.book.state ≠ .established)
    (notDying : w.book.state ≠ .dying) : (l2tpStartUnused w).Keeps also := by
  apply keeps.moves stable
  rw [book_startUnused keeps.1 notDying]
  exact .startUnused _ notDying (active_of_early keeps.1 notEstablished notDying)

theorem keeps_ctrlSetup2 (keeps : w.Keeps also) (notEstablished : w.book.state ≠ .established)
    (notDying : w.book.state ≠ .dying) :
    Ends NoAssert (fun handled : Bool × L2tpWorld =>
      handled.2.Keeps also ∧ (handled.1 = true → handled.2.book.state = w.book.state))
      (l2tpCtrlSetup2 env w ptrs) := by
  unfold l2tpCtrlSetup2
  dsimp only
  have same : ((w.setCtrl fun ctrl => { ctrl with match_id := true }).ask env).2.book =
      w.book := rfl
  generalize (w.setCtrl fun ctrl => { ctrl with match_id := true }).ask env = asked at same ⊢
  obtain ⟨configured, u⟩ := asked
  cases configured with
  | false => exact ⟨keeps.same same, fun failed => nomatch failed⟩
  | true =>
      apply Ends.bind (keeps_verifyResponse env stable ptrs (keeps.same same))
      intro ⟨verified, v⟩ ⟨keepsV, sameV⟩
      cases verified with
      | false => exact ⟨keepsV, fun failed => nomatch failed⟩
      | true =>
          have state : v.book.state = w.book.state :=
            congrArg L2tpBook.state ((sameV rfl).trans same)
          refine ⟨keeps_startUnused stable keepsV ?_ ?_, fun _ => state⟩
          · rw [state]
            exact notEstablished
          · rw [state]
            exact notDying

/-- Before it is established a connection may go on to another state. -/
theorem keeps_proceed (keeps : w.Keeps also) (notEstablished : w.book.state ≠ .established)
    (notDying : w.book.state ≠ .dying) {state : L2tpCtrlState} (stays : state ≠ .dying) :
    (w.setCtrl fun ctrl => { ctrl with state := state }).Keeps also :=
  keeps.moves stable (.proceed _ state notDying stays fun some =>
    absurd (keeps.1.early notEstablished notDying) some)

theorem keeps_acceptSccrq (keeps : w.Keeps also) (idle : w.book.state = .idle) :
    Ends NoAssert (L2tpKeepsHandled also) (l2tpAcceptSccrq env w ptrs) := by
  unfold l2tpAcceptSccrq
  apply Ends.bind (keeps_ctrlSetup1 env stable ptrs keeps)
  intro ⟨set, v⟩ ⟨keepsV, same⟩
  cases set with
  | false => exact keepsV
  | true =>
      have state : v.book.state = .idle := (congrArg L2tpBook.state (same rfl)).trans idle
      apply keeps_ctrlSend env stable
      apply keeps_proceed stable keepsV
      · rw [state]
        decide
      · rw [state]
        decide
      · decide

theorem keeps_handleSccrq (keeps : w.Keeps also) (idle : w.book.state = .idle) :
    Ends NoAssert (L2tpKeepsHandled also) (l2tpHandleSccrq env w ptrs) := by
  unfold l2tpHandleSccrq
  split
  · exact keeps_acceptSccrq env stable ptrs keeps idle
  split
  · exact keeps_acceptSccrq env stable ptrs keeps idle
  · exact L2tpWorld.Keeps.same (keeps_ctrlClose env stable keeps l2tpResultDupCtrl 0 none) rfl
  · exact keeps_ctrlClose env stable keeps _ _ _
  · exact keeps_acceptSccrq env stable ptrs (keeps.same rfl) idle

theorem keeps_handleScccn (keeps : w.Keeps also) (waits : w.book.state = .waitCtlConnect) :
    Ends NoAssert (L2tpKeepsHandled also) (l2tpHandleScccn env w ptrs) := by
  unfold l2tpHandleScccn
  apply Ends.bind (keeps_ctrlSetup2 env stable ptrs keeps (by rw [waits]; decide)
    (by rw [waits]; decide))
  intro ⟨set, v⟩ ⟨keepsV, same⟩
  cases set with
  | false => exact keepsV
  | true =>
      have state := (same rfl).trans waits
      apply Ends.bind
      · apply keeps_callback env stable
        exact keeps_proceed stable keepsV (by rw [state]; decide) (by rw [state]; decide)
          (by decide)
      · exact fun u keepsU => keepsU

theorem keeps_handleSccrp (keeps : w.Keeps also) (waits : w.book.state = .waitCtlReply) :
    Ends NoAssert (L2tpKeepsHandled also) (l2tpHandleSccrp env w ptrs) := by
  unfold l2tpHandleSccrp
  apply Ends.bind (keeps_ctrlSetup1 env stable ptrs keeps)
  intro ⟨set, v⟩ ⟨keepsV, same⟩
  cases set with
  | false => exact keepsV
  | true =>
      have stateV : v.book.state = .waitCtlReply :=
        (congrArg L2tpBook.state (same rfl)).trans waits
      apply Ends.bind (keeps_ctrlSetup2 env stable ptrs keepsV (by rw [stateV]; decide)
        (by rw [stateV]; decide))
      intro ⟨set, u⟩ ⟨keepsU, sameU⟩
      cases set with
      | false => exact keepsU
      | true =>
          have stateU := (sameU rfl).trans stateV
          apply Ends.bind
          · apply keeps_callback env stable
            apply keeps_ctrlSend env stable
            exact keeps_proceed stable keepsU (by rw [stateU]; decide) (by rw [stateU]; decide)
              (by decide)
          · exact fun _ keepsLast => keepsLast

omit stable in
theorem book_allNotified (w : L2tpWorld) : (w.setCtrl fun ctrl =>
    { ctrl with
      peer_notified := true
      sessions := ctrl.sessions.map fun sess => { sess with peer_notified := true } }).book =
    w.book := by
  simp only [book, setCtrl, List.map_map]
  rfl

theorem keeps_handleStopCcn (keeps : w.Keeps also) :
    Ends NoAssert (L2tpKeepsHandled also) (l2tpHandleStopCcn env w ptrs) := by
  unfold l2tpHandleStopCcn
  apply Ends.bind (ends_follow ptrs _)
  intro errresultcode _
  exact keeps_ctrlClose env stable (keeps.same (book_allNotified w)) _ _ _

theorem keeps_handleRequest (keeps : w.Keeps also) (established : w.book.state = .established)
    (side : L2tpSide) (out : Bool) (avps : List Avp)
    {respond : L2tpWorld → L2tpSess → L2tpWorld}
    (responds : ∀ v : L2tpWorld, v.Keeps also → ∀ sess, (respond v sess).Keeps also) :
    Ends NoAssert (L2tpKeepsHandled also)
      (l2tpHandleRequest env w side out avps ptrs respond) := by
  unfold l2tpHandleRequest
  apply Ends.bind (ends_follow ptrs _)
  intro serialnum _
  apply Ends.bind (keeps_sessCreate env stable keeps established _ _ _)
  intro ⟨created, v⟩ keepsV
  cases created with
  | none => exact keepsV
  | some session_id =>
      apply Ends.bind (ends_follow ptrs _)
      intro sessionid _
      apply Ends.bind
      · apply keeps_callback env stable
        exact L2tpWorld.Keeps.same keepsV (book_setSess_same v session_id fun _ => rfl)
      · intro u keepsU
        have noted := book_setSess_same u session_id
          (f := fun sess =>
            { sess with include_length := (env.fields u).1, enable_dseq := (env.fields u).2 })
          fun _ => rfl
        dsimp only
        split
        · exact L2tpWorld.Keeps.same keepsU noted
        · change L2tpWorld.Keeps also _
          dsimp only
          split
          · exact L2tpWorld.Keeps.same keepsU noted
          · exact responds _ (L2tpWorld.Keeps.same keepsU noted) _

theorem keeps_handleIcrq (keeps : w.Keeps also) (established : w.book.state = .established)
    (avps : List Avp) : Ends NoAssert (L2tpKeepsHandled also) (l2tpHandleIcrq env w avps ptrs) := by
  unfold l2tpHandleIcrq
  apply keeps_handleRequest env stable ptrs keeps established
  intro v keepsV sess
  exact keeps_sessCheckReply (keeps_ctrlSend env stable keepsV ..) _

theorem keeps_handleOcrq (keeps : w.Keeps also) (established : w.book.state = .established)
    (avps : List Avp) : Ends NoAssert (L2tpKeepsHandled also) (l2tpHandleOcrq env w avps ptrs) := by
  unfold l2tpHandleOcrq
  apply keeps_handleRequest env stable ptrs keeps established
  intro v keepsV sess
  exact keeps_ctrlSend env stable keepsV ..

theorem keeps_ctrlHandler (keeps : w.Keeps also) (avps : List Avp) {msgtype : L2tpMsgType}
    (called : l2tpCalledIn msgtype w.ctrl.state = true) :
    Ends NoAssert (L2tpKeepsHandled also) (l2tpCtrlHandler env w avps ptrs msgtype) := by
  unfold l2tpCtrlHandler
  unfold l2tpCalledIn at called
  cases msgtype with
  | sccrq => exact keeps_handleSccrq env stable ptrs keeps (of_decide_eq_true called)
  | sccrp => exact keeps_handleSccrp env stable ptrs keeps (of_decide_eq_true called)
  | scccn => exact keeps_handleScccn env stable ptrs keeps (of_decide_eq_true called)
  | stopCcn => exact keeps_handleStopCcn env stable ptrs keeps
  | icrq => exact keeps_handleIcrq env stable ptrs keeps (of_decide_eq_true called) avps
  | ocrq => exact keeps_handleOcrq env stable ptrs keeps (of_decide_eq_true called) avps
  | _ => exact keeps

theorem keeps_handleOcrp (keeps : w.Keeps also) {sess : L2tpSess}
    (live : sess.state ≠ .dying → w.book.Live sess.session_id) :
    Ends NoAssert (L2tpKeepsHandled also) (l2tpHandleOcrp w sess ptrs) := by
  unfold l2tpHandleOcrp
  split
  · exact keeps
  rename_i alive
  apply Ends.bind (ends_follow ptrs _)
  intro sessionid _
  apply keeps.moves stable
  rw [book_setSess w sess.session_id (g := fun sess => { sess with state := .waitConnect })
    fun _ => rfl]
  exact .proceedSess _ _ _ (live alive) (by decide)

theorem keeps_handleXccn (keeps : w.Keeps also) {sess : L2tpSess}
    (live : sess.state ≠ .dying → w.book.Live sess.session_id) (avps : List Avp) :
    Ends NoAssert (L2tpKeepsHandled also) (l2tpHandleXccn env w sess avps ptrs) := by
  unfold l2tpHandleXccn
  split
  · exact keeps
  rename_i alive
  have noted := book_setSess_same w sess.session_id
    (f := fun sess =>
      { sess with peer_avps := some avps, dseq_required := (ptrs .sequencingRequired).isSome })
    fun _ => rfl
  exact keeps_sessSetup env stable (keeps.same noted) (noted ▸ live alive)

theorem keeps_handleIcrp (keeps : w.Keeps also) {sess : L2tpSess}
    (live : sess.state ≠ .dying → w.book.Live sess.session_id) :
    Ends NoAssert (L2tpKeepsHandled also) (l2tpHandleIcrp env w sess ptrs) := by
  unfold l2tpHandleIcrp
  split
  · exact keeps
  rename_i alive
  apply Ends.bind (ends_follow ptrs _)
  intro sessionid _
  dsimp only
  have noted := book_setSess_same w sess.session_id
    (f := fun sess => { sess with peer_id := sessionid }) fun _ => rfl
  generalize (w.setSess sess.session_id fun sess => { sess with peer_id := sessionid }) = v
    at noted ⊢
  split
  · exact keeps_ctrlClose env stable (keeps.same noted) _ _ _
  · have responded := book_setSess_same v sess.session_id
      (f := fun sess => { sess with peer_responded := true }) fun _ => rfl
    have same := responded.trans noted
    exact keeps_sessCheckLiic env stable (keeps.same same) (same ▸ live alive)

theorem keeps_handleCdn (keeps : w.Keeps also) (sess : L2tpSess) :
    Ends NoAssert (L2tpKeepsHandled also) (l2tpHandleCdn env w sess ptrs) := by
  unfold l2tpHandleCdn
  have noted := book_setSess_same w sess.session_id
    (f := fun sess => { sess with peer_notified := true }) fun _ => rfl
  apply Ends.bind (ends_follow ptrs _)
  intro errresultcode _
  exact keeps_sessClose env stable (keeps.same noted) _ _ _ _

theorem keeps_handleSli (keeps : w.Keeps also) (sess : L2tpSess) :
    Ends NoAssert (L2tpKeepsHandled also) (l2tpHandleSli env w sess ptrs) := by
  unfold l2tpHandleSli
  split
  · exact keeps
  apply Ends.bind (ends_follow ptrs _)
  intro accm _
  apply Ends.bind (keeps_callback env stable keeps _)
  exact fun _ keepsV => keepsV

theorem keeps_handleWen (keeps : w.Keeps also) (sess : L2tpSess) :
    Ends NoAssert (L2tpKeepsHandled also) (l2tpHandleWen env w sess ptrs) := by
  unfold l2tpHandleWen
  split
  · exact keeps
  split
  · exact keeps
  apply Ends.bind (ends_follow ptrs _)
  intro errors _
  apply Ends.bind (keeps_callback env stable keeps _)
  exact fun _ keepsV => keepsV

theorem keeps_sessHandler (keeps : w.Keeps also) {sess : L2tpSess}
    (live : sess.state ≠ .dying → w.book.Live sess.session_id) (avps : List Avp)
    (msgtype : L2tpMsgType) :
    Ends NoAssert (L2tpKeepsHandled also) (l2tpSessHandler env w sess avps ptrs msgtype) := by
  unfold l2tpSessHandler
  cases msgtype with
  | icrp => exact keeps_handleIcrp env stable ptrs keeps live
  | ocrp => exact keeps_handleOcrp stable ptrs keeps live
  | iccn => exact keeps_handleXccn env stable ptrs keeps live avps
  | occn => exact keeps_handleXccn env stable ptrs keeps live avps
  | cdn => exact keeps_handleCdn env stable ptrs keeps sess
  | wen => exact keeps_handleWen env stable ptrs keeps sess
  | sli => exact keeps_handleSli env stable ptrs keeps sess
  | _ => exact keeps

end Handlers

section Messages

variable (env : L2tpEnv) {also : L2tpBook → Prop} (stable : Stable also) {w : L2tpWorld}
include stable

theorem keeps_ctrlMessage (keeps : w.Keeps also) {info : L2tpMsgInfo} (listed : info ∈ l2tpMsgInfo)
    {valid_states : List L2tpCtrlState} (expected : info.expected = .ctrl valid_states)
    (avps : List Avp) (ptrs : AvpPtrs) :
    Ends NoAssert (L2tpWorld.Keeps also) (l2tpCtrlMessage env w info valid_states avps ptrs) := by
  unfold l2tpCtrlMessage
  by_cases invalid : w.ctrl.state ∉ valid_states
  · rw [if_pos invalid]
    split
    · exact keeps
    · exact keeps_ctrlClose env stable keeps _ _ _
  rw [if_neg invalid]
  have called : l2tpCalledIn info.type w.ctrl.state = true := by
    have row := List.all_eq_true.mp l2tpMsgInfo_calledIn info listed
    rw [expected] at row
    exact List.all_eq_true.mp row _ (not_not.mp invalid)
  have cancelled : (w.setCtrl fun ctrl => { ctrl with reply_timer := false }).Keeps also :=
    keeps.same rfl
  apply Ends.bind (keeps_ctrlHandler env stable ptrs cancelled avps called)
  intro ⟨handled, v⟩ keepsV
  cases handled with
  | true => exact L2tpWorld.Keeps.same keepsV rfl
  | false => exact keeps_ctrlClose env stable keepsV _ _ _

omit stable in
theorem mem_of_findSess {session_id : UInt16} {msgtype : L2tpMsgType} {sess : L2tpSess}
    (found : l2tpFindSess w session_id msgtype = some sess) : sess ∈ w.ctrl.sessions := by
  unfold l2tpFindSess at found
  split_ifs at found
  · exact List.mem_of_find?_eq_some found
  · exact (sess?_mem found).1

theorem keeps_sessMessage (keeps : w.Keeps also) (session_id : UInt16) (info : L2tpMsgInfo)
    (valid_states : List L2tpSessState) (valid_orig : List L2tpOrig)
    (valid_side : List L2tpSide) (avps : List Avp) (ptrs : AvpPtrs) :
    Ends NoAssert (L2tpWorld.Keeps also)
      (l2tpSessMessage env w session_id info valid_states valid_orig valid_side avps ptrs) := by
  unfold l2tpSessMessage
  cases found : l2tpFindSess w session_id info.type with
  | none => exact keeps
  | some sess =>
      dsimp only
      cases l2tpSessMismatch info sess valid_states valid_orig valid_side with
      | some ebuf => exact keeps_ctrlClose env stable keeps _ _ _
      | none =>
          have noted := book_setSess_same w sess.session_id
            (f := fun sess => { sess with reply_timer := false }) fun _ => rfl
          have live : sess.state ≠ .dying → w.book.Live sess.session_id :=
            live_of_mem keeps.1 (mem_of_findSess found)
          apply Ends.bind (keeps_sessHandler env stable ptrs (keeps.same noted)
            (noted ▸ live) avps info.type)
          intro ⟨handled, v⟩ keepsV
          cases handled with
          | true => exact keeps_sessCheckReply keepsV _
          | false => exact keeps_ctrlClose env stable keepsV _ _ _

theorem keeps_knownMessage (keeps : w.Keeps also) (session_id : UInt16) {info : L2tpMsgInfo}
    (listed : info ∈ l2tpMsgInfo) (avps : List Avp) :
    Ends NoAssert (L2tpWorld.Keeps also) (l2tpKnownMessage env w session_id info avps) := by
  unfold l2tpKnownMessage
  cases l2tpMissing info avps with
  | some type => exact keeps_ctrlClose env stable keeps _ _ _
  | none =>
      obtain ⟨ptrs, stored, -⟩ := avpList2ptrs_ok avps
      dsimp only
      rw [stored]
      change Ends NoAssert _ (match info.expected with
        | .ctrl valid_states => l2tpCtrlMessage env w info valid_states avps ptrs
        | .sess valid_states valid_orig valid_side =>
            l2tpSessMessage env w session_id info valid_states valid_orig valid_side avps ptrs)
      cases expected : info.expected with
      | ctrl valid_states => exact keeps_ctrlMessage env stable keeps listed expected avps ptrs
      | sess valid_states valid_orig valid_side =>
          exact keeps_sessMessage env stable keeps session_id info _ _ _ avps ptrs

omit stable in
theorem ends_avpWord16 (avp : Avp) (index : Nat) :
    Ends NoAssert (fun _ => True) (avpWord16 avp index) := by
  have byte : ∀ index, Ends NoAssert (fun _ => True) (avpByte avp index) := by
    intro index
    unfold avpByte
    split
    · trivial
    · exact nofun
  apply Ends.bind (byte index)
  intro high _
  apply Ends.bind (byte (index + 1))
  exact fun _ _ => trivial

theorem keeps_message (keeps : w.Keeps also) (session_id : UInt16) (avps : List Avp) :
    Ends NoAssert (L2tpWorld.Keeps also) (l2tpMessage env w session_id avps) := by
  unfold l2tpMessage
  cases avps with
  | nil => exact keeps_ctrlClose env stable keeps _ _ _
  | cons first rest =>
      dsimp only
      split
      · exact keeps_ctrlClose env stable keeps _ _ _
      apply Ends.bind (ends_avpWord16 first 0)
      intro msgtype _
      cases found : l2tpMsgInfo.find? fun info => info.type.num = msgtype with
      | some info =>
          exact keeps_knownMessage env stable keeps session_id
            (List.mem_of_find?_eq_some found) _
      | none =>
          dsimp only
          split
          · exact keeps_ctrlClose env stable keeps _ _ _
          · exact keeps

omit stable in
theorem ends_ctrlDump (avps : List Avp) :
    Ends NoAssert (fun _ => True) (l2tpCtrlDump env avps) := by
  have one : ∀ avp, Ends NoAssert (fun _ => True) (avpDecodeMessageType avp) := by
    intro avp
    unfold avpDecodeMessageType
    obtain ⟨mesgtype, stored⟩ := avpStore16_ok avp 0
    rw [stored]
    change Ends NoAssert _ (if mesgtype.toNat > l2tpMsgNames.length then _ else _)
    split
    · trivial
    split
    · trivial
    · exact nofun
  unfold l2tpCtrlDump
  split
  · trivial
  induction avps.filter _ with
  | nil => trivial
  | cons avp rest ih =>
      rw [List.mapM_cons]
      apply Ends.bind (one avp)
      intro name _
      apply Ends.bind ih
      exact fun _ _ => trivial

theorem keeps_packet (keeps : w.Keeps also) (buf : Bytes) :
    Ends NoAssert (L2tpWorld.Keeps also) (l2tpPacket env w buf) := by
  unfold l2tpPacket
  split
  · split
    · exact keeps_ctrlClose env stable keeps _ _ _
    · exact keeps_ctrlClose env stable keeps _ _ _
    · exact keeps_ctrlClose env stable keeps _ _ _
    · apply Ends.bind (ends_ctrlDump env _)
      exact fun _ _ => keeps_message env stable keeps _ _
  · exact nofun

theorem keeps_dataEvent (keeps : w.Keeps also) (packet : Option Bytes) :
    Ends NoAssert (L2tpWorld.Keeps also) (l2tpDataEvent env w packet) := by
  have idle : (w.setCtrl fun ctrl => { ctrl with idle_timer := true }).Keeps also :=
    keeps.same rfl
  unfold l2tpDataEvent
  cases packet with
  | none => exact keeps_ctrlClose env stable idle _ _ _
  | some buf => exact keeps_packet env stable idle _

end Messages

end Mpd
