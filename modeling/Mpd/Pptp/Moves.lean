import Mathlib.Logic.Relation
import Mpd.Pptp.Ctrl

/-! What the control code can do to its state, said once: every function is a sequence of a
few moves. -/

set_option autoImplicit false

namespace Mpd

/-- One move. With `refusals` the link side may be told of a failure before the channel is
killed. -/
inductive PptpMove (refusals : Prop) : PptpWorld → PptpWorld → Prop where
  | kill (w : PptpWorld) (ch : Nat) : PptpMove refusals w (pptpCtrlKillChan w ch)
  | dropCtrl (w : PptpWorld) (c : Nat) :
      PptpMove refusals w
        { w with ctrls := w.ctrls.filter (·.addr ≠ c), reps := w.reps.filter (·.ctrl ≠ c) }
  | setCtrl (w : PptpWorld) (c : Nat) (f : PptpCtrl → PptpCtrl)
      (same : ∀ ctrl, (f ctrl).addr = ctrl.addr ∧
        (f ctrl).active_sessions = ctrl.active_sessions) :
      PptpMove refusals w (w.setCtrl c f)
  | setChan (w : PptpWorld) (ch : Nat) (f : PptpChan → PptpChan)
      (same : ∀ chan, (f chan).addr = chan.addr ∧ (f chan).ctrl = chan.ctrl ∧
        (f chan).cid = chan.cid ∧ (f chan).cookie = chan.cookie ∧ (f chan).id = chan.id) :
      PptpMove refusals w (w.setChan ch f)
  | expect (w : PptpWorld) (prep : PptpPendRep)
      (live : ∀ ch, prep.chan = some ch → ∃ chan ∈ w.chans, chan.addr = ch ∧
        chan.ctrl = prep.ctrl)
      (named : (gPptpMsgInfo prep.request).killCtrl = true ∨ prep.chan ≠ none) :
      PptpMove refusals w { w with reps := prep :: w.reps }
  | answered (w : PptpWorld) (prep : PptpPendRep) :
      PptpMove refusals w { w with reps := w.reps.erase prep }
  | asked (w : PptpWorld) (asked : Nat) : PptpMove refusals w { w with asked := asked }
  | send (w : PptpWorld) (sent : List (Nat × PptpMsg)) :
      PptpMove refusals w { w with sent := sent }
  | hang (w : PptpWorld) : PptpMove refusals w { w with hung := true }
  | newCtrl (w : PptpWorld) (orig : Bool) (self_addr peer_addr peer_port : Nat) :
      PptpMove refusals w (pptpNewCtrl w orig self_addr peer_addr peer_port)
  | getChan (w : PptpWorld) {c : Nat} (state : PptpChanState) (orig incoming : Bool)
      {ctrl : PptpCtrl} (known : w.ctrl? c = some ctrl) :
      PptpMove refusals w (pptpCtrlGetChan w c state orig incoming).2
  | take (w : PptpWorld) {chan : PptpChan} (live : chan ∈ w.chans) (free : chan.cookie = false)
      (peerCid : UInt16) : PptpMove refusals w (pptpTake w chan.addr peerCid)
  | tell (w : PptpWorld) {chan : PptpChan} (live : chan ∈ w.chans) (taken : chan.cookie = true)
      {note : PptpNote} (goes : note = .connected ∨ note = .linkInfo) :
      PptpMove refusals w (w.tell chan.addr note)
  | refuse (w : PptpWorld) (ch : Nat) (allowed : refusals) :
      PptpMove refusals w (w.tell ch .failed)

def PptpMoves (refusals : Prop) : PptpWorld → PptpWorld → Prop :=
  Relation.ReflTransGen (PptpMove refusals)

section Functions

variable (env : PptpEnv) {refusals : Prop} {u w : PptpWorld} (moves : PptpMoves refusals u w)

theorem chan?_mem {ch : Nat} {chan : PptpChan} (found : w.chan? ch = some chan) :
    chan ∈ w.chans ∧ chan.addr = ch :=
  ⟨List.mem_of_find?_eq_some found, by simpa using List.find?_some found⟩

theorem ctrl?_addr {c : Nat} {ctrl : PptpCtrl} (found : w.ctrl? c = some ctrl) :
    ctrl ∈ w.ctrls ∧ ctrl.addr = c :=
  ⟨List.mem_of_find?_eq_some found, by simpa using List.find?_some found⟩

theorem findChan_mem {c : Nat} {msg : PptpMsg} {incoming : Bool} {chan : PptpChan}
    (found : pptpCtrlFindChan w c msg incoming = some chan) :
    chan ∈ w.chans ∧ chan.ctrl = c := by
  unfold pptpCtrlFindChan at found
  split at found
  · cases found
  · have listed := List.mem_filter.mp (List.mem_of_find?_eq_some found)
    exact ⟨listed.1, by simpa using listed.2⟩

/-- A request whose timeout does not kill the connection is about an incoming call. -/
theorem kills_of_type {type : PptpType} {reply : PptpType}
    (expects : (gPptpMsgInfo type).reply = some reply) :
    (gPptpMsgInfo type).killCtrl = true ∨ type = .inCallRequest ∨ type = .inCallReply := by
  cases type <;> simp [gPptpMsgInfo] at expects ⊢

include moves

theorem moves_kill (ch : Nat) : PptpMoves refusals u (pptpCtrlKillChan w ch) :=
  moves.tail (.kill w ch)

theorem moves_killCtrl (c : Nat) : PptpMoves refusals u (pptpCtrlKillCtrl w c) := by
  unfold pptpCtrlKillCtrl
  split
  · exact moves
  · refine Relation.ReflTransGen.tail ?_ (.dropCtrl _ c)
    refine List.foldlRecOn (motive := PptpMoves refusals u) _ pptpCtrlKillChan moves ?_
    exact fun v since ch _ => moves_kill since ch

/-- A message may be written, if a request about an incoming call names its channel. -/
theorem moves_writeMsg (c : Nat) (msg : PptpMsg)
    (named : msg.type = .inCallRequest ∨ msg.type = .inCallReply →
      (pptpCtrlFindChan w c msg false).isSome = true) :
    PptpMoves refusals u (pptpCtrlWriteMsg env w c msg).2 := by
  have asked : PptpMoves refusals u (w.ask env).2 := moves.tail (.asked w _)
  unfold pptpCtrlWriteMsg
  split
  · exact moves
  dsimp only
  split
  · exact moves_killCtrl asked c
  have sent : PptpMoves refusals u
      { (w.ask env).2 with sent := (w.ask env).2.sent ++ [(c, msg)] } :=
    asked.tail (.send _ _)
  split
  · exact sent
  case h_2 reply expects =>
    refine sent.tail (.expect _ _ ?_ ?_)
    · intro ch is
      obtain ⟨chan, found, rfl⟩ := Option.map_eq_some_iff.mp is
      exact ⟨chan, (findChan_mem found).1, rfl, (findChan_mem found).2⟩
    · rcases kills_of_type expects with kills | call
      · exact .inl kills
      · right
        have some := named call
        dsimp only
        intro none
        rw [Option.map_eq_none_iff] at none
        change pptpCtrlFindChan w c msg false = Option.none at none
        rw [none] at some
        cases some

theorem moves_setChan (ch : Nat) {f : PptpChan → PptpChan}
    (same : ∀ chan, (f chan).addr = chan.addr ∧ (f chan).ctrl = chan.ctrl ∧
      (f chan).cid = chan.cid ∧ (f chan).cookie = chan.cookie ∧ (f chan).id = chan.id) :
    PptpMoves refusals u (w.setChan ch f) :=
  moves.tail (.setChan w ch f same)

theorem moves_setCtrl (c : Nat) {f : PptpCtrl → PptpCtrl}
    (same : ∀ ctrl, (f ctrl).addr = ctrl.addr ∧
      (f ctrl).active_sessions = ctrl.active_sessions) :
    PptpMoves refusals u (w.setCtrl c f) :=
  moves.tail (.setCtrl w c f same)

theorem moves_chanState (ch : Nat) (state : PptpChanState) :
    PptpMoves refusals u (w.setChan ch fun chan => { chan with state := state }) :=
  moves_setChan moves ch fun _ => ⟨rfl, rfl, rfl, rfl, rfl⟩

theorem moves_ctrlState (c : Nat) (state : PptpCtrlState) :
    PptpMoves refusals u (w.setCtrl c fun ctrl => { ctrl with state := state }) :=
  moves_setCtrl moves c fun _ => ⟨rfl, rfl⟩

theorem moves_pacClear (ch : PptpChan) (result : UInt8) :
    PptpMoves refusals u (pptpPacClear env w ch result) :=
  moves_kill (moves_writeMsg env moves _ _ (by rintro (is | is) <;> cases is)) _

theorem moves_pnsClear (ch : PptpChan) : PptpMoves refusals u (pptpPnsClear env w ch) := by
  refine moves_setChan (moves_writeMsg env moves _ _ ?_) _ fun _ => ⟨rfl, rfl, rfl, rfl, rfl⟩
  rintro (is | is) <;> cases is

theorem moves_closeChan (ch : Nat) (result : UInt8) :
    PptpMoves refusals u (pptpCtrlCloseChan env w ch result) := by
  unfold pptpCtrlCloseChan
  split
  · exact moves
  split
  · split
    · exact moves_pnsClear env moves _
    · exact moves_pacClear env moves _ _
  · exact moves_kill (moves_writeMsg env moves _ _ (by rintro (is | is) <;> cases is)) _
  · exact moves_pacClear env moves _ _
  · exact moves_pnsClear env moves _
  · exact moves_pnsClear env moves _
  · exact moves
  · exact moves_kill moves _

theorem moves_result {ch : PptpChan} (live : ch ∈ w.chans) :
    PptpMoves refusals u (pptpResult env w ch) := by
  unfold pptpResult
  split
  · exact moves
  case isFalse taken =>
  have told : PptpMoves refusals u (w.tell ch.addr .connected) :=
    moves.tail (.tell w live (by simpa using taken) (.inl rfl))
  have asked : PptpMoves refusals u ((w.tell ch.addr .connected).ask env).2 :=
    told.tail (.asked _ _)
  dsimp only
  split
  · exact asked
  have attaches : PptpMoves refusals u (((w.tell ch.addr .connected).ask env).2.ask env).2 :=
    asked.tail (.asked _ _)
  split
  · exact moves_closeChan env attaches _ _
  split
  · exact moves_writeMsg env attaches _ _ (by rintro (is | is) <;> cases is)
  · exact attaches

omit moves in
theorem mem_setChan {ch : Nat} {f : PptpChan → PptpChan} {chan : PptpChan}
    (live : chan ∈ w.chans) (its : chan.addr = ch) : f chan ∈ (w.setChan ch f).chans :=
  List.mem_map.mpr ⟨chan, live, if_pos its⟩

theorem moves_checkChan (ch : Nat) : PptpMoves refusals u (pptpCheckChan env w ch) := by
  unfold pptpCheckChan
  split
  · exact moves
  case h_2 chan found =>
  obtain ⟨live, its⟩ := chan?_mem found
  split
  · exact moves
  split
  · refine moves_writeMsg env (moves_chanState moves ch .waitInReply) _ _ ?_
    intro _
    unfold pptpCtrlFindChan
    refine List.find?_isSome.mpr ⟨{ chan with state := .waitInReply }, ?_, ?_⟩
    · exact List.mem_filter.mpr ⟨List.mem_map.mpr ⟨chan, live, if_pos its⟩, by simp⟩
    · simp [PptpMsg.cidField, PptpFind.tryCid]
  · refine moves_writeMsg env (moves_chanState moves ch .waitOutReply) _ _ ?_
    rintro (is | is) <;> cases is

theorem moves_checkConn (c : Nat) : PptpMoves refusals u (pptpCtrlCheckConn env w c) := by
  unfold pptpCtrlCheckConn
  split
  · exact moves
  split
  · exact moves
  · refine List.foldlRecOn (motive := PptpMoves refusals u) _ (pptpCheckChan env) moves ?_
    exact fun v since ch _ => moves_checkChan env since ch

theorem moves_closeCtrl (c : Nat) : PptpMoves refusals u (pptpCtrlCloseCtrl env w c) := by
  unfold pptpCtrlCloseCtrl
  split
  · exact moves
  split
  · refine moves_writeMsg env (moves_ctrlState moves c .waitStopReply) _ _ ?_
    rintro (is | is) <;> cases is
  · exact moves_killCtrl moves c

theorem moves_dialResult (ch : Nat) (result : UInt8) :
    PptpMoves refusals u (pptpCtrlDialResult env w ch result) := by
  unfold pptpCtrlDialResult
  split
  · exact moves
  dsimp only
  refine moves_writeMsg env ?_ _ _ (by rintro (is | is) <;> cases is)
  split
  · exact moves_chanState moves ch .established
  · exact moves_kill moves ch

theorem moves_setLinkInfo (ch : Nat) : PptpMoves refusals u (pptpCtrlSetLinkInfo env w ch) := by
  unfold pptpCtrlSetLinkInfo
  split
  · exact moves
  split
  · exact moves
  · exact moves_writeMsg env moves _ _ (by rintro (is | is) <;> cases is)

theorem moves_startCtrlConnRequest (c : Nat) (vers : UInt16) :
    PptpMoves refusals u (pptpStartCtrlConnRequest env w c vers) := by
  unfold pptpStartCtrlConnRequest
  split
  · have written := moves_writeMsg env moves c (.startCtrlConnReply 0x0100 5)
      (by rintro (is | is) <;> cases is)
    split
    · rename_i is
      rw [is] at written
      exact written
    · rename_i is
      rw [is] at written
      exact moves_killCtrl written c
  · refine moves_writeMsg env (moves_ctrlState moves c .established) _ _ ?_
    rintro (is | is) <;> cases is

theorem moves_startCtrlConnReply (c : Nat) (vers : UInt16) (result : UInt8) :
    PptpMoves refusals u (pptpStartCtrlConnReply env w c vers result) := by
  unfold pptpStartCtrlConnReply
  split
  · exact moves_killCtrl moves c
  split
  · refine moves_writeMsg env (moves_ctrlState moves c .waitStopReply) _ _ ?_
    rintro (is | is) <;> cases is
  · exact moves_checkConn env (moves_ctrlState moves c .established) c

theorem moves_stopCtrlConnRequest (c : Nat) :
    PptpMoves refusals u (pptpStopCtrlConnRequest env w c) := by
  have idle := moves_ctrlState moves c .idle
  have written := moves_writeMsg env idle c .stopCtrlConnReply (by rintro (is | is) <;> cases is)
  unfold pptpStopCtrlConnRequest
  split
  · rename_i is
    rw [is] at written
    exact written
  · rename_i is
    rw [is] at written
    exact moves_killCtrl written c

omit moves in
/-- What `PptpCtrlGetChan` does: the search for a call id hangs, or there is a new channel. -/
theorem getChan_cases (w : PptpWorld) (c : Nat) (state : PptpChanState) (orig incoming : Bool) :
    pptpCtrlGetChan w c state orig incoming = (none, { w with hung := true }) ∨
    ∃ ch : PptpChan, (ch.addr = w.nextChan ∧ ch.ctrl = c ∧ ch.id = pptpFreeSlot w c ∧
        ch.cookie = false) ∧ w.gCallIds ch.cid = false ∧
      pptpCtrlGetChan w c state orig incoming =
        (some ch, ({ w with
          nextChan := w.nextChan + 1
          chans := w.chans.orderedInsert (·.id ≤ ·.id) ch
          gCallIds := Function.update w.gCallIds ch.cid true
          gLastCallId := ch.cid } : PptpWorld).setCtrl c fun ctrl =>
            { ctrl with
              unused_timer := false, active_sessions := ctrl.active_sessions + 1 }) := by
  unfold pptpCtrlGetChan
  cases search : pptpNextCallId w with
  | none => exact .inl rfl
  | some cid =>
      have free : w.gCallIds cid = false := by simpa using List.find?_some search
      exact .inr ⟨⟨w.nextChan, c, pptpFreeSlot w c, state, orig, incoming, cid, 0, false⟩,
        ⟨rfl, rfl, rfl, rfl⟩, free, rfl⟩

omit moves in
/-- The channel that `PptpCtrlGetChan` makes is there, and the link side has not taken it. -/
theorem getChan_mem {c : Nat} {state : PptpChanState} {orig incoming : Bool} {ch : PptpChan}
    {v : PptpWorld} (got : pptpCtrlGetChan w c state orig incoming = (some ch, v)) :
    ch ∈ v.chans ∧ ch.ctrl = c ∧ ch.cookie = false := by
  rcases getChan_cases w c state orig incoming with hangs | ⟨made, ⟨-, its, -, free⟩, -, makes⟩
  · rw [hangs] at got
    cases got
  · rw [makes] at got
    cases got
    exact ⟨(List.perm_orderedInsert _ _ _).mem_iff.mpr (List.mem_cons_self ..), its, free⟩

theorem moves_getChan {c : Nat} {ctrl : PptpCtrl} (known : w.ctrl? c = some ctrl)
    (state : PptpChanState) (orig incoming : Bool) :
    PptpMoves refusals u (pptpCtrlGetChan w c state orig incoming).2 :=
  moves.tail (.getChan w state orig incoming known)

omit moves in
theorem ctrl?_newCtrl (w : PptpWorld) (orig : Bool) (self_addr peer_addr peer_port : Nat) :
    ∃ ctrl, (pptpNewCtrl w orig self_addr peer_addr peer_port).ctrl? w.nextCtrl = some ctrl := by
  unfold pptpNewCtrl PptpWorld.ctrl?
  dsimp only
  generalize ((List.range w.ctrls.length).find? _).getD w.ctrls.length = id
  refine Option.isSome_iff_exists.mp (List.find?_isSome.mpr ⟨
    { addr := w.nextCtrl, id := id, orig := orig, self_addr := self_addr,
      peer_addr := peer_addr, peer_port := peer_port }, ?_, by simp⟩)
  exact (List.perm_orderedInsert _ _ _).mem_iff.mpr (List.mem_cons_self ..)

theorem moves_origCall (incoming : Bool) (self_addr peer_addr peer_port : Nat) :
    PptpMoves refusals u (pptpCtrlOrigCall env w incoming self_addr peer_addr peer_port) := by
  have got : PptpMoves refusals u (pptpCtrlGetCtrl env w self_addr peer_addr peer_port).2 ∧
      ∀ c, (pptpCtrlGetCtrl env w self_addr peer_addr peer_port).1 = some c →
        ∃ ctrl, (pptpCtrlGetCtrl env w self_addr peer_addr peer_port).2.ctrl? c = some ctrl := by
    unfold pptpCtrlGetCtrl
    split
    case h_1 d found =>
      refine ⟨moves, ?_⟩
      rintro c ⟨⟩
      refine Option.isSome_iff_exists.mp (List.find?_isSome.mpr ⟨d, ?_, by simp⟩)
      exact List.mem_of_find?_eq_some found
    case h_2 =>
      have asked : PptpMoves refusals u (w.ask env).2 := moves.tail (.asked w _)
      dsimp only
      split
      · exact ⟨asked, nofun⟩
      · refine ⟨asked.tail (.newCtrl _ true self_addr peer_addr peer_port), ?_⟩
        rintro c ⟨⟩
        exact ctrl?_newCtrl (w.ask env).2 true self_addr peer_addr peer_port
  unfold pptpCtrlOrigCall
  generalize pptpCtrlGetCtrl env w self_addr peer_addr peer_port = outcome at got ⊢
  obtain ⟨chosen, v⟩ := outcome
  obtain ⟨since, known⟩ := got
  cases chosen with
  | none => exact since
  | some c =>
      obtain ⟨ctrl, there⟩ := known c rfl
      have made := moves_getChan since there .waitCtrl true incoming
      dsimp only at made ⊢
      generalize result : pptpCtrlGetChan v c .waitCtrl true incoming = outcome at made ⊢
      obtain ⟨created, x⟩ := outcome
      cases created with
      | none => exact made
      | some ch =>
          obtain ⟨live, -, free⟩ := getChan_mem result
          exact moves_checkConn env (made.tail (.take x live free 0)) c

theorem moves_outCallRequest {c : Nat} {ctrl : PptpCtrl} (known : w.ctrl? c = some ctrl)
    (cid : UInt16) : PptpMoves refusals u (pptpOutCallRequest env w c cid) := by
  have made := moves_getChan moves known .waitAnswer false false
  unfold pptpOutCallRequest
  generalize result : pptpCtrlGetChan w c .waitAnswer false false = outcome at made ⊢
  obtain ⟨created, v⟩ := outcome
  cases created with
  | none => exact made
  | some ch =>
      obtain ⟨live, -, free⟩ := getChan_mem result
      have asked : PptpMoves refusals u (v.ask env).2 := made.tail (.asked v _)
      dsimp only
      split
      · exact asked.tail (.take (v.ask env).2 live free cid)
      · refine moves_writeMsg env (moves_kill asked ch.addr) _ _ ?_
        rintro (is | is) <;> cases is

/-- The channel that a reply names is found by its call id. -/
theorem moves_inCallRequest {c : Nat} {ctrl : PptpCtrl} (known : w.ctrl? c = some ctrl)
    (cid : UInt16) : PptpMoves refusals u (pptpInCallRequest env w c cid) := by
  have made := moves_getChan moves known .waitConnect false true
  unfold pptpInCallRequest
  generalize result : pptpCtrlGetChan w c .waitConnect false true = outcome at made ⊢
  obtain ⟨created, v⟩ := outcome
  cases created with
  | none => exact made
  | some ch =>
      obtain ⟨live, its, free⟩ := getChan_mem result
      have asked : PptpMoves refusals u (v.ask env).2 := made.tail (.asked v _)
      dsimp only
      split
      · refine moves_writeMsg env (asked.tail (.take (v.ask env).2 live free cid)) _ _ ?_
        intro _
        unfold pptpCtrlFindChan
        refine List.find?_isSome.mpr ⟨{ ch with peerCid := cid, cookie := true }, ?_, ?_⟩
        · refine List.mem_filter.mpr ⟨List.mem_map.mpr ⟨ch, live, if_pos rfl⟩, ?_⟩
          simpa using its
        · simp [PptpMsg.cidField, PptpFind.tryCid]
      · have written := moves_writeMsg env asked c (.inCallReply ch.cid cid 3) ?_
        · split
          · rename_i is
            rw [is] at written
            exact written
          · rename_i is
            rw [is] at written
            exact moves_kill written ch.addr
        · intro _
          unfold pptpCtrlFindChan
          refine List.find?_isSome.mpr ⟨ch, ?_, ?_⟩
          · exact List.mem_filter.mpr ⟨live, by simpa using its⟩
          · simp [PptpMsg.cidField, PptpFind.tryCid]

theorem moves_inCallConn {ch : PptpChan} (live : ch ∈ w.chans) :
    PptpMoves refusals u (pptpInCallConn env w ch) :=
  moves_chanState (moves_result env moves live) ch.addr .established

theorem moves_callClearRequest (ch : PptpChan) :
    PptpMoves refusals u (pptpCallClearRequest env w ch) := by
  unfold pptpCallClearRequest
  split
  · exact moves_killCtrl moves _
  · refine moves_writeMsg env (moves_kill moves ch.addr) _ _ ?_
    rintro (is | is) <;> cases is

theorem moves_toldLinkInfo {ch : PptpChan} (live : ch ∈ w.chans) :
    PptpMoves refusals u (pptpSetLinkInfo w ch) := by
  unfold pptpSetLinkInfo
  split
  · rename_i taken
    exact moves.tail (.tell w live taken (.inr rfl))
  · exact moves

/-- A refused call is told of twice, which only `refusals` allows. -/
theorem moves_outCallReply {ch : PptpChan} (live : ch ∈ w.chans) (cid : UInt16) {result : UInt8}
    (refused : result ≠ 1 → refusals) :
    PptpMoves refusals u (pptpOutCallReply env w ch cid result) := by
  unfold pptpOutCallReply
  split
  case isTrue failed =>
    refine moves_kill ?_ ch.addr
    split
    · exact moves.tail (.refuse w ch.addr (refused failed))
    · exact moves
  case isFalse =>
    have set : PptpMoves refusals u
        (w.setChan ch.addr fun ch => { ch with peerCid := cid, state := .established }) :=
      moves_setChan moves ch.addr fun _ => ⟨rfl, rfl, rfl, rfl, rfl⟩
    refine moves_result env set ?_
    exact mem_setChan (f := fun ch => { ch with peerCid := cid, state := .established }) live rfl

def PptpWorld.Refuses (w : PptpWorld) (c : Nat) (msg : PptpMsg) : Prop :=
  ∃ ch cid peerCid result, pptpCtrlFindChan w c msg true = some ch ∧
    (msg = .outCallReply cid peerCid result ∨ msg = .inCallReply cid peerCid result) ∧
    result ≠ 1 ∧ ch.state ∈ (gPptpMsgInfo msg.type).chanStates ∧
    (pptpAnswered w c msg (some ch.addr)).isSome = true

theorem moves_ctrlHandler {c : Nat} {ctrl : PptpCtrl} (known : w.ctrl? c = some ctrl)
    (msg : PptpMsg) : PptpMoves refusals u (pptpCtrlHandler env w c msg) := by
  cases msg with
  | startCtrlConnRequest vers => exact moves_startCtrlConnRequest env moves c vers
  | startCtrlConnReply vers result => exact moves_startCtrlConnReply env moves c vers result
  | stopCtrlConnRequest => exact moves_stopCtrlConnRequest env moves c
  | stopCtrlConnReply => exact moves_killCtrl moves c
  | echoRequest id =>
      exact moves_writeMsg env moves c (.echoReply id 1) (by rintro (is | is) <;> cases is)
  | echoReply id result =>
      change PptpMoves refusals u (pptpEchoReply w c id result)
      unfold pptpEchoReply
      split
      · exact moves
      split
      · exact moves_killCtrl moves c
      · exact moves
  | outCallRequest cid => exact moves_outCallRequest env moves known cid
  | inCallRequest cid => exact moves_inCallRequest env moves known cid
  | _ => exact moves

theorem moves_chanHandler {ch : PptpChan} (live : ch ∈ w.chans) {msg : PptpMsg}
    (refused : ∀ cid peerCid result,
      (msg = .outCallReply cid peerCid result ∨ msg = .inCallReply cid peerCid result) →
        result ≠ 1 → refusals) : PptpMoves refusals u (pptpChanHandler env w ch msg) := by
  cases msg with
  | outCallReply cid peerCid result =>
      exact moves_outCallReply env moves live cid (refused cid peerCid result (.inl rfl))
  | inCallReply cid peerCid result =>
      exact moves_outCallReply env moves live cid (refused cid peerCid result (.inr rfl))
  | inCallConn => exact moves_inCallConn env moves live
  | callClearRequest => exact moves_callClearRequest env moves ch
  | callDiscNotify => exact moves_kill moves _
  | setLinkInfo => exact moves_toldLinkInfo moves live
  | _ => exact moves

theorem moves_ctrlMsg (c : Nat) (msg : PptpMsg) (refused : w.Refuses c msg → refusals) :
    PptpMoves refusals u (pptpCtrlMsg env w c msg) := by
  unfold pptpCtrlMsg
  split
  · exact moves
  case h_2 ctrl known =>
  have cancelled : ∀ answered : Option PptpPendRep, PptpMoves refusals u
      { w with reps := answered.elim w.reps fun prep => w.reps.erase prep } := by
    intro answered
    cases answered with
    | none => exact moves
    | some prep => exact moves.tail (.answered w prep)
  have here := (ctrl?_addr known).2
  split
  · unfold pptpCtrlMsgFor
    dsimp only
    split
    · exact moves
    split
    · exact moves_killCtrl (cancelled _) _
    · rw [here]
      exact moves_ctrlHandler env (w := { w with reps := _ }) (cancelled _)
        (show PptpWorld.ctrl? _ c = some ctrl from known) msg
  split
  · exact moves
  case h_2 ch found =>
    unfold pptpCtrlMsgFor
    dsimp only
    split
    · exact moves
    case isFalse genuine =>
    split
    · exact moves_killCtrl (cancelled _) _
    case isFalse valid =>
      refine moves_chanHandler env (cancelled _) (w := { w with reps := _ }) (findChan_mem found).1 ?_
      intro cid peerCid result is failed
      refine refused ⟨ch, cid, peerCid, result, found, is, failed, not_not.mp valid, ?_⟩
      have reply : (gPptpMsgInfo msg.type).isReply = true := by
        rcases is with rfl | rfl <;> rfl
      rw [here] at genuine
      simpa [reply, Option.isNone_iff_eq_none, Option.isSome_iff_ne_none] using genuine

theorem moves_replyTimeout {prep : PptpPendRep}
    (named : (gPptpMsgInfo prep.request).killCtrl = false → prep.chan ≠ none) :
    PptpMoves refusals u (pptpCtrlReplyTimeout env w prep) := by
  have unlinked : PptpMoves refusals u { w with reps := w.reps.erase prep } :=
    moves.tail (.answered w prep)
  unfold pptpCtrlReplyTimeout
  dsimp only
  split
  · exact moves_killCtrl unlinked _
  case isFalse closes =>
    split
    · rename_i none
      exact absurd none (named (by simpa using closes))
    · exact moves_closeChan env unlinked _ _

/-- A reply that refuses a call is not accepted. -/
def PptpUnrefused (w : PptpWorld) : PptpEvent → Prop
  | .received c msg => ¬w.Refuses c msg
  | _ => True

theorem moves_pptpStep (event : PptpEvent) (refused : ¬PptpUnrefused w event → refusals)
    (named : ∀ prep ∈ w.reps, (gPptpMsgInfo prep.request).killCtrl = false → prep.chan ≠ none) :
    PptpMoves refusals u (pptpStep env w event) := by
  unfold pptpStep
  split
  · exact moves
  cases event with
  | origCall => exact moves_origCall env moves ..
  | close ch => exact moves_closeChan env moves ch 3
  | answer ch result => exact moves_dialResult env moves ch result
  | setLinkInfo ch => exact moves_setLinkInfo env moves ch
  | listen => exact moves.tail (.newCtrl ..)
  | connEvent c =>
      change PptpMoves refusals u (pptpCtrlConnEvent env w c)
      unfold pptpCtrlConnEvent
      split
      · exact moves
      split
      · exact moves
      have asked : PptpMoves refusals u (w.ask env).2 := moves.tail (.asked w _)
      dsimp only
      split
      · exact moves_killCtrl asked c
      · refine moves_writeMsg env (moves_ctrlState asked c .waitCtlReply) _ _ ?_
        rintro (is | is) <;> cases is
  | received c msg =>
      exact moves_ctrlMsg env moves c msg fun refuses => refused (not_not.mpr refuses)
  | broken c => exact moves_killCtrl moves c
  | replyTimeout prep =>
      dsimp only
      split
      · rename_i listed
        exact moves_replyTimeout env moves (named prep listed)
      · exact moves
  | idleTimeout c =>
      change PptpMoves refusals u (pptpCtrlIdleTimeout env w c)
      unfold pptpCtrlIdleTimeout
      split
      · exact moves
      have counted : PptpMoves refusals u
          (w.setCtrl c fun ctrl => { ctrl with echoId := ctrl.echoId + 1 }) :=
        moves_setCtrl moves c fun _ => ⟨rfl, rfl⟩
      exact moves_writeMsg env counted _ _ (by rintro (is | is) <;> cases is)
  | unusedTimeout c =>
      have off : PptpMoves refusals u
          (w.setCtrl c fun ctrl => { ctrl with unused_timer := false }) :=
        moves_setCtrl moves c fun _ => ⟨rfl, rfl⟩
      dsimp only
      split
      · exact moves_closeCtrl env off c
      · exact moves

end Functions

end Mpd
