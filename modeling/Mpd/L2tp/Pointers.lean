import Mpd.L2tp.Unpacked
import Mpd.Outcome

/-! The handlers of a message follow only pointers that the tables of required AVPs guarantee. -/

set_option autoImplicit false

namespace Mpd

open Outcome

/-- A fault that is not the read of something absent. -/
def NoRead (fault : L2tpFault) : Prop := fault = .endless ∨ fault = .assertion

/-- The pointers that the handler of a message follows without a check. -/
def l2tpFollowed : L2tpMsgType → List AvpType
  | .sccrq | .sccrp =>
      [.messageType, .hostName, .protocolVersion, .assignedTunnelId, .framingCapabilities]
  | .scccn => [.messageType]
  | .stopCcn | .cdn => [.resultCode]
  | .icrq | .ocrq => [.callSerialNumber, .assignedSessionId]
  | .icrp | .ocrp => [.assignedSessionId]
  | .wen => [.callErrors]
  | .sli => [.accm]
  | _ => []

/-- Every message must carry the AVPs whose pointers its handler follows. -/
theorem l2tpMsgInfo_followed : ∀ info ∈ l2tpMsgInfo, ∀ type ∈ l2tpFollowed info.type,
    type = .messageType ∨ type ∈ info.req_avps := by
  decide

section Calls

variable (env : L2tpEnv) (w : L2tpWorld)

theorem reads_deathStart : Ends NoRead (fun _ => True) (l2tpCtrlDeathStart w) := by
  unfold l2tpCtrlDeathStart
  split
  · exact Or.inr rfl
  · trivial

theorem reads_afterLast : Ends NoRead (fun _ => True) (l2tpAfterLast w) := by
  unfold l2tpAfterLast
  split
  · split
    · exact reads_deathStart w
    · trivial
  · trivial

theorem reads_sessDestroy (sess : L2tpSess) :
    Ends NoRead (fun _ => True) (l2tpSessDestroy env w sess) := by
  unfold l2tpSessDestroy
  split
  · apply Ends.bind (reads_afterLast _)
    exact fun _ _ => trivial
  · trivial

theorem reads_sessCreate (orig : L2tpOrig) (side : L2tpSide) (serial : UInt32) :
    Ends NoRead (fun _ => True) (l2tpSessCreate env w orig side serial) := by
  unfold l2tpSessCreate
  dsimp only
  split
  · exact Or.inl rfl
  generalize (l2tpCountSess w).ask env = asked
  obtain ⟨put, v⟩ := asked
  cases put with
  | true => trivial
  | false =>
      apply Ends.map (reads_sessDestroy env v _)
      exact fun _ _ => trivial

theorem reads_initiate (out include_length enable_dseq : Bool) (avps : List Avp) :
    Ends NoRead (fun _ => True) (l2tpInitiate env w out include_length enable_dseq avps) := by
  unfold l2tpInitiate
  split
  · trivial
  split
  · trivial
  apply Ends.bind (reads_sessCreate env _ _ _ _)
  intro ⟨created, v⟩ _
  cases created <;> trivial

theorem reads_call (call : L2tpCall) : Ends NoRead (fun _ => True) (l2tpCall env w call) := by
  cases call with
  | initiate out include_length enable_dseq avps => exact reads_initiate env w _ _ _ _
  | _ => trivial

theorem reads_callback (call : L2tpCallback) :
    Ends NoRead (fun _ => True) (l2tpCallback env w call) := by
  unfold l2tpCallback
  apply Ends.foldlM
  · exact fun call _ v _ => reads_call env v call
  · trivial

end Calls

section Handlers

variable (env : L2tpEnv) (w : L2tpWorld) {ptrs : AvpPtrs}

theorem reads_follow {type : AvpType} (set : (ptrs type).isSome = true) :
    Ends NoRead (fun _ => True) (ptrs.follow type) := by
  obtain ⟨data, pointer⟩ := Option.isSome_iff_exists.mp set
  rw [AvpPtrs.follow, pointer]
  trivial

theorem reads_answerChallenge (message : (ptrs .messageType).isSome = true) :
    Ends NoRead (fun _ => True) (l2tpAnswerChallenge env w ptrs) := by
  unfold l2tpAnswerChallenge
  split
  · trivial
  split
  · trivial
  · apply Ends.bind (reads_follow message)
    exact fun _ _ => trivial

theorem reads_ctrlSetup1 (set : ∀ type ∈ l2tpFollowed .sccrq, (ptrs type).isSome = true) :
    Ends NoRead (fun _ => True) (l2tpCtrlSetup1 env w ptrs) := by
  unfold l2tpCtrlSetup1
  apply Ends.bind (reads_follow (set _ (by decide)))
  intro hostname _
  apply Ends.bind (reads_follow (set _ (by decide)))
  intro version _
  apply Ends.bind (reads_follow (set _ (by decide)))
  intro tunnelid _
  apply Ends.bind (reads_follow (set _ (by decide)))
  intro framingcap _
  dsimp only
  split
  · exact reads_answerChallenge env _ (set _ (by decide))
  · trivial

theorem reads_ctrlSetup2 (message : (ptrs .messageType).isSome = true) :
    Ends NoRead (fun _ => True) (l2tpCtrlSetup2 env w ptrs) := by
  unfold l2tpCtrlSetup2
  dsimp only
  split
  · trivial
  refine Ends.bind (p := fun _ => True) ?_ fun _ _ => trivial
  unfold l2tpVerifyResponse
  split
  · trivial
  split
  · trivial
  apply Ends.bind (reads_follow message)
  intro mesgtype _
  dsimp only
  split <;> trivial

theorem reads_acceptSccrq (set : ∀ type ∈ l2tpFollowed .sccrq, (ptrs type).isSome = true) :
    Ends NoRead (fun _ => True) (l2tpAcceptSccrq env w ptrs) := by
  unfold l2tpAcceptSccrq
  apply Ends.bind (reads_ctrlSetup1 env w set)
  intro ⟨handled, v⟩ _
  cases handled <;> trivial

theorem reads_handleSccrq (set : ∀ type ∈ l2tpFollowed .sccrq, (ptrs type).isSome = true) :
    Ends NoRead (fun _ => True) (l2tpHandleSccrq env w ptrs) := by
  unfold l2tpHandleSccrq
  split
  · exact reads_acceptSccrq env w set
  split
  · exact reads_acceptSccrq env w set
  · trivial
  · trivial
  · exact reads_acceptSccrq env _ set

theorem reads_handleSccrp (set : ∀ type ∈ l2tpFollowed .sccrq, (ptrs type).isSome = true) :
    Ends NoRead (fun _ => True) (l2tpHandleSccrp env w ptrs) := by
  unfold l2tpHandleSccrp
  apply Ends.bind (reads_ctrlSetup1 env w set)
  intro ⟨first, v⟩ _
  cases first with
  | false => trivial
  | true =>
      apply Ends.bind (reads_ctrlSetup2 env v (set _ (by decide)))
      intro ⟨second, u⟩ _
      cases second with
      | false => trivial
      | true =>
          apply Ends.bind (reads_callback env _ _)
          exact fun _ _ => trivial

theorem reads_handleScccn (message : (ptrs .messageType).isSome = true) :
    Ends NoRead (fun _ => True) (l2tpHandleScccn env w ptrs) := by
  unfold l2tpHandleScccn
  apply Ends.bind (reads_ctrlSetup2 env w message)
  intro ⟨handled, v⟩ _
  cases handled with
  | false => trivial
  | true =>
      apply Ends.bind (reads_callback env _ _)
      exact fun _ _ => trivial

theorem reads_handleRequest (side : L2tpSide) (out : Bool) (avps : List Avp)
    (respond : L2tpWorld → L2tpSess → L2tpWorld)
    (set : ∀ type ∈ l2tpFollowed .icrq, (ptrs type).isSome = true) :
    Ends NoRead (fun _ => True) (l2tpHandleRequest env w side out avps ptrs respond) := by
  unfold l2tpHandleRequest
  apply Ends.bind (reads_follow (set _ (by decide)))
  intro serialnum _
  apply Ends.bind (reads_sessCreate env w _ _ _)
  intro ⟨created, v⟩ _
  cases created with
  | none => trivial
  | some session_id =>
      apply Ends.bind (reads_follow (set _ (by decide)))
      intro sessionid _
      apply Ends.bind (reads_callback env _ _)
      intro u _
      dsimp only
      split <;> trivial

theorem reads_ctrlHandler {msgtype : L2tpMsgType} (avps : List Avp)
    (set : ∀ type ∈ l2tpFollowed msgtype, (ptrs type).isSome = true) :
    Ends NoRead (fun _ => True) (l2tpCtrlHandler env w avps ptrs msgtype) := by
  cases msgtype with
  | sccrq => exact reads_handleSccrq env w set
  | sccrp => exact reads_handleSccrp env w set
  | scccn => exact reads_handleScccn env w (set _ (by decide))
  | stopCcn =>
      change Ends NoRead _ (l2tpHandleStopCcn env w ptrs)
      unfold l2tpHandleStopCcn
      apply Ends.bind (reads_follow (set _ (by decide)))
      exact fun _ _ => trivial
  | icrq =>
      change Ends NoRead _ (l2tpHandleIcrq env w avps ptrs)
      exact reads_handleRequest env w _ _ avps _ set
  | ocrq =>
      change Ends NoRead _ (l2tpHandleOcrq env w avps ptrs)
      exact reads_handleRequest env w _ _ avps _ set
  | _ => trivial

theorem reads_sessHandler {msgtype : L2tpMsgType} (sess : L2tpSess) (avps : List Avp)
    (set : ∀ type ∈ l2tpFollowed msgtype, (ptrs type).isSome = true) :
    Ends NoRead (fun _ => True) (l2tpSessHandler env w sess avps ptrs msgtype) := by
  cases msgtype with
  | icrp =>
      change Ends NoRead _ (l2tpHandleIcrp env w sess ptrs)
      unfold l2tpHandleIcrp
      split
      · trivial
      apply Ends.bind (reads_follow (set _ (by decide)))
      intro sessionid _
      dsimp only
      split <;> trivial
  | ocrp =>
      change Ends NoRead _ (l2tpHandleOcrp w sess ptrs)
      unfold l2tpHandleOcrp
      split
      · trivial
      apply Ends.bind (reads_follow (set _ (by decide)))
      exact fun _ _ => trivial
  | iccn =>
      change Ends NoRead _ (l2tpHandleXccn env w sess avps ptrs)
      unfold l2tpHandleXccn
      split <;> trivial
  | occn =>
      change Ends NoRead _ (l2tpHandleXccn env w sess avps ptrs)
      unfold l2tpHandleXccn
      split <;> trivial
  | cdn =>
      change Ends NoRead _ (l2tpHandleCdn env w sess ptrs)
      unfold l2tpHandleCdn
      apply Ends.bind (reads_follow (set _ (by decide)))
      exact fun _ _ => trivial
  | wen =>
      change Ends NoRead _ (l2tpHandleWen env w sess ptrs)
      unfold l2tpHandleWen
      split
      · trivial
      split
      · trivial
      apply Ends.bind (reads_follow (set _ (by decide)))
      intro errors _
      apply Ends.bind (reads_callback env _ _)
      exact fun _ _ => trivial
  | sli =>
      change Ends NoRead _ (l2tpHandleSli env w sess ptrs)
      unfold l2tpHandleSli
      split
      · trivial
      apply Ends.bind (reads_follow (set _ (by decide)))
      intro accm _
      apply Ends.bind (reads_callback env _ _)
      exact fun _ _ => trivial
  | _ => trivial

theorem reads_ctrlMessage (info : L2tpMsgInfo) (valid_states : List L2tpCtrlState)
    (avps : List Avp) (set : ∀ type ∈ l2tpFollowed info.type, (ptrs type).isSome = true) :
    Ends NoRead (fun _ => True) (l2tpCtrlMessage env w info valid_states avps ptrs) := by
  unfold l2tpCtrlMessage
  split
  · split <;> trivial
  · apply Ends.bind (reads_ctrlHandler env _ avps set)
    exact fun _ _ => trivial

theorem reads_sessMessage (session_id : UInt16) (info : L2tpMsgInfo)
    (valid_states : List L2tpSessState) (valid_orig : List L2tpOrig)
    (valid_side : List L2tpSide) (avps : List Avp)
    (set : ∀ type ∈ l2tpFollowed info.type, (ptrs type).isSome = true) :
    Ends NoRead (fun _ => True)
      (l2tpSessMessage env w session_id info valid_states valid_orig valid_side avps ptrs) := by
  unfold l2tpSessMessage
  split
  · trivial
  split
  · trivial
  · apply Ends.bind (reads_sessHandler env _ _ avps set)
    exact fun _ _ => trivial

/-- The pointers that a handler follows are set, when the message has the AVPs that it must
carry. -/
theorem followed_of_required {info : L2tpMsgInfo} (listed : info ∈ l2tpMsgInfo)
    {avps : List Avp} (known : ∀ avp ∈ avps, avp.Known pppL2tpAvpInfoList)
    (first : ∃ avp ∈ avps, avp.type = AvpType.messageType.num)
    (carries : l2tpMissing info avps = none) :
    ∃ ptrs, avpList2ptrs avps = .ok ptrs ∧
      ∀ type ∈ l2tpFollowed info.type, (ptrs type).isSome = true := by
  obtain ⟨ptrs, stored, filled⟩ := ptrs_of_known known
  refine ⟨ptrs, stored, fun type follows => ?_⟩
  obtain rfl | required := l2tpMsgInfo_followed info listed type follows
  · obtain ⟨avp, member, isType⟩ := first
    exact filled avp member .messageType isType
  · have present := List.find?_eq_none.mp carries type required
    simp only [List.all_eq_true, decide_eq_true_eq, not_forall, not_not] at present
    obtain ⟨avp, member, isType⟩ := present
    exact filled avp member type isType

theorem reads_knownMessage (session_id : UInt16) {info : L2tpMsgInfo}
    (listed : info ∈ l2tpMsgInfo) {avps : List Avp}
    (known : ∀ avp ∈ avps, avp.Known pppL2tpAvpInfoList)
    (first : ∃ avp ∈ avps, avp.type = AvpType.messageType.num) :
    Ends NoRead (fun _ => True) (l2tpKnownMessage env w session_id info avps) := by
  unfold l2tpKnownMessage
  split
  · trivial
  · rename_i carries
    obtain ⟨ptrs, stored, set⟩ := followed_of_required listed known first carries
    rw [stored]
    dsimp only [bind, Except.bind]
    split
    · exact reads_ctrlMessage env w info _ avps set
    · exact reads_sessMessage env w session_id info _ _ _ avps set

end Handlers

end Mpd
