import Mpd.L2tp.Ctrl
import Mpd.Transition

/-! The handlers of received control messages, and the steps of a control connection. -/

set_option autoImplicit false

namespace Mpd

abbrev L2tpHandled : Type := Except L2tpFault (Bool × L2tpWorld)

def l2tpDefaultPeerWin : UInt16 := 4

def avpCstr (value : Bytes) : Bytes := value.takeWhile (· ≠ 0)

def l2tpEbuf (text : String) : Option Bytes := some ((ascii text).take 63)

/-- `ppp_l2tp_ctrl_setup_1` from the challenge on. -/
def l2tpAnswerChallenge (env : L2tpEnv) (w : L2tpWorld) (ptrs : AvpPtrs) : L2tpHandled :=
  match ptrs .challenge with
  | none => .ok (true, w)
  | some challenge =>
      match w.ctrl.secret with
      | none => .ok (false, l2tpCtrlClose env w l2tpResultNotAuth 0 none)
      | some secret => do
          let mesgtype : UInt16 ← ptrs.follow .messageType
          let t := if mesgtype = L2tpMsgType.sccrq.num then L2tpMsgType.sccrp else .scccn
          let hash := env.md5 (UInt8.ofNat t.num.toNat :: (secret ++ show Bytes from challenge))
          pure (true, w.setCtrl fun ctrl =>
            { ctrl with
              avps := ctrl.avps ++ [⟨false, 0, AvpType.challengeResponse.num, hash.toList⟩] })

/-- What `ppp_l2tp_ctrl_setup_1` takes of the peer's AVPs. -/
def l2tpLearnPeer (ptrs : AvpPtrs) (hostname : Bytes) (tunnelid : UInt16)
    (framingcap : FramingAvp) (ctrl : L2tpCtrl) : L2tpCtrl :=
  let digital := (ptrs .bearerCapabilities).any fun bearer : BearerAvp => bearer.digital
  let analog := (ptrs .bearerCapabilities).any fun bearer : BearerAvp => bearer.analog
  { ctrl with
    peer_id := tunnelid
    peer_win := match ptrs .receiveWindowSize with
      | none => l2tpDefaultPeerWin
      | some (size : UInt16) => if size = 0 then l2tpDefaultPeerWin else size
    peer_bearer := ctrl.peer_bearer ||| (if digital then l2tpBearerDigital else 0) |||
      (if analog then l2tpBearerAnalog else 0)
    peer_framing := ctrl.peer_framing ||| (if framingcap.sync then l2tpFramingSync else 0) |||
      (if framingcap.async then l2tpFramingAsync else 0)
    peer_name := cstr 256 hostname }

def l2tpCtrlSetup1 (env : L2tpEnv) (w : L2tpWorld) (ptrs : AvpPtrs) : L2tpHandled := do
  let hostname : Bytes ← ptrs.follow .hostName
  let _ ← ptrs.follow .protocolVersion
  let tunnelid : UInt16 ← ptrs.follow .assignedTunnelId
  let framingcap : FramingAvp ← ptrs.follow .framingCapabilities
  let (configured, w) :=
    (w.setCtrl (l2tpLearnPeer ptrs hostname tunnelid framingcap)).ask env
  if configured then l2tpAnswerChallenge env w ptrs else pure (false, w)

/-- `ppp_l2tp_ctrl_setup_2` where it verifies the peer's challenge response. -/
def l2tpVerifyResponse (env : L2tpEnv) (w : L2tpWorld) (ptrs : AvpPtrs) : L2tpHandled :=
  match w.ctrl.secret with
  | none => .ok (true, w)
  | some secret =>
      match ptrs .challengeResponse with
      | none => .ok (false, l2tpCtrlClose env w l2tpResultNotAuth 0 none)
      | some response => do
          let mesgtype : UInt16 ← ptrs.follow .messageType
          let hash := env.md5 (UInt8.ofNat mesgtype.toNat :: (secret ++ w.ctrl.chal.toList))
          if hash.toList = (show Bytes from response).take 16 then pure (true, w)
          else pure (false, l2tpCtrlClose env w l2tpResultNotAuth 0 none)

def l2tpCtrlSetup2 (env : L2tpEnv) (w : L2tpWorld) (ptrs : AvpPtrs) : L2tpHandled := do
  let w := w.setCtrl fun ctrl => { ctrl with match_id := true }
  let (configured, w) := w.ask env
  if !configured then pure (false, w)
  else
    let (verified, w) ← l2tpVerifyResponse env w ptrs
    pure (verified, if verified then l2tpStartUnused w else w)

/-- What `ppp_l2tp_handle_SCCRQ` makes of the tie-breakers: less than zero when the connection
of this SCCRQ goes on. Neither side having used one is `none`. -/
def l2tpTie (avps : List Avp) (theirs : Option Bytes) : Option Ordering :=
  let tiebreaker := avps.find? fun avp => avp.vendor = 0 ∧ avp.type = AvpType.tieBreaker.num
  match tiebreaker, theirs with
  | none, none => none
  | none, some _ => some .gt
  | some _, none => some .lt
  | some ours, some theirs => some (compare (ours.value.take 8) (theirs.take 8))

/-- `ppp_l2tp_handle_SCCRQ` from `ok` on. -/
def l2tpAcceptSccrq (env : L2tpEnv) (w : L2tpWorld) (ptrs : AvpPtrs) : L2tpHandled := do
  let (set, w) ← l2tpCtrlSetup1 env w ptrs
  if !set then pure (false, w)
  else
    let w := w.setCtrl fun ctrl => { ctrl with state := .waitCtlConnect }
    pure (true, l2tpCtrlSend env w 0 .sccrp w.ctrl.avps)

def l2tpHandleSccrq (env : L2tpEnv) (w : L2tpWorld) (ptrs : AvpPtrs) : L2tpHandled :=
  match env.outstanding w with
  | none => l2tpAcceptSccrq env w ptrs
  | some avps =>
      match l2tpTie avps (ptrs .tieBreaker) with
      | none => l2tpAcceptSccrq env w ptrs
      | some .eq =>
          .ok (true,
            (l2tpCtrlClose env w l2tpResultDupCtrl 0 none).act (.closeOther l2tpResultDupCtrl))
      | some .gt => .ok (true, l2tpCtrlClose env w l2tpResultDupCtrl 0 none)
      | some .lt => l2tpAcceptSccrq env (w.act (.closeOther l2tpResultDupCtrl)) ptrs

def l2tpHandleSccrp (env : L2tpEnv) (w : L2tpWorld) (ptrs : AvpPtrs) : L2tpHandled := do
  let (set, w) ← l2tpCtrlSetup1 env w ptrs
  if !set then pure (false, w)
  else
    let (set, w) ← l2tpCtrlSetup2 env w ptrs
    if !set then pure (false, w)
    else
      let w := w.setCtrl fun ctrl => { ctrl with state := .established }
      let w := l2tpCtrlSend env w 0 .scccn w.ctrl.avps
      pure (true, ← l2tpCallback env w .ctrlConnected)

def l2tpHandleScccn (env : L2tpEnv) (w : L2tpWorld) (ptrs : AvpPtrs) : L2tpHandled := do
  let (set, w) ← l2tpCtrlSetup2 env w ptrs
  if !set then pure (false, w)
  else
    let w := w.setCtrl fun ctrl => { ctrl with state := .established }
    pure (true, ← l2tpCallback env w .ctrlConnected)

def l2tpHandleStopCcn (env : L2tpEnv) (w : L2tpWorld) (ptrs : AvpPtrs) : L2tpHandled := do
  let w := w.setCtrl fun ctrl =>
    { ctrl with
      peer_notified := true
      sessions := ctrl.sessions.map fun sess => { sess with peer_notified := true } }
  let errresultcode : ErrResultCodeAvp ← ptrs.follow .resultCode
  pure (true, l2tpCtrlClose env w errresultcode.result errresultcode.error
    (some (avpCstr errresultcode.errmsg)))

/-- `ppp_l2tp_handle_OCRQ` and `ppp_l2tp_handle_ICRQ` up to the response. -/
def l2tpHandleRequest (env : L2tpEnv) (w : L2tpWorld) (side : L2tpSide) (out : Bool)
    (avps : List Avp) (ptrs : AvpPtrs) (respond : L2tpWorld → L2tpSess → L2tpWorld) :
    L2tpHandled := do
  let serialnum : UInt32 ← ptrs.follow .callSerialNumber
  let (created, w) ← l2tpSessCreate env w .origRemote side serialnum
  match created with
  | none => pure (false, w)
  | some session_id =>
      let sessionid : UInt16 ← ptrs.follow .assignedSessionId
      let w := w.setSess session_id fun sess => { sess with peer_id := sessionid }
      let w ← l2tpCallback env w (.initiated session_id out avps)
      let (include_length, enable_dseq) := env.fields w
      let w := w.setSess session_id fun sess =>
        { sess with include_length := include_length, enable_dseq := enable_dseq }
      match w.sess? session_id with
      | none => pure (true, w)
      | some sess => pure (true, if sess.state = .dying then w else respond w sess)

def l2tpHandleOcrq (env : L2tpEnv) (w : L2tpWorld) (avps : List Avp) (ptrs : AvpPtrs) :
    L2tpHandled :=
  l2tpHandleRequest env w .sideLac true avps ptrs fun w sess =>
    l2tpCtrlSend env w sess.peer_id .ocrp sess.my_avps

def l2tpHandleIcrq (env : L2tpEnv) (w : L2tpWorld) (avps : List Avp) (ptrs : AvpPtrs) :
    L2tpHandled :=
  l2tpHandleRequest env w .sideLns false avps ptrs fun w sess =>
    l2tpSessCheckReply (l2tpCtrlSend env w sess.peer_id .icrp sess.my_avps) sess.session_id

def l2tpHandleOcrp (w : L2tpWorld) (sess : L2tpSess) (ptrs : AvpPtrs) : L2tpHandled :=
  if sess.state = .dying then .ok (true, w)
  else do
    let sessionid : UInt16 ← ptrs.follow .assignedSessionId
    pure (true, w.setSess sess.session_id fun sess =>
      { sess with peer_id := sessionid, state := .waitConnect })

def l2tpHandleXccn (env : L2tpEnv) (w : L2tpWorld) (sess : L2tpSess) (avps : List Avp)
    (ptrs : AvpPtrs) : L2tpHandled :=
  if sess.state = .dying then .ok (true, w)
  else
    let w := w.setSess sess.session_id fun sess =>
      { sess with peer_avps := some avps, dseq_required := (ptrs .sequencingRequired).isSome }
    .ok (l2tpSessSetup env w sess.session_id)

def l2tpHandleIcrp (env : L2tpEnv) (w : L2tpWorld) (sess : L2tpSess) (ptrs : AvpPtrs) :
    L2tpHandled :=
  if sess.state = .dying then .ok (true, w)
  else do
    let sessionid : UInt16 ← ptrs.follow .assignedSessionId
    let w := w.setSess sess.session_id fun sess => { sess with peer_id := sessionid }
    if sess.peer_responded then
      pure (true, l2tpCtrlClose env w l2tpResultFsm 0
        (l2tpEbuf ("rec'd duplicate ICRP in state " ++ l2tpSessStateStr sess.state)))
    else
      pure (l2tpSessCheckLiic env
        (w.setSess sess.session_id fun sess => { sess with peer_responded := true })
        sess.session_id)

def l2tpHandleCdn (env : L2tpEnv) (w : L2tpWorld) (sess : L2tpSess) (ptrs : AvpPtrs) :
    L2tpHandled := do
  let w := w.setSess sess.session_id fun sess => { sess with peer_notified := true }
  let errresultcode : ErrResultCodeAvp ← ptrs.follow .resultCode
  pure (true, l2tpSessClose env w sess.session_id errresultcode.result errresultcode.error
    (some (avpCstr errresultcode.errmsg)))

def l2tpHandleSli (env : L2tpEnv) (w : L2tpWorld) (sess : L2tpSess) (ptrs : AvpPtrs) :
    L2tpHandled :=
  if sess.state = .dying then .ok (true, w)
  else do
    let accm : AccmAvp ← ptrs.follow .accm
    pure (true, ← l2tpCallback env w (.setLinkInfo sess.session_id accm.xmit accm.recv))

def l2tpHandleWen (env : L2tpEnv) (w : L2tpWorld) (sess : L2tpSess) (ptrs : AvpPtrs) :
    L2tpHandled :=
  if sess.state = .dying then .ok (true, w)
  else if !env.wan_error_notify then .ok (true, w)
  else do
    let e : CallErrorAvp ← ptrs.follow .callErrors
    pure (true, ← l2tpCallback env w (.wanErrorNotify sess.session_id e.crc e.frame e.overrun
      e.buffer e.timeout e.alignment))

def l2tpCtrlHandler (env : L2tpEnv) (w : L2tpWorld) (avps : List Avp) (ptrs : AvpPtrs) :
    L2tpMsgType → L2tpHandled
  | .sccrq => l2tpHandleSccrq env w ptrs
  | .sccrp => l2tpHandleSccrp env w ptrs
  | .scccn => l2tpHandleScccn env w ptrs
  | .stopCcn => l2tpHandleStopCcn env w ptrs
  | .icrq => l2tpHandleIcrq env w avps ptrs
  | .ocrq => l2tpHandleOcrq env w avps ptrs
  | _ => .ok (true, w)

def l2tpSessHandler (env : L2tpEnv) (w : L2tpWorld) (sess : L2tpSess) (avps : List Avp)
    (ptrs : AvpPtrs) : L2tpMsgType → L2tpHandled
  | .icrp => l2tpHandleIcrp env w sess ptrs
  | .ocrp => l2tpHandleOcrp w sess ptrs
  | .iccn | .occn => l2tpHandleXccn env w sess avps ptrs
  | .cdn => l2tpHandleCdn env w sess ptrs
  | .wen => l2tpHandleWen env w sess ptrs
  | .sli => l2tpHandleSli env w sess ptrs
  | _ => .ok (true, w)

def l2tpFailErrno (env : L2tpEnv) (w : L2tpWorld) : L2tpWorld :=
  l2tpCtrlClose env w l2tpResultError l2tpErrorGeneric (some env.strerror)

def l2tpFailInvalid (env : L2tpEnv) (w : L2tpWorld) : L2tpWorld :=
  l2tpCtrlClose env w l2tpResultError l2tpErrorBadValue
    (some (ascii "improperly formatted control message"))

def l2tpCtrlMessage (env : L2tpEnv) (w : L2tpWorld) (info : L2tpMsgInfo)
    (valid_states : List L2tpCtrlState) (avps : List Avp) (ptrs : AvpPtrs) :
    Except L2tpFault L2tpWorld :=
  if w.ctrl.state ∉ valid_states then
    if w.ctrl.state = .dying then .ok w
    else
      .ok (l2tpCtrlClose env w l2tpResultFsm 0
        (l2tpEbuf ("rec'd " ++ info.name ++ " in state " ++ l2tpCtrlStateStr w.ctrl.state)))
  else do
    let w := w.setCtrl fun ctrl => { ctrl with reply_timer := false }
    let (handled, w) ← l2tpCtrlHandler env w avps ptrs info.type
    pure (if handled then l2tpCtrlCheckReply w else l2tpFailErrno env w)

/-- The session that a message is for. With a zero session id the peer's ids are compared with
the session id of the header. -/
def l2tpFindSess (w : L2tpWorld) (session_id : UInt16) (msgtype : L2tpMsgType) :
    Option L2tpSess :=
  if session_id = 0 then
    if msgtype ≠ .cdn then none
    else w.ctrl.sessions.find? fun sess => sess.peer_id = session_id
  else w.sess? session_id

def l2tpSessMismatch (info : L2tpMsgInfo) (sess : L2tpSess) (valid_states : List L2tpSessState)
    (valid_orig : List L2tpOrig) (valid_side : List L2tpSide) : Option String :=
  let state := "rec'd " ++ info.name ++ " in state " ++ l2tpSessStateStr sess.state
  if sess.state ∉ valid_states then some state
  else if sess.orig ∉ valid_orig then
    some (state ++ ", but session originated " ++ l2tpSessOrigStr sess.orig ++ "ly")
  else if sess.side ∉ valid_side then
    some (state ++ ", but we are " ++ l2tpSessSideStr sess.side ++ " for this session")
  else none

def l2tpSessMessage (env : L2tpEnv) (w : L2tpWorld) (session_id : UInt16) (info : L2tpMsgInfo)
    (valid_states : List L2tpSessState) (valid_orig : List L2tpOrig)
    (valid_side : List L2tpSide) (avps : List Avp) (ptrs : AvpPtrs) :
    Except L2tpFault L2tpWorld :=
  match l2tpFindSess w session_id info.type with
  | none => .ok w
  | some sess =>
      match l2tpSessMismatch info sess valid_states valid_orig valid_side with
      | some ebuf => .ok (l2tpCtrlClose env w l2tpResultFsm 0 (l2tpEbuf ebuf))
      | none => do
          let w := w.setSess sess.session_id fun sess => { sess with reply_timer := false }
          let (handled, w) ← l2tpSessHandler env w sess avps ptrs info.type
          pure (if handled then l2tpSessCheckReply w sess.session_id else l2tpFailErrno env w)

def l2tpMsgNames : List String :=
  ["?0?", "SCCRQ", "SCCRP", "SCCCN", "StopCCN", "?5?", "HELLO", "OCRQ", "OCRP", "OCCN", "ICRQ",
    "ICRP", "ICCN", "?13?", "CDN", "WEN", "SLI"]

def avpDecodeMessageType (avp : Avp) : Except L2tpFault String := do
  let mesgtype ← avpStore16 avp 0
  if mesgtype.toNat > l2tpMsgNames.length then pure ("?" ++ toString mesgtype ++ "?")
  else
    match l2tpMsgNames[mesgtype.toNat]? with
    | some name => pure name
    | none => .error .tableIndex

/-- `ppp_l2tp_ctrl_dump`, as far as it looks up in a table. -/
def l2tpCtrlDump (env : L2tpEnv) (avps : List Avp) : Except L2tpFault (List String) :=
  if !env.debug then .ok []
  else
    (avps.filter fun avp => avp.vendor = 0 ∧ avp.type = AvpType.messageType.num).mapM
      avpDecodeMessageType

/-- An AVP that a message must carry and does not. The vendor is not looked at. -/
def l2tpMissing (info : L2tpMsgInfo) (avps : List Avp) : Option AvpType :=
  info.req_avps.find? fun type => avps.all fun avp => avp.type ≠ type.num

def l2tpKnownMessage (env : L2tpEnv) (w : L2tpWorld) (session_id : UInt16) (info : L2tpMsgInfo)
    (avps : List Avp) : Except L2tpFault L2tpWorld :=
  match l2tpMissing info avps with
  | some type =>
      .ok (l2tpCtrlClose env w l2tpResultError l2tpErrorBadValue
        (l2tpEbuf ("rec'd " ++ info.name ++ " control message lacking required AVP #" ++
          toString type.num)))
  | none => do
      let ptrs ← avpList2ptrs avps
      match info.expected with
      | .ctrl valid_states => l2tpCtrlMessage env w info valid_states avps ptrs
      | .sess valid_states valid_orig valid_side =>
          l2tpSessMessage env w session_id info valid_states valid_orig valid_side avps ptrs

/-- `ppp_l2tp_data_event` once the AVPs are unpacked. -/
def l2tpMessage (env : L2tpEnv) (w : L2tpWorld) (session_id : UInt16) (avps : List Avp) :
    Except L2tpFault L2tpWorld :=
  match avps with
  | [] => .ok (l2tpFailInvalid env w)
  | first :: _ =>
      if first.type ≠ AvpType.messageType.num then .ok (l2tpFailInvalid env w)
      else do
        let msgtype ← avpWord16 first 0
        match l2tpMsgInfo.find? fun info => info.type.num = msgtype with
        | some info => l2tpKnownMessage env w session_id info avps
        | none =>
            if first.mandatory then
              pure (l2tpCtrlClose env w l2tpResultError l2tpErrorBadValue
                (l2tpEbuf ("rec'd unsupported but mandatory message type " ++ toString msgtype)))
            else pure w

/-- `ppp_l2tp_data_event` once the packet is read. -/
def l2tpPacket (env : L2tpEnv) (w : L2tpWorld) (buf : Bytes) : Except L2tpFault L2tpWorld :=
  match buf with
  | a :: b :: data =>
      match avpUnpack env.md5 pppL2tpAvpInfoList w.ctrl.secret data with
      | .error .eilseq => .ok (l2tpFailInvalid env w)
      | .error .eauth =>
          .ok (l2tpCtrlClose env w l2tpResultError l2tpErrorGeneric
            (some (ascii "hidden AVP found but no shared secret configured")))
      | .error .enosys => .ok (l2tpCtrlClose env w l2tpResultError l2tpErrorMandatory none)
      | .ok avps => do
          let _ ← l2tpCtrlDump env avps
          l2tpMessage env w (be16 a b) avps
  | _ => .error .absentByte

def l2tpDataEvent (env : L2tpEnv) (w : L2tpWorld) (packet : Option Bytes) :
    Except L2tpFault L2tpWorld :=
  let w := w.setCtrl fun ctrl => { ctrl with idle_timer := true }
  match packet with
  | none => .ok (l2tpFailErrno env w)
  | some buf => l2tpPacket env w (buf.take 4096)

inductive L2tpNodeMsg where
  | unreadable | ackFailure | other
  deriving DecidableEq, Repr

def l2tpCtrlEvent (env : L2tpEnv) (w : L2tpWorld) : L2tpNodeMsg → L2tpWorld
  | .unreadable => l2tpFailErrno env w
  | .ackFailure => l2tpCtrlClose env w l2tpResultCleared 0 none
  | .other => w

/-- What can happen to a control connection. `tieLost` is the close by the SCCRQ handler of
another connection. -/
inductive L2tpEvent where
  | call (call : L2tpCall)
  | received (packet : Option Bytes)
  | nodeMessage (msg : L2tpNodeMsg)
  | tieLost
  | destroy
  | idleTimer | replyTimer | closeTimer | deathTimer
  | sessReplyTimer (session_id : UInt16)
  | sessNotifyTimer (session_id : UInt16)
  | sessCloseTimer (session_id : UInt16)
  | sessDeathTimer (session_id : UInt16)

def l2tpSessExpire (w : L2tpWorld) (session_id : UInt16) (pending : L2tpSess → Bool)
    (expire : L2tpSess → Except L2tpFault L2tpWorld) : Except L2tpFault L2tpWorld :=
  match w.sess? session_id with
  | none => .ok w
  | some sess => if pending sess then expire sess else .ok w

/-- One step of a control connection. A timer is off when its handler is called. -/
def l2tpStep (env : L2tpEnv) (w : L2tpWorld) (event : L2tpEvent) :
    Except L2tpFault L2tpWorld :=
  if w.gone then .ok w
  else
    match event with
    | .call call => l2tpCall env w call
    | .received packet => l2tpDataEvent env w packet
    | .nodeMessage msg => .ok (l2tpCtrlEvent env w msg)
    | .tieLost =>
        .ok (if w.ctrl.state = .waitCtlReply then l2tpCtrlClose env w l2tpResultDupCtrl 0 none
          else w)
    | .destroy => l2tpCtrlDestroy env w
    | .idleTimer => .ok (if w.ctrl.idle_timer then l2tpIdleTimeout env w else w)
    | .replyTimer =>
        .ok (if w.ctrl.reply_timer then
          l2tpReplyTimeout env (w.setCtrl fun ctrl => { ctrl with reply_timer := false }) else w)
    | .closeTimer => if w.ctrl.close_timer then l2tpCtrlDoClose env w else .ok w
    | .deathTimer =>
        let off := w.setCtrl fun ctrl => { ctrl with death_timer := none }
        match w.ctrl.death_timer with
        | none => .ok w
        | some .unusedTimeout => l2tpUnusedTimeout env off
        | some .deathTimeout => l2tpCtrlDeathTimeout env off
    | .sessReplyTimer session_id =>
        l2tpSessExpire w session_id (·.reply_timer) fun _ =>
          .ok (l2tpReplyTimeout env
            (w.setSess session_id fun sess => { sess with reply_timer := false }))
    | .sessNotifyTimer session_id =>
        l2tpSessExpire w session_id (·.notify_timer) (l2tpSessNotify env w)
    | .sessCloseTimer session_id =>
        l2tpSessExpire w session_id (·.close_timer) fun _ => l2tpSessDoClose env w session_id
    | .sessDeathTimer session_id =>
        l2tpSessExpire w session_id (·.death_timer) fun sess =>
          l2tpSessDestroy env w { sess with death_timer := false }

/-- The arguments of `ppp_l2tp_ctrl_create`, and whether `ppp_l2tp_ctrl_initiate` follows. -/
structure L2tpSetup where
  avps : List Avp := []
  secret : Option Bytes := none
  hide_avps : Bool := false
  tunnel_id : UInt16 := 1
  chal : Vector UInt8 16 := Vector.replicate 16 0
  hostname : Bytes := []
  initiates : Bool := false

def l2tpStart (env : L2tpEnv) (setup : L2tpSetup) : L2tpWorld :=
  let w := l2tpCtrlCreate setup.avps setup.secret setup.hide_avps setup.tunnel_id setup.chal
    setup.hostname
  if setup.initiates then l2tpCtrlInitiate env w else w

/-- A run of a control connection. A fault ends it. -/
def l2tpRun (env : L2tpEnv) (setup : L2tpSetup) (events : List L2tpEvent) :
    Except L2tpFault L2tpWorld :=
  Transition.run (fun r event => r.bind fun w => l2tpStep env w event)
    (.ok (l2tpStart env setup)) events

end Mpd
