import Mpd.L2tp.Message

/-! The control connection of `l2tp_ctrl.c` with its sessions. A timer is a flag that says
whether it is pending. What the netgraph node, the hash table and the link side answer comes
from the environment. -/

set_option autoImplicit false

namespace Mpd

def l2tpResultCleared : UInt16 := 1
def l2tpResultError : UInt16 := 2
def l2tpResultDupCtrl : UInt16 := 3
def l2tpResultNotAuth : UInt16 := 4
def l2tpResultFsm : UInt16 := 7
def l2tpErrorBadValue : UInt16 := 3
def l2tpErrorGeneric : UInt16 := 6
def l2tpErrorMandatory : UInt16 := 8
def l2tpFramingSync : UInt32 := 1
def l2tpFramingAsync : UInt32 := 2
def l2tpBearerDigital : UInt32 := 1
def l2tpBearerAnalog : UInt32 := 2
def l2tpConnectSpeed : UInt32 := 10000000
def l2tpFramingType : UInt32 := l2tpFramingSync

structure L2tpSess where
  state : L2tpSessState
  orig : L2tpOrig
  side : L2tpSide
  serial : UInt32
  session_id : UInt16
  peer_id : UInt16 := 0
  my_avps : List Avp := []
  peer_avps : Option (List Avp) := none
  result : UInt16 := 0
  error : UInt16 := 0
  errmsg : Option Bytes := none
  reply_timer : Bool := false
  notify_timer : Bool := false
  close_timer : Bool := false
  death_timer : Bool := false
  link_responded : Bool := false
  peer_responded : Bool := false
  dseq_required : Bool := false
  link_notified : Bool := false
  peer_notified : Bool := false
  include_length : Bool := false
  enable_dseq : Bool := false
  deriving DecidableEq, Repr

inductive L2tpDeath where
  | unusedTimeout | deathTimeout
  deriving DecidableEq, Repr

/-- `struct ppp_l2tp_ctrl`. The sessions are listed in the order of a hash walk. -/
structure L2tpCtrl where
  state : L2tpCtrlState := .idle
  secret : Option Bytes := none
  chal : Vector UInt8 16 := Vector.replicate 16 0
  tunnel_id : UInt16 := 0
  peer_id : UInt16 := 0
  match_id : Bool := false
  peer_win : UInt16 := 1
  sessions : List L2tpSess := []
  avps : List Avp := []
  idle_timer : Bool := false
  reply_timer : Bool := false
  close_timer : Bool := false
  death_timer : Option L2tpDeath := none
  result : UInt16 := 0
  error : UInt16 := 0
  errmsg : Option Bytes := none
  peer_bearer : UInt32 := 0
  peer_framing : UInt32 := 0
  active_sessions : UInt32 := 0
  link_notified : Bool := false
  peer_notified : Bool := false
  hide_avps : Bool := false
  peer_name : Bytes := []
  deriving DecidableEq, Repr

/-- The calls of `struct ppp_l2tp_ctrl_cb`. A session goes by its id. -/
inductive L2tpCallback where
  | ctrlConnected
  | ctrlTerminated (result error : UInt16) (errmsg : Bytes)
  | ctrlDestroyed
  | initiated (sess : UInt16) (out : Bool) (avps : List Avp)
  | connected (sess : UInt16) (avps : Option (List Avp))
  | terminated (sess : UInt16) (result error : UInt16) (errmsg : Bytes)
  | setLinkInfo (sess : UInt16) (xmit recv : UInt32)
  | wanErrorNotify (sess : UInt16) (crc frame overrun buffer timeout alignment : UInt32)
  deriving DecidableEq, Repr

inductive L2tpAct where
  | send (session_id : UInt16) (msgtype : L2tpMsgType) (avps : List Avp)
  | setSessConfig (session_id peer_id : UInt16) (control_dseq enable_dseq include_length : Bool)
  | callback (call : L2tpCallback)
  | closeOther (result : UInt16)
  deriving DecidableEq, Repr

inductive L2tpCall where
  | initiate (out include_length enable_dseq : Bool) (avps : List Avp)
  | connected (sess : UInt16) (avps : List Avp)
  | terminate (sess : UInt16) (result error : UInt16) (errmsg : Option Bytes)
  | setLinkInfo (sess : UInt16) (xmit recv : UInt32)
  | shutdown (result error : UInt16) (errmsg : Option Bytes)

/-- A control connection in its surroundings: what left it, how many answers it asked for, how
many sessions it drew an id for, `gNextSerial`, whether `active_sessions` was decremented at
zero, and whether it was destroyed. -/
structure L2tpWorld where
  ctrl : L2tpCtrl := {}
  acts : List L2tpAct := []
  asked : Nat := 0
  created : Nat := 0
  next_serial : UInt32 := 0
  underflow : Bool := false
  gone : Bool := false

/-- The surroundings. `answer` is the outcome of the calls that can fail, in their order, and
`drawn` the value of `random()` with which the search for a session id ends. The walk order of
the hash table changes with its contents. -/
structure L2tpEnv where
  md5 : Md5
  randvec : Vector UInt8 4 := Vector.replicate 4 0
  answer : Nat → Bool
  drawn : Nat → UInt16
  order : List L2tpSess → List L2tpSess
  order_perm : ∀ sessions, (order sessions).Perm sessions
  strerror : Bytes
  callback : L2tpWorld → L2tpCallback → List L2tpCall
  /-- `*include_length` and `*enable_dseq` after `initiated`. -/
  fields : L2tpWorld → Bool × Bool
  /-- The AVPs of another connection to the same peer in `CS_WAIT_CTL_REPLY`. -/
  outstanding : L2tpWorld → Option (List Avp)
  wan_error_notify : Bool := false
  /-- Whether `LOG_DEBUG` is among the log options. -/
  debug : Bool := false

namespace L2tpWorld

def act (w : L2tpWorld) (a : L2tpAct) : L2tpWorld := { w with acts := w.acts ++ [a] }

def ask (env : L2tpEnv) (w : L2tpWorld) : Bool × L2tpWorld :=
  (env.answer w.asked, { w with asked := w.asked + 1 })

def setCtrl (w : L2tpWorld) (f : L2tpCtrl → L2tpCtrl) : L2tpWorld := { w with ctrl := f w.ctrl }

/-- The session with an id, as `ghash_get` finds it. -/
def sess? (w : L2tpWorld) (session_id : UInt16) : Option L2tpSess :=
  w.ctrl.sessions.find? fun sess => sess.session_id = session_id

def setSess (w : L2tpWorld) (session_id : UInt16) (f : L2tpSess → L2tpSess) : L2tpWorld :=
  w.setCtrl fun ctrl =>
    { ctrl with
      sessions := ctrl.sessions.map fun sess =>
        if sess.session_id = session_id then f sess else sess }

def decActive (w : L2tpWorld) : L2tpWorld :=
  { w with
    ctrl := { w.ctrl with active_sessions := w.ctrl.active_sessions - 1 },
    underflow := w.underflow || w.ctrl.active_sessions == 0 }

end L2tpWorld

def avpOfWord16 (type : AvpType) (value : UInt16) : Avp := ⟨true, 0, type.num, putBe16 value⟩

def avpOfWord32 (type : AvpType) (value : UInt32) : Avp := ⟨true, 0, type.num, putBe32 value⟩

/-- `ppp_l2tp_avp_list_find`, for vendor 0. -/
def avpListHas (avps : List Avp) (type : AvpType) : Bool :=
  avps.any fun avp => avp.vendor = 0 ∧ avp.type = type.num

def avpListRemove (avps : List Avp) (type : AvpType) : List Avp :=
  avps.eraseP fun avp => avp.vendor = 0 ∧ avp.type = type.num

/-- A list to which an AVP is appended when it has none of the type. -/
def avpListDefault (avps : List Avp) (avp : Avp) (type : AvpType) : List Avp :=
  if avpListHas avps type then avps else avps ++ [avp]

def avpOfResult (result error : UInt16) (errmsg : Option Bytes) : Avp :=
  ⟨true, 0, AvpType.resultCode.num, putBe16 result ++ putBe16 error ++ errmsg.getD []⟩

/-- `ppp_l2tp_ctrl_send` up to where it fails. -/
def l2tpCtrlWrite (env : L2tpEnv) (w : L2tpWorld) (session_id : UInt16) (msgtype : L2tpMsgType)
    (avps : List Avp) : Bool × L2tpWorld :=
  let avps := avpOfWord16 .messageType msgtype.num :: avpListRemove avps .messageType
  let secret := if w.ctrl.hide_avps then w.ctrl.secret else none
  if (avpPack env.md5 pppL2tpAvpInfoList secret env.randvec none avps).isNone then (false, w)
  else
    let (sent, w) := w.ask env
    if sent then (true, w.act (.send session_id msgtype avps)) else (false, w)

/-- `ppp_l2tp_ctrl_close`. A StopCCN that cannot be sent would close a connection that is
already dying. -/
def l2tpCtrlClose (env : L2tpEnv) (w : L2tpWorld) (result error : UInt16)
    (errmsg : Option Bytes) : L2tpWorld :=
  if w.ctrl.state = .dying then w
  else
    let w := w.setCtrl fun ctrl =>
      { ctrl with state := .dying, result := result, error := error, errmsg := errmsg }
    let w :=
      if w.ctrl.peer_notified then w
      else
        let w := w.setCtrl fun ctrl => { ctrl with peer_notified := true }
        let w := (l2tpCtrlWrite env w 0 .stopCcn
          [avpOfWord16 .assignedTunnelId w.ctrl.tunnel_id, avpOfResult result error errmsg]).2
        w.setCtrl fun ctrl =>
          { ctrl with
            sessions := ctrl.sessions.map fun sess => { sess with peer_notified := true } }
    w.setCtrl fun ctrl =>
      { ctrl with
        idle_timer := false, reply_timer := false, close_timer := true, death_timer := none }

def l2tpCtrlSend (env : L2tpEnv) (w : L2tpWorld) (session_id : UInt16) (msgtype : L2tpMsgType)
    (avps : List Avp) : L2tpWorld :=
  let (sent, w) := l2tpCtrlWrite env w session_id msgtype avps
  if sent then w else l2tpCtrlClose env w l2tpResultError l2tpErrorGeneric (some env.strerror)

def l2tpCtrlCheckReply (w : L2tpWorld) : L2tpWorld :=
  w.setCtrl fun ctrl =>
    { ctrl with
      reply_timer := ctrl.state = .idle ∨ ctrl.state = .waitCtlReply ∨
        ctrl.state = .waitCtlConnect }

def l2tpSessCheckReply (w : L2tpWorld) (session_id : UInt16) : L2tpWorld :=
  w.setSess session_id fun sess =>
    { sess with reply_timer := sess.state = .waitReply ∨ sess.state = .waitConnect }

def l2tpCtrlDeathStart (w : L2tpWorld) : Except L2tpFault L2tpWorld :=
  if w.ctrl.state ≠ .dying then .error .assertion
  else .ok (w.setCtrl fun ctrl =>
    { ctrl with idle_timer := false, reply_timer := false, death_timer := some .deathTimeout })

/-- The start of the unused timer, which does nothing while `death_timer` is pending. -/
def l2tpStartUnused (w : L2tpWorld) : L2tpWorld :=
  w.setCtrl fun ctrl => { ctrl with death_timer := ctrl.death_timer.getD .unusedTimeout }

def l2tpAfterLast (w : L2tpWorld) : Except L2tpFault L2tpWorld :=
  if w.ctrl.active_sessions = 0 then
    if w.ctrl.state = .dying then l2tpCtrlDeathStart w else .ok (l2tpStartUnused w)
  else .ok w

def l2tpSessClose (env : L2tpEnv) (w : L2tpWorld) (session_id result error : UInt16)
    (errmsg : Option Bytes) : L2tpWorld :=
  match w.sess? session_id with
  | none => w
  | some sess =>
      if sess.state = .dying then w
      else
        let w := w.setSess session_id fun sess =>
          { sess with state := .dying, result := result, error := error, errmsg := errmsg }
        let w :=
          if sess.peer_notified then w
          else
            let w := w.setSess session_id fun sess => { sess with peer_notified := true }
            l2tpCtrlSend env w sess.peer_id .cdn
              [avpOfWord16 .assignedSessionId session_id, avpOfResult result error errmsg]
        w.setSess session_id fun sess =>
          { sess with
            notify_timer := false, reply_timer := false, death_timer := false,
            close_timer := true }

def l2tpSessDestroy (env : L2tpEnv) (w : L2tpWorld) (sess : L2tpSess) :
    Except L2tpFault L2tpWorld := do
  let w ←
    if sess.state ≠ .dying ∨ sess.close_timer then l2tpAfterLast w.decActive else pure w
  pure (w.setCtrl fun ctrl =>
    { ctrl with
      sessions := env.order (ctrl.sessions.filter (·.session_id ≠ sess.session_id)) })

/-- The bookkeeping of `ppp_l2tp_sess_create`. -/
def l2tpCountSess (w : L2tpWorld) : L2tpWorld :=
  { w with
    created := w.created + 1
    ctrl :=
      { w.ctrl with death_timer := none, active_sessions := w.ctrl.active_sessions + 1 } }

/-- `ppp_l2tp_sess_create`. The search for a session id does not end at one that is zero or
taken. -/
def l2tpSessCreate (env : L2tpEnv) (w : L2tpWorld) (orig : L2tpOrig) (side : L2tpSide)
    (serial : UInt32) : Except L2tpFault (Option UInt16 × L2tpWorld) :=
  let session_id := env.drawn w.created
  if session_id = 0 ∨ (w.sess? session_id).isSome then .error .endless
  else
    let sess : L2tpSess :=
      { orig := orig, side := side, serial := serial, session_id := session_id,
        state := if orig = .origLocal then .waitReply
          else if side = .sideLns then .waitConnect else .waitAnswer }
    let (put, w) := (l2tpCountSess w).ask env
    if put then
      let sess :=
        { sess with
          my_avps := avpOfWord16 .assignedSessionId session_id ::
            if orig = .origLocal then [avpOfWord32 .callSerialNumber serial] else [] }
      .ok (some session_id, w.setCtrl fun ctrl =>
        { ctrl with sessions := env.order (sess :: ctrl.sessions) })
    else (l2tpSessDestroy env w sess).map fun w => (none, w)

/-- The AVPs of an ICRQ or OCRQ. -/
def l2tpRequestAvps (ctrl : L2tpCtrl) (out : Bool) (my_avps avps : List Avp) : List Avp :=
  let my_avps := my_avps ++ avps
  if out then
    let my_avps := avpListDefault my_avps (avpOfWord32 .minimumBps 0) .minimumBps
    let my_avps := avpListDefault my_avps (avpOfWord32 .maximumBps 0x7fffffff) .maximumBps
    let my_avps := avpListDefault my_avps
      (avpOfWord32 .bearerType (ctrl.peer_bearer &&& (l2tpBearerDigital ||| l2tpBearerAnalog)))
      .bearerType
    let my_avps := avpListDefault my_avps
      (avpOfWord32 .framingType (ctrl.peer_framing &&& (l2tpFramingSync ||| l2tpFramingAsync)))
      .framingType
    avpListDefault my_avps ⟨true, 0, AvpType.calledNumber.num, []⟩ .calledNumber
  else my_avps

def l2tpInitiate (env : L2tpEnv) (w : L2tpWorld) (out include_length enable_dseq : Bool)
    (avps : List Avp) : Except L2tpFault L2tpWorld :=
  if w.ctrl.state ≠ .established then .ok w
  else if out ∧ w.ctrl.peer_bearer &&& (l2tpBearerDigital ||| l2tpBearerAnalog) = 0 then .ok w
  else do
    let serial := w.next_serial
    let w := { w with next_serial := serial + 1 }
    let (created, w) ← l2tpSessCreate env w .origLocal (if out then .sideLns else .sideLac) serial
    match created with
    | none => pure w
    | some session_id =>
        let w := w.setSess session_id fun sess =>
          { sess with
            include_length := include_length, enable_dseq := enable_dseq,
            my_avps := l2tpRequestAvps w.ctrl out sess.my_avps avps }
        let my_avps := ((w.sess? session_id).map (·.my_avps)).getD []
        let w := l2tpCtrlSend env w 0 (if out then .ocrq else .icrq) my_avps
        pure (l2tpSessCheckReply w session_id)

/-- `ppp_l2tp_sess_setup` from the request for a tee node on. -/
def l2tpSessHook (env : L2tpEnv) (w : L2tpWorld) (sess : L2tpSess) : Bool × L2tpWorld :=
  let (made, w) := w.ask env
  if !made then (false, w)
  else
    let (known, w) := w.ask env
    if !known then (false, w)
    else
      let (control_dseq, enable_dseq) :=
        if sess.dseq_required then (true, true)
        else (decide (sess.side = .sideLns), sess.enable_dseq)
      let (configured, w) := w.ask env
      (configured, w.act (.setSessConfig sess.session_id sess.peer_id control_dseq enable_dseq
        sess.include_length))

def l2tpSessSetup (env : L2tpEnv) (w : L2tpWorld) (session_id : UInt16) : Bool × L2tpWorld :=
  match w.sess? session_id with
  | none => (false, w)
  | some sess =>
      let w :=
        if sess.side = .sideLns ∨ sess.orig = .origLocal then
          w.setSess session_id fun sess => { sess with notify_timer := true }
        else w
      let (configured, w) := l2tpSessHook env w sess
      if configured then
        (true, w.setSess session_id fun sess => { sess with state := .established })
      else (false, w.setSess session_id fun sess => { sess with notify_timer := false })

def l2tpSessCheckLiic (env : L2tpEnv) (w : L2tpWorld) (session_id : UInt16) : Bool × L2tpWorld :=
  match w.sess? session_id with
  | none => (true, w)
  | some sess =>
      if !sess.link_responded || !sess.peer_responded then (true, w)
      else
        let (set, w) := l2tpSessSetup env w session_id
        if set then (true, l2tpCtrlSend env w sess.peer_id .iccn sess.my_avps) else (false, w)

def l2tpConnected (env : L2tpEnv) (w : L2tpWorld) (session_id : UInt16) (avps : List Avp) :
    L2tpWorld :=
  match w.sess? session_id with
  | none => w
  | some sess =>
      if w.ctrl.state ≠ .established then w
      else if sess.side ≠ .sideLac ∨
          ¬((sess.orig = .origRemote ∧ sess.state = .waitAnswer) ∨
            (sess.orig = .origLocal ∧ sess.state = .waitReply)) then w
      else
        let my_avps := avpListDefault avps (avpOfWord32 .txConnectSpeed l2tpConnectSpeed)
          .txConnectSpeed
        let my_avps := avpListDefault my_avps (avpOfWord32 .framingType l2tpFramingType)
          .framingType
        let w := w.setSess session_id fun sess => { sess with my_avps := my_avps }
        let (set, w) :=
          if sess.orig = .origLocal then
            l2tpSessCheckLiic env
              (w.setSess session_id fun sess => { sess with link_responded := true }) session_id
          else
            let (set, w) := l2tpSessSetup env w session_id
            (set, if set then l2tpCtrlSend env w sess.peer_id .occn my_avps else w)
        if set then w
        else l2tpSessClose env w session_id l2tpResultError l2tpErrorGeneric (some env.strerror)

def l2tpTerminate (env : L2tpEnv) (w : L2tpWorld) (session_id result error : UInt16)
    (errmsg : Option Bytes) : L2tpWorld :=
  if w.ctrl.state = .dying then
    w.setSess session_id fun sess => { sess with link_notified := true }
  else if w.ctrl.state ≠ .established then w
  else
    l2tpSessClose env (w.setSess session_id fun sess => { sess with link_notified := true })
      session_id result error errmsg

def l2tpSetLinkInfo (env : L2tpEnv) (w : L2tpWorld) (session_id : UInt16) (xmit recv : UInt32) :
    L2tpWorld :=
  match w.sess? session_id with
  | none => w
  | some sess =>
      if sess.side ≠ .sideLns then w
      else
        l2tpCtrlSend env w sess.peer_id .sli
          [⟨false, 0, AvpType.accm.num, putBe16 0 ++ putBe32 xmit ++ putBe32 recv⟩]

/-- A call of the link side. `ppp_l2tp_ctrl_shutdown` is `ppp_l2tp_ctrl_close`. -/
def l2tpCall (env : L2tpEnv) (w : L2tpWorld) : L2tpCall → Except L2tpFault L2tpWorld
  | .initiate out include_length enable_dseq avps =>
      l2tpInitiate env w out include_length enable_dseq avps
  | .connected sess avps => .ok (l2tpConnected env w sess avps)
  | .terminate sess result error errmsg => .ok (l2tpTerminate env w sess result error errmsg)
  | .setLinkInfo sess xmit recv => .ok (l2tpSetLinkInfo env w sess xmit recv)
  | .shutdown result error errmsg => .ok (l2tpCtrlClose env w result error errmsg)

/-- A callback, with the calls that the link side makes before it returns. -/
def l2tpCallback (env : L2tpEnv) (w : L2tpWorld) (call : L2tpCallback) :
    Except L2tpFault L2tpWorld :=
  (env.callback w call).foldlM (l2tpCall env) (w.act (.callback call))

/-- The body of the first walk of `ppp_l2tp_ctrl_do_close`. -/
def l2tpCtrlNotifySess (env : L2tpEnv) (w : L2tpWorld) (session_id : UInt16) :
    Except L2tpFault L2tpWorld :=
  match w.sess? session_id with
  | none => .ok w
  | some sess =>
      if sess.link_notified then .ok w
      else
        let errmsg := ascii "control connection closing"
        let w := w.setSess session_id fun sess =>
          { sess with
            link_notified := true, result := l2tpResultError, error := l2tpErrorGeneric,
            errmsg := some errmsg }
        l2tpCallback env w (.terminated session_id l2tpResultError l2tpErrorGeneric errmsg)

/-- The body of the second walk of `ppp_l2tp_ctrl_do_close`. -/
def l2tpCtrlCloseSess (env : L2tpEnv) (w : L2tpWorld) (session_id : UInt16) : L2tpWorld :=
  l2tpSessClose env (w.setSess session_id fun sess => { sess with peer_notified := true })
    session_id l2tpResultError l2tpErrorGeneric (some (ascii "control connection closing"))

def L2tpWorld.walk (w : L2tpWorld) : List UInt16 := w.ctrl.sessions.map (·.session_id)

def l2tpCtrlDoClose (env : L2tpEnv) (w : L2tpWorld) : Except L2tpFault L2tpWorld := do
  let w := w.setCtrl fun ctrl => { ctrl with close_timer := false }
  let w ← w.walk.foldlM (l2tpCtrlNotifySess env) w
  let w ←
    if w.ctrl.link_notified then pure w
    else
      l2tpCallback env (w.setCtrl fun ctrl => { ctrl with link_notified := true })
        (.ctrlTerminated w.ctrl.result w.ctrl.error (w.ctrl.errmsg.getD []))
  if w.ctrl.active_sessions = 0 then l2tpCtrlDeathStart w
  else pure (w.walk.foldl (l2tpCtrlCloseSess env) w)

def l2tpSessDoClose (env : L2tpEnv) (w : L2tpWorld) (session_id : UInt16) :
    Except L2tpFault L2tpWorld := do
  let w := (w.setSess session_id fun sess =>
    { sess with close_timer := false, death_timer := true }).decActive
  let w ←
    match w.sess? session_id with
    | none => pure w
    | some sess =>
        if sess.link_notified then pure w
        else
          l2tpCallback env (w.setSess session_id fun sess => { sess with link_notified := true })
            (.terminated session_id sess.result sess.error (sess.errmsg.getD []))
  l2tpAfterLast w

def l2tpIdleTimeout (env : L2tpEnv) (w : L2tpWorld) : L2tpWorld :=
  l2tpCtrlSend env (w.setCtrl fun ctrl => { ctrl with idle_timer := true }) 0 .hello []

def l2tpUnusedTimeout (env : L2tpEnv) (w : L2tpWorld) : Except L2tpFault L2tpWorld :=
  if w.ctrl.active_sessions ≠ 0 then .error .assertion
  else if w.ctrl.state = .dying then .error .assertion
  else .ok (l2tpCtrlClose env w l2tpResultCleared 0
    (some (ascii "no more sessions exist in this tunnel")))

def l2tpCtrlDestroy (env : L2tpEnv) (w : L2tpWorld) : Except L2tpFault L2tpWorld := do
  let w ← w.ctrl.sessions.foldlM (l2tpSessDestroy env) w
  pure { w with
    ctrl :=
      { w.ctrl with
        reply_timer := false, close_timer := false, death_timer := none, idle_timer := false }
    gone := true }

def l2tpCtrlDeathTimeout (env : L2tpEnv) (w : L2tpWorld) : Except L2tpFault L2tpWorld := do
  l2tpCtrlDestroy env (← l2tpCallback env w .ctrlDestroyed)

def l2tpSessNotify (env : L2tpEnv) (w : L2tpWorld) (sess : L2tpSess) :
    Except L2tpFault L2tpWorld :=
  l2tpCallback env (w.setSess sess.session_id fun sess => { sess with notify_timer := false })
    (.connected sess.session_id sess.peer_avps)

/-- `ppp_l2tp_ctrl_reply_timeout` and `ppp_l2tp_sess_reply_timeout` once the timer is off. -/
def l2tpReplyTimeout (env : L2tpEnv) (w : L2tpWorld) : L2tpWorld :=
  l2tpCtrlClose env w l2tpResultError l2tpErrorGeneric
    (some (ascii "expecting reply; none received"))

def l2tpCtrlCreate (avps : List Avp) (secret : Option Bytes) (hide_avps : Bool)
    (tunnel_id : UInt16) (chal : Vector UInt8 16) (hostname : Bytes) : L2tpWorld :=
  let avps := avpListDefault avps ⟨true, 0, AvpType.protocolVersion.num, [1, 0]⟩ .protocolVersion
  let avps := avpListDefault avps ⟨true, 0, AvpType.hostName.num, hostname⟩ .hostName
  let avps := avpListDefault avps
    (avpOfWord32 .framingCapabilities (l2tpFramingSync ||| l2tpFramingAsync)) .framingCapabilities
  let avps := avpListRemove avps .assignedTunnelId ++ [avpOfWord16 .assignedTunnelId tunnel_id]
  let avps := avpListRemove avps .challenge
  let avps :=
    if secret.isSome then avps ++ [⟨true, 0, AvpType.challenge.num, chal.toList⟩] else avps
  l2tpCtrlCheckReply { ctrl :=
    { secret := secret, chal := chal, tunnel_id := tunnel_id, avps := avps,
      hide_avps := hide_avps } }

def l2tpCtrlInitiate (env : L2tpEnv) (w : L2tpWorld) : L2tpWorld :=
  let w := w.setCtrl fun ctrl => { ctrl with state := .waitCtlReply }
  l2tpCtrlCheckReply (l2tpCtrlSend env w 0 .sccrq w.ctrl.avps)

end Mpd
