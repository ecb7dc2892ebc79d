import Mathlib.Data.List.Sort
import Mathlib.Logic.Function.Basic
import Mpd.Transition

/-! The PPTP control connections of `pptp_ctrl.c`: their channels, the replies they wait for
and what the link side is told. A channel or a connection that was killed is gone at once: its
memory is freed by a timer, and no event finds it until then. -/

set_option autoImplicit false

namespace Mpd

inductive PptpType where
  | startCtrlConnRequest | startCtrlConnReply | stopCtrlConnRequest | stopCtrlConnReply
  | echoRequest | echoReply | outCallRequest | outCallReply | inCallRequest | inCallReply
  | inCallConn | callClearRequest | callDiscNotify | wanErrorNotify | setLinkInfo
  deriving DecidableEq, Repr

/-- The control messages, with the fields that the control code looks at. -/
inductive PptpMsg where
  | startCtrlConnRequest (vers : UInt16)
  | startCtrlConnReply (vers : UInt16) (result : UInt8)
  | stopCtrlConnRequest
  | stopCtrlConnReply
  | echoRequest (id : UInt32)
  | echoReply (id : UInt32) (result : UInt8)
  | outCallRequest (cid : UInt16)
  | outCallReply (cid peerCid : UInt16) (result : UInt8)
  | inCallRequest (cid : UInt16)
  | inCallReply (cid peerCid : UInt16) (result : UInt8)
  | inCallConn (peerCid : UInt16)
  | callClearRequest (cid : UInt16)
  | callDiscNotify (cid : UInt16) (result : UInt8)
  | wanErrorNotify (cid : UInt16)
  | setLinkInfo (cid : UInt16)
  deriving DecidableEq, Repr

def PptpMsg.type : PptpMsg → PptpType
  | .startCtrlConnRequest _ => .startCtrlConnRequest
  | .startCtrlConnReply .. => .startCtrlConnReply
  | .stopCtrlConnRequest => .stopCtrlConnRequest
  | .stopCtrlConnReply => .stopCtrlConnReply
  | .echoRequest _ => .echoRequest
  | .echoReply .. => .echoReply
  | .outCallRequest _ => .outCallRequest
  | .outCallReply .. => .outCallReply
  | .inCallRequest _ => .inCallRequest
  | .inCallReply .. => .inCallReply
  | .inCallConn _ => .inCallConn
  | .callClearRequest _ => .callClearRequest
  | .callDiscNotify .. => .callDiscNotify
  | .wanErrorNotify _ => .wanErrorNotify
  | .setLinkInfo _ => .setLinkInfo

inductive PptpCtrlState where
  | idle | waitCtlReply | waitStopReply | established
  deriving DecidableEq, Repr

inductive PptpChanState where
  | waitInReply | waitOutReply | waitConnect | waitDisconnect | waitAnswer | established | waitCtrl
  deriving DecidableEq, Repr

inductive PptpFind where
  | myCid | peerCid | pnsCid | pacCid
  deriving DecidableEq, Repr

/-- A row of `gPptpMsgInfo`. A message with no way to find its channel is for the connection. -/
structure PptpMsgInfo where
  isReply : Bool := false
  ctrlStates : List PptpCtrlState := []
  chanStates : List PptpChanState := []
  findIn : Option PptpFind := none
  findOut : Option PptpFind := none
  reply : Option PptpType := none
  killCtrl : Bool := false

def gPptpMsgInfo : PptpType → PptpMsgInfo
  | .startCtrlConnRequest =>
      { ctrlStates := [.idle], reply := some .startCtrlConnReply, killCtrl := true }
  | .startCtrlConnReply => { isReply := true, ctrlStates := [.waitCtlReply] }
  | .stopCtrlConnRequest =>
      { ctrlStates := [.waitCtlReply, .waitStopReply, .established],
        reply := some .stopCtrlConnReply, killCtrl := true }
  | .stopCtrlConnReply => { isReply := true, ctrlStates := [.waitStopReply] }
  | .echoRequest =>
      { ctrlStates := [.established], reply := some .echoReply, killCtrl := true }
  | .echoReply => { isReply := true, ctrlStates := [.established] }
  | .outCallRequest =>
      { ctrlStates := [.established], findOut := some .myCid, reply := some .outCallReply,
        killCtrl := true }
  | .outCallReply =>
      { isReply := true, chanStates := [.waitOutReply], findIn := some .myCid,
        findOut := some .myCid }
  | .inCallRequest =>
      { ctrlStates := [.established], findOut := some .myCid, reply := some .inCallReply }
  | .inCallReply =>
      { isReply := true, chanStates := [.waitInReply], findIn := some .myCid,
        findOut := some .myCid, reply := some .inCallConn }
  | .inCallConn =>
      { isReply := true, chanStates := [.waitConnect], findIn := some .myCid,
        findOut := some .peerCid }
  | .callClearRequest =>
      { chanStates := [.waitInReply, .waitAnswer, .established], findIn := some .pnsCid,
        findOut := some .pnsCid, reply := some .callDiscNotify, killCtrl := true }
  | .callDiscNotify =>
      { chanStates := [.waitOutReply, .waitConnect, .waitDisconnect, .established],
        findIn := some .pacCid, findOut := some .pacCid }
  | .wanErrorNotify =>
      { chanStates := [.established], findIn := some .pnsCid, findOut := some .pnsCid }
  | .setLinkInfo =>
      { chanStates := [.established], findIn := some .pacCid, findOut := some .pacCid }

/-- The field named by `inField` of a received message, or by `outField` of a sent one. -/
def PptpMsg.cidField : PptpMsg → (incoming : Bool) → UInt16
  | .outCallRequest cid, _ | .inCallRequest cid, _ => cid
  | .outCallReply cid peerCid _, incoming | .inCallReply cid peerCid _, incoming =>
      if incoming then peerCid else cid
  | .inCallConn peerCid, _ => peerCid
  | .callClearRequest cid, _ | .callDiscNotify cid _, _ | .wanErrorNotify cid, _
  | .setLinkInfo cid, _ => cid
  | _, _ => 0

/-- `struct pptpchan`, at an address of its own. `cookie` says whether the link side has taken
the channel. -/
structure PptpChan where
  addr : Nat
  ctrl : Nat
  id : Nat
  state : PptpChanState
  orig : Bool
  incoming : Bool
  cid : UInt16
  peerCid : UInt16 := 0
  cookie : Bool := false
  deriving DecidableEq, Repr

def PptpChan.isPns (ch : PptpChan) : Bool := xor (!ch.orig) (!ch.incoming)

structure PptpCtrl where
  addr : Nat
  id : Nat
  state : PptpCtrlState := .idle
  orig : Bool
  self_addr : Nat
  peer_addr : Nat
  peer_port : Nat
  echoId : UInt32 := 0
  unused_timer : Bool := false
  active_sessions : Int := 0
  deriving DecidableEq, Repr

structure PptpPendRep where
  ctrl : Nat
  request : PptpType
  chan : Option Nat
  deriving DecidableEq, Repr

/-- What the link side is told of a channel: `result` without and with an error, `cancel` and
`setLinkInfo`. -/
inductive PptpNote where
  | connected | failed | cancel | linkInfo
  deriving DecidableEq, Repr

/-- The whole of the control code's state. `linked` are the channels that the link side has
taken, and `nullChan` that a timeout followed a null pointer. When the search for a call id
finds none, the daemon is hung. -/
structure PptpWorld where
  ctrls : List PptpCtrl := []
  chans : List PptpChan := []
  reps : List PptpPendRep := []
  gCallIds : UInt16 → Bool := fun _ => false
  gLastCallId : UInt16 := 0
  nextCtrl : Nat := 0
  nextChan : Nat := 0
  asked : Nat := 0
  sent : List (Nat × PptpMsg) := []
  told : List (Nat × PptpNote) := []
  linked : List Nat := []
  nullChan : Bool := false
  hung : Bool := false

/-- The surroundings. `answer` is the outcome of the calls that can fail, in their order, and
`startCallId` is made of the time and the process id. -/
structure PptpEnv where
  tunlimit : Int
  answer : Nat → Bool
  startCallId : UInt16

namespace PptpWorld

def ask (env : PptpEnv) (w : PptpWorld) : Bool × PptpWorld :=
  (env.answer w.asked, { w with asked := w.asked + 1 })

def ctrl? (w : PptpWorld) (c : Nat) : Option PptpCtrl := w.ctrls.find? (·.addr = c)

def chan? (w : PptpWorld) (ch : Nat) : Option PptpChan := w.chans.find? (·.addr = ch)

def setCtrl (w : PptpWorld) (c : Nat) (f : PptpCtrl → PptpCtrl) : PptpWorld :=
  { w with ctrls := w.ctrls.map fun ctrl => if ctrl.addr = c then f ctrl else ctrl }

def setChan (w : PptpWorld) (ch : Nat) (f : PptpChan → PptpChan) : PptpWorld :=
  { w with chans := w.chans.map fun chan => if chan.addr = ch then f chan else chan }

/-- The array `channels` of a connection. -/
def channels (w : PptpWorld) (c : Nat) : List PptpChan := w.chans.filter (·.ctrl = c)

def tell (w : PptpWorld) (ch : Nat) (note : PptpNote) : PptpWorld :=
  { w with told := w.told ++ [(ch, note)] }

end PptpWorld

def PptpFind.tryCid (ch : PptpChan) : PptpFind → UInt16
  | .myCid => ch.cid
  | .peerCid => ch.peerCid
  | .pnsCid => if ch.isPns then ch.cid else ch.peerCid
  | .pacCid => if !ch.isPns then ch.cid else ch.peerCid

def pptpCtrlFindChan (w : PptpWorld) (c : Nat) (msg : PptpMsg) (incoming : Bool) :
    Option PptpChan :=
  match if incoming then (gPptpMsgInfo msg.type).findIn else (gPptpMsgInfo msg.type).findOut with
  | none => none
  | some how => (w.channels c).find? fun ch => msg.cidField incoming = how.tryCid ch

/-- `PptpCtrlKillChan`. A connection without channels is closed after a while. -/
def pptpCtrlKillChan (w : PptpWorld) (ch : Nat) : PptpWorld :=
  match w.chan? ch with
  | none => w
  | some chan =>
      let w :=
        if chan.cookie then w.tell ch (if chan.state = .waitAnswer then .cancel else .failed)
        else w
      let w : PptpWorld := { w with
        reps := w.reps.filter fun prep => ¬(prep.ctrl = chan.ctrl ∧ prep.chan = some ch)
        gCallIds := Function.update w.gCallIds chan.cid false
        chans := w.chans.filter (·.addr ≠ ch) }
      w.setCtrl chan.ctrl fun c =>
        { c with
          active_sessions := c.active_sessions - 1
          unused_timer := c.unused_timer || decide (c.active_sessions - 1 = 0) }

def pptpCtrlKillCtrl (w : PptpWorld) (c : Nat) : PptpWorld :=
  match w.ctrl? c with
  | none => w
  | some _ =>
      let w := ((w.channels c).map (·.addr)).foldl pptpCtrlKillChan w
      { w with
        ctrls := w.ctrls.filter (·.addr ≠ c)
        reps := w.reps.filter (·.ctrl ≠ c) }

def pptpCtrlWriteMsg (env : PptpEnv) (w : PptpWorld) (c : Nat) (msg : PptpMsg) :
    Bool × PptpWorld :=
  match w.ctrl? c with
  | none => (false, w)
  | some _ =>
      let (written, w) := w.ask env
      if !written then (false, pptpCtrlKillCtrl w c)
      else
        let w : PptpWorld := { w with sent := w.sent ++ [(c, msg)] }
        match (gPptpMsgInfo msg.type).reply with
        | none => (true, w)
        | some _ =>
            (true, { w with
              reps := ⟨c, msg.type, (pptpCtrlFindChan w c msg false).map (·.addr)⟩ :: w.reps })

/-- The clearing of a call by the PAC. -/
def pptpPacClear (env : PptpEnv) (w : PptpWorld) (ch : PptpChan) (result : UInt8) : PptpWorld :=
  pptpCtrlKillChan (pptpCtrlWriteMsg env w ch.ctrl (.callDiscNotify ch.cid result)).2 ch.addr

/-- The clearing of a call by the PNS, which waits for the PAC. -/
def pptpPnsClear (env : PptpEnv) (w : PptpWorld) (ch : PptpChan) : PptpWorld :=
  (pptpCtrlWriteMsg env w ch.ctrl (.callClearRequest ch.cid)).2.setChan ch.addr fun ch =>
    { ch with state := .waitDisconnect }

def pptpCtrlCloseChan (env : PptpEnv) (w : PptpWorld) (ch : Nat) (result : UInt8) : PptpWorld :=
  match w.chan? ch with
  | none => w
  | some chan =>
      match chan.state with
      | .established =>
          if chan.isPns then pptpPnsClear env w chan else pptpPacClear env w chan result
      | .waitAnswer =>
          pptpCtrlKillChan
            (pptpCtrlWriteMsg env w chan.ctrl (.outCallReply 0 chan.peerCid 7)).2 ch
      | .waitInReply => pptpPacClear env w chan result
      | .waitOutReply | .waitConnect => pptpPnsClear env w chan
      | .waitDisconnect => w
      | .waitCtrl => pptpCtrlKillChan w ch

/-- The link side is told that the call is connected. The link may have been closed before. It may
fail to attach and close the call, and for an incoming call of its own it reports back with
`PptpCtrlConected`. -/
def pptpResult (env : PptpEnv) (w : PptpWorld) (ch : PptpChan) : PptpWorld :=
  if !ch.cookie then w
  else
    let w := w.tell ch.addr .connected
    let (connecting, w) := w.ask env
    if !connecting then w
    else
      let (attached, w) := w.ask env
      if !attached then pptpCtrlCloseChan env w ch.addr 3
      else if ch.orig && ch.incoming then
        (pptpCtrlWriteMsg env w ch.ctrl (.inCallConn ch.peerCid)).2
      else w

def pptpNextCallId (w : PptpWorld) : Option UInt16 :=
  ((List.range 65536).map fun i => w.gLastCallId + UInt16.ofNat i).find? fun cid =>
    !w.gCallIds cid

def pptpFreeSlot (w : PptpWorld) (c : Nat) : Nat :=
  ((List.range (w.channels c).length).find? fun k => (w.channels c).all (·.id ≠ k)).getD
    (w.channels c).length

def pptpCtrlGetChan (w : PptpWorld) (c : Nat) (state : PptpChanState) (orig incoming : Bool) :
    Option PptpChan × PptpWorld :=
  match pptpNextCallId w with
  | none => (none, { w with hung := true })
  | some cid =>
      let ch : PptpChan := ⟨w.nextChan, c, pptpFreeSlot w c, state, orig, incoming, cid, 0, false⟩
      let w : PptpWorld := { w with
        nextChan := w.nextChan + 1
        chans := w.chans.orderedInsert (·.id ≤ ·.id) ch
        gCallIds := Function.update w.gCallIds cid true
        gLastCallId := cid }
      (some ch, w.setCtrl c fun ctrl =>
        { ctrl with unused_timer := false, active_sessions := ctrl.active_sessions + 1 })

def pptpTake (w : PptpWorld) (ch : Nat) (peerCid : UInt16) : PptpWorld :=
  ({ w with linked := ch :: w.linked } : PptpWorld).setChan ch fun chan =>
    { chan with peerCid := peerCid, cookie := true }

def pptpCheckChan (env : PptpEnv) (w : PptpWorld) (ch : Nat) : PptpWorld :=
  match w.chan? ch with
  | none => w
  | some chan =>
      if chan.state ≠ .waitCtrl then w
      else if chan.incoming then
        (pptpCtrlWriteMsg env (w.setChan ch fun chan => { chan with state := .waitInReply })
          chan.ctrl (.inCallRequest chan.cid)).2
      else
        (pptpCtrlWriteMsg env (w.setChan ch fun chan => { chan with state := .waitOutReply })
          chan.ctrl (.outCallRequest chan.cid)).2

def pptpCtrlCheckConn (env : PptpEnv) (w : PptpWorld) (c : Nat) : PptpWorld :=
  match w.ctrl? c with
  | none => w
  | some ctrl =>
      if ctrl.state ≠ .established then w
      else ((w.channels c).map (·.addr)).foldl (pptpCheckChan env) w

def pptpNewCtrl (w : PptpWorld) (orig : Bool) (self_addr peer_addr peer_port : Nat) :
    PptpWorld :=
  let id := ((List.range w.ctrls.length).find? fun k => w.ctrls.all (·.id ≠ k)).getD
    w.ctrls.length
  { w with
    nextCtrl := w.nextCtrl + 1
    ctrls := w.ctrls.orderedInsert (·.id ≤ ·.id)
      { addr := w.nextCtrl, id := id, orig := orig, self_addr := self_addr,
        peer_addr := peer_addr, peer_port := peer_port } }

/-- `PptpCtrlGetCtrl` for a call of ours. The address 0 is the empty one. -/
def pptpCtrlGetCtrl (env : PptpEnv) (w : PptpWorld) (self_addr peer_addr peer_port : Nat) :
    Option Nat × PptpWorld :=
  match w.ctrls.find? fun d => d.active_sessions < env.tunlimit ∧ d.peer_addr = peer_addr ∧
      (d.peer_port = peer_port ∨ d.orig = false) ∧ (self_addr = 0 ∨ d.self_addr = self_addr) with
  | some d => (some d.addr, w)
  | none =>
      let (made, w) := w.ask env
      if !made then (none, w)
      else (some w.nextCtrl, pptpNewCtrl w true self_addr peer_addr peer_port)

def pptpCtrlOrigCall (env : PptpEnv) (w : PptpWorld) (incoming : Bool)
    (self_addr peer_addr peer_port : Nat) : PptpWorld :=
  match pptpCtrlGetCtrl env w self_addr peer_addr peer_port with
  | (none, w) => w
  | (some c, w) =>
      match pptpCtrlGetChan w c .waitCtrl true incoming with
      | (none, w) => w
      | (some ch, w) => pptpCtrlCheckConn env (pptpTake w ch.addr 0) c

def pptpCtrlCloseCtrl (env : PptpEnv) (w : PptpWorld) (c : Nat) : PptpWorld :=
  match w.ctrl? c with
  | none => w
  | some ctrl =>
      if ctrl.state = .established then
        (pptpCtrlWriteMsg env (w.setCtrl c fun ctrl => { ctrl with state := .waitStopReply }) c
          .stopCtrlConnRequest).2
      else pptpCtrlKillCtrl w c

def pptpCtrlDialResult (env : PptpEnv) (w : PptpWorld) (ch : Nat) (result : UInt8) : PptpWorld :=
  match w.chan? ch with
  | none => w
  | some chan =>
      let w :=
        if result = 1 then w.setChan ch fun chan => { chan with state := .established }
        else pptpCtrlKillChan w ch
      (pptpCtrlWriteMsg env w chan.ctrl (.outCallReply chan.cid chan.peerCid result)).2

def pptpCtrlSetLinkInfo (env : PptpEnv) (w : PptpWorld) (ch : Nat) : PptpWorld :=
  match w.chan? ch with
  | none => w
  | some chan =>
      if !chan.isPns then w else (pptpCtrlWriteMsg env w chan.ctrl (.setLinkInfo chan.peerCid)).2

def pptpStartCtrlConnRequest (env : PptpEnv) (w : PptpWorld) (c : Nat) (vers : UInt16) :
    PptpWorld :=
  if vers ≠ 0x0100 then
    match pptpCtrlWriteMsg env w c (.startCtrlConnReply 0x0100 5) with
    | (false, w) => w
    | (true, w) => pptpCtrlKillCtrl w c
  else
    (pptpCtrlWriteMsg env (w.setCtrl c fun ctrl => { ctrl with state := .established }) c
      (.startCtrlConnReply 0x0100 1)).2

def pptpStartCtrlConnReply (env : PptpEnv) (w : PptpWorld) (c : Nat) (vers : UInt16)
    (result : UInt8) : PptpWorld :=
  if result ≠ 0 ∧ result ≠ 1 then pptpCtrlKillCtrl w c
  else if vers ≠ 0x0100 then
    (pptpCtrlWriteMsg env (w.setCtrl c fun ctrl => { ctrl with state := .waitStopReply }) c
      .stopCtrlConnRequest).2
  else pptpCtrlCheckConn env (w.setCtrl c fun ctrl => { ctrl with state := .established }) c

def pptpStopCtrlConnRequest (env : PptpEnv) (w : PptpWorld) (c : Nat) : PptpWorld :=
  match pptpCtrlWriteMsg env (w.setCtrl c fun ctrl => { ctrl with state := .idle }) c
      .stopCtrlConnReply with
  | (false, w) => w
  | (true, w) => pptpCtrlKillCtrl w c

def pptpEchoReply (w : PptpWorld) (c : Nat) (id : UInt32) (result : UInt8) : PptpWorld :=
  match w.ctrl? c with
  | none => w
  | some ctrl => if result ≠ 1 ∨ id ≠ ctrl.echoId then pptpCtrlKillCtrl w c else w

def pptpOutCallRequest (env : PptpEnv) (w : PptpWorld) (c : Nat) (cid : UInt16) : PptpWorld :=
  match pptpCtrlGetChan w c .waitAnswer false false with
  | (none, w) => w
  | (some ch, w) =>
      let (taken, w) := w.ask env
      if taken then pptpTake w ch.addr cid
      else (pptpCtrlWriteMsg env (pptpCtrlKillChan w ch.addr) c (.outCallReply 0 cid 7)).2

def pptpOutCallReply (env : PptpEnv) (w : PptpWorld) (ch : PptpChan) (cid : UInt16)
    (result : UInt8) : PptpWorld :=
  if result ≠ 1 then
    pptpCtrlKillChan (if ch.cookie then w.tell ch.addr .failed else w) ch.addr
  else
    pptpResult env
      (w.setChan ch.addr fun ch => { ch with peerCid := cid, state := .established })
      { ch with peerCid := cid, state := .established }

def pptpInCallRequest (env : PptpEnv) (w : PptpWorld) (c : Nat) (cid : UInt16) : PptpWorld :=
  match pptpCtrlGetChan w c .waitConnect false true with
  | (none, w) => w
  | (some ch, w) =>
      let (taken, w) := w.ask env
      if taken then
        (pptpCtrlWriteMsg env (pptpTake w ch.addr cid) c (.inCallReply ch.cid cid 1)).2
      else
        match pptpCtrlWriteMsg env w c (.inCallReply ch.cid cid 3) with
        | (false, w) => w
        | (true, w) => pptpCtrlKillChan w ch.addr

/-- `PptpInCallReply`, which does as `PptpOutCallReply` does. -/
def pptpInCallReply (env : PptpEnv) (w : PptpWorld) (ch : PptpChan) (cid : UInt16)
    (result : UInt8) : PptpWorld :=
  pptpOutCallReply env w ch cid result

def pptpInCallConn (env : PptpEnv) (w : PptpWorld) (ch : PptpChan) : PptpWorld :=
  (pptpResult env w ch).setChan ch.addr fun ch => { ch with state := .established }

def pptpCallClearRequest (env : PptpEnv) (w : PptpWorld) (ch : PptpChan) : PptpWorld :=
  if ch.isPns then pptpCtrlKillCtrl w ch.ctrl
  else (pptpCtrlWriteMsg env (pptpCtrlKillChan w ch.addr) ch.ctrl (.callDiscNotify ch.cid 4)).2

def pptpSetLinkInfo (w : PptpWorld) (ch : PptpChan) : PptpWorld :=
  if ch.cookie then w.tell ch.addr .linkInfo else w

def pptpCtrlHandler (env : PptpEnv) (w : PptpWorld) (c : Nat) : PptpMsg → PptpWorld
  | .startCtrlConnRequest vers => pptpStartCtrlConnRequest env w c vers
  | .startCtrlConnReply vers result => pptpStartCtrlConnReply env w c vers result
  | .stopCtrlConnRequest => pptpStopCtrlConnRequest env w c
  | .stopCtrlConnReply => pptpCtrlKillCtrl w c
  | .echoRequest id => (pptpCtrlWriteMsg env w c (.echoReply id 1)).2
  | .echoReply id result => pptpEchoReply w c id result
  | .outCallRequest cid => pptpOutCallRequest env w c cid
  | .inCallRequest cid => pptpInCallRequest env w c cid
  | _ => w

def pptpChanHandler (env : PptpEnv) (w : PptpWorld) (ch : PptpChan) : PptpMsg → PptpWorld
  | .outCallReply cid _ result => pptpOutCallReply env w ch cid result
  | .inCallReply cid _ result => pptpInCallReply env w ch cid result
  | .inCallConn _ => pptpInCallConn env w ch
  | .callClearRequest _ => pptpCallClearRequest env w ch
  | .callDiscNotify .. => pptpCtrlKillChan w ch.addr
  | .setLinkInfo _ => pptpSetLinkInfo w ch
  | _ => w

def pptpAnswered (w : PptpWorld) (c : Nat) (msg : PptpMsg) (ch : Option Nat) :
    Option PptpPendRep :=
  w.reps.find? fun prep =>
    prep.ctrl = c ∧ (gPptpMsgInfo prep.request).reply = some msg.type ∧ prep.chan = ch

/-- `PptpCtrlMsg` once the channel is known. -/
def pptpCtrlMsgFor (env : PptpEnv) (w : PptpWorld) (ctrl : PptpCtrl) (msg : PptpMsg)
    (ch : Option PptpChan) : PptpWorld :=
  let answered := pptpAnswered w ctrl.addr msg (ch.map (·.addr))
  if answered.isNone && (gPptpMsgInfo msg.type).isReply then w
  else
    let w : PptpWorld :=
      { w with reps := answered.elim w.reps fun prep => w.reps.erase prep }
    match ch with
    | none =>
        if ctrl.state ∉ (gPptpMsgInfo msg.type).ctrlStates then pptpCtrlKillCtrl w ctrl.addr
        else pptpCtrlHandler env w ctrl.addr msg
    | some ch =>
        if ch.state ∉ (gPptpMsgInfo msg.type).chanStates then pptpCtrlKillCtrl w ctrl.addr
        else pptpChanHandler env w ch msg

def pptpCtrlMsg (env : PptpEnv) (w : PptpWorld) (c : Nat) (msg : PptpMsg) : PptpWorld :=
  match w.ctrl? c with
  | none => w
  | some ctrl =>
      if (gPptpMsgInfo msg.type).findIn.isNone then pptpCtrlMsgFor env w ctrl msg none
      else
        match pptpCtrlFindChan w c msg true with
        | none => w
        | some ch => pptpCtrlMsgFor env w ctrl msg (some ch)

def pptpCtrlReplyTimeout (env : PptpEnv) (w : PptpWorld) (prep : PptpPendRep) : PptpWorld :=
  let w : PptpWorld := { w with reps := w.reps.erase prep }
  if (gPptpMsgInfo prep.request).killCtrl then pptpCtrlKillCtrl w prep.ctrl
  else
    match prep.chan with
    | none => { w with nullChan := true }
    | some ch => pptpCtrlCloseChan env w ch 2

def pptpCtrlIdleTimeout (env : PptpEnv) (w : PptpWorld) (c : Nat) : PptpWorld :=
  match w.ctrl? c with
  | none => w
  | some ctrl =>
      (pptpCtrlWriteMsg env (w.setCtrl c fun ctrl => { ctrl with echoId := ctrl.echoId + 1 }) c
        (.echoRequest (ctrl.echoId + 1))).2

def pptpCtrlConnEvent (env : PptpEnv) (w : PptpWorld) (c : Nat) : PptpWorld :=
  match w.ctrl? c with
  | none => w
  | some ctrl =>
      if ctrl.state ≠ .idle ∨ ctrl.orig = false then w
      else
        let (connected, w) := w.ask env
        if !connected then pptpCtrlKillCtrl w c
        else
          (pptpCtrlWriteMsg env (w.setCtrl c fun ctrl => { ctrl with state := .waitCtlReply }) c
            (.startCtrlConnRequest 0x0100)).2

/-- What can happen to the control code: calls of the link side, TCP and timers. A connection
that is broken, or whose bytes are no message, is killed. -/
inductive PptpEvent where
  | origCall (incoming : Bool) (self_addr peer_addr peer_port : Nat)
  | close (ch : Nat)
  | answer (ch : Nat) (result : UInt8)
  | setLinkInfo (ch : Nat)
  | listen (self_addr peer_addr peer_port : Nat)
  | connEvent (c : Nat)
  | received (c : Nat) (msg : PptpMsg)
  | broken (c : Nat)
  | replyTimeout (prep : PptpPendRep)
  | idleTimeout (c : Nat)
  | unusedTimeout (c : Nat)

def pptpStep (env : PptpEnv) (w : PptpWorld) (event : PptpEvent) : PptpWorld :=
  if w.hung then w
  else
    match event with
    | .origCall incoming self_addr peer_addr peer_port =>
        pptpCtrlOrigCall env w incoming self_addr peer_addr peer_port
    | .close ch => pptpCtrlCloseChan env w ch 3
    | .answer ch result => pptpCtrlDialResult env w ch result
    | .setLinkInfo ch => pptpCtrlSetLinkInfo env w ch
    | .listen self_addr peer_addr peer_port =>
        pptpNewCtrl w false self_addr peer_addr peer_port
    | .connEvent c => pptpCtrlConnEvent env w c
    | .received c msg => pptpCtrlMsg env w c msg
    | .broken c => pptpCtrlKillCtrl w c
    | .replyTimeout prep => if prep ∈ w.reps then pptpCtrlReplyTimeout env w prep else w
    | .idleTimeout c => pptpCtrlIdleTimeout env w c
    | .unusedTimeout c =>
        if (w.ctrl? c).any (·.unused_timer) then
          pptpCtrlCloseCtrl env (w.setCtrl c fun ctrl => { ctrl with unused_timer := false }) c
        else w

/-- What `PptpCtrlInit` leaves. -/
def pptpCtrlInit (env : PptpEnv) : PptpWorld := { gLastCallId := env.startCallId }

def pptpRun (env : PptpEnv) (events : List PptpEvent) : PptpWorld :=
  Transition.run (pptpStep env) (pptpCtrlInit env) events

end Mpd
