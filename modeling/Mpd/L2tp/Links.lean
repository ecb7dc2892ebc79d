import Mathlib.Data.List.Basic
import Mpd.Transition

/-! The links and tunnels of `l2tp.c`: how the link side shares a control connection. What
the rest of the daemon is told is sent as a message, so that nothing here is reentered. -/

set_option autoImplicit false

namespace Mpd

inductive PhysState where
  | down | connecting | ready | up
  deriving DecidableEq, Repr

structure L2tpRange where
  addr : Nat
  width : Nat
  host : Bool
  deriving DecidableEq, Repr

/-- `conf` of `struct l2tpinfo`. The address 0 is the empty one. -/
structure L2tpLinkConf where
  self_addr : Nat := 0
  peer_addr : L2tpRange := ⟨0, 0, false⟩
  self_port : Nat := 0
  peer_port : Nat := 0
  fqdn_peer_addr : Bool := false
  resolve_once : Bool := true
  outcall : Bool := false
  incoming : Bool := false
  deriving DecidableEq, Repr

/-- A link with its `struct l2tpinfo`. Of a repeater only `RepIsSync` counts. -/
structure L2tpLink where
  conf : L2tpLinkConf := {}
  tmpl : Bool := false
  rep : Option Bool := none
  state : PhysState := .down
  opened : Bool := false
  incoming : Bool := false
  outcall : Bool := false
  sync : Bool := false
  tun : Option Nat := none
  sess : Option Nat := none
  deriving DecidableEq, Repr

structure L2tpTun where
  id : Nat
  self_addr : Nat
  peer_addr : Nat
  self_port : Nat
  peer_port : Nat
  connected : Bool := false
  alive : Bool := true
  active_sessions : Int := 0
  deriving DecidableEq, Repr

inductive L2tpLinkAct where
  | ctrlInitiate (tun : Nat)
  | initiate (tun sess : Nat) (out : Bool)
  | connected (sess : Option Nat)
  | terminate (sess : Option Nat)
  | hooked (sess : Option Nat)
  | physUp (link : Nat)
  | physDown (link : Nat)
  | physIncoming (link : Nat)
  deriving DecidableEq, Repr

structure L2tpPhys where
  links : List L2tpLink
  tuns : List L2tpTun := []
  nextTun : Nat := 0
  nextSess : Nat := 0
  asked : Nat := 0
  completed : List Nat := []
  acts : List L2tpLinkAct := []

structure L2tpLinkEnv where
  tunlimit : Int
  answer : Nat → Bool
  order : List L2tpTun → List L2tpTun
  order_perm : ∀ tuns, (order tuns).Perm tuns
  ipAddrInRange : L2tpRange → Nat → Bool
  parseRange : Nat → Option L2tpRange
  getname : Nat → Option (Nat × Nat)
  peer_mask : Nat → Bool
  busy : Nat → Bool

namespace L2tpPhys

def act (w : L2tpPhys) (a : L2tpLinkAct) : L2tpPhys := { w with acts := w.acts ++ [a] }

def ask (env : L2tpLinkEnv) (w : L2tpPhys) : Bool × L2tpPhys :=
  (env.answer w.asked, { w with asked := w.asked + 1 })

def setLink (w : L2tpPhys) (link : Nat) (f : L2tpLink → L2tpLink) : L2tpPhys :=
  { w with links := w.links.modify link f }

def setTun (w : L2tpPhys) (tun : Nat) (f : L2tpTun → L2tpTun) : L2tpPhys :=
  { w with tuns := w.tuns.map fun t => if t.id = tun then f t else t }

def attach (w : L2tpPhys) (link tun : Nat) : L2tpPhys :=
  (w.setLink link fun l => { l with tun := some tun }).setTun tun fun t =>
    { t with active_sessions := t.active_sessions + 1 }

/-- `pi->tun->active_sessions--; pi->tun = NULL`, for a link that has a tunnel. -/
def detach (w : L2tpPhys) (link : Nat) : L2tpPhys :=
  match w.links[link]?.bind (·.tun) with
  | none => w
  | some tun =>
      (w.setTun tun fun t => { t with active_sessions := t.active_sessions - 1 }).setLink link
        fun l => { l with tun := none }

end L2tpPhys

def l2tpHookUp (env : L2tpLinkEnv) (w : L2tpPhys) (link : Nat) (sess : Option Nat) : L2tpPhys :=
  let (hooked, w) := w.ask env
  if hooked then w.act (.hooked sess)
  else (w.act (.terminate sess)).setLink link fun l => { l with sess := none }

def l2tpOpenIncoming (env : L2tpLinkEnv) (w : L2tpPhys) (link : Nat) (l : L2tpLink) : L2tpPhys :=
  if l.state ≠ .ready then w
  else
    let w := w.setLink link fun l => { l with state := .up }
    let w :=
      if l.outcall then
        (w.setLink link fun l => { l with sync := l.rep.getD true }).act (.connected l.sess)
      else w
    (l2tpHookUp env w link l.sess).act (.physUp link)

/-- The call of a link on a connected tunnel, as `L2tpOpen` and `ppp_l2tp_ctrl_connected_cb`
both start it. -/
def l2tpStartCall (env : L2tpLinkEnv) (w : L2tpPhys) (link tun : Nat) (conf : L2tpLinkConf) :
    L2tpPhys :=
  let (made, w) := w.ask env
  if !made then
    ((w.detach link).setLink link fun l => { l with sess := none, state := .down }).act
      (.physDown link)
  else
    let sess := w.nextSess
    let w := ({ w with nextSess := sess + 1 } : L2tpPhys).act (.initiate tun sess conf.outcall)
    let w := w.setLink link fun l => { l with sess := some sess, outcall := conf.outcall }
    if conf.outcall then w
    else
      (w.setLink link fun l => { l with sync := l.rep.getD true }).act (.connected (some sess))

/-- The test of `L2tpOpen` for a tunnel that the link can use. -/
def l2tpUsable (env : L2tpLinkEnv) (conf : L2tpLinkConf) (tun : L2tpTun) : Bool :=
  tun.alive && decide (tun.active_sessions < env.tunlimit) &&
    env.ipAddrInRange conf.peer_addr tun.peer_addr &&
    (conf.self_addr == 0 || tun.self_addr == 0 || conf.self_addr == tun.self_addr) &&
    (conf.peer_port == 0 || conf.peer_port == tun.peer_port)

/-- The tunnel that `L2tpOpen` makes. The address that the socket got may not be known. -/
def l2tpNewTun (env : L2tpLinkEnv) (w : L2tpPhys) (conf : L2tpLinkConf) : L2tpTun :=
  { id := w.nextTun
    self_addr := ((env.getname w.asked).getD (conf.self_addr, conf.self_port)).1
    self_port := ((env.getname w.asked).getD (conf.self_addr, conf.self_port)).2
    peer_addr := conf.peer_addr.addr
    peer_port := if conf.peer_port = 0 then 1701 else conf.peer_port }

/-- `L2tpOpen` for a link that is down: it joins a tunnel or makes one. -/
def l2tpOpenOutgoing (env : L2tpLinkEnv) (w : L2tpPhys) (link : Nat) (conf : L2tpLinkConf) :
    L2tpPhys :=
  match (env.order w.tuns).find? (l2tpUsable env conf) with
  | some tun =>
      let joined := w.attach link tun.id
      if tun.connected then l2tpStartCall env joined link tun.id conf else joined
  | none =>
      let (made, w) := w.ask env
      if !made then
        (w.setLink link fun l => { l with state := .down }).act (.physDown link)
      else
        let tun := l2tpNewTun env w conf
        (({ w with tuns := tun :: w.tuns, nextTun := w.nextTun + 1 } : L2tpPhys).attach link
          tun.id).act (.ctrlInitiate tun.id)

/-- The peer's address, which `L2tpOpen` looks up again if so configured. -/
def l2tpResolve (env : L2tpLinkEnv) (w : L2tpPhys) (conf : L2tpLinkConf) : L2tpLinkConf :=
  if !conf.resolve_once && conf.fqdn_peer_addr then
    { conf with peer_addr := (env.parseRange w.asked).getD conf.peer_addr }
  else conf

def l2tpOpen (env : L2tpLinkEnv) (w : L2tpPhys) (link : Nat) : L2tpPhys :=
  match w.links[link]? with
  | none => w
  | some l =>
      let w := w.setLink link fun l => { l with opened := true }
      if l.incoming then l2tpOpenIncoming env w link l
      else if l.state ≠ .down then w
      else
        let conf := l2tpResolve env w l.conf
        l2tpOpenOutgoing env
          (w.setLink link fun l => { l with state := .connecting, conf := conf }) link conf

def l2tpClose (w : L2tpPhys) (link : Nat) : L2tpPhys :=
  match w.links[link]? with
  | none => w
  | some l =>
      let w := w.setLink link fun l =>
        { l with opened := false, incoming := false, outcall := false }
      if l.state = .down then w
      else
        let w := if l.sess.isSome then w.act (.terminate l.sess) else w
        ((w.detach link).setLink link fun l => { l with sess := none, state := .down }).act
          (.physDown link)

/-- The body of the loop of `ppp_l2tp_ctrl_connected_cb`. -/
def l2tpCtrlConnectedLink (env : L2tpLinkEnv) (tun : Nat) (w : L2tpPhys) (link : Nat) :
    L2tpPhys :=
  match w.links[link]? with
  | none => w
  | some l =>
      if l.tun ≠ some tun then w
      else
        l2tpStartCall env (w.setTun tun fun t => { t with connected := true }) link tun l.conf

def l2tpCtrlConnectedCb (env : L2tpLinkEnv) (w : L2tpPhys) (tun : Nat) : L2tpPhys :=
  (List.range w.links.length).foldl (l2tpCtrlConnectedLink env tun)
    { w with completed := tun :: w.completed }

/-- A link whose session ended without its asking: the end of `ppp_l2tp_terminated_cb` and the
body of the loop of `ppp_l2tp_ctrl_terminated_cb`. -/
def l2tpLinkDropped (w : L2tpPhys) (link : Nat) : L2tpPhys :=
  ((w.detach link).setLink link fun l => { l with sess := none, state := .down }).act
    (.physDown link)

/-- The body of the loop of `ppp_l2tp_ctrl_terminated_cb`. -/
def l2tpCtrlTerminatedLink (tun : Nat) (w : L2tpPhys) (link : Nat) : L2tpPhys :=
  match w.links[link]? with
  | none => w
  | some l => if l.tun ≠ some tun then w else l2tpLinkDropped w link

def l2tpCtrlTerminatedCb (w : L2tpPhys) (tun : Nat) : L2tpPhys :=
  ((List.range w.links.length).foldl (l2tpCtrlTerminatedLink tun) w).setTun tun fun t =>
    { t with alive := false }

def l2tpCtrlDestroyedCb (w : L2tpPhys) (tun : Nat) : L2tpPhys :=
  { w with tuns := w.tuns.filter (·.id ≠ tun) }

/-- The test of `ppp_l2tp_initiated_cb` for a link that can take the call, with
`PhysIsBusy`. -/
def l2tpAccepts (env : L2tpLinkEnv) (tun : L2tpTun) (link : Nat) (l : L2tpLink) : Bool :=
  (decide (l.state = .down) && l.rep.isNone && !env.busy link) && l.conf.incoming &&
    (l.conf.self_addr == 0 || l.conf.self_addr == tun.self_addr) &&
    (l.conf.self_port == 0 || l.conf.self_port == tun.self_port) &&
    env.ipAddrInRange l.conf.peer_addr tun.peer_addr &&
    (l.conf.peer_port == 0 || l.conf.peer_port == tun.peer_port) && env.peer_mask link

/-- The search of `ppp_l2tp_initiated_cb` for the link with the narrowest range. -/
def l2tpBestLink (env : L2tpLinkEnv) (links : List L2tpLink) (tun : L2tpTun) :
    List Nat → Option (Nat × Nat) → Option Nat
  | [], best => best.map (·.1)
  | link :: rest, best =>
      match links[link]? with
      | none => l2tpBestLink env links tun rest best
      | some l =>
          if l2tpAccepts env tun link l &&
              best.all fun sofar => decide (l.conf.peer_addr.width > sofar.2) then
            if l.conf.peer_addr.host then some link
            else l2tpBestLink env links tun rest (some (link, l.conf.peer_addr.width))
          else l2tpBestLink env links tun rest best

/-- `ppp_l2tp_initiated_cb` once the link is found. -/
def l2tpTakeCall (w : L2tpPhys) (link tun : Nat) (out : Bool) : L2tpPhys :=
  let sess := w.nextSess
  let w := ({ w with nextSess := sess + 1 } : L2tpPhys).setLink link fun l =>
    { l with
      state := if out then .ready else .connecting
      incoming := true, outcall := out, sess := some sess }
  (w.attach link tun).act (.physIncoming link)

/-- `ppp_l2tp_initiated_cb`. The daemon may be shut down or overloaded, and `LinkInst` may
fail. -/
def l2tpInitiatedCb (env : L2tpLinkEnv) (w : L2tpPhys) (tun : L2tpTun) (out : Bool) : L2tpPhys :=
  let (accepting, w) := w.ask env
  if !accepting then w.act (.terminate none)
  else
    match l2tpBestLink env w.links tun (List.range w.links.length) none with
    | none => w.act (.terminate none)
    | some link =>
        match w.links[link]? with
        | none => w
        | some l =>
            if !l.tmpl then l2tpTakeCall w link tun.id out
            else
              let (made, w) := w.ask env
              if !made then w.act (.terminate none)
              else
                l2tpTakeCall { w with links := w.links ++ [{ l with tmpl := false }] }
                  w.links.length tun.id out

def l2tpConnectedCb (env : L2tpLinkEnv) (w : L2tpPhys) (link : Nat) (framing : Option Bool) :
    L2tpPhys :=
  match w.links[link]? with
  | none => w
  | some l =>
      let w := w.setLink link fun l =>
        { l with sync := if l.incoming = l.outcall then l.sync else framing.getD l.sync }
      if l.opened then
        (l2tpHookUp env (w.setLink link fun l => { l with state := .up }) link l.sess).act
          (.physUp link)
      else w.setLink link fun l => { l with state := .ready }

/-- `L2tpServerEvent`, for a packet that begins a connection: the tunnel of the server, unless
no link wants it or a step fails. -/
def l2tpServerEvent (env : L2tpLinkEnv) (w : L2tpPhys) (peer_addr peer_port self_addr
    self_port : Nat) : L2tpPhys :=
  let (made, w) := w.ask env
  if !made then w
  else
    { w with
      tuns := ⟨w.nextTun, self_addr, peer_addr, self_port, peer_port, false, true, 0⟩ :: w.tuns
      nextTun := w.nextTun + 1 }

/-- What can happen to the links and the tunnels. -/
inductive L2tpLinkEvent where
  | open (link : Nat)
  | close (link : Nat)
  | ctrlConnected (tun : Nat)
  | ctrlTerminated (tun : Nat)
  | ctrlDestroyed (tun : Nat)
  | initiated (tun : Nat) (out : Bool)
  | connected (link : Nat) (framing : Option Bool)
  | terminated (link : Nat)
  | server (peer_addr peer_port self_addr self_port : Nat)

/-- One step. The callbacks of the control library come from connections that are there. -/
def l2tpLinkStep (env : L2tpLinkEnv) (w : L2tpPhys) : L2tpLinkEvent → L2tpPhys
  | .open link => l2tpOpen env w link
  | .close link => l2tpClose w link
  | .ctrlConnected tun =>
      if w.tuns.any (·.id = tun) then l2tpCtrlConnectedCb env w tun else w
  | .ctrlTerminated tun => l2tpCtrlTerminatedCb w tun
  | .ctrlDestroyed tun => l2tpCtrlDestroyedCb w tun
  | .initiated tun out =>
      match w.tuns.find? (·.id = tun) with
      | none => w
      | some t => l2tpInitiatedCb env w t out
  | .connected link framing => l2tpConnectedCb env w link framing
  | .terminated link => l2tpLinkDropped w link
  | .server peer_addr peer_port self_addr self_port =>
      l2tpServerEvent env w peer_addr peer_port self_addr self_port

/-- The links as they are configured, before anything happens. -/
def l2tpLinksStart (confs : List (L2tpLinkConf × Bool)) : L2tpPhys :=
  { links := confs.map fun conf => { conf := conf.1, tmpl := conf.2 } }

def l2tpLinkRun (env : L2tpLinkEnv) (confs : List (L2tpLinkConf × Bool))
    (events : List L2tpLinkEvent) : L2tpPhys :=
  Transition.run (l2tpLinkStep env) (l2tpLinksStart confs) events

end Mpd
