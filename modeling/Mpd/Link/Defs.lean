import Mpd.Fsm.Defs
import Mpd.Auth.Defs

/-! The data of `link.h`, `lcp.h`, `phys.h` and `mp.h`: one link with its LCP state,
its configuration and the answers that the rest of the system gives it. -/

set_option autoImplicit false

namespace Mpd

def linkConfPap : Nat := 0
def linkConfChapMd5 : Nat := 1
def linkConfChapMSv1 : Nat := 2
def linkConfChapMSv2 : Nat := 3
def linkConfEap : Nat := 4
def linkConfAcfcomp : Nat := 6
def linkConfProtocomp : Nat := 7
def linkConfMsdomain : Nat := 8
def linkConfMagicnum : Nat := 9
def linkConfPassive : Nat := 10
def linkConfCheckMagic : Nat := 11
def linkConfNoOrigAuth : Nat := 13
def linkConfCallback : Nat := 14
def linkConfMultilink : Nat := 15
def linkConfShortseq : Nat := 16
def linkConfTimeremain : Nat := 17

def lcpMinMru : UInt16 := 296
def mpMinMrru : UInt16 := lcpMinMru

def maxDiscrim : Nat := 50

/-- `struct discrim`. The bytes are those that `len` counts. -/
structure Discrim where
  «class» : UInt8
  bytes : Bytes
  deriving DecidableEq, Repr

/-- `DISCRIM_CLASS_NULL` without bytes. -/
def Discrim.null : Discrim := ⟨0, []⟩

structure LcpAuthProto where
  proto : UInt16
  alg : UInt8
  conf : Nat
  deriving DecidableEq, Repr

/-- `struct phystype`, as far as the MTU, the MRU and the framing go. -/
structure PhysType where
  mtu : UInt16
  mru : UInt16
  getmtu : Option (Bool → UInt16)
  getmru : Option (Bool → UInt16)
  issync : Bool

structure LinkConf where
  mtu : UInt16
  mru : UInt16
  mrru : UInt16
  accmap : UInt32
  ident : Option Bytes
  options : OptInfo
  deriving DecidableEq, Repr

inductive LinkOriginate where
  | unknown | «local» | remote
  deriving DecidableEq, Repr

def LinkOriginate.num : LinkOriginate → UInt8
  | unknown => 0 | «local» => 1 | remote => 2

inductive LcpPhase where
  | dead | establish | authenticate | network | terminate
  deriving DecidableEq, Repr

structure LcpPeer where
  peer_mru : UInt16
  peer_accmap : UInt32
  peer_acfcomp : Bool
  peer_protocomp : Bool
  peer_magic : UInt32
  peer_auth : UInt16
  peer_alg : UInt8
  peer_mrru : UInt16
  peer_shortseq : Bool
  peer_discrim : Discrim
  deriving DecidableEq, Repr

/-- `struct lcpstate`, less its FSM and its `struct auth`. -/
structure LcpState extends LcpPeer where
  phase : LcpPhase
  need_reset : Bool
  peer_reject : UInt32
  peer_protos : List (Option LcpAuthProto)
  peer_ident : Bytes
  want_mru : UInt16
  want_accmap : UInt32
  want_acfcomp : Bool
  want_protocomp : Bool
  want_magic : UInt32
  want_callback : Bool
  want_auth : UInt16
  want_alg : UInt8
  want_protos : List (Option LcpAuthProto)
  want_mrru : UInt16
  want_shortseq : Bool
  deriving DecidableEq, Repr

structure Crypto where
  md5 : Bytes → Bytes
  ntPasswordHash : Bytes → Bytes
  ntChallengeResponse : Bytes → Bytes → Bytes
  generateNTResponse : Bytes → Bytes → Bytes → Bytes → Bytes
  generateAuthenticatorResponse : Bytes → Bytes → Bytes → Bytes → Bytes → Bytes

/-- What is outside the link and answers when it is asked: the n-th magic number and
the n-th random number, the verdict of the n-th `BundJoin`, and the secrets file. -/
structure Env where
  crypto : Crypto
  generateMagic : Nat → UInt32
  random : Nat → Nat
  bundJoin : Nat → Bool
  authGetData : Bytes → Option Bytes

/-- The places of the asserts of the modelled functions, and that of the pointer
that `EapInput` follows without a test. -/
inductive Abort where
  | lcpNewState | lcpNewPhase | authStart | authInput | chapSendChallenge | chapSendResponse
  | eapNak
  deriving DecidableEq, Repr

/-- What a link does to the world outside it, and what is worth a note. `overflow`
marks a re-entrance of the LCP FSM that the model did not unroll. -/
inductive LinkAct where
  | frame (proto : UInt16) (packet : Bytes)
  | authFinish (which : AuthSide) (ok : Bool)
  | authAsyncStart (auth : AuthData)
  | bundJoin (joined : Bool)
  | bundLeave
  | physOpen
  | physClose
  | repeater (rept : Bytes)
  | ncpFailure (proto : UInt16)
  | shutdownCheck (state : FsmState)
  | setAccm (peer_accmap want_accmap : UInt32)
  | abort (place : Abort)
  | overflow
  deriving DecidableEq, Repr

/-- `struct linkst`. The counters tell how often the environment was asked. -/
structure Link where
  env : Env
  type : Option PhysType
  originate : LinkOriginate
  conf : LinkConf
  self_discrim : Discrim
  openTimer : Bool
  rep : Bool
  joined_bund : Bool
  lcp : LcpState
  auth : Auth
  magics : Nat
  randoms : Nat
  joins : Nat
  trace : List LinkAct

def physGetMtu (l : Link) (conf : Bool) : UInt16 :=
  match l.type with
  | none => 0
  | some pt =>
      match pt.getmtu with
      | some getmtu => getmtu conf
      | none => if conf then l.conf.mtu else pt.mtu

def physGetMru (l : Link) (conf : Bool) : UInt16 :=
  match l.type with
  | none => 0
  | some pt =>
      match pt.getmru with
      | some getmru => getmru conf
      | none => if conf then l.conf.mru else pt.mru

def physIsSync (l : Link) : Bool := l.type.any (·.issync)

namespace FsmWorld

variable (w : FsmWorld Link)

def setLcp (lcp : LcpState) : FsmWorld Link := { w with layer := { w.layer with lcp } }

def setAuth (auth : Auth) : FsmWorld Link := { w with layer := { w.layer with auth } }

def note (act : LinkAct) : FsmWorld Link :=
  { w with layer := { w.layer with trace := w.layer.trace ++ [act] } }

end FsmWorld

def generateMagic (w : FsmWorld Link) : UInt32 × FsmWorld Link :=
  (w.layer.env.generateMagic w.layer.magics,
    { w with layer := { w.layer with magics := w.layer.magics + 1 } })

end Mpd
