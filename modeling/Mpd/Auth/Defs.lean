import Mpd.Bytes

/-! The data of `auth.h`, `pap.h`, `chap.h` and `eap.h`: what a link knows of its
authentication, and what it hands over to the back-ends. -/

set_option autoImplicit false

namespace Mpd

structure OptInfo where
  enable : UInt32
  accept : UInt32
  deriving DecidableEq, Repr

def OptInfo.enabled (c : OptInfo) (x : Nat) : Bool := c.enable.toNat.testBit x
def OptInfo.acceptable (c : OptInfo) (x : Nat) : Bool := c.accept.toNat.testBit x

def protoLcp : UInt16 := 0xC021
def protoPap : UInt16 := 0xC023
def protoChap : UInt16 := 0xC223
def protoEap : UInt16 := 0xC227

def chapAlgMd5 : UInt8 := 0x05
def chapAlgMsoft : UInt8 := 0x80
def chapAlgMsoftv2 : UInt8 := 0x81

def authRetries : Int := 5
def authMaxAuthname : Nat := 64

/-- The string that `strlcpy` leaves in a buffer of the given size. -/
def cstr (size : Nat) (source : Bytes) : Bytes :=
  (source.takeWhile (· ≠ 0)).take (size - 1)

def ascii (text : String) : Bytes := text.toList.map fun c => UInt8.ofNat c.toNat

inductive AuthSide where
  | peerToSelf | selfToPeer
  deriving DecidableEq, Repr

inductive AuthStatus where
  | undef | fail | success | busy
  deriving DecidableEq, Repr

inductive AuthFail where
  | invalidLogin | acctDisabled | noPermission | restrictedHours | invalidPacket | notExpected
  deriving DecidableEq, Repr

structure PapParams where
  peer_name : Bytes
  peer_pass : Bytes
  deriving DecidableEq, Repr

/-- `struct chapparams`. The lengths are those of the lists. -/
structure ChapParams where
  chal_data : Bytes
  value : Bytes
  deriving DecidableEq, Repr

/-- `struct authparams`, less what only accounting, the bundle and the encryption
read. `nt_hash` is `none` as long as `has_nt_hash` is false. -/
structure AuthParams where
  authname : Bytes
  password : Bytes
  pap : PapParams
  chap : ChapParams
  eapmsg : Option Bytes
  action : Bytes
  session_timeout : UInt32
  nt_hash : Option Bytes
  deriving DecidableEq, Repr

def authparamsInit : AuthParams where
  authname := []
  password := []
  pap := { peer_name := [], peer_pass := [] }
  chap := { chal_data := [], value := [] }
  eapmsg := none
  action := []
  session_timeout := 0
  nt_hash := none

structure AuthConf where
  authname : Bytes
  password : Bytes
  options : OptInfo
  deriving DecidableEq, Repr

inductive AuthHandler where
  | papInputFinish | chapInputFinish | eapRadiusProxyFinish
  deriving DecidableEq, Repr

structure AuthData where
  conf : AuthConf
  proto : UInt16
  alg : UInt8
  id : UInt8
  code : UInt8
  eap_radius : Bool
  status : AuthStatus
  why_fail : AuthFail
  reply_message : Option Bytes
  mschap_error : Option Bytes
  mschapv2resp : Option Bytes
  finish : AuthHandler
  params : AuthParams
  deriving DecidableEq, Repr

/-- `struct papinfo`. As in the other records a timer is its pending flag. -/
structure PapInfo where
  next_id : UInt8
  retry : Int
  timer : Bool
  deriving DecidableEq, Repr

/-- `struct chapinfo`. The length of `resp` is that of the list. -/
structure ChapInfo where
  proto : UInt16
  next_id : UInt8
  retry : Int
  chalTimer : Bool
  respTimer : Bool
  resp : Option Bytes
  resp_id : UInt8
  deriving DecidableEq, Repr

structure EapInfo where
  next_id : UInt8
  retry : Int
  identTimer : Bool
  reqTimer : Bool
  identity : Bytes
  peer_types : List UInt8
  want_types : List UInt8
  options : OptInfo
  deriving DecidableEq, Repr

/-- `struct auth`. A thread is the data that was handed over to it. -/
structure Auth where
  peer_to_self : UInt16
  self_to_peer : UInt16
  peer_to_self_alg : UInt8
  self_to_peer_alg : UInt8
  timer : Bool
  pap : PapInfo
  chap : ChapInfo
  eap : EapInfo
  thread : Option AuthData
  conf : AuthConf
  params : AuthParams
  deriving DecidableEq, Repr

end Mpd
