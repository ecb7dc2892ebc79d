import Mpd.Lcp.Options
import Mpd.IpPool

/-! The options of IPCP as in `ipcp.c`, with what they need of `ip.h`. -/

set_option autoImplicit false

namespace Mpd

inductive AddrFamily where
  | unspec | inet | inet6
  deriving DecidableEq, Repr

/-- `struct u_addr`. The first four bytes of the union are those of an IPv4 address. -/
structure UAddr where
  family : AddrFamily
  ip4 : UInt32
  rest : Bytes
  deriving DecidableEq, Repr

structure URange where
  addr : UAddr
  width : UInt8
  deriving DecidableEq, Repr

def inAddrtouAddr (ip : UInt32) : UAddr := ⟨.inet, ip, []⟩

def uAddrempty (addr : UAddr) : Bool :=
  match addr.family with
  | .unspec => true
  | .inet => addr.ip4 == 0
  | .inet6 => addr.ip4 == 0 && addr.rest.all (· == 0)

def uRangeempty (range : URange) : Bool := uAddrempty range.addr

/-- `IpAddrInRange` for an IPv4 address. -/
def ipAddrInRange (range : URange) (ip : UInt32) : Bool :=
  if uRangeempty range then true
  else if range.addr.family ≠ .inet then false
  else
    let mask : UInt32 := if range.width = 0 then 0 else 0xFFFFFFFF <<< (32 - range.width.toUInt32)
    ip &&& mask == range.addr.ip4 &&& mask

def ipcpConfVjcomp : Nat := 0
def ipcpConfReqpridns : Nat := 1
def ipcpConfReqsecdns : Nat := 2
def ipcpConfReqprinbns : Nat := 3
def ipcpConfReqsecnbns : Nat := 4
def ipcpConfPretendip : Nat := 5

def protoIpcp : UInt16 := 0x8021
def protoVjcomp : UInt16 := 0x002D
def ipcpVjcompMinMaxchan : UInt8 := 3
def ipcpVjcompMaxMaxchan : UInt8 := 15

structure IpcpVjcomp where
  proto : UInt16
  maxchan : UInt8
  compcid : UInt8
  deriving DecidableEq, Repr

def IpcpVjcomp.bytes (vj : IpcpVjcomp) : Bytes := putBe16 vj.proto ++ [vj.maxchan, vj.compcid]

structure Servers where
  primary : UInt32
  secondary : UInt32
  deriving DecidableEq, Repr

structure IpcpConf where
  options : OptInfo
  self_allow : URange
  peer_allow : URange
  self_ippool : Bytes
  ippool : Bytes
  peer_dns : Servers
  peer_nbns : Servers
  deriving DecidableEq, Repr

/-- The parameters of a bundle that IPCP reads. `range` is `none` while it is not valid. -/
structure BundParams where
  range : Option URange
  ippool : Bytes
  ippool_used : Bool
  vjc_enable : Bool
  peer_dns : Servers
  peer_nbns : Servers
  deriving DecidableEq, Repr

/-- `struct ipcpstate`, less its FSM. -/
structure IpcpState where
  conf : IpcpConf
  want_addr : UInt32
  peer_addr : UInt32
  self_allow : URange
  peer_allow : URange
  self_ippool_used : Bool
  ippool_used : Bool
  peer_comp : IpcpVjcomp
  want_comp : IpcpVjcomp
  want_dns : Servers
  want_nbns : Servers
  peer_reject : UInt32
  deriving DecidableEq, Repr

structure Iface where
  «open» : Bool
  dod : Bool
  up : Bool
  ip_up : Bool
  ipv6_up : Bool
  deriving DecidableEq, Repr

/-- What is outside of a bundle: what the others make of the pools before it turns to them
for the n-th time, and whether the n-th configuration of the interface succeeds. -/
structure BundEnv where
  others : Nat → List IPPool → List IPPool
  ifaceIpIfaceUp : Nat → Bool
  ifaceIpv6IfaceUp : Nat → Bool

inductive BundAct where
  | closeLinks
  | overflow
  deriving DecidableEq, Repr

/-- `struct bundle`, as far as IPCP goes. `ipcpEnabled` and `ipv6cpEnabled` are the
options `BUND_CONF_IPCP` and `BUND_CONF_IPV6CP`, `ippools` is `gIPPools` as the bundle left
it. -/
structure Bund where
  env : BundEnv
  ippools : List IPPool
  ipcpEnabled : Bool
  ipv6cpEnabled : Bool
  params : BundParams
  iface : Iface
  ncpstarted : UInt8
  ipcp : IpcpState
  pools : Nat
  ifaceUps : Nat
  trace : List BundAct

namespace FsmWorld

variable (w : FsmWorld Bund)

def setIpcp (ipcp : IpcpState) : FsmWorld Bund := { w with layer := { w.layer with ipcp } }

def setIface (iface : Iface) : FsmWorld Bund := { w with layer := { w.layer with iface } }

def act (act : BundAct) : FsmWorld Bund :=
  { w with layer := { w.layer with trace := w.layer.trace ++ [act] } }

end FsmWorld

def Bund.findPools (b : Bund) : Bund :=
  { b with ippools := b.env.others b.pools b.ippools, pools := b.pools + 1 }

def bundPoolGet (pool : Bytes) (b : Bund) : Option URange × Bund :=
  let b := b.findPools
  match ipPoolGet pool b.ippools with
  | none => (none, b)
  | some (ip, ippools) => (some ⟨inAddrtouAddr ip, 32⟩, { b with ippools })

def bundPoolFree (pool : Bytes) (ip : UInt32) (w : FsmWorld Bund) : FsmWorld Bund :=
  let b := w.layer.findPools
  { w with layer := { b with ippools := ipPoolFree pool ip b.ippools } }

/-- Our own range in `IpcpConfigure`. A pool without a free address leaves it as it was. -/
def ipcpSelfRange (b : Bund) : Bund :=
  let ipcp := b.ipcp
  if ipcp.conf.self_ippool ≠ [] then
    match bundPoolGet ipcp.conf.self_ippool b with
    | (some self_allow, b) => { b with ipcp := { ipcp with self_allow, self_ippool_used := true } }
    | (none, b) => b
  else { b with ipcp := { ipcp with self_allow := ipcp.conf.self_allow } }

def ipcpPeerRange (b : Bund) : Bund :=
  let ipcp := b.ipcp
  match b.params.range.filter fun range => !uRangeempty range with
  | some peer_allow => { b with ipcp := { ipcp with peer_allow } }
  | none =>
      if b.params.ippool ≠ [] then
        match bundPoolGet b.params.ippool b with
        | (some peer_allow, b) =>
            { b with ipcp := { ipcp with peer_allow }, params := { b.params with ippool_used := true } }
        | (none, b) => b
      else if ipcp.conf.ippool ≠ [] then
        match bundPoolGet ipcp.conf.ippool b with
        | (some peer_allow, b) => { b with ipcp := { ipcp with peer_allow, ippool_used := true } }
        | (none, b) => b
      else { b with ipcp := { ipcp with peer_allow := ipcp.conf.peer_allow } }

def ipcpConfigure (w : FsmWorld Bund) : FsmWorld Bund :=
  let b := ipcpPeerRange (ipcpSelfRange w.layer)
  let ipcp := b.ipcp
  let vjcomp := b.params.vjc_enable || ipcp.conf.options.enabled ipcpConfVjcomp
  { w with layer := { b with ipcp := { ipcp with
      peer_reject := 0
      want_addr := ipcp.self_allow.addr.ip4
      peer_addr := ipcp.peer_allow.addr.ip4
      peer_comp := ⟨0, ipcpVjcompMaxMaxchan, 0⟩
      want_comp := ⟨if vjcomp then protoVjcomp else 0, ipcpVjcompMaxMaxchan, 0⟩
      want_dns := ⟨0, 0⟩
      want_nbns := ⟨0, 0⟩ } } }

def ipcpUnConfigure (w : FsmWorld Bund) : FsmWorld Bund :=
  let ipcp := w.layer.ipcp
  let w :=
    if ipcp.self_ippool_used then
      (bundPoolFree ipcp.conf.self_ippool ipcp.want_addr w).setIpcp
        { ipcp with self_ippool_used := false }
    else w
  let ipcp := w.layer.ipcp
  let params := w.layer.params
  if params.ippool_used then
    let w := bundPoolFree params.ippool ipcp.peer_addr w
    { w with layer := { w.layer with params := { params with ippool_used := false } } }
  else if ipcp.ippool_used then
    (bundPoolFree ipcp.conf.ippool ipcp.peer_addr w).setIpcp
      { ipcp with ippool_used := false }
  else w

inductive IpcpOpt where
  | compproto | ipaddr | primarydns | primarynbns | secondarydns | secondarynbns
  deriving DecidableEq, Repr

namespace IpcpOpt

/-- `TY_COMPPROTO` and the other option types. -/
def num : IpcpOpt → UInt8
  | compproto => 2 | ipaddr => 3 | primarydns => 129 | primarynbns => 130 | secondarydns => 131
  | secondarynbns => 132

end IpcpOpt

def gIpcpConfOpts : List (FsmOptInfo IpcpOpt) :=
  [⟨1, 8, 8, none⟩, ⟨2, 4, 4, some .compproto⟩, ⟨3, 4, 4, some .ipaddr⟩, ⟨4, 6, 6, none⟩,
    ⟨129, 4, 4, some .primarydns⟩, ⟨130, 4, 4, some .primarynbns⟩,
    ⟨131, 4, 4, some .secondarydns⟩, ⟨132, 4, 4, some .secondarynbns⟩]

def o2b (x : UInt8) : UInt32 := if x < 128 then x.toUInt32 else x.toUInt32 - 128 + 3

def IpcpState.rejected (ipcp : IpcpState) (x : UInt8) : Bool :=
  ipcp.peer_reject &&& (1 <<< o2b x) != 0

def IpcpState.peerRej (ipcp : IpcpState) (x : UInt8) : IpcpState :=
  { ipcp with peer_reject := ipcp.peer_reject ||| (1 <<< o2b x) }

def ipcpBuildConfigReq (b : Bund) : Bytes :=
  let ipcp := b.ipcp
  let request (opt : IpcpOpt) (wanted : Bool) (data : Bytes) : Bytes :=
    if wanted then fsmConfValue opt.num data else []
  let server (opt : IpcpOpt) (conf : Nat) (value : UInt32) : Bytes :=
    request opt (ipcp.conf.options.enabled conf && !ipcp.rejected opt.num) (putBe32 value)
  request .ipaddr (!ipcp.rejected IpcpOpt.ipaddr.num || ipcp.want_addr == 0)
      (putBe32 ipcp.want_addr) ++
    request .compproto (ipcp.want_comp.proto != 0 && !ipcp.rejected IpcpOpt.compproto.num)
      ipcp.want_comp.bytes ++
    server .primarydns ipcpConfReqpridns ipcp.want_dns.primary ++
    server .secondarydns ipcpConfReqsecdns ipcp.want_dns.secondary ++
    server .primarynbns ipcpConfReqprinbns ipcp.want_nbns.primary ++
    server .secondarynbns ipcpConfReqsecnbns ipcp.want_nbns.secondary

def ipcpOptAddr (opt : FsmOption) : UInt32 :=
  be32 (opt.byte 0) (opt.byte 1) (opt.byte 2) (opt.byte 3)

def ipcpTakesAddr (b : Bund) (ip : UInt32) : Bool :=
  (ipAddrInRange b.ipcp.peer_allow ip && ip != 0) ||
    b.ipcp.conf.options.enabled ipcpConfPretendip

def ipcpDecodeIpaddr (mode : FsmMode) (opt : FsmOption) (w : FsmWorld Bund) : FsmWorld Bund :=
  let ipcp := w.layer.ipcp
  let ip := ipcpOptAddr opt
  match mode with
  | .req =>
      if ipcpTakesAddr w.layer ip then fsmAck opt (w.setIpcp { ipcp with peer_addr := ip })
      else fsmNak (opt.overwrite (putBe32 ipcp.peer_addr)) w
  | .nak =>
      if ipAddrInRange ipcp.self_allow ip || ipcp.conf.options.enabled ipcpConfPretendip then
        w.setIpcp { ipcp with want_addr := ip }
      else w
  | .rej => w.setIpcp (ipcp.peerRej opt.type)
  | .nop => w

def ipcpOptVjcomp (opt : FsmOption) : IpcpVjcomp :=
  ⟨be16 (opt.byte 0) (opt.byte 1), opt.byte 2, opt.byte 3⟩

def IpcpVjcomp.handles (vj : IpcpVjcomp) : Bool :=
  vj.maxchan ≤ ipcpVjcompMaxMaxchan && vj.maxchan ≥ ipcpVjcompMinMaxchan

def ipcpDecodeCompproto (mode : FsmMode) (opt : FsmOption) (w : FsmWorld Bund) :
    FsmWorld Bund :=
  let ipcp := w.layer.ipcp
  let vj := ipcpOptVjcomp opt
  match mode with
  | .req =>
      if !ipcp.conf.options.acceptable ipcpConfVjcomp && !w.layer.params.vjc_enable then
        fsmRej opt w
      else if vj.proto == protoVjcomp && vj.handles then
        fsmAck opt (w.setIpcp { ipcp with peer_comp := vj })
      else
        let suggested : IpcpVjcomp := ⟨protoVjcomp, ipcpVjcompMaxMaxchan, 0⟩
        fsmNak (opt.overwrite suggested.bytes) w
  | .nak =>
      if vj.proto == protoVjcomp && vj.handles then
        w.setIpcp { ipcp with want_comp := { ipcp.want_comp with maxchan := vj.maxchan } }
      else w
  | .rej =>
      let ipcp := ipcp.peerRej opt.type
      w.setIpcp { ipcp with want_comp := { ipcp.want_comp with proto := 0 } }
  | .nop => w

def ipcpServer (params conf : UInt32) : UInt32 := if params ≠ 0 then params else conf

/-- The label `doDnsNbns`: `peerip` is the server for the peer, `learn` stores ours. -/
def ipcpDecodeServer (peerip : UInt32) (learn : UInt32 → IpcpState → IpcpState) (mode : FsmMode)
    (opt : FsmOption) (w : FsmWorld Bund) : FsmWorld Bund :=
  let ipcp := w.layer.ipcp
  let hisip := ipcpOptAddr opt
  match mode with
  | .req =>
      if hisip = 0 then
        if peerip = 0 then fsmRej opt w else fsmNak (opt.overwrite (putBe32 peerip)) w
      else fsmAck opt w
  | .nak => w.setIpcp (learn hisip ipcp)
  | .rej => w.setIpcp (ipcp.peerRej opt.type)
  | .nop => w

def ipcpDecodeSupported (mode : FsmMode) (meaning : IpcpOpt) (opt : FsmOption)
    (w : FsmWorld Bund) : FsmWorld Bund :=
  let params := w.layer.params
  let conf := w.layer.ipcp.conf
  match meaning with
  | .ipaddr => ipcpDecodeIpaddr mode opt w
  | .compproto => ipcpDecodeCompproto mode opt w
  | .primarydns =>
      ipcpDecodeServer (ipcpServer params.peer_dns.primary conf.peer_dns.primary)
        (fun ip ipcp => { ipcp with want_dns := { ipcp.want_dns with primary := ip } }) mode opt w
  | .primarynbns =>
      ipcpDecodeServer (ipcpServer params.peer_nbns.primary conf.peer_nbns.primary)
        (fun ip ipcp => { ipcp with want_nbns := { ipcp.want_nbns with primary := ip } }) mode opt w
  | .secondarydns =>
      ipcpDecodeServer (ipcpServer params.peer_dns.secondary conf.peer_dns.secondary)
        (fun ip ipcp => { ipcp with want_dns := { ipcp.want_dns with secondary := ip } }) mode opt w
  | .secondarynbns =>
      ipcpDecodeServer (ipcpServer params.peer_nbns.secondary conf.peer_nbns.secondary)
        (fun ip ipcp => { ipcp with want_nbns := { ipcp.want_nbns with secondary := ip } }) mode
        opt w

/-- The body of the loop of `IpcpDecodeConfig`. -/
def ipcpDecodeOption (mode : FsmMode) (opt : FsmOption) (w : FsmWorld Bund) : FsmWorld Bund :=
  match opt.meaning? gIpcpConfOpts with
  | none => if mode = .req then fsmRej opt w else w
  | some meaning => ipcpDecodeSupported mode meaning opt w

def ipcpDecodeConfig (list : List FsmOption) (mode : FsmMode) (w : FsmWorld Bund) :
    FsmWorld Bund :=
  list.foldl (fun w opt => ipcpDecodeOption mode opt w) w

end Mpd
