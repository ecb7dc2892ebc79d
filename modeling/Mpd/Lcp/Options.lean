import Mpd.Link.Defs

/-! The options of LCP as in `lcp.c`: `LcpConfigure`, `LcpBuildConfigReq` and
`LcpDecodeConfig`. -/

set_option autoImplicit false

namespace Mpd

namespace FsmOption

def byte (option : FsmOption) (index : Nat) : UInt8 := option.data.getD index 0

def overwrite (option : FsmOption) (bytes : Bytes) : FsmOption where
  type := option.type
  data := bytes.take option.data.length ++ option.data.drop bytes.length
  fits := by
    have bounded := option.fits
    simp only [List.length_append, List.length_take, List.length_drop]
    omega

@[simp] theorem len_overwrite (option : FsmOption) (bytes : Bytes) :
    (option.overwrite bytes).len = option.len := by
  simp only [len, overwrite, List.length_append, List.length_take, List.length_drop]
  omega

end FsmOption

def lcpAuthPap : LcpAuthProto := ⟨protoPap, 0, linkConfPap⟩
def lcpAuthChapMd5 : LcpAuthProto := ⟨protoChap, chapAlgMd5, linkConfChapMd5⟩
def lcpAuthChapMSv1 : LcpAuthProto := ⟨protoChap, chapAlgMsoft, linkConfChapMSv1⟩
def lcpAuthChapMSv2 : LcpAuthProto := ⟨protoChap, chapAlgMsoftv2, linkConfChapMSv2⟩
def lcpAuthEap : LcpAuthProto := ⟨protoEap, 0, linkConfEap⟩

def gLcpAuthProtos : List LcpAuthProto :=
  [lcpAuthPap, lcpAuthChapMd5, lcpAuthChapMSv1, lcpAuthChapMSv2, lcpAuthEap]

/-- The list with which `LcpConfigure` starts, from the most to the least secure. -/
def lcpPossibleProtos : List LcpAuthProto :=
  [lcpAuthChapMSv2, lcpAuthChapMSv1, lcpAuthChapMd5, lcpAuthPap, lcpAuthEap]

/-- The loop of `LcpConfigure` over `want_protos`: the protocol it asks for, its
algorithm, and what is left of the list. -/
def lcpRequestAuth (options : OptInfo) :
    List LcpAuthProto → UInt16 → UInt8 → UInt16 × UInt8 × List (Option LcpAuthProto)
  | [], want_auth, want_alg => (want_auth, want_alg, [])
  | authProto :: authProtos, want_auth, want_alg =>
      if options.enabled authProto.conf && want_auth == 0 then
        let rest := lcpRequestAuth options authProtos authProto.proto authProto.alg
        (rest.1, rest.2.1, none :: rest.2.2)
      else
        let rest := lcpRequestAuth options authProtos want_auth want_alg
        let entry := if options.enabled authProto.conf then some authProto else none
        (rest.1, rest.2.1, entry :: rest.2.2)

/-- The loop of `LcpConfigure` over `peer_protos`. -/
def lcpAcceptAuth (options : OptInfo) (authProtos : List LcpAuthProto) :
    List (Option LcpAuthProto) :=
  authProtos.map fun authProto =>
    if options.acceptable authProto.conf then some authProto else none

/-- The peer's options before any of them is known. -/
def lcpPeerDefaults (l : Link) : LcpPeer where
  peer_mru := physGetMtu l true
  peer_accmap := 0xFFFFFFFF
  peer_acfcomp := false
  peer_protocomp := false
  peer_magic := 0
  peer_auth := 0
  peer_alg := 0
  peer_mrru := 0
  peer_shortseq := false
  peer_discrim := .null

def lcpConfigure (w : FsmWorld Link) : FsmWorld Link :=
  let l := w.layer
  let enabled := l.conf.options.enabled
  let magic := if enabled linkConfMagicnum then generateMagic w else (0, w)
  let w := magic.2
  let want_mru := physGetMru l true
  let request := lcpRequestAuth l.conf.options lcpPossibleProtos 0 0
  let w := { w with fsm := { w.fsm with conf := { w.fsm.conf with
    passive := enabled linkConfPassive, check_magic := enabled linkConfCheckMagic } } }
  w.setLcp {
    lcpPeerDefaults l with
    phase := l.lcp.phase
    need_reset := false
    peer_reject := 0
    peer_protos := lcpAcceptAuth l.conf.options lcpPossibleProtos
    peer_ident := []
    want_mru :=
      if l.type.isSome && physGetMru l false < want_mru then physGetMru l false else want_mru
    want_accmap := l.conf.accmap
    want_acfcomp := enabled linkConfAcfcomp
    want_protocomp := enabled linkConfProtocomp
    want_magic := magic.1
    want_callback := l.originate = .local && enabled linkConfCallback
    want_auth := request.1
    want_alg := request.2.1
    want_protos := request.2.2
    want_mrru := if enabled linkConfMultilink then l.conf.mrru else 0
    want_shortseq := enabled linkConfMultilink && enabled linkConfShortseq }

inductive LcpOpt where
  | vendor | mru | accmap | authproto | magicnum | protocomp | acfcomp | callback | mrru
  | shortseqnum | endpointdisc
  deriving DecidableEq, Repr

namespace LcpOpt

/-- `TY_VENDOR` and the other option types. -/
def num : LcpOpt → UInt8
  | vendor => 0 | mru => 1 | accmap => 2 | authproto => 3 | magicnum => 5 | protocomp => 7
  | acfcomp => 8 | callback => 13 | mrru => 17 | shortseqnum => 18 | endpointdisc => 19

end LcpOpt

/-- `struct fsmoptinfo`. An option that is not supported has no meaning. -/
structure FsmOptInfo (Meaning : Type) where
  type : UInt8
  minLen : Nat
  maxLen : Nat
  supported : Option Meaning
  deriving Repr

def fsmFindOptInfo {Meaning : Type} (list : List (FsmOptInfo Meaning)) (type : UInt8) :
    Option (FsmOptInfo Meaning) :=
  list.find? (·.type = type)

def gLcpConfOpts : List (FsmOptInfo LcpOpt) :=
  [⟨0, 4, 255, some .vendor⟩, ⟨1, 2, 2, some .mru⟩, ⟨2, 4, 4, some .accmap⟩,
    ⟨3, 2, 255, some .authproto⟩, ⟨4, 0, 0, none⟩, ⟨5, 4, 4, some .magicnum⟩, ⟨6, 0, 0, none⟩,
    ⟨7, 0, 0, some .protocomp⟩, ⟨8, 0, 0, some .acfcomp⟩, ⟨9, 0, 0, none⟩, ⟨10, 0, 0, none⟩,
    ⟨11, 0, 0, none⟩, ⟨12, 0, 0, none⟩, ⟨13, 1, 255, some .callback⟩, ⟨14, 0, 0, none⟩,
    ⟨15, 0, 0, none⟩, ⟨16, 0, 0, none⟩, ⟨17, 2, 2, some .mrru⟩, ⟨18, 0, 0, some .shortseqnum⟩,
    ⟨19, 1, 255, some .endpointdisc⟩, ⟨20, 0, 0, none⟩, ⟨21, 0, 0, none⟩, ⟨22, 0, 0, none⟩,
    ⟨23, 0, 0, none⟩, ⟨24, 0, 0, none⟩, ⟨25, 0, 0, none⟩, ⟨26, 0, 0, none⟩, ⟨27, 0, 0, none⟩,
    ⟨28, 0, 0, none⟩, ⟨29, 0, 0, none⟩]

namespace LcpState

def peerRejected (lcp : LcpState) (x : UInt8) : Bool := lcp.peer_reject.toNat.testBit x.toNat

def peerRej (lcp : LcpState) (x : UInt8) : LcpState :=
  { lcp with peer_reject := lcp.peer_reject ||| (1 <<< x.toUInt32) }

def peerUnrej (lcp : LcpState) (x : UInt8) : LcpState :=
  { lcp with peer_reject := lcp.peer_reject &&& ~~~(1 <<< x.toUInt32) }

end LcpState

def fsmConfValue (type : UInt8) (data : Bytes) : Bytes :=
  type :: UInt8.ofNat (data.length + 2) :: data

def lcpBuildAuth (lcp : LcpState) : Bytes :=
  if lcp.want_auth = protoPap ∨ lcp.want_auth = protoEap then
    fsmConfValue LcpOpt.authproto.num (putBe16 lcp.want_auth)
  else if lcp.want_auth = protoChap then
    fsmConfValue LcpOpt.authproto.num (putBe16 protoChap ++ [lcp.want_alg])
  else []

def lcpBuildConfigReq (l : Link) : Bytes :=
  let lcp := l.lcp
  let request (opt : LcpOpt) (wanted : Bool) (data : Bytes) : Bytes :=
    if wanted && !lcp.peerRejected opt.num then fsmConfValue opt.num data else []
  let standard :=
    request .acfcomp lcp.want_acfcomp [] ++ request .protocomp lcp.want_protocomp [] ++
      request .accmap (!physIsSync l) (putBe32 lcp.want_accmap) ++
      request .mru true (putBe16 lcp.want_mru) ++
      request .magicnum (lcp.want_magic != 0) (putBe32 lcp.want_magic) ++
      request .callback lcp.want_callback [0]
  let multilink :=
    if l.conf.options.enabled linkConfMultilink && !lcp.peerRejected LcpOpt.mrru.num then
      fsmConfValue LcpOpt.mrru.num (putBe16 lcp.want_mrru) ++
        request .shortseqnum lcp.want_shortseq [] ++
        request .endpointdisc true (l.self_discrim.class :: l.self_discrim.bytes)
    else []
  standard ++ lcpBuildAuth lcp ++ multilink

def lcpFindAuthProto (proto : UInt16) (alg : UInt8) : Option Nat :=
  gLcpAuthProtos.findIdx? fun authProto => authProto.proto = proto && authProto.alg = alg

def lcpAuthProtoNak (authProto : LcpAuthProto) : FsmOption :=
  if authProto.proto = protoPap ∨ authProto.proto = protoEap then
    ⟨LcpOpt.authproto.num, putBe16 authProto.proto, by simp⟩
  else
    ⟨LcpOpt.authproto.num, putBe16 protoChap ++ [authProto.alg], by simp⟩

/-- An option that only a request makes us reject. -/
def lcpRefuse (mode : FsmMode) (opt : FsmOption) (w : FsmWorld Link) : FsmWorld Link :=
  if mode = .req then fsmRej opt w else w

def lcpDecodeMru (mode : FsmMode) (opt : FsmOption) (w : FsmWorld Link) : FsmWorld Link :=
  let lcp := w.layer.lcp
  let mru := be16 (opt.byte 0) (opt.byte 1)
  match mode with
  | .req =>
      if mru < lcpMinMru then fsmNak (opt.overwrite (putBe16 lcpMinMru)) w
      else
        fsmAck opt (w.setLcp { lcp with
          peer_mru := if mru < lcp.peer_mru then mru else lcp.peer_mru })
  | .nak =>
      if mru = lcp.want_mru then w.setLcp (lcp.peerRej opt.type)
      else if lcpMinMru ≤ mru ∧
          (mru ≤ (w.layer.type.map (·.mru)).getD 0 ∨ mru < lcp.want_mru) then
        w.setLcp { lcp with want_mru := mru }
      else w
  | .rej => w.setLcp (lcp.peerRej opt.type)
  | .nop => w

def lcpDecodeAccmap (mode : FsmMode) (opt : FsmOption) (w : FsmWorld Link) : FsmWorld Link :=
  let lcp := w.layer.lcp
  let accm := be32 (opt.byte 0) (opt.byte 1) (opt.byte 2) (opt.byte 3)
  match mode with
  | .req => fsmAck opt (w.setLcp { lcp with peer_accmap := accm })
  | .nak => w.setLcp { lcp with want_accmap := accm }
  | .rej => w.setLcp (lcp.peerRej opt.type)
  | .nop => w

/-- The protocol number and the algorithm of an authentication option. -/
def authOptProto (opt : FsmOption) : UInt16 := be16 (opt.byte 0) (opt.byte 1)
def authOptAlg (opt : FsmOption) : UInt8 := opt.byte 2

/-- The position in `gLcpAuthProtos` of what an authentication option asks for,
after the check of its length. -/
def authOptPos (opt : FsmOption) : Option Nat :=
  let proto := authOptProto opt
  if (proto = protoPap ∧ opt.len ≠ 4) ∨ (proto = protoChap ∧ opt.len ≠ 5) then none
  else lcpFindAuthProto proto (if proto = protoChap then authOptAlg opt else 0)

def lcpDecodeAuthproto (mode : FsmMode) (opt : FsmOption) (w : FsmWorld Link) :
    FsmWorld Link :=
  let lcp := w.layer.lcp
  let options := w.layer.conf.options
  let proto := authOptProto opt
  let protoPos := authOptPos opt
  let authProto := protoPos.bind (gLcpAuthProtos[·]?)
  match mode with
  | .req =>
      if authProto.any fun authProto => options.acceptable authProto.conf then
        fsmAck opt (w.setLcp { lcp with
          peer_auth := proto
          peer_alg := if proto = protoChap then authOptAlg opt else lcp.peer_alg })
      else
        match lcp.peer_protos.findSome? id with
        | some other => fsmNak (lcpAuthProtoNak other) w
        | none => fsmRej opt w
  | .nak =>
      match authProto with
      | none => w
      | some authProto =>
          if options.enabled authProto.conf then
            w.setLcp { lcp with
              want_auth := proto
              want_alg := if proto = protoChap then authOptAlg opt else lcp.want_alg }
          else
            -- `protoPos` counts in `gLcpAuthProtos`, which is ordered differently
            let want_protos := lcp.want_protos.set (protoPos.getD 0) none
            match want_protos.findSome? id with
            | some next =>
                w.setLcp { lcp with want_protos, want_auth := next.proto, want_alg := next.alg }
            | none => w.setLcp { lcp with want_protos }
  | .rej =>
      let lcp := lcp.peerRej opt.type
      if w.layer.originate = .local ∧ options.enabled linkConfNoOrigAuth then
        w.setLcp { lcp with want_auth := 0 }
      else w.setLcp lcp
  | .nop => w

def lcpDecodeMrru (mode : FsmMode) (opt : FsmOption) (w : FsmWorld Link) : FsmWorld Link :=
  let lcp := w.layer.lcp
  let multilink := w.layer.conf.options.enabled linkConfMultilink
  let mrru := be16 (opt.byte 0) (opt.byte 1)
  match mode with
  | .req =>
      if ¬ multilink then fsmRej opt w
      else if mrru < mpMinMrru then fsmNak (opt.overwrite (putBe16 mpMinMrru)) w
      else fsmAck opt (w.setLcp { lcp with peer_mrru := mrru })
  | .nak =>
      let lcp :=
        if lcp.peerRejected opt.type then
          { lcp.peerUnrej opt.type with
            want_mrru := if multilink then w.layer.conf.mrru else lcp.want_mrru }
        else lcp
      if lcp.want_mrru < mrru then w.setLcp lcp
      else w.setLcp { lcp with want_mrru := if mrru < mpMinMrru then mpMinMrru else mrru }
  | .rej => w.setLcp { lcp.peerRej opt.type with want_mrru := 0 }
  | .nop => w

def lcpDecodeShortseq (mode : FsmMode) (opt : FsmOption) (w : FsmWorld Link) : FsmWorld Link :=
  let lcp := w.layer.lcp
  let options := w.layer.conf.options
  match mode with
  | .req =>
      if ¬ options.enabled linkConfMultilink ∨ ¬ options.acceptable linkConfShortseq then
        fsmRej opt w
      else fsmAck opt (w.setLcp { lcp with peer_shortseq := true })
  | .nak =>
      if lcp.peerRejected opt.type then
        w.setLcp { lcp.peerUnrej opt.type with
          want_shortseq :=
            if options.enabled linkConfMultilink then options.enabled linkConfShortseq
            else lcp.want_shortseq }
      else w
  | .rej => w.setLcp { lcp.peerRej opt.type with want_shortseq := false }
  | .nop => w

def lcpDecodeEndpointdisc (mode : FsmMode) (opt : FsmOption) (w : FsmWorld Link) :
    FsmWorld Link :=
  let lcp := w.layer.lcp
  if opt.len < 3 ∨ opt.len > maxDiscrim then lcpRefuse mode opt w
  else
    match mode with
    | .req =>
        fsmAck opt (w.setLcp { lcp with peer_discrim := ⟨opt.byte 0, opt.data.tail⟩ })
    | .nak => w.setLcp (lcp.peerUnrej opt.type)
    | .rej => w.setLcp (lcp.peerRej opt.type)
    | .nop => w

def lcpDecodeMagicnum (mode : FsmMode) (opt : FsmOption) (w : FsmWorld Link) : FsmWorld Link :=
  let lcp := w.layer.lcp
  let magic := be32 (opt.byte 0) (opt.byte 1) (opt.byte 2) (opt.byte 3)
  match mode with
  | .req =>
      if lcp.want_magic = 0 then fsmRej opt w
      else if magic = lcp.want_magic then fsmNak (opt.overwrite (putBe32 (~~~magic))) w
      else fsmAck opt (w.setLcp { lcp with peer_magic := magic })
  | .nak =>
      let drawn := generateMagic w
      drawn.2.setLcp { lcp with want_magic := drawn.1 }
  | .rej => w.setLcp { lcp.peerRej opt.type with want_magic := 0 }
  | .nop => w

def lcpDecodeProtocomp (mode : FsmMode) (opt : FsmOption) (w : FsmWorld Link) :
    FsmWorld Link :=
  let lcp := w.layer.lcp
  match mode with
  | .req =>
      if w.layer.conf.options.acceptable linkConfProtocomp then
        fsmAck opt (w.setLcp { lcp with peer_protocomp := true })
      else fsmRej opt w
  | .nak | .rej => w.setLcp { lcp.peerRej opt.type with want_protocomp := false }
  | .nop => w

def lcpDecodeAcfcomp (mode : FsmMode) (opt : FsmOption) (w : FsmWorld Link) : FsmWorld Link :=
  let lcp := w.layer.lcp
  match mode with
  | .req =>
      if w.layer.conf.options.acceptable linkConfAcfcomp then
        fsmAck opt (w.setLcp { lcp with peer_acfcomp := true })
      else fsmRej opt w
  | .nak | .rej => w.setLcp { lcp.peerRej opt.type with want_acfcomp := false }
  | .nop => w

def lcpDecodeCallback (mode : FsmMode) (opt : FsmOption) (w : FsmWorld Link) : FsmWorld Link :=
  match mode with
  | .req => fsmRej opt w
  | .nak | .rej => w.setLcp { w.layer.lcp.peerRej opt.type with want_callback := false }
  | .nop => w

def lcpDecodeVendor (mode : FsmMode) (opt : FsmOption) (w : FsmWorld Link) : FsmWorld Link :=
  match mode with
  | .req => fsmRej opt w
  | .nak | .rej => w.setLcp (w.layer.lcp.peerRej opt.type)
  | .nop => w

def lcpDecodeSupported (mode : FsmMode) (meaning : LcpOpt) (opt : FsmOption) :
    FsmWorld Link → FsmWorld Link :=
  match meaning with
  | .vendor => lcpDecodeVendor mode opt
  | .mru => lcpDecodeMru mode opt
  | .accmap => lcpDecodeAccmap mode opt
  | .authproto => lcpDecodeAuthproto mode opt
  | .magicnum => lcpDecodeMagicnum mode opt
  | .protocomp => lcpDecodeProtocomp mode opt
  | .acfcomp => lcpDecodeAcfcomp mode opt
  | .callback => lcpDecodeCallback mode opt
  | .mrru => lcpDecodeMrru mode opt
  | .shortseqnum => lcpDecodeShortseq mode opt
  | .endpointdisc => lcpDecodeEndpointdisc mode opt

/-- The meaning of an option that passes the three checks before the `switch`. -/
def FsmOption.meaning? {Meaning : Type} (list : List (FsmOptInfo Meaning)) (opt : FsmOption) :
    Option Meaning :=
  (fsmFindOptInfo list opt.type).bind fun oi =>
    if opt.len < oi.minLen + 2 ∨ opt.len > oi.maxLen + 2 then none else oi.supported

/-- The body of the loop of `LcpDecodeConfig`. -/
def lcpDecodeOption (mode : FsmMode) (opt : FsmOption) (w : FsmWorld Link) : FsmWorld Link :=
  match opt.meaning? gLcpConfOpts with
  | none => lcpRefuse mode opt w
  | some meaning => lcpDecodeSupported mode meaning opt w

/-- How `LcpDecodeConfig` forgets the previous values. The discriminator is not
among them, unless the whole negotiation is reset. -/
def lcpForget (w : FsmWorld Link) : FsmWorld Link :=
  if w.layer.lcp.need_reset then lcpConfigure w
  else
    let lcp := w.layer.lcp
    w.setLcp { lcp with
      toLcpPeer := { lcpPeerDefaults w.layer with peer_discrim := lcp.peer_discrim } }

def lcpDecodeConfig (list : List FsmOption) (mode : FsmMode) (w : FsmWorld Link) :
    FsmWorld Link :=
  let w := if mode = .req then lcpForget w else w
  list.foldl (fun w opt => lcpDecodeOption mode opt w) w

end Mpd
