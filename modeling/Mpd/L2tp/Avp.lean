import Mpd.Bytes

/-! The attribute-value pairs of L2TP control messages, as `l2tp_avp.c` packs and unpacks
them. MD5 is a parameter. -/

set_option autoImplicit false

namespace Mpd

def avpMandatory : UInt16 := 0x8000
def avpHidden : UInt16 := 0x4000
def avpReserved : UInt16 := 0x3c00
def avpLengthMask : UInt16 := 0x03ff
def avpMaxLength : Nat := 1023
def avpMaxVlen : Nat := avpMaxLength - 6

inductive AvpType where
  | messageType | resultCode | protocolVersion | framingCapabilities | bearerCapabilities
  | tieBreaker | firmwareRevision | hostName | vendorName | assignedTunnelId
  | receiveWindowSize | challenge | causeCode | challengeResponse | assignedSessionId
  | callSerialNumber | minimumBps | maximumBps | bearerType | framingType | calledNumber
  | callingNumber | subAddress | txConnectSpeed | physicalChannelId | initialRecvConfreq
  | lastSentConfreq | lastRecvConfreq | proxyAuthenType | proxyAuthenName
  | proxyAuthenChallenge | proxyAuthenId | proxyAuthenResponse | callErrors | accm
  | randomVector | privateGroupId | rxConnectSpeed | sequencingRequired
  deriving DecidableEq, Repr

namespace AvpType

def num : AvpType → UInt16
  | messageType => 0 | resultCode => 1 | protocolVersion => 2 | framingCapabilities => 3
  | bearerCapabilities => 4 | tieBreaker => 5 | firmwareRevision => 6 | hostName => 7
  | vendorName => 8 | assignedTunnelId => 9 | receiveWindowSize => 10 | challenge => 11
  | causeCode => 12 | challengeResponse => 13 | assignedSessionId => 14
  | callSerialNumber => 15 | minimumBps => 16 | maximumBps => 17 | bearerType => 18
  | framingType => 19 | calledNumber => 21 | callingNumber => 22 | subAddress => 23
  | txConnectSpeed => 24 | physicalChannelId => 25 | initialRecvConfreq => 26
  | lastSentConfreq => 27 | lastRecvConfreq => 28 | proxyAuthenType => 29
  | proxyAuthenName => 30 | proxyAuthenChallenge => 31 | proxyAuthenId => 32
  | proxyAuthenResponse => 33 | callErrors => 34 | accm => 35 | randomVector => 36
  | privateGroupId => 37 | rxConnectSpeed => 38 | sequencingRequired => 39

end AvpType

/-- `struct ppp_l2tp_avp_info`. Every row of the table is for vendor 0. -/
structure AvpInfo where
  type : AvpType
  hidden_ok : Bool
  mandatory : Bool
  min_length : Nat
  max_length : Nat
  deriving DecidableEq, Repr

namespace AvpInfo

def vendor (_ : AvpInfo) : UInt16 := 0

end AvpInfo

def pppL2tpAvpInfoList : List AvpInfo :=
  [⟨.messageType, false, true, 2, 2⟩,
    ⟨.randomVector, false, true, 0, avpMaxLength⟩,
    ⟨.resultCode, false, true, 2, avpMaxLength⟩,
    ⟨.protocolVersion, false, true, 2, 2⟩,
    ⟨.framingCapabilities, true, true, 4, 4⟩,
    ⟨.bearerCapabilities, true, true, 4, 4⟩,
    ⟨.tieBreaker, false, false, 8, 8⟩,
    ⟨.firmwareRevision, true, false, 2, 2⟩,
    ⟨.hostName, false, true, 0, avpMaxLength⟩,
    ⟨.vendorName, true, false, 0, avpMaxLength⟩,
    ⟨.assignedTunnelId, true, true, 2, 2⟩,
    ⟨.receiveWindowSize, false, true, 2, 2⟩,
    ⟨.challenge, true, true, 0, avpMaxLength⟩,
    ⟨.challengeResponse, true, true, 16, 16⟩,
    ⟨.causeCode, false, true, 3, avpMaxLength⟩,
    ⟨.assignedSessionId, true, true, 2, 2⟩,
    ⟨.callSerialNumber, true, true, 4, 4⟩,
    ⟨.minimumBps, true, true, 4, 4⟩,
    ⟨.maximumBps, true, true, 4, 4⟩,
    ⟨.bearerType, true, true, 4, 4⟩,
    ⟨.framingType, true, true, 4, 4⟩,
    ⟨.calledNumber, true, true, 0, avpMaxLength⟩,
    ⟨.callingNumber, true, true, 0, avpMaxLength⟩,
    ⟨.subAddress, true, true, 0, avpMaxLength⟩,
    ⟨.txConnectSpeed, true, true, 4, 4⟩,
    ⟨.rxConnectSpeed, true, false, 4, 4⟩,
    ⟨.physicalChannelId, true, false, 4, 4⟩,
    ⟨.privateGroupId, true, false, 0, avpMaxLength⟩,
    ⟨.sequencingRequired, false, true, 0, 0⟩,
    ⟨.initialRecvConfreq, true, false, 0, avpMaxLength⟩,
    ⟨.lastSentConfreq, true, false, 0, avpMaxLength⟩,
    ⟨.lastRecvConfreq, true, false, 0, avpMaxLength⟩,
    ⟨.proxyAuthenType, true, false, 2, 2⟩,
    ⟨.proxyAuthenName, true, false, 0, avpMaxLength⟩,
    ⟨.proxyAuthenChallenge, true, false, 0, avpMaxLength⟩,
    ⟨.proxyAuthenId, true, false, 2, 2⟩,
    ⟨.proxyAuthenResponse, true, false, 0, avpMaxLength⟩,
    ⟨.callErrors, true, true, 26, 26⟩,
    ⟨.accm, true, true, 10, 10⟩]

/-- `struct ppp_l2tp_avp`, less the length that goes with the value. -/
structure Avp where
  mandatory : Bool
  vendor : UInt16
  type : UInt16
  value : Bytes
  deriving DecidableEq, Repr

namespace Avp

def vlen (avp : Avp) : Nat := avp.value.length

end Avp

def avpDescriptor (info : List AvpInfo) (vendor type : UInt16) : Option AvpInfo :=
  info.find? fun desc => desc.vendor = vendor && desc.type.num = type

abbrev Md5 : Type := Bytes → Vector UInt8 16

/-- A block of at most sixteen bytes with a hash over it. -/
def xorHash (hash : Vector UInt8 16) (block : Bytes) : Bytes :=
  block.zipWith (· ^^^ ·) hash.toList

def avpFirstHash (md5 : Md5) (type : UInt16) (secret randvec : Bytes) : Vector UInt8 16 :=
  md5 (putBe16 type ++ secret ++ randvec)

/-- The loop of `ppp_l2tp_avp_pack` that hides a value and its length. -/
def avpHideBlocks (md5 : Md5) (secret : Bytes) : Nat → Vector UInt8 16 → Bytes → Bytes
  | 0, _, _ => []
  | blocks + 1, hash, value =>
      let block := xorHash hash (value.take 16)
      block ++ avpHideBlocks md5 secret blocks (md5 (secret ++ block)) (value.drop 16)

/-- The loop of `ppp_l2tp_avp_unpack` that finds a hidden value of `limit` bytes again. The
next hash is taken of sixteen bytes of `data`, whether the value goes on so far or not. -/
def avpUnhideBlocks (md5 : Md5) (secret : Bytes) : Nat → Vector UInt8 16 → Nat → Bytes → Bytes
  | 0, _, _, _ => []
  | blocks + 1, hash, limit, data =>
      xorHash hash (data.take (min 16 limit)) ++
        avpUnhideBlocks md5 secret blocks (md5 (secret ++ data.take 16)) (limit - 16) (data.drop 16)

/-- The flag bits of a header. -/
def avpFlags (mandatory hidden : Bool) : UInt16 :=
  (if mandatory then avpMandatory else 0) ||| (if hidden then avpHidden else 0)

/-- The six bytes before a value. -/
def avpHeader (flags vendor type : UInt16) : Bytes := putBe16 flags ++ putBe16 vendor ++ putBe16 type

def avpRandomVector (randvec : Vector UInt8 4) : Bytes :=
  avpHeader (avpFlags true false ||| UInt16.ofNat (4 + 6)) 0 AvpType.randomVector.num ++
    randvec.toList

/-- What `ppp_l2tp_avp_pack` writes of an AVP and its length. Hiding does not write the
padding, which is what was in the buffer before. -/
def avpPackAvp (md5 : Md5) (secret : Option Bytes) (randvec : Vector UInt8 4) (hidden_ok : Bool)
    (avp : Avp) (old : Nat → UInt8) : Bytes :=
  let vlen := avp.vlen
  match secret, hidden_ok with
  | some secret, true =>
      let pad := 7 - vlen % 8
      let hidden := putBe16 (UInt16.ofNat vlen) ++ avp.value
      avpHeader (avpFlags avp.mandatory true ||| UInt16.ofNat (6 + 2 + vlen + pad)) avp.vendor
          avp.type ++
        avpHideBlocks md5 secret ((2 + vlen - 1) / 16 + 1)
          (avpFirstHash md5 avp.type secret randvec.toList) hidden ++
        (List.range pad).map old
  | _, _ =>
      avpHeader (avpFlags avp.mandatory false ||| UInt16.ofNat (6 + vlen)) avp.vendor avp.type ++
        avp.value

/-- The number of bytes by which `ppp_l2tp_avp_pack` goes on for an AVP. -/
def avpPackLen (hide : Bool) (avp : Avp) : Nat :=
  if hide then 6 + (2 + avp.vlen + (7 - avp.vlen % 8)) else 6 + avp.vlen

/-- `ppp_l2tp_avp_pack` from an AVP on, with the length so far. Without a buffer it only
counts; a buffer is given by what is in it before. -/
def avpPackFrom (md5 : Md5) (info : List AvpInfo) (secret : Option Bytes)
    (randvec : Vector UInt8 4) (buf : Option (Nat → UInt8)) :
    (randsent : Bool) → Nat → List Avp → Option (Nat × Bytes)
  | _, len, [] => some (len, [])
  | randsent, len, avp :: list =>
      match avpDescriptor info avp.vendor avp.type with
      | none => none
      | some desc =>
          if avp.vlen < desc.min_length ∨ avp.vlen > desc.max_length ∨ avp.vlen > avpMaxVlen then
            none
          else
            let hide := secret.isSome && desc.hidden_ok
            let vector := if hide && !randsent then avpRandomVector randvec else []
            let start := len + vector.length
            let packed := buf.map fun old =>
              vector ++ avpPackAvp md5 secret randvec desc.hidden_ok avp fun k =>
                old (start + (6 + 2 + avp.vlen) + k)
            (avpPackFrom md5 info secret randvec buf (randsent || hide)
              (start + avpPackLen hide avp) list).map fun rest =>
                (rest.1, packed.getD [] ++ rest.2)

def avpPack (md5 : Md5) (info : List AvpInfo) (secret : Option Bytes) (randvec : Vector UInt8 4)
    (buf : Option (Nat → UInt8)) (list : List Avp) : Option (Nat × Bytes) :=
  avpPackFrom md5 info secret randvec buf false 0 list

inductive AvpError where
  | eilseq | enosys | eauth
  deriving DecidableEq, Repr

/-- What the loop of `ppp_l2tp_avp_unpack` makes of an AVP. -/
inductive AvpItem where
  | skip
  | randomVector (value : Bytes)
  | avp (avp : Avp)
  deriving DecidableEq, Repr

def avpUnhide (md5 : Md5) (secret : Option Bytes) (randvec : Option Bytes)
    (flags vendor type : UInt16) (alen : Nat) (data : Bytes) : Except AvpError AvpItem :=
  match randvec, secret with
  | none, _ => .error .eilseq
  | some _, none => .error .eauth
  | some randvec, some secret =>
      let plain := avpUnhideBlocks md5 secret ((2 + alen - 1) / 16 + 1)
        (avpFirstHash md5 type secret randvec) (alen - 6) (data.drop 6)
      let plain := plain ++ data.drop alen
      let olen := (be16 (plain.getD 0 0) (plain.getD 1 0) + 6).toNat
      if olen < 6 ∨ olen > alen - 2 then .error .eilseq
      else .ok (.avp ⟨flags &&& avpMandatory ≠ 0, vendor, type, (plain.drop 2).take (olen - 6)⟩)

/-- The body of the loop of `ppp_l2tp_avp_unpack` once the length has been checked. -/
def avpUnpackItem (md5 : Md5) (info : List AvpInfo) (secret randvec : Option Bytes)
    (flags vendor type : UInt16) (alen : Nat) (data : Bytes) : Except AvpError AvpItem :=
  match if flags &&& avpReserved ≠ 0 then none else avpDescriptor info vendor type with
  | none => if flags &&& avpMandatory ≠ 0 then .error .enosys else .ok .skip
  | some _ =>
      let value := (data.drop 6).take (alen - 6)
      if vendor = 0 ∧ type = AvpType.randomVector.num then .ok (.randomVector value)
      else if flags &&& avpHidden ≠ 0 then
        avpUnhide md5 secret randvec flags vendor type alen data
      else .ok (.avp ⟨flags &&& avpMandatory ≠ 0, vendor, type, value⟩)

/-- The body of the loop of `ppp_l2tp_avp_unpack`, with the length of the AVP. -/
def avpUnpackOne (md5 : Md5) (info : List AvpInfo) (secret randvec : Option Bytes)
    (data : Bytes) : Except AvpError (AvpItem × Nat) :=
  match data with
  | a :: b :: c :: d :: e :: f :: _ =>
      let alen := (be16 a b &&& avpLengthMask).toNat
      if alen < 6 ∨ alen > data.length then .error .eilseq
      else
        (avpUnpackItem md5 info secret randvec (be16 a b) (be16 c d) (be16 e f) alen data).map
          fun item => (item, alen)
  | _ => .error .eilseq

theorem alen_of_avpUnpackOne {md5 : Md5} {info : List AvpInfo} {secret randvec : Option Bytes}
    {data : Bytes} {item : AvpItem} {alen : Nat}
    (unpacked : avpUnpackOne md5 info secret randvec data = .ok (item, alen)) :
    6 ≤ alen ∧ alen ≤ data.length := by
  unfold avpUnpackOne at unpacked
  split at unpacked
  · rename_i a b c d e f value
    dsimp only at unpacked
    split_ifs at unpacked with bogus
    generalize avpUnpackItem md5 info secret randvec (be16 a b) (be16 c d) (be16 e f) _ _ =
      found at unpacked
    cases found with
    | error errno => exact nomatch unpacked
    | ok found =>
        have same : (found, (be16 a b &&& avpLengthMask).toNat) = (item, alen) :=
          Except.ok.inj unpacked
        rw [← (Prod.mk.inj same).2]
        omega
  · exact nomatch unpacked

/-- The loop of `ppp_l2tp_avp_unpack`. -/
def avpUnpackFrom (md5 : Md5) (info : List AvpInfo) (secret randvec : Option Bytes)
    (data : Bytes) : Except AvpError (List Avp) :=
  if data.length = 0 then .ok []
  else
    match _ : avpUnpackOne md5 info secret randvec data with
    | .error errno => .error errno
    | .ok (.skip, alen) => avpUnpackFrom md5 info secret randvec (data.drop alen)
    | .ok (.randomVector value, alen) =>
        avpUnpackFrom md5 info secret (some value) (data.drop alen)
    | .ok (.avp avp, alen) =>
        (avpUnpackFrom md5 info secret randvec (data.drop alen)).map (avp :: ·)
  termination_by data.length
  decreasing_by
    all_goals
      have sized := alen_of_avpUnpackOne ‹_›
      rw [List.length_drop]
      omega

def avpUnpack (md5 : Md5) (info : List AvpInfo) (secret : Option Bytes) (data : Bytes) :
    Except AvpError (List Avp) :=
  avpUnpackFrom md5 info secret none data

end Mpd
