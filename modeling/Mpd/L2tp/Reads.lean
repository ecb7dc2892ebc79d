import Mpd.L2tp.Lifetime
import Mpd.L2tp.Pointers
import Mpd.L2tp.Quiet

/-! Which bytes are read of a received control message. The parser is given once more with every
read of the buffer checked against the AVP that it is for. -/

set_option autoImplicit false

namespace Mpd

open Outcome L2tpBook L2tpWorld

def avpRead (alen : Nat) (data : Bytes) (offset count : Nat) : Except L2tpFault Bytes :=
  if offset + count ≤ alen then .ok ((data.drop offset).take count) else .error .absentByte

def avpUnhideBlocksRead (md5 : Md5) (secret : Bytes) :
    Nat → Vector UInt8 16 → Nat → Bytes → Except L2tpFault Bytes
  | 0, _, _, _ => .ok []
  | blocks + 1, hash, limit, data => do
      let next ← avpRead limit data 0 16
      let block ← avpRead limit data 0 (min 16 limit)
      let rest ← avpUnhideBlocksRead md5 secret blocks (md5 (secret ++ next)) (limit - 16)
        (data.drop 16)
      pure (xorHash hash block ++ rest)

def avpUnhideRead (md5 : Md5) (secret : Option Bytes) (randvec : Option Bytes)
    (flags vendor type : UInt16) (alen : Nat) (data : Bytes) :
    Except L2tpFault (Except AvpError AvpItem) :=
  match randvec, secret with
  | none, _ => .ok (.error .eilseq)
  | some _, none => .ok (.error .eauth)
  | some randvec, some secret => do
      let plain ← avpUnhideBlocksRead md5 secret ((2 + alen - 1) / 16 + 1)
        (avpFirstHash md5 type secret randvec) (alen - 6) (data.drop 6)
      let plain := plain ++ data.drop alen
      let length ← avpRead alen (data.take 6 ++ plain) 6 2
      let olen := (be16 (length.getD 0 0) (length.getD 1 0) + 6).toNat
      if olen < 6 ∨ olen > alen - 2 then pure (.error .eilseq)
      else
        let value ← avpRead alen (data.take 6 ++ plain) 8 (olen - 6)
        pure (.ok (.avp ⟨flags &&& avpMandatory ≠ 0, vendor, type, value⟩))

def avpUnpackItemRead (md5 : Md5) (info : List AvpInfo) (secret randvec : Option Bytes)
    (flags vendor type : UInt16) (alen : Nat) (data : Bytes) :
    Except L2tpFault (Except AvpError AvpItem) :=
  match if flags &&& avpReserved ≠ 0 then none else avpDescriptor info vendor type with
  | none => .ok (if flags &&& avpMandatory ≠ 0 then .error .enosys else .ok .skip)
  | some _ =>
      if vendor = 0 ∧ type = AvpType.randomVector.num then do
        let value ← avpRead alen data 6 (alen - 6)
        pure (.ok (.randomVector value))
      else if flags &&& avpHidden ≠ 0 then
        avpUnhideRead md5 secret randvec flags vendor type alen data
      else do
        let value ← avpRead alen data 6 (alen - 6)
        pure (.ok (.avp ⟨flags &&& avpMandatory ≠ 0, vendor, type, value⟩))

/-- `avpUnpackOne` with its reads. The six bytes of the header are there when they are read. -/
def avpUnpackOneRead (md5 : Md5) (info : List AvpInfo) (secret randvec : Option Bytes)
    (data : Bytes) : Except L2tpFault (Except AvpError (AvpItem × Nat)) :=
  match data with
  | a :: b :: c :: d :: e :: f :: _ =>
      let alen := (be16 a b &&& avpLengthMask).toNat
      if alen < 6 ∨ alen > data.length then .ok (.error .eilseq)
      else
        (avpUnpackItemRead md5 info secret randvec (be16 a b) (be16 c d) (be16 e f) alen data).map
          fun item => item.map fun item => (item, alen)
  | _ => .ok (.error .eilseq)

section Parser

variable {md5 : Md5} {info : List AvpInfo} {secret randvec : Option Bytes}

theorem avpRead_ok {alen offset count : Nat} (within : offset + count ≤ alen) (data : Bytes) :
    avpRead alen data offset count = .ok ((data.drop offset).take count) :=
  if_pos within

theorem avpUnhideBlocksRead_fault {blocks limit : Nat} (hash : Vector UInt8 16) (data : Bytes)
    {secret : Bytes} (short : limit < 16 * blocks) :
    avpUnhideBlocksRead md5 secret blocks hash limit data = .error .absentByte := by
  induction blocks generalizing hash limit data with
  | zero => exact nomatch short
  | succ blocks ih =>
      unfold avpUnhideBlocksRead
      by_cases past : limit < 16
      · rw [avpRead, if_neg (by omega)]
        rfl
      · rw [avpRead_ok (by omega), avpRead_ok (by omega)]
        dsimp only [bind, Except.bind]
        rw [ih _ _ (by omega)]

/-- Sixteen bytes are hashed for each block, whether the value has them or not, so that the last
block is never there. -/
theorem avpUnhideRead_fault (vector : Bytes) (key : Bytes) (flags vendor type : UInt16) {alen : Nat}
    (data : Bytes) :
    avpUnhideRead md5 (some key) (some vector) flags vendor type alen data =
      .error .absentByte := by
  unfold avpUnhideRead
  dsimp only
  rw [avpUnhideBlocksRead_fault _ _ (by omega)]
  rfl

/-- The AVP at the start is one that the parser finds the value of again. -/
def AvpUnhidden (info : List AvpInfo) (secret randvec : Option Bytes) : Bytes → Prop
  | data@(a :: b :: c :: d :: e :: f :: _) =>
      6 ≤ (be16 a b &&& avpLengthMask).toNat ∧
        (be16 a b &&& avpLengthMask).toNat ≤ data.length ∧ be16 a b &&& avpReserved = 0 ∧
        (avpDescriptor info (be16 c d) (be16 e f)).isSome = true ∧
        ¬(be16 c d = 0 ∧ be16 e f = AvpType.randomVector.num) ∧
        be16 a b &&& avpHidden ≠ 0 ∧ randvec.isSome = true ∧ secret.isSome = true
  | _ => False

theorem avpUnpackOneRead_fault {data : Bytes} (unhidden : AvpUnhidden info secret randvec data) :
    avpUnpackOneRead md5 info secret randvec data = .error .absentByte := by
  unfold AvpUnhidden at unhidden
  split at unhidden
  case h_2 => exact unhidden.elim
  rename_i a b c d e f rest
  obtain ⟨least, most, unreserved, known, other, hidden, vector, key⟩ := unhidden
  obtain ⟨vector, rfl⟩ := Option.isSome_iff_exists.mp vector
  obtain ⟨key, rfl⟩ := Option.isSome_iff_exists.mp key
  obtain ⟨desc, described⟩ := Option.isSome_iff_exists.mp known
  unfold avpUnpackOneRead
  dsimp only
  rw [if_neg (by omega), avpUnpackItemRead, if_neg (not_not.mpr unreserved), described]
  dsimp only
  rw [if_neg other, if_pos hidden, avpUnhideRead_fault]
  rfl

/-- Where no value is hidden the reads are all of the AVP. -/
theorem avpUnpackOneRead_ok {data : Bytes} (plain : ¬ AvpUnhidden info secret randvec data) :
    avpUnpackOneRead md5 info secret randvec data =
      .ok (avpUnpackOne md5 info secret randvec data) := by
  unfold avpUnpackOneRead avpUnpackOne
  match data, plain with
  | [], _ | [_], _ | [_, _], _ | [_, _, _], _ | [_, _, _, _], _ | [_, _, _, _, _], _ => rfl
  | a :: b :: c :: d :: e :: f :: rest, plain =>
      dsimp only
      by_cases bogus : (be16 a b &&& avpLengthMask).toNat < 6 ∨
          (be16 a b &&& avpLengthMask).toNat > (a :: b :: c :: d :: e :: f :: rest).length
      · rw [if_pos bogus, if_pos bogus]
      rw [if_neg bogus, if_neg bogus]
      have within : 6 + ((be16 a b &&& avpLengthMask).toNat - 6) ≤
          (be16 a b &&& avpLengthMask).toNat := by omega
      unfold avpUnpackItemRead avpUnpackItem
      generalize described : (if be16 a b &&& avpReserved ≠ 0 then none
        else avpDescriptor info (be16 c d) (be16 e f)) = desc
      cases desc with
      | none => rfl
      | some desc =>
          dsimp only
          by_cases isVector : be16 c d = 0 ∧ be16 e f = AvpType.randomVector.num
          · rw [if_pos isVector, if_pos isVector, avpRead_ok within]
            rfl
          rw [if_neg isVector, if_neg isVector]
          by_cases hidden : be16 a b &&& avpHidden ≠ 0
          case neg =>
            rw [if_neg hidden, if_neg hidden, avpRead_ok within]
            rfl
          rw [if_pos hidden, if_pos hidden]
          unfold avpUnhideRead avpUnhide
          cases randvec with
          | none => rfl
          | some vector =>
              cases secret with
              | none => rfl
              | some key =>
                  refine absurd ?_ plain
                  split_ifs at described with reserved
                  exact ⟨by omega, by omega, not_not.mp reserved, by rw [described]; rfl, isVector,
                    hidden, rfl, rfl⟩

theorem alen_of_avpUnpackOneRead {data : Bytes} {item : AvpItem} {alen : Nat}
    (unpacked : avpUnpackOneRead md5 info secret randvec data = .ok (.ok (item, alen))) :
    6 ≤ alen ∧ alen ≤ data.length := by
  by_cases unhidden : AvpUnhidden info secret randvec data
  · rw [avpUnpackOneRead_fault unhidden] at unpacked
    exact nomatch unpacked
  · rw [avpUnpackOneRead_ok unhidden] at unpacked
    exact alen_of_avpUnpackOne (Except.ok.inj unpacked)

def avpUnpackRead (md5 : Md5) (info : List AvpInfo) (secret randvec : Option Bytes)
    (data : Bytes) : Except L2tpFault (Except AvpError (List Avp)) :=
  if data.length = 0 then .ok (.ok [])
  else
    match _ : avpUnpackOneRead md5 info secret randvec data with
    | .error fault => .error fault
    | .ok (.error errno) => .ok (.error errno)
    | .ok (.ok (.skip, alen)) => avpUnpackRead md5 info secret randvec (data.drop alen)
    | .ok (.ok (.randomVector value, alen)) =>
        avpUnpackRead md5 info secret (some value) (data.drop alen)
    | .ok (.ok (.avp avp, alen)) =>
        (avpUnpackRead md5 info secret randvec (data.drop alen)).map fun list =>
          list.map (avp :: ·)
  termination_by data.length
  decreasing_by
    all_goals
      have sized := alen_of_avpUnpackOneRead ‹_›
      rw [List.length_drop]
      omega

def AvpItem.vector (randvec : Option Bytes) : AvpItem → Option Bytes
  | .randomVector value => some value
  | _ => randvec

/-- The parser comes to an AVP that it finds the value of again. -/
inductive AvpHiddenAhead (md5 : Md5) (info : List AvpInfo) (secret : Option Bytes) :
    Option Bytes → Bytes → Prop
  | here {randvec : Option Bytes} {data : Bytes} :
      AvpUnhidden info secret randvec data → AvpHiddenAhead md5 info secret randvec data
  | next {randvec : Option Bytes} {data : Bytes} {item : AvpItem} {alen : Nat} :
      avpUnpackOne md5 info secret randvec data = .ok (item, alen) →
      AvpHiddenAhead md5 info secret (item.vector randvec) (data.drop alen) →
      AvpHiddenAhead md5 info secret randvec data

def AvpItem.avps : AvpItem → List Avp
  | .avp one => [one]
  | _ => []

theorem avpUnpackFrom_item {data : Bytes} {item : AvpItem} {alen : Nat}
    (found : avpUnpackOne md5 info secret randvec data = .ok (item, alen)) :
    avpUnpackFrom md5 info secret randvec data =
      (avpUnpackFrom md5 info secret (item.vector randvec) (data.drop alen)).map
        (item.avps ++ ·) := by
  have sized := alen_of_avpUnpackOne found
  rw [avpUnpackFrom, if_neg (by omega)]
  cases item with
  | skip =>
      split <;> rename_i other <;> cases found.symm.trans other
      dsimp only [AvpItem.vector]
      cases avpUnpackFrom md5 info secret randvec (data.drop alen) <;> rfl
  | randomVector value =>
      split <;> rename_i other <;> cases found.symm.trans other
      dsimp only [AvpItem.vector]
      cases avpUnpackFrom md5 info secret (some value) (data.drop alen) <;> rfl
  | avp avp =>
      split <;> rename_i other <;> cases found.symm.trans other
      rfl

theorem avpUnpackRead_item {data : Bytes} {item : AvpItem} {alen : Nat}
    (found : avpUnpackOneRead md5 info secret randvec data = .ok (.ok (item, alen))) :
    avpUnpackRead md5 info secret randvec data =
      (avpUnpackRead md5 info secret (item.vector randvec) (data.drop alen)).map fun list =>
        list.map (item.avps ++ ·) := by
  have sized := alen_of_avpUnpackOneRead found
  have same : ∀ read : Except L2tpFault (Except AvpError (List Avp)),
      read = read.map fun list => list.map ([] ++ ·) := by
    intro read
    cases read with
    | error fault => rfl
    | ok list => cases list <;> rfl
  rw [avpUnpackRead, if_neg (by omega)]
  cases item with
  | skip =>
      split <;> rename_i other <;> cases found.symm.trans other
      exact same _
  | randomVector value =>
      split <;> rename_i other <;> cases found.symm.trans other
      exact same _
  | avp avp =>
      split <;> rename_i other <;> cases found.symm.trans other
      rfl

theorem not_avpHiddenAhead_nil : ¬ AvpHiddenAhead md5 info secret randvec [] := by
  intro ahead
  cases ahead with
  | here unhidden => exact unhidden
  | next unpacked => exact nomatch unpacked

/-- Without a secret no hidden value is found again. -/
theorem not_avpHiddenAhead_of_noSecret {data : Bytes} :
    ¬ AvpHiddenAhead md5 info none randvec data := by
  intro ahead
  induction ahead with
  | @here randvec data unhidden =>
      unfold AvpUnhidden at unhidden
      split at unhidden
      · exact nomatch unhidden.2.2.2.2.2.2.2
      · exact unhidden
  | next _ _ ih => exact ih

/-- The parser reads a byte that is not of the AVP exactly when it finds a hidden value again. -/
theorem avpUnpackRead_eq (randvec : Option Bytes) (data : Bytes) :
    (AvpHiddenAhead md5 info secret randvec data →
        avpUnpackRead md5 info secret randvec data = .error .absentByte) ∧
      (¬ AvpHiddenAhead md5 info secret randvec data →
        avpUnpackRead md5 info secret randvec data =
          .ok (avpUnpackFrom md5 info secret randvec data)) := by
  induction size : data.length using Nat.strongRecOn generalizing randvec data with
  | _ size ih =>
    by_cases empty : data.length = 0
    · cases List.eq_nil_of_length_eq_zero empty
      refine ⟨fun ahead => absurd ahead not_avpHiddenAhead_nil, fun _ => ?_⟩
      rw [avpUnpackRead, avpUnpackFrom]
      rfl
    by_cases unhidden : AvpUnhidden info secret randvec data
    · refine ⟨fun _ => ?_, fun plain => absurd (.here unhidden) plain⟩
      rw [avpUnpackRead, if_neg empty]
      split <;> rename_i found <;> cases (avpUnpackOneRead_fault unhidden).symm.trans found
      rfl
    have read := @avpUnpackOneRead_ok md5 _ _ _ _ unhidden
    cases one : avpUnpackOne md5 info secret randvec data with
    | error errno =>
        rw [one] at read
        constructor
        · intro ahead
          cases ahead with
          | here here => exact absurd here unhidden
          | next unpacked => cases one.symm.trans unpacked
        · intro _
          rw [avpUnpackRead, if_neg empty, avpUnpackFrom, if_neg empty]
          split <;> rename_i found <;> cases read.symm.trans found
          split <;> rename_i other <;> cases one.symm.trans other
          rfl
    | ok found =>
        obtain ⟨item, alen⟩ := found
        rw [one] at read
        have sized := alen_of_avpUnpackOne one
        have rest := ih (data.drop alen).length (by rw [List.length_drop]; omega)
          (item.vector randvec) (data.drop alen) rfl
        rw [avpUnpackRead_item read, avpUnpackFrom_item one]
        constructor
        · intro ahead
          cases ahead with
          | here here => exact absurd here unhidden
          | next unpacked ahead =>
              cases one.symm.trans unpacked
              rw [rest.1 ahead]
              rfl
        · intro plain
          rw [rest.2 fun ahead => plain (.next one ahead)]
          rfl

end Parser

/-- A message that is handed to a handler. -/
def L2tpWellFormed (avps : List Avp) : Prop :=
  ∃ first, avps.head? = some first ∧ first.type = AvpType.messageType.num ∧
    ∃ info ∈ l2tpMsgInfo, avpWord16 first 0 = .ok info.type.num ∧
      ∀ type ∈ info.req_avps, ∃ avp ∈ avps, avp.type = type.num

/-- Of a message nothing is read that is absent: the parser reads no byte that is not of the AVP,
and after it no byte, pointer or table entry that is not there is used. The search for a free
session id is all that can keep the message from being handled. A message that is not well
formed closes the tunnel or is ignored. -/
structure ReadsPresent (env : L2tpEnv) (w : L2tpWorld) (buf : Bytes) : Prop where
  parser : ∃ unpacked, avpUnpackRead env.md5 pppL2tpAvpInfoList w.ctrl.secret none
    ((buf.take 4096).drop 2) = .ok unpacked
  handler : ∀ fault, l2tpStep env w (.received (some buf)) = .error fault → fault = .endless
  refused : ∀ after, l2tpStep env w (.received (some buf)) = .ok after →
    (¬ ∃ avps, avpUnpack env.md5 pppL2tpAvpInfoList w.ctrl.secret ((buf.take 4096).drop 2) =
      .ok avps ∧ L2tpWellFormed avps) →
    after.ctrl.state = .dying ∨ after = w.setCtrl fun ctrl => { ctrl with idle_timer := true }

/-- A message with a session id and without a value that the parser must find again, whose
Message-Type has a value, and whose message types have names in the debug log. -/
structure L2tpReadable (env : L2tpEnv) (w : L2tpWorld) (buf : Bytes) : Prop where
  session_id : 2 ≤ buf.length
  shown : ¬ AvpHiddenAhead env.md5 pppL2tpAvpInfoList w.ctrl.secret none
    ((buf.take 4096).drop 2)
  messageType : ∀ first rest,
    avpUnpack env.md5 pppL2tpAvpInfoList w.ctrl.secret ((buf.take 4096).drop 2) =
        .ok (first :: rest) →
      first.type = AvpType.messageType.num → 2 ≤ first.vlen
  named : ∀ avps,
    avpUnpack env.md5 pppL2tpAvpInfoList w.ctrl.secret ((buf.take 4096).drop 2) = .ok avps →
      l2tpDumpSafe env avps

section Message

variable (env : L2tpEnv) {w : L2tpWorld}

theorem avpDecodeMessageType_error {avp : Avp} {fault : L2tpFault}
    (failed : avpDecodeMessageType avp = .error fault) : fault = .tableIndex := by
  by_cases last : avpStore16 avp 0 = .ok 17
  · rw [avpDecodeMessageType_fault last] at failed
    exact (Except.error.inj failed).symm
  · obtain ⟨name, decoded⟩ := avpDecodeMessageType_ok last
    exact nomatch decoded.symm.trans failed

theorem l2tpCtrlDump_error {avps : List Avp} {fault : L2tpFault}
    (failed : l2tpCtrlDump env avps = .error fault) : fault = .tableIndex := by
  unfold l2tpCtrlDump at failed
  split at failed
  · exact nomatch failed
  generalize avps.filter _ = looked at failed
  induction looked with
  | nil => exact nomatch failed
  | cons avp looked ih =>
      rw [List.mapM_cons] at failed
      cases decoded : avpDecodeMessageType avp with
      | error other =>
          rw [decoded] at failed
          cases Except.error.inj failed
          exact avpDecodeMessageType_error decoded
      | ok name =>
          rw [decoded] at failed
          cases rest : looked.mapM avpDecodeMessageType with
          | error other =>
              rw [rest] at failed ih
              cases Except.error.inj failed
              exact ih rfl
          | ok names =>
              rw [rest] at failed
              exact nomatch failed

theorem avpWord16_fault {avp : Avp} (short : avp.vlen < 2) :
    avpWord16 avp 0 = .error .absentByte := by
  unfold avpWord16 avpByte
  unfold Avp.vlen at short
  cases first : avp.value[0]? with
  | none => rfl
  | some byte =>
      rw [List.getElem?_eq_none (i := 0 + 1) (by omega)]
      rfl

theorem reads_message (session_id : UInt16) {avps : List Avp}
    (known : ∀ avp ∈ avps, avp.Known pppL2tpAvpInfoList)
    (sized : ∀ first rest, avps = first :: rest → first.type = AvpType.messageType.num →
      2 ≤ first.vlen) :
    Ends NoRead (fun _ => True) (l2tpMessage env w session_id avps) := by
  cases avps with
  | nil => trivial
  | cons first rest =>
      unfold l2tpMessage
      dsimp only
      split
      · trivial
      rename_i isType
      have isType := not_not.mp isType
      obtain ⟨msgtype, word⟩ := avpWord16_ok first 0 (sized first rest rfl isType)
      rw [word]
      dsimp only [bind, Except.bind]
      split
      · rename_i info found
        exact reads_knownMessage env w session_id (List.mem_of_find?_eq_some found) known
          ⟨first, List.mem_cons_self .., isType⟩
      · split <;> trivial

/-- A message that is not well formed closes the tunnel or is ignored. -/
theorem refused_message {session_id : UInt16} {avps : List Avp} {after : L2tpWorld}
    (done : l2tpMessage env w session_id avps = .ok after) (refused : ¬ L2tpWellFormed avps) :
    after.ctrl.state = .dying ∨ after = w := by
  cases avps with
  | nil =>
      cases Except.ok.inj done
      exact Or.inl (ctrlClose_dying env _ _ _ _)
  | cons first rest =>
      unfold l2tpMessage at done
      dsimp only at done
      split at done
      · cases Except.ok.inj done
        exact Or.inl (ctrlClose_dying env _ _ _ _)
      rename_i isType
      cases word : avpWord16 first 0 with
      | error fault => rw [word] at done; cases done
      | ok msgtype =>
          rw [word] at done
          dsimp only [bind, Except.bind] at done
          split at done
          · rename_i info found
            unfold l2tpKnownMessage at done
            split at done
            · cases Except.ok.inj done
              exact Or.inl (ctrlClose_dying env _ _ _ _)
            rename_i carries
            refine absurd ⟨first, rfl, not_not.mp isType, info, List.mem_of_find?_eq_some found,
              ?_, fun type required => ?_⟩ refused
            · have number : info.type.num = msgtype := by simpa using List.find?_some found
              rw [word, number]
            · have present := List.find?_eq_none.mp carries type required
              simp only [List.all_eq_true, decide_eq_true_eq, not_forall, not_not] at present
              obtain ⟨avp, member, its⟩ := present
              exact ⟨avp, member, its⟩
          · split at done
            · cases Except.ok.inj done
              exact Or.inl (ctrlClose_dying env _ _ _ _)
            · exact Or.inr (Except.ok.inj done).symm

theorem step_received (here : w.gone = false) (buf : Bytes) :
    l2tpStep env w (.received (some buf)) =
      l2tpPacket env (w.setCtrl fun ctrl => { ctrl with idle_timer := true })
        (buf.take 4096) := by
  unfold l2tpStep l2tpDataEvent
  rw [if_neg (by rw [here]; exact Bool.false_ne_true)]

/-- What follows once the AVPs are unpacked. -/
theorem step_unpacked (here : w.gone = false) {buf : Bytes} (sized : 2 ≤ buf.length)
    {avps : List Avp}
    (unpacked : avpUnpack env.md5 pppL2tpAvpInfoList w.ctrl.secret ((buf.take 4096).drop 2) =
      .ok avps) :
    ∃ session_id, l2tpStep env w (.received (some buf)) =
      (l2tpCtrlDump env avps >>= fun _ =>
        l2tpMessage env (w.setCtrl fun ctrl => { ctrl with idle_timer := true }) session_id
          avps) := by
  rw [step_received env here]
  cases taken : buf.take 4096 with
  | nil =>
      have length := congrArg List.length taken
      rw [List.length_take, List.length_nil] at length
      omega
  | cons a others =>
      cases others with
      | nil =>
          have length := congrArg List.length taken
          rw [List.length_take, List.length_singleton] at length
          omega
      | cons b data =>
          rw [taken] at unpacked
          change avpUnpack env.md5 pppL2tpAvpInfoList
            (w.setCtrl fun ctrl => { ctrl with idle_timer := true }).ctrl.secret data = _
            at unpacked
          unfold l2tpPacket
          dsimp only
          rw [unpacked]
          exact ⟨be16 a b, rfl⟩

/-- A message that cannot be unpacked closes the tunnel. -/
theorem step_not_unpacked (here : w.gone = false) {buf : Bytes} {errno : AvpError}
    (failed : avpUnpack env.md5 pppL2tpAvpInfoList w.ctrl.secret ((buf.take 4096).drop 2) =
      .error errno) :
    l2tpStep env w (.received (some buf)) = .error .absentByte ∧ buf.length < 2 ∨
      ∃ after, l2tpStep env w (.received (some buf)) = .ok after ∧ after.ctrl.state = .dying := by
  rw [step_received env here]
  cases taken : buf.take 4096 with
  | nil =>
      rw [taken] at failed
      rw [List.drop_nil, avpUnpack, avpUnpackFrom] at failed
      cases failed
  | cons a others =>
      cases others with
      | nil =>
          rw [taken, List.drop_succ_cons, List.drop_nil, avpUnpack, avpUnpackFrom] at failed
          cases failed
      | cons b data =>
          rw [taken] at failed
          change avpUnpack env.md5 pppL2tpAvpInfoList
            (w.setCtrl fun ctrl => { ctrl with idle_timer := true }).ctrl.secret data = _
            at failed
          unfold l2tpPacket
          dsimp only
          rw [failed]
          cases errno <;> exact Or.inr ⟨_, rfl, ctrlClose_dying env _ _ _ _⟩

theorem step_short (here : w.gone = false) {buf : Bytes} (short : buf.length < 2) :
    l2tpStep env w (.received (some buf)) = .error .absentByte := by
  rw [step_received env here, List.take_of_length_le (by omega)]
  cases buf with
  | nil => rfl
  | cons a others =>
      cases others with
      | nil => rfl
      | cons b data => exact absurd short (by simp)

end Message

/-- Of a message nothing absent is read exactly when it has a session id, the parser need not
find a hidden value again, its Message-Type has a value, and the debug log has names for its
message types. -/
theorem readsPresent_iff (env : L2tpEnv) (setup : L2tpSetup) (events : List L2tpEvent)
    {w : L2tpWorld} (reached : l2tpRun env setup events = .ok w) (here : w.gone = false)
    (buf : Bytes) : ReadsPresent env w buf ↔ L2tpReadable env w buf := by
  have sound : w.Sound := (sound_run env setup events).value reached
  have parsed := @avpUnpackRead_eq env.md5 pppL2tpAvpInfoList w.ctrl.secret none
    ((buf.take 4096).drop 2)
  constructor
  · intro present
    have sized : 2 ≤ buf.length := by
      by_contra short
      exact nomatch present.handler _ (step_short env here (Nat.lt_of_not_le short))
    refine ⟨sized, ?_, ?_, ?_⟩
    · intro ahead
      obtain ⟨unpacked, read⟩ := present.parser
      rw [parsed.1 ahead] at read
      exact nomatch read
    · intro first rest unpacked isType
      obtain ⟨session_id, step⟩ := step_unpacked env here sized unpacked
      by_contra short
      cases dumped : l2tpCtrlDump env (first :: rest) with
      | error fault =>
          rw [dumped] at step
          cases l2tpCtrlDump_error env dumped
          exact nomatch present.handler _ step
      | ok names =>
          rw [dumped] at step
          have fault : l2tpStep env w (.received (some buf)) = .error .absentByte := by
            refine step.trans ?_
            change l2tpMessage env _ session_id (first :: rest) = _
            unfold l2tpMessage
            dsimp only
            rw [if_neg (not_not.mpr isType), avpWord16_fault (Nat.lt_of_not_le short)]
            rfl
          exact nomatch present.handler _ fault
    · intro avps unpacked
      obtain ⟨session_id, step⟩ := step_unpacked env here sized unpacked
      rw [← l2tpCtrlDump_ok_iff]
      cases dumped : l2tpCtrlDump env avps with
      | error fault =>
          rw [dumped] at step
          cases l2tpCtrlDump_error env dumped
          exact nomatch present.handler _ step
      | ok names => exact ⟨names, rfl⟩
  · intro ⟨sized, shown, messageType, named⟩
    refine ⟨⟨_, parsed.2 shown⟩, ?_, ?_⟩
    · intro fault failed
      have noAssert : fault ≠ .assertion := (sound_step env sound _).fault failed
      cases unpacked : avpUnpack env.md5 pppL2tpAvpInfoList w.ctrl.secret
          ((buf.take 4096).drop 2) with
      | error errno =>
          obtain ⟨-, short⟩ | ⟨after, done, -⟩ := step_not_unpacked env here unpacked
          · omega
          · exact nomatch failed.symm.trans done
      | ok avps =>
          obtain ⟨session_id, step⟩ := step_unpacked env here sized unpacked
          obtain ⟨names, dumped⟩ := (l2tpCtrlDump_ok_iff env avps).mpr (named avps unpacked)
          rw [dumped] at step
          have ends := reads_message env
            (w := w.setCtrl fun ctrl => { ctrl with idle_timer := true }) session_id
            (known_of_avpUnpack unpacked) fun first rest is =>
              messageType first rest (is ▸ unpacked)
          exact (ends.fault (step.symm.trans failed)).resolve_right noAssert
    · intro after done refused
      cases unpacked : avpUnpack env.md5 pppL2tpAvpInfoList w.ctrl.secret
          ((buf.take 4096).drop 2) with
      | error errno =>
          obtain ⟨-, short⟩ | ⟨other, also, dying⟩ := step_not_unpacked env here unpacked
          · omega
          · cases Except.ok.inj (done.symm.trans also)
            exact Or.inl dying
      | ok avps =>
          obtain ⟨session_id, step⟩ := step_unpacked env here sized unpacked
          obtain ⟨names, dumped⟩ := (l2tpCtrlDump_ok_iff env avps).mpr (named avps unpacked)
          rw [dumped] at step
          exact refused_message env (step.symm.trans done) fun wellFormed =>
            refused ⟨avps, unpacked, wellFormed⟩

/-- Of an SCCRP with its AVPs everything that is read is present. -/
theorem readsPresent_sccrp :
    ReadsPresent l2tpCalmEnv (l2tpStart l2tpCalmEnv { initiates := true })
      (l2tpPlainMsg 0 l2tpSccrpAvps) := by
  have reached : l2tpRun l2tpCalmEnv { initiates := true } [] =
      .ok (l2tpStart l2tpCalmEnv { initiates := true }) := rfl
  have unpacked : avpUnpack l2tpCalmEnv.md5 pppL2tpAvpInfoList none
      (((l2tpPlainMsg 0 l2tpSccrpAvps).take 4096).drop 2) = .ok l2tpSccrpAvps := by
    have plain : ∀ avp ∈ l2tpSccrpAvps, avp.Plain := by decide
    exact avpUnpackFrom_plainList l2tpCalmEnv.md5 none none plain
  refine (readsPresent_iff l2tpCalmEnv { initiates := true } [] reached rfl
    (l2tpPlainMsg 0 l2tpSccrpAvps)).mpr ⟨by decide, ?_, ?_, ?_⟩
  · exact not_avpHiddenAhead_of_noSecret
  · intro first rest is _
    have head := (List.cons.inj (Except.ok.inj (unpacked.symm.trans is))).1
    rw [← head]
    decide
  · exact fun _ _ => nofun

def l2tpEmptyTypeAvps : List Avp := [⟨true, 0, AvpType.messageType.num, []⟩]

/-- The type of a message is read of a Message-Type AVP that has no value. -/
theorem not_readsPresent :
    ¬ ∀ (env : L2tpEnv) (setup : L2tpSetup) (events : List L2tpEvent) (w : L2tpWorld)
      (buf : Bytes), l2tpRun env setup events = .ok w → w.gone = false →
        ReadsPresent env w buf := by
  intro always
  have plain : ∀ avp ∈ l2tpEmptyTypeAvps, avp.Plain := by decide
  have present := always l2tpCalmEnv { initiates := true } []
    (l2tpStart l2tpCalmEnv { initiates := true }) (l2tpPlainMsg 0 l2tpEmptyTypeAvps) rfl rfl
  have step := @l2tpStep_plainMsg l2tpCalmEnv (l2tpStart l2tpCalmEnv { initiates := true })
    rfl 0 l2tpEmptyTypeAvps plain (by decide)
  exact nomatch present.handler _ (step.trans rfl)

end Mpd
