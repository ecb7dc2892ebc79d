import Mathlib.Data.List.GetD
import Mpd.Bytes
import Mpd.Transition

/-! DESE-bis encryption as in `ecp_dese_bis.c`, over any invertible block function. -/

set_option autoImplicit false

namespace Mpd

abbrev DesBlock : Type := Vector UInt8 8

namespace DesBlock

/-- The first eight bytes of a buffer. -/
def ofBytes (data : Bytes) : DesBlock := .ofFn fun i => data.getD i 0

def xor (first second : DesBlock) : DesBlock := first.zipWith (· ^^^ ·) second

end DesBlock

/-- `DES_key_schedule`: the block function of a key, and its inverse. -/
structure DesKeySchedule where
  encrypt : DesBlock → DesBlock
  decrypt : DesBlock → DesBlock
  decrypt_encrypt : ∀ block, decrypt (encrypt block) = block

/-- `DES_cbc_encrypt` of one block, which leaves the initial vector as it was. -/
def desCbcEncrypt (block : DesBlock) (ks : DesKeySchedule) (ivec : DesBlock) (enc : Bool) :
    DesBlock :=
  if enc then ks.encrypt (block.xor ivec) else (ks.decrypt block).xor ivec

structure DeseBisStats where
  FramesIn : UInt64
  FramesOut : UInt64
  OctetsIn : UInt64
  OctetsOut : UInt64
  Errors : UInt64
  deriving DecidableEq, Repr

structure DeseBisInfo where
  xmit_ivec : DesBlock
  recv_ivec : DesBlock
  xmit_seq : UInt16
  recv_seq : UInt16
  ks : DesKeySchedule
  recv_stats : DeseBisStats
  xmit_stats : DeseBisStats

def desOverhead : Nat := 2

/-- The loop of `DeseBisEncrypt` over the blocks of a frame. -/
def encryptBlocks (ks : DesKeySchedule) : Nat → DesBlock → Bytes → Bytes × DesBlock
  | 0, ivec, _ => ([], ivec)
  | blocks + 1, ivec, data =>
      let block := desCbcEncrypt (.ofBytes data) ks ivec true
      let rest := encryptBlocks ks blocks block (data.drop 8)
      (block.toList ++ rest.1, rest.2)

/-- The loop of `DeseBisDecrypt` over the blocks of a frame. -/
def decryptBlocks (ks : DesKeySchedule) : Nat → DesBlock → Bytes → Bytes × DesBlock
  | 0, ivec, _ => ([], ivec)
  | blocks + 1, ivec, data =>
      let block := desCbcEncrypt (.ofBytes data) ks ivec false
      let rest := decryptBlocks ks blocks (.ofBytes data) (data.drop 8)
      (block.toList ++ rest.1, rest.2)

def deseHeader (seq : UInt16) : Bytes := [(seq >>> 8).toUInt8, (seq &&& 0xff).toUInt8]

/-- The bytes of padding that `DeseBisEncrypt` adds to a packet of a header and `plen` bytes:
none to whole blocks whose last byte does not look like padding. -/
def desePadlen (cypher : Bytes) (plen : Nat) : Nat :=
  let padlen := (plen + 1 + 7) / 8 * 8 - plen
  let last := cypher.getD (desOverhead + plen - 1) 0
  if padlen > 7 ∧ (last = 0 ∨ last > 8) then padlen - 8 else padlen

def desePadding (padlen : Nat) : Bytes := (List.range padlen).map fun k => UInt8.ofNat (k + 1)

def deseBisEncrypt (des : DeseBisInfo) (plain : Bytes) : Bytes × DeseBisInfo :=
  let plen := plain.length
  let header := deseHeader des.xmit_seq
  let padlen := desePadlen (header ++ plain) plen
  let clen := plen + padlen
  let encrypted := encryptBlocks des.ks (clen / 8) des.xmit_ivec (plain ++ desePadding padlen)
  (header ++ encrypted.1, { des with
    xmit_seq := des.xmit_seq + 1
    xmit_ivec := encrypted.2
    xmit_stats := { des.xmit_stats with
      FramesIn := des.xmit_stats.FramesIn + 1
      OctetsIn := des.xmit_stats.OctetsIn + UInt64.ofNat plen
      FramesOut := des.xmit_stats.FramesOut + 1
      OctetsOut := des.xmit_stats.OctetsOut + UInt64.ofNat (desOverhead + clen) } })

/-- What `DeseBisDecrypt` leaves of a decrypted frame. -/
def deseStrip (plain : Bytes) : Bytes :=
  let clen := plain.length
  let last := plain.getD (clen - 1) 0
  if last > 0 ∧ last ≤ 8 then plain.take (clen - last.toNat) else plain

def deseBisDecrypt (des : DeseBisInfo) (cypher : Bytes) : Option Bytes × DeseBisInfo :=
  let stats := { des.recv_stats with
    FramesIn := des.recv_stats.FramesIn + 1
    OctetsIn := des.recv_stats.OctetsIn + UInt64.ofNat cypher.length }
  let failed := { stats with Errors := stats.Errors + 1 }
  match cypher with
  | high :: low :: cypher =>
      let clen := cypher.length
      if clen < 8 ∨ clen % 8 ≠ 0 then (none, { des with recv_stats := failed })
      else if be16 high low ≠ des.recv_seq then
        (none, { des with
          recv_ivec := .ofBytes (cypher.drop (clen - 8))
          recv_seq := be16 high low + 1
          recv_stats := failed })
      else
        let decrypted := decryptBlocks des.ks (clen / 8) des.recv_ivec cypher
        let plain := deseStrip decrypted.1
        (some plain, { des with
          recv_seq := des.recv_seq + 1
          recv_ivec := decrypted.2
          recv_stats := { stats with
            FramesOut := stats.FramesOut + 1
            OctetsOut := stats.OctetsOut + UInt64.ofNat plain.length } })
  | _ => (none, { des with recv_stats := failed })

section Blocks

namespace DesBlock

theorem toList_ofBytes {data : Bytes} (enough : 8 ≤ data.length) :
    (ofBytes data).toList = data.take 8 := by
  apply List.ext_getElem
  · simp [enough]
  · intro i inside inside'
    have below : i < data.length := by
      rw [List.length_take] at inside'
      omega
    simp [ofBytes, below]

theorem ofBytes_toList_append (block : DesBlock) (rest : Bytes) :
    ofBytes (block.toList ++ rest) = block := by
  apply Vector.ext
  intro i inside
  have below : i < block.toList.length := by
    rw [block.length_toList]
    exact inside
  simp [ofBytes, List.getElem?_append_left below, List.getElem?_eq_getElem below]

theorem drop_toList_append (block : DesBlock) (rest : Bytes) :
    (block.toList ++ rest).drop 8 = rest := by
  rw [List.drop_append_of_le_length (Nat.le_of_eq block.length_toList.symm),
    List.drop_of_length_le (Nat.le_of_eq block.length_toList), List.nil_append]

theorem xor_xor (block ivec : DesBlock) : (block.xor ivec).xor ivec = block := by
  apply Vector.ext
  intro i inside
  simp only [xor, Vector.getElem_zipWith, UInt8.xor_assoc, UInt8.xor_self, UInt8.xor_zero]

end DesBlock

/-- A block is decrypted with the initial vector with which it was encrypted. -/
theorem desCbcEncrypt_inverse (ks : DesKeySchedule) (block ivec : DesBlock) :
    desCbcEncrypt (desCbcEncrypt block ks ivec true) ks ivec false = block := by
  simp only [desCbcEncrypt, if_true, Bool.false_eq_true, if_false]
  rw [ks.decrypt_encrypt, DesBlock.xor_xor]

theorem length_encryptBlocks (ks : DesKeySchedule) (blocks : Nat) (ivec : DesBlock) (data : Bytes) :
    (encryptBlocks ks blocks ivec data).1.length = 8 * blocks := by
  induction blocks generalizing ivec data with
  | zero => rfl
  | succ blocks ih =>
      simp only [encryptBlocks, List.length_append, Vector.length_toList, ih]
      omega

/-- The last block of the cyphertext is the vector for the next frame. -/
theorem ofBytes_drop_encryptBlocks (ks : DesKeySchedule) (blocks : Nat) (ivec : DesBlock)
    (data : Bytes) :
    DesBlock.ofBytes ((encryptBlocks ks (blocks + 1) ivec data).1.drop (8 * blocks)) =
      (encryptBlocks ks (blocks + 1) ivec data).2 := by
  induction blocks generalizing ivec data with
  | zero =>
      simp only [encryptBlocks, Nat.mul_zero, List.drop_zero]
      exact DesBlock.ofBytes_toList_append _ []
  | succ blocks ih =>
      rw [encryptBlocks]
      dsimp only
      rw [Nat.mul_succ, Nat.add_comm, ← List.drop_drop, DesBlock.drop_toList_append]
      exact ih _ _

/-- Whole blocks come back from their cyphertext, and both sides end with one vector. -/
theorem decryptBlocks_encryptBlocks (ks : DesKeySchedule) (blocks : Nat) (ivec : DesBlock)
    {data : Bytes} (whole : data.length = 8 * blocks) :
    decryptBlocks ks blocks ivec (encryptBlocks ks blocks ivec data).1 =
      (data, (encryptBlocks ks blocks ivec data).2) := by
  induction blocks generalizing ivec data with
  | zero =>
      rw [List.eq_nil_of_length_eq_zero whole]
      rfl
  | succ blocks ih =>
      have rest : (data.drop 8).length = 8 * blocks := by
        rw [List.length_drop]
        omega
      simp only [encryptBlocks, decryptBlocks]
      rw [DesBlock.ofBytes_toList_append, DesBlock.drop_toList_append, desCbcEncrypt_inverse,
        ih _ rest, DesBlock.toList_ofBytes (by omega)]
      dsimp only
      rw [List.take_append_drop]

end Blocks

section Padding

theorem length_deseHeader (seq : UInt16) : (deseHeader seq).length = 2 := rfl

theorem length_desePadding (padlen : Nat) : (desePadding padlen).length = padlen := by
  simp [desePadding]

/-- A frame that is not empty is padded to whole blocks. -/
theorem desePadlen_whole (cypher : Bytes) {plen : Nat} (nonempty : 0 < plen) :
    8 ≤ plen + desePadlen cypher plen ∧ (plen + desePadlen cypher plen) % 8 = 0 ∧
      desePadlen cypher plen ≤ 8 := by
  unfold desePadlen
  dsimp only
  split_ifs <;> omega

/-- Where there is padding its last byte is its length, and where there is none the frame
does not end as if there were. -/
theorem deseStrip_padded (seq : UInt16) {plain : Bytes} (nonempty : plain ≠ []) :
    deseStrip (plain ++ desePadding (desePadlen (deseHeader seq ++ plain) plain.length)) =
      plain := by
  have positive : 0 < plain.length := List.length_pos_iff.mpr nonempty
  obtain ⟨-, whole, atMost⟩ := desePadlen_whole (deseHeader seq ++ plain) positive
  generalize padlen : desePadlen (deseHeader seq ++ plain) plain.length = count at whole atMost
  have shown : (deseHeader seq ++ plain).getD (desOverhead + plain.length - 1) 0 =
      plain.getD (plain.length - 1) 0 := by
    have index : desOverhead + plain.length - 1 = (deseHeader seq).length + (plain.length - 1) := by
      rw [length_deseHeader]
      exact Nat.add_sub_assoc positive 2
    rw [index, List.getD_append_right _ _ _ _ (Nat.le_add_right _ _), Nat.add_sub_cancel_left]
  unfold deseStrip
  dsimp only
  rw [List.length_append, length_desePadding]
  cases count with
  | zero =>
      have unlike : ¬ (plain.getD (plain.length - 1) 0 > 0 ∧ plain.getD (plain.length - 1) 0 ≤ 8) := by
        unfold desePadlen at padlen
        dsimp only at padlen
        rw [shown] at padlen
        split_ifs at padlen with bare
        · rintro ⟨low, high⟩
          rcases bare.2 with zero | large
          · rw [zero] at low
            exact absurd low (by decide)
          · exact absurd high (UInt8.not_le.mpr large)
        · omega
      rw [desePadding, List.range_zero, List.map_nil, List.append_nil, Nat.add_zero, if_neg unlike]
  | succ count =>
      have last : (plain ++ desePadding (count + 1)).getD (plain.length + (count + 1) - 1) 0 =
          UInt8.ofNat (count + 1) := by
        have inside : count < (List.range (count + 1)).length := by simp
        rw [Nat.add_succ_sub_one, List.getD_append_right _ _ _ _ (Nat.le_add_right _ _),
          Nat.add_sub_cancel_left]
        simp [desePadding]
      have number : (UInt8.ofNat (count + 1)).toNat = count + 1 := by
        rw [UInt8.toNat_ofNat']
        omega
      have padded : UInt8.ofNat (count + 1) > 0 ∧ UInt8.ofNat (count + 1) ≤ 8 := by
        constructor
        · apply UInt8.lt_iff_toNat_lt.mpr
          rw [number]
          exact Nat.succ_pos count
        · apply UInt8.le_iff_toNat_le.mpr
          rw [number]
          exact atMost
      rw [last, if_pos padded, number, Nat.add_sub_cancel, List.take_left']
      rfl

end Padding

section Packet

theorem be16_deseHeader (seq : UInt16) :
    be16 (seq >>> 8).toUInt8 (seq &&& 0xff).toUInt8 = seq := by
  have bounded := seq.toNat_lt
  have high : (seq >>> 8).toUInt8.toNat = seq.toNat / 256 := by
    simp
    omega
  have low : (seq &&& 0xff).toUInt8.toNat = seq.toNat % 256 := by
    rw [UInt16.toNat_toUInt8, UInt16.toNat_and]
    refine (congrArg (· % 2 ^ 8) (Nat.and_two_pow_sub_one_eq_mod seq.toNat 8)).trans ?_
    omega
  apply UInt16.toNat_inj.mp
  rw [be16, high, low, UInt16.toNat_ofNat']
  omega

variable {sender receiver : DeseBisInfo} (ks : receiver.ks = sender.ks) {plain : Bytes}
  (nonempty : plain ≠ [])
include nonempty

/-- The cyphertext of a frame is a positive number of whole blocks. -/
theorem deseBisEncrypt_blocks (sender : DeseBisInfo) :
    ∃ blocks, let padded := plain ++
        desePadding (desePadlen (deseHeader sender.xmit_seq ++ plain) plain.length)
      padded.length = 8 * (blocks + 1) ∧
        (deseBisEncrypt sender plain).1 = deseHeader sender.xmit_seq ++
          (encryptBlocks sender.ks (blocks + 1) sender.xmit_ivec padded).1 ∧
        (deseBisEncrypt sender plain).2.xmit_ivec =
          (encryptBlocks sender.ks (blocks + 1) sender.xmit_ivec padded).2 := by
  have positive : 0 < plain.length := List.length_pos_iff.mpr nonempty
  obtain ⟨some8, whole, -⟩ := desePadlen_whole (deseHeader sender.xmit_seq ++ plain) positive
  have count : (plain.length +
      desePadlen (deseHeader sender.xmit_seq ++ plain) plain.length) / 8 =
        (plain.length + desePadlen (deseHeader sender.xmit_seq ++ plain) plain.length) / 8 - 1 + 1 := by
    omega
  refine ⟨(plain.length + desePadlen (deseHeader sender.xmit_seq ++ plain) plain.length) / 8 - 1, ?_⟩
  dsimp only
  rw [← count]
  refine ⟨?_, rfl, rfl⟩
  rw [List.length_append, length_desePadding]
  omega

include ks

/-- A frame that is next for the receiver is decrypted to itself. -/
theorem deseBisDecrypt_next (seq : receiver.recv_seq = sender.xmit_seq)
    (ivec : receiver.recv_ivec = sender.xmit_ivec) :
    ∃ recv_stats, deseBisDecrypt receiver (deseBisEncrypt sender plain).1 =
      (some plain, { receiver with
        recv_seq := sender.xmit_seq + 1
        recv_ivec := (deseBisEncrypt sender plain).2.xmit_ivec
        recv_stats }) := by
  obtain ⟨blocks, padded, packet, vector⟩ := deseBisEncrypt_blocks nonempty sender
  have stripped := deseStrip_padded sender.xmit_seq nonempty
  rw [packet, vector]
  generalize plain ++ desePadding (desePadlen (deseHeader sender.xmit_seq ++ plain) plain.length) =
    whole at padded stripped
  have size := length_encryptBlocks sender.ks (blocks + 1) sender.xmit_ivec whole
  have decrypted := decryptBlocks_encryptBlocks sender.ks (blocks + 1) sender.xmit_ivec padded
  have full : ¬ (8 * (blocks + 1) < 8 ∨ 8 * (blocks + 1) % 8 ≠ 0) := by omega
  unfold deseBisDecrypt deseHeader
  simp only [List.cons_append, List.nil_append, size, be16_deseHeader, full, if_false, seq, ivec,
    ks, ne_eq, not_true, Nat.mul_div_cancel_left _ (by decide : 0 < 8), decrypted, stripped]
  exact ⟨_, rfl⟩

omit ks in
/-- A frame that is not next for the receiver is discarded, and the receiver goes on from
its end. -/
theorem deseBisDecrypt_late (seq : sender.xmit_seq ≠ receiver.recv_seq) :
    ∃ recv_stats, deseBisDecrypt receiver (deseBisEncrypt sender plain).1 =
      (none, { receiver with
        recv_seq := sender.xmit_seq + 1
        recv_ivec := (deseBisEncrypt sender plain).2.xmit_ivec
        recv_stats }) := by
  obtain ⟨blocks, padded, packet, vector⟩ := deseBisEncrypt_blocks nonempty sender
  rw [packet, vector]
  generalize plain ++ desePadding (desePadlen (deseHeader sender.xmit_seq ++ plain) plain.length) =
    whole at padded
  have size := length_encryptBlocks sender.ks (blocks + 1) sender.xmit_ivec whole
  have tail := ofBytes_drop_encryptBlocks sender.ks blocks sender.xmit_ivec whole
  have full : ¬ (8 * (blocks + 1) < 8 ∨ 8 * (blocks + 1) % 8 ≠ 0) := by omega
  have start : 8 * (blocks + 1) - 8 = 8 * blocks := by omega
  unfold deseBisDecrypt deseHeader
  simp only [List.cons_append, List.nil_append, size, be16_deseHeader, full, if_false, seq, ne_eq,
    not_false_eq_true, if_true, start, tail]
  exact ⟨_, rfl⟩

end Packet

section Session

/-- The two ends of an encrypted connection, what the receiver made of the frames that
arrived, and the number of frames lost since the last of them. -/
structure DesePeers where
  sender : DeseBisInfo
  receiver : DeseBisInfo
  lost : Nat
  results : List (Option Bytes)

/-- A frame on its way, which arrives or is lost. -/
structure DeseFrame where
  plain : Bytes
  arrives : Bool
  deriving DecidableEq, Repr

/-- A frame is encrypted, and decrypted if it arrives. -/
def DesePeers.send (peers : DesePeers) (frame : DeseFrame) : DesePeers :=
  let encrypted := deseBisEncrypt peers.sender frame.plain
  if frame.arrives then
    let decrypted := deseBisDecrypt peers.receiver encrypted.1
    ⟨encrypted.2, decrypted.2, 0, peers.results ++ [decrypted.1]⟩
  else { peers with sender := encrypted.2, lost := peers.lost + 1 }

/-- Both ends use one key, the receiver is behind by the frames that were lost, and it is
at the vector of the sender if there are none. -/
structure DesePeers.InStep (peers : DesePeers) : Prop where
  ks : peers.receiver.ks = peers.sender.ks
  seq : peers.sender.xmit_seq = peers.receiver.recv_seq + UInt16.ofNat peers.lost
  ivec : peers.lost = 0 → peers.receiver.recv_ivec = peers.sender.xmit_ivec

/-- What the receiver is to make of the frames that arrive, where `previous` tells whether
the frame before them arrived: it keeps a frame whose predecessor arrived, and discards
the others. -/
def deseExpected : (previous : Bool) → List DeseFrame → List (Option Bytes)
  | _, [] => []
  | previous, frame :: frames =>
      if frame.arrives then
        (if previous then some frame.plain else none) :: deseExpected true frames
      else deseExpected false frames

/-- Fewer than 65536 frames are lost in a row. -/
def LossBounded (frames : List DeseFrame) : Prop :=
  ∀ early gap late, frames = early ++ gap ++ late → (∀ frame ∈ gap, frame.arrives = false) →
    gap.length < 65536

/-- A frame that arrives is kept if nothing was lost before it, and discarded otherwise. -/
theorem DesePeers.InStep.arrival {peers : DesePeers} (inStep : peers.InStep)
    (bounded : peers.lost < 65536) {frame : DeseFrame} (nonempty : frame.plain ≠ [])
    (arrives : frame.arrives = true) :
    (peers.send frame).InStep ∧ (peers.send frame).lost = 0 ∧
      (peers.send frame).results = peers.results ++
        [if peers.lost = 0 then some frame.plain else none] := by
  have advanced : (deseBisEncrypt peers.sender frame.plain).2.xmit_seq =
      peers.sender.xmit_seq + 1 := rfl
  have ks : (deseBisEncrypt peers.sender frame.plain).2.ks = peers.sender.ks := rfl
  unfold DesePeers.send
  dsimp only
  rw [if_pos arrives]
  by_cases none_lost : peers.lost = 0
  · have seq : peers.receiver.recv_seq = peers.sender.xmit_seq := by
      rw [inStep.seq, none_lost]
      simp
    obtain ⟨recv_stats, decrypted⟩ :=
      deseBisDecrypt_next inStep.ks nonempty seq (inStep.ivec none_lost)
    rw [decrypted, if_pos none_lost]
    exact ⟨⟨inStep.ks.trans ks.symm, by simp [advanced], fun _ => rfl⟩, rfl, rfl⟩
  · have seq : peers.sender.xmit_seq ≠ peers.receiver.recv_seq := by
      intro same
      have number := congrArg UInt16.toNat (inStep.seq.symm.trans same)
      rw [UInt16.toNat_add, UInt16.toNat_ofNat'] at number
      have below := peers.receiver.recv_seq.toNat_lt
      omega
    obtain ⟨recv_stats, decrypted⟩ := deseBisDecrypt_late nonempty seq
    rw [decrypted, if_neg none_lost]
    exact ⟨⟨inStep.ks.trans ks.symm, by simp [advanced], fun _ => rfl⟩, rfl, rfl⟩

theorem DesePeers.InStep.loss {peers : DesePeers} (inStep : peers.InStep) {frame : DeseFrame}
    (lost : frame.arrives = false) :
    (peers.send frame).InStep ∧ (peers.send frame).lost = peers.lost + 1 ∧
      (peers.send frame).results = peers.results := by
  unfold DesePeers.send
  dsimp only
  rw [lost, if_neg (by decide)]
  refine ⟨⟨inStep.ks, ?_, fun none_lost => nomatch none_lost⟩, rfl, rfl⟩
  change peers.sender.xmit_seq + 1 = _
  rw [inStep.seq, UInt16.add_assoc]
  congr 1
  apply UInt16.toNat_inj.mp
  rw [UInt16.toNat_add, UInt16.toNat_ofNat', UInt16.toNat_ofNat']
  exact Nat.mod_add_mod peers.lost (2 ^ 16) 1

theorem results_run (peers : DesePeers) (inStep : peers.InStep) {frames : List DeseFrame}
    (nonempty : ∀ frame ∈ frames, frame.plain ≠ []) (bounded : LossBounded frames)
    (before : ∀ gap late, frames = gap ++ late → (∀ frame ∈ gap, frame.arrives = false) →
      peers.lost + gap.length < 65536) :
    (Transition.run DesePeers.send peers frames).results =
      peers.results ++ deseExpected (peers.lost = 0) frames := by
  induction frames generalizing peers with
  | nil => simp [deseExpected]
  | cons frame frames ih =>
      have others : ∀ other ∈ frames, other.plain ≠ [] := fun other member =>
        nonempty other (List.mem_cons_of_mem frame member)
      have later : LossBounded frames := by
        intro early gap late same lost
        exact bounded (frame :: early) gap late (by rw [same]; rfl) lost
      rw [Transition.run_cons]
      cases arrives : frame.arrives with
      | true =>
          obtain ⟨still, none_lost, results⟩ := inStep.arrival
            (before [] (frame :: frames) rfl (by simp)) (nonempty frame List.mem_cons_self) arrives
          have fresh : ∀ gap late, frames = gap ++ late →
              (∀ frame ∈ gap, frame.arrives = false) →
                (peers.send frame).lost + gap.length < 65536 := by
            intro gap late same lost
            rw [none_lost, Nat.zero_add]
            exact later [] gap late same lost
          rw [ih _ still others later fresh, results, none_lost, List.append_assoc]
          simp [deseExpected, arrives]
      | false =>
          obtain ⟨still, one_more, results⟩ := inStep.loss arrives
          have longer : ∀ gap late, frames = gap ++ late →
              (∀ frame ∈ gap, frame.arrives = false) →
                (peers.send frame).lost + gap.length < 65536 := by
            intro gap late same lost
            have whole := before (frame :: gap) late (by rw [same]; rfl) (by
              intro other member
              rcases List.mem_cons.mp member with rfl | member
              · exact arrives
              · exact lost other member)
            rw [List.length_cons] at whole
            omega
          rw [ih _ still others later longer, results, one_more]
          simp [deseExpected, arrives]

/-- Two ends right after `DeseBisConfigure`, with one key and one initial vector. -/
def DesePeers.init (ks : DesKeySchedule) (ivec : DesBlock) (sender receiver : DeseBisInfo) :
    DesePeers where
  sender := { sender with ks, xmit_ivec := ivec, xmit_seq := 0 }
  receiver := { receiver with ks, recv_ivec := ivec, recv_seq := 0 }
  lost := 0
  results := []

/-- Of the frames that arrive, the receiver keeps exactly those whose predecessor arrived,
unchanged, and it discards the others. -/
theorem deseBis_lossy (ks : DesKeySchedule) (ivec : DesBlock) (sender receiver : DeseBisInfo)
    {frames : List DeseFrame} (nonempty : ∀ frame ∈ frames, frame.plain ≠ [])
    (bounded : LossBounded frames) :
    (Transition.run DesePeers.send (.init ks ivec sender receiver) frames).results =
      deseExpected true frames := by
  have inStep : (DesePeers.init ks ivec sender receiver).InStep := ⟨rfl, rfl, fun _ => rfl⟩
  refine results_run _ inStep nonempty bounded fun gap late same lost => ?_
  rw [show (DesePeers.init ks ivec sender receiver).lost = 0 from rfl, Nat.zero_add]
  exact bounded [] gap late same lost

def DesKeySchedule.shift : DesKeySchedule where
  encrypt block := block.map (· + 1)
  decrypt block := block.map (· - 1)
  decrypt_encrypt block := by
    apply Vector.ext
    intro i inside
    simp

def DeseBisStats.zero : DeseBisStats := ⟨0, 0, 0, 0, 0⟩

/-- A `struct desebisinfo` before negotiation. -/
def DeseBisInfo.init (ks : DesKeySchedule) : DeseBisInfo :=
  ⟨.replicate 8 0, .replicate 8 0, 0, 0, ks, .zero, .zero⟩

theorem deseBis_lossy_second :
    (Transition.run DesePeers.send
        (.init .shift (.replicate 8 7) (.init .shift) (.init .shift))
        [⟨[1, 2, 3], true⟩, ⟨[4], false⟩, ⟨[5, 8], true⟩, ⟨[9], true⟩]).results =
      deseExpected true [⟨[1, 2, 3], true⟩, ⟨[4], false⟩, ⟨[5, 8], true⟩, ⟨[9], true⟩] :=
  deseBis_lossy .shift (.replicate 8 7) (.init .shift) (.init .shift) (by decide)
    (by
      intro early gap late same _
      have size := congrArg List.length same
      simp only [List.length_append, List.length_cons, List.length_nil] at size
      omega)

end Session

end Mpd
