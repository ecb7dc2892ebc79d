import Mathlib.Data.Nat.Bitwise
import Mpd.Ccp.Pred1

/-! Two peers that run Predictor-1 over a session stay in step. -/

set_option autoImplicit false

namespace Mpd

section FrameCheck

theorem toNat_and_low (x : UInt16) : (x &&& 0xff).toNat = x.toUInt8.toNat := by
  rw [UInt16.toNat_and, UInt16.toNat_toUInt8]
  exact Nat.and_two_pow_sub_one_eq_mod x.toNat 8

theorem toUInt8_not_shiftRight (x : UInt16) : (~~~x >>> 8).toUInt8 = ~~~(x >>> 8).toUInt8 := by
  apply UInt8.toNat_inj.mp
  have bounded := x.toNat_lt
  simp
  omega

theorem shiftRight_twice (x : UInt16) : x >>> 8 >>> 8 = 0 := by
  apply UInt16.toNat_inj.mp
  have bounded := x.toNat_lt
  simp
  omega

/-- One step of the frame check reads the table at the low byte. -/
theorem crc16_singleton (crc : UInt16) (byte : UInt8) :
    crc16 crc [byte] = (crc >>> 8) ^^^ crc16Table.getD (crc.toUInt8 ^^^ byte).toNat 0 := by
  change (crc >>> 8) ^^^ crc16Table.getD ((crc ^^^ byte.toUInt16) &&& 0xff).toNat 0 = _
  rw [toNat_and_low, UInt16.toUInt8_xor, UInt8.toUInt8_toUInt16]

theorem crc16_append (crc : UInt16) (first second : Bytes) :
    crc16 crc (first ++ second) = crc16 (crc16 crc first) second :=
  List.foldl_append

theorem xor_not_self (x : UInt8) : x ^^^ ~~~x = 0xff := by
  rw [UInt8.xor_not, UInt8.xor_self]
  rfl

theorem length_fcsBytes (fcs : UInt16) : (fcsBytes fcs).length = 2 := rfl

/-- Any data followed by the complement of its frame check leaves the good one. -/
theorem crc16_fcsBytes (fcs : UInt16) : crc16 fcs (fcsBytes (~~~fcs)) = pppGoodFcs := by
  have low : fcs.toUInt8 ^^^ (~~~fcs &&& 0xFF).toUInt8 = 0xff := by
    have truncated : (~~~fcs &&& 0xFF).toUInt8 = ~~~fcs.toUInt8 := by
      apply UInt8.toNat_inj.mp
      rw [UInt16.toNat_toUInt8, toNat_and_low, UInt16.toUInt8_not]
      exact Nat.mod_eq_of_lt (~~~fcs.toUInt8).toNat_lt
    rw [truncated, xor_not_self]
  have first : crc16 fcs [(~~~fcs &&& 0xFF).toUInt8] = (fcs >>> 8) ^^^ 0x0f78 := by
    rw [crc16_singleton, low]
    rfl
  have high : ((fcs >>> 8) ^^^ 0x0f78).toUInt8 ^^^ (~~~fcs >>> 8).toUInt8 = 0x87 := by
    rw [toUInt8_not_shiftRight, UInt16.toUInt8_xor, UInt8.xor_comm (fcs >>> 8).toUInt8,
      UInt8.xor_assoc, xor_not_self]
    rfl
  have second : ((fcs >>> 8) ^^^ 0x0f78) >>> 8 = (0x0f : UInt16) := by
    rw [UInt16.shiftRight_xor, shiftRight_twice]
    rfl
  rw [fcsBytes, ← List.singleton_append, crc16_append, first, crc16_singleton, high, second]
  rfl

end FrameCheck

section Flags

theorem or_and_self (flags mask : UInt8) : (flags ||| mask) &&& mask = mask := by
  apply UInt8.toBitVec_inj.mp
  ext i inside
  simp only [UInt8.toBitVec_and, UInt8.toBitVec_or, BitVec.getElem_and, BitVec.getElem_or]
  cases flags.toBitVec[i] <;> cases mask.toBitVec[i] <;> rfl

theorem or_and_of_disjoint {mask other : UInt8} (disjoint : mask &&& other = 0) (flags : UInt8) :
    (flags ||| mask) &&& other = flags &&& other := by
  have bits : mask.toBitVec &&& other.toBitVec = 0 := by
    simpa using congrArg UInt8.toBitVec disjoint
  apply UInt8.toBitVec_inj.mp
  ext i inside
  have bit := congrArg (·[i]) bits
  simp only [UInt8.toBitVec_and, UInt8.toBitVec_or, BitVec.getElem_and, BitVec.getElem_or] at bit ⊢
  cases flags.toBitVec[i] <;> cases mask : mask.toBitVec[i] <;> cases other : other.toBitVec[i] <;>
    simp_all

theorem bitmask_ne_zero {left : Nat} (inside : left < 8) : bitmask left ≠ 0 := by
  revert left
  decide

theorem bitmask_disjoint {left other : Nat} (inside : left < 8) (below : other < left) :
    bitmask left &&& bitmask other = 0 := by
  have all : ∀ left < 8, ∀ other < left, bitmask left &&& bitmask other = 0 := by decide
  exact all left inside other below

/-- The flags of a group use none of the bits that were passed. -/
theorem flags_compressGroup_and {left other : Nat} (passed : left ≤ other) (inside : other < 8)
    (g : Guess) (source : Bytes) : (compressGroup left g source).flags &&& bitmask other = 0 := by
  induction left generalizing g source with
  | zero => simp [compressGroup]
  | succ left ih =>
      cases source with
      | nil => simp [compressGroup]
      | cons x source =>
          unfold compressGroup
          split_ifs
          · have disjoint : bitmask left &&& bitmask other = 0 := by
              rw [UInt8.and_comm]
              exact bitmask_disjoint inside passed
            exact (or_and_of_disjoint disjoint _).trans (ih (Nat.le_of_succ_le passed) _ _)
          · exact ih (Nat.le_of_succ_le passed) _ _

end Flags

section Group

def Guess.advance (g : Guess) (x : UInt8) : Guess :=
  (if g.next = x then g else g.store x).hashByte x

theorem Guess.sync_eq_advance (g : Guess) (x : UInt8) : g.sync x = g.advance x := by
  unfold sync advance
  split_ifs with wrong right <;> simp_all

theorem Guess.advance_of_right {g : Guess} {x : UInt8} (right : g.next = x) :
    g.advance x = g.hashByte x := by
  rw [advance, if_pos right]

theorem Guess.advance_of_wrong {g : Guess} {x : UInt8} (wrong : g.next ≠ x) :
    g.advance x = (g.store x).hashByte x := by
  rw [advance, if_neg wrong]

theorem guess_compressGroup (left : Nat) (g : Guess) (source : Bytes) :
    (compressGroup left g source).guess = (source.take left).foldl Guess.advance g := by
  induction left generalizing g source with
  | zero => simp [compressGroup]
  | succ left ih =>
      cases source with
      | nil => simp [compressGroup]
      | cons x source =>
          rw [List.take_succ_cons, List.foldl_cons]
          unfold compressGroup
          split_ifs with right
          · rw [Guess.advance_of_right right]
            exact ih _ _
          · rw [Guess.advance_of_wrong right]
            exact ih _ _

/-- A group is decoded to its bytes where the flags agree on the bits to come, the group
is full or the last one, and there is room for it. -/
theorem decompressGroup_compressGroup {flags : UInt8} {left : Nat} (inside : left ≤ 8)
    (g : Guess) (source rest : Bytes) {dlen : Nat}
    (agree : ∀ other < left,
      flags &&& bitmask other = (compressGroup left g source).flags &&& bitmask other)
    (last : source.length < left → rest = []) (room : left ≤ dlen) :
    decompressGroup flags left g ((compressGroup left g source).literals ++ rest) dlen =
      some ⟨source.take left, (compressGroup left g source).guess, rest,
        dlen - (source.take left).length⟩ := by
  induction left generalizing g source dlen with
  | zero => simp [compressGroup, decompressGroup]
  | succ left ih =>
      obtain ⟨space, rfl⟩ := Nat.exists_eq_succ_of_ne_zero (Nat.ne_of_gt (Nat.lt_of_lt_of_le
        (Nat.succ_pos left) room))
      have bit := agree left (Nat.lt_succ_self left)
      have fits : left ≤ space := Nat.le_of_succ_le_succ room
      cases source with
      | nil =>
          have ended : rest = [] := last (Nat.succ_pos left)
          have clear : flags &&& bitmask left = 0 := by simpa [compressGroup] using bit
          subst ended
          simp [compressGroup, decompressGroup, clear]
      | cons x source =>
          have shorter : source.length < left → rest = [] := fun short =>
            last (Nat.succ_lt_succ short)
          by_cases right : g.next = x
          · have set : flags &&& bitmask left ≠ 0 := by
              rw [bit]
              simp only [compressGroup, right, if_true]
              rw [or_and_self]
              exact bitmask_ne_zero inside
            have others : ∀ other < left, flags &&& bitmask other =
                (compressGroup left (g.hashByte x) source).flags &&& bitmask other := by
              intro other below
              rw [agree other (Nat.lt_succ_of_lt below)]
              simp only [compressGroup, right, if_true]
              exact or_and_of_disjoint (bitmask_disjoint inside below) _
            have inner := ih (Nat.le_of_succ_le inside) (g.hashByte x) source others shorter fits
            unfold decompressGroup
            simp only [compressGroup, right, if_true]
            rw [if_pos set, inner]
            simp [Pred1Plain.cons, Nat.add_sub_add_right]
          · have clear : flags &&& bitmask left = 0 := by
              rw [bit]
              simp only [compressGroup, right, if_false]
              exact flags_compressGroup_and (Nat.le_refl left) inside _ _
            have others : ∀ other < left, flags &&& bitmask other =
                (compressGroup left ((g.store x).hashByte x) source).flags &&& bitmask other := by
              intro other below
              rw [agree other (Nat.lt_succ_of_lt below)]
              simp only [compressGroup, right, if_false]
            have inner := ih (Nat.le_of_succ_le inside) ((g.store x).hashByte x) source others
              shorter fits
            unfold decompressGroup
            simp only [compressGroup, right, if_false, clear, ne_eq, not_true, List.cons_append]
            rw [inner]
            simp [Pred1Plain.cons, Nat.add_sub_add_right]

end Group

section Frame

theorem compress_cons (g : Guess) (x : UInt8) (source : Bytes) :
    compress g (x :: source) =
      ((compressGroup 8 g (x :: source)).flags :: (compressGroup 8 g (x :: source)).literals ++
          (compress (compressGroup 8 g (x :: source)).guess ((x :: source).drop 8)).1,
        (compress (compressGroup 8 g (x :: source)).guess ((x :: source).drop 8)).2) := by
  rw [compress, source_compressGroup]

theorem compress_nil (g : Guess) : compress g [] = ([], g) := by
  rw [compress]

theorem decompress_cons {g : Guess} {flags : UInt8} {source : Bytes} {dlen : Nat}
    {plain : Pred1Plain} (decoded : decompressGroup flags 8 g source dlen = some plain) :
    decompress g (flags :: source) dlen =
      (decompress plain.guess plain.source plain.dlen).map fun rest =>
        (plain.dest ++ rest.1, rest.2) := by
  rw [decompress]
  split
  · rename_i failed
    rw [failed] at decoded
    cases decoded
  · rename_i other found
    rw [found] at decoded
    rw [Option.some.inj decoded]

theorem guess_compress (g : Guess) (source : Bytes) :
    (compress g source).2 = source.foldl Guess.advance g := by
  induction g, source using compress.induct with
  | case1 g => rw [compress_nil, List.foldl_nil]
  | case2 g x source group ih =>
      rw [source_compressGroup, guess_compressGroup, ← List.foldl_append,
        List.take_append_drop] at ih
      rw [compress_cons]
      dsimp only
      rw [guess_compressGroup, ih]

/-- The decoder gets back what was compressed, with the guesses of the encoder, where it
has room for whole groups. -/
theorem decompress_compress (g : Guess) (source : Bytes) {dlen : Nat}
    (room : source.length ≤ dlen) (whole : 8 ∣ dlen) :
    decompress g (compress g source).1 dlen = some (source, (compress g source).2) := by
  induction g, source using compress.induct generalizing dlen with
  | case1 g => rw [compress_nil, decompress]
  | case2 g x source group =>
      rename_i ih
      have some8 : 8 ≤ dlen := by
        rw [List.length_cons] at room
        omega
      rw [source_compressGroup] at ih
      have fits : ((x :: source).drop 8).length ≤ dlen - ((x :: source).take 8).length := by
        rw [List.length_drop, List.length_take]
        omega
      have last : (x :: source).length < 8 →
          (compress group.guess ((x :: source).drop 8)).1 = [] := by
        intro short
        rw [List.drop_of_length_le (Nat.le_of_lt short), compress_nil]
      have decoded := decompressGroup_compressGroup (Nat.le_refl 8) g (x :: source) _
        (fun _ _ => rfl) last some8
      rw [compress_cons, List.cons_append, decompress_cons decoded]
      dsimp only
      by_cases full : 8 ≤ (x :: source).length
      · have whole' : 8 ∣ dlen - ((x :: source).take 8).length := by
          rw [List.length_take, Nat.min_eq_left full]
          omega
        have rest := ih fits whole'
        dsimp only [group] at rest
        rw [rest]
        simp [List.take_append_drop]
      · have empty : (x :: source).drop 8 = [] := List.drop_of_length_le (by omega)
        have taken : (x :: source).take 8 = x :: source := List.take_of_length_le (by omega)
        rw [empty, compress_nil, taken, decompress]
        simp [group]

end Frame

section Header

variable {orglen : Nat} (short : orglen ≤ pred1DecompBufSize)
include short

theorem toNat_pred1Header : (pred1Header orglen).1.toNat = orglen / 256 := by
  have small : orglen ≤ 4096 := short
  rw [pred1Header, UInt8.toNat_and, UInt8.toNat_ofNat', Nat.shiftRight_eq_div_pow]
  refine (Nat.and_two_pow_sub_one_eq_mod _ 7).trans ?_
  omega

theorem putBe16_eq_pred1Header :
    putBe16 (UInt16.ofNat orglen) = [(pred1Header orglen).1, (pred1Header orglen).2] := by
  have small : orglen ≤ 4096 := short
  have size : (UInt16.ofNat orglen).toNat = orglen := by
    rw [UInt16.toNat_ofNat']
    omega
  have high : UInt8.ofNat (orglen / 256) = (pred1Header orglen).1 := by
    apply UInt8.toNat_inj.mp
    rw [toNat_pred1Header short, UInt8.toNat_ofNat']
    omega
  have low : UInt8.ofNat (orglen % 256) = (pred1Header orglen).2 := by
    apply UInt8.toNat_inj.mp
    rw [pred1Header, UInt8.toNat_ofNat', UInt8.toNat_ofNat']
    omega
  rw [putBe16, size, high, low]

theorem toNat_be16_plain :
    (be16 (pred1Header orglen).1 (pred1Header orglen).2).toNat = orglen := by
  have small : orglen ≤ 4096 := short
  rw [be16, toNat_pred1Header short, pred1Header, UInt8.toNat_ofNat', UInt16.toNat_ofNat']
  omega

theorem toNat_be16_compressed :
    (be16 ((pred1Header orglen).1 ||| 0x80) (pred1Header orglen).2).toNat = 2 ^ 15 + orglen := by
  have small : orglen ≤ 4096 := short
  have high : ((pred1Header orglen).1 ||| 0x80).toNat = 2 ^ 7 + orglen / 256 := by
    rw [UInt8.toNat_or, toNat_pred1Header short, Nat.or_comm]
    exact (Nat.two_pow_add_eq_or_of_lt (i := 7) (b := orglen / 256) (by omega) 1).symm
  rw [be16, high, pred1Header, UInt8.toNat_ofNat', UInt16.toNat_ofNat']
  omega

omit short in
/-- The flag of a compressed packet, and its length. -/
theorem toNat_and_flag (x : UInt16) :
    (x &&& 0x8000).toNat = (x.toNat.testBit 15).toNat * 2 ^ 15 := by
  rw [UInt16.toNat_and]
  exact Nat.and_two_pow x.toNat 15

omit short in
theorem toNat_and_length (x : UInt16) : (x &&& 0x7fff).toNat = x.toNat % 2 ^ 15 := by
  rw [UInt16.toNat_and]
  exact Nat.and_two_pow_sub_one_eq_mod x.toNat 15

theorem pred1Header_plain :
    be16 (pred1Header orglen).1 (pred1Header orglen).2 &&& 0x8000 = 0 ∧
      be16 (pred1Header orglen).1 (pred1Header orglen).2 &&& 0x7fff = UInt16.ofNat orglen := by
  have small : orglen ≤ 4096 := short
  constructor
  · apply UInt16.toNat_inj.mp
    rw [toNat_and_flag, toNat_be16_plain short, Nat.testBit_lt_two_pow (by omega)]
    rfl
  · apply UInt16.toNat_inj.mp
    rw [toNat_and_length, toNat_be16_plain short, UInt16.toNat_ofNat']
    omega

theorem pred1Header_compressed :
    be16 ((pred1Header orglen).1 ||| 0x80) (pred1Header orglen).2 &&& 0x8000 ≠ 0 ∧
      be16 ((pred1Header orglen).1 ||| 0x80) (pred1Header orglen).2 &&& 0x7fff =
        UInt16.ofNat orglen := by
  have small : orglen ≤ 4096 := short
  constructor
  · intro zero
    have number := congrArg UInt16.toNat zero
    rw [toNat_and_flag, toNat_be16_compressed short, Nat.testBit_two_pow_add_eq,
      Nat.testBit_lt_two_pow (by omega)] at number
    exact absurd number (by decide)
  · apply UInt16.toNat_inj.mp
    rw [toNat_and_length, toNat_be16_compressed short, UInt16.toNat_ofNat']
    omega

end Header

section Session

theorem syncTable_eq (g : Guess) (source : Bytes) :
    syncTable g source = source.foldl Guess.advance g := by
  have same : Guess.sync = Guess.advance := by
    funext g x
    exact g.sync_eq_advance x
  rw [syncTable, same]

/-- The frame check that `Pred1Compress` appends is found good. -/
theorem pred1CheckFcs_good (p : Pred1Info) {plain : Bytes}
    (short : plain.length ≤ pred1DecompBufSize) :
    ∃ recv_stats, pred1CheckFcs p (UInt16.ofNat plain.length) plain
        (fcsBytes (~~~crc16 (crc16 pppInitFcs
          [(pred1Header plain.length).1, (pred1Header plain.length).2]) plain)) =
      (.frame plain, { p with recv_stats }) := by
  have good := crc16_fcsBytes (crc16 (crc16 pppInitFcs
    [(pred1Header plain.length).1, (pred1Header plain.length).2]) plain)
  unfold pred1CheckFcs
  rw [putBe16_eq_pred1Header short]
  unfold fcsBytes at good ⊢
  dsimp only
  rw [good]
  simp only [ne_eq, not_true, if_false]
  exact ⟨_, rfl⟩

section Packet

variable (q : Pred1Info) {high low : UInt8} {tail : Bytes}

theorem pred1Decompress_compressed {body uncomp : Bytes} {input : Guess}
    (flag : be16 high low &&& 0x8000 ≠ 0)
    (length : be16 high low &&& 0x7fff = UInt16.ofNat uncomp.length) (two : tail.length = 2)
    (decoded : decompress q.input body pred1DecompBufSize = some (uncomp, input)) :
    ∃ recv_stats, pred1Decompress q (high :: low :: body ++ tail) =
      pred1CheckFcs { q with input, recv_stats } (UInt16.ofNat uncomp.length) uncomp tail := by
  have orglen : (high :: low :: body ++ tail).length = body.length + 4 := by
    simp only [List.length_append, List.length_cons, two]
  have taken : (body ++ tail).take body.length = body := by simp
  have left : (body ++ tail).drop body.length = tail := by simp
  unfold pred1Decompress
  simp only [List.cons_append] at orglen
  simp only [List.cons_append, orglen, flag, length, ne_eq, not_false_eq_true, if_true]
  rw [if_neg (by omega : ¬ body.length + 4 < 4), Nat.add_sub_cancel, taken, left, decoded]
  simp only [not_true, if_false]
  exact ⟨_, rfl⟩

theorem pred1Decompress_plain {uncomp : Bytes} (flag : be16 high low &&& 0x8000 = 0)
    (length : be16 high low &&& 0x7fff = UInt16.ofNat uncomp.length)
    (small : uncomp.length < 65536) :
    ∃ recv_stats, pred1Decompress q (high :: low :: uncomp ++ tail) =
      pred1CheckFcs { q with input := syncTable q.input uncomp, recv_stats }
        (UInt16.ofNat uncomp.length) uncomp tail := by
  have size : (UInt16.ofNat uncomp.length).toNat = uncomp.length := by
    rw [UInt16.toNat_ofNat']
    exact Nat.mod_eq_of_lt small
  have enough : ¬ (uncomp ++ tail).length < uncomp.length := by simp
  unfold pred1Decompress
  simp only [List.cons_append, flag, length, size, ne_eq, not_true, if_false, enough]
  simp only [List.take_left', List.drop_left']
  exact ⟨_, rfl⟩

end Packet

/-- A frame that was compressed is decompressed to itself where the decoder is in step,
and both sides advance their guesses over it. -/
theorem pred1Decompress_pred1Compress {p q : Pred1Info} (inStep : q.input = p.output)
    {plain : Bytes} (short : plain.length ≤ pred1DecompBufSize) :
    ∃ recv_stats, pred1Decompress q (pred1Compress p plain).1 =
      (.frame plain, { q with input := (compress p.output plain).2, recv_stats }) := by
  have small : plain.length ≤ 4096 := short
  unfold pred1Compress
  dsimp only
  split_ifs with compressed
  · have decoded := decompress_compress p.output plain short (by decide : 8 ∣ pred1DecompBufSize)
    rw [← inStep] at decoded
    obtain ⟨flag, length⟩ := pred1Header_compressed short
    obtain ⟨recv_stats, decompressed⟩ :=
      pred1Decompress_compressed q flag length (length_fcsBytes _) decoded
    obtain ⟨recv_stats', good⟩ := pred1CheckFcs_good
      { q with input := (compress q.input plain).2, recv_stats } short
    refine ⟨recv_stats', ?_⟩
    rw [← inStep, decompressed, good]
  · obtain ⟨flag, length⟩ := pred1Header_plain short
    obtain ⟨recv_stats, decompressed⟩ := pred1Decompress_plain q flag length (by omega)
    obtain ⟨recv_stats', good⟩ := pred1CheckFcs_good
      { q with input := syncTable q.input plain, recv_stats } short
    refine ⟨recv_stats', ?_⟩
    rw [decompressed, good, guess_compress, ← inStep, syncTable_eq]

structure Pred1Peers where
  sender : Pred1Info
  receiver : Pred1Info
  results : List Pred1Result

/-- A frame is compressed by the sender, and its packet decompressed by the receiver. -/
def Pred1Peers.send (peers : Pred1Peers) (frame : Bytes) : Pred1Peers :=
  let packed := pred1Compress peers.sender frame
  let plain := pred1Decompress peers.receiver packed.1
  ⟨packed.2, plain.2, peers.results ++ [plain.1]⟩

/-- Two ends that have just initialised the compression of one direction. -/
def Pred1Peers.init (sender receiver : Pred1Info) : Pred1Peers :=
  ⟨{ sender with output := .init }, { receiver with input := .init }, []⟩

/-- The frames of a session arrive unchanged, and the decoder ends in step. -/
theorem pred1_session (peers : Pred1Peers) (inStep : peers.receiver.input = peers.sender.output)
    {frames : List Bytes} (short : ∀ frame ∈ frames, frame.length ≤ pred1DecompBufSize) :
    (Transition.run Pred1Peers.send peers frames).results =
        peers.results ++ frames.map .frame ∧
      (Transition.run Pred1Peers.send peers frames).receiver.input =
        (Transition.run Pred1Peers.send peers frames).sender.output := by
  induction frames generalizing peers with
  | nil => simp [inStep]
  | cons frame frames ih =>
      have first := short frame List.mem_cons_self
      have others : ∀ other ∈ frames, other.length ≤ pred1DecompBufSize := fun other member =>
        short other (List.mem_cons_of_mem frame member)
      obtain ⟨recv_stats, decompressed⟩ := pred1Decompress_pred1Compress inStep first
      have advanced : (peers.send frame).receiver.input = (peers.send frame).sender.output := by
        unfold Pred1Peers.send
        dsimp only
        rw [decompressed]
        rfl
      have received : (peers.send frame).results = peers.results ++ [.frame frame] := by
        unfold Pred1Peers.send
        dsimp only
        rw [decompressed]
      obtain ⟨results, still⟩ := ih _ advanced others
      refine ⟨?_, still⟩
      rw [Transition.run_cons, results, received, List.append_assoc]
      rfl

/-- After each frame of a session that starts with cleared tables, every frame so far has
come back unchanged, none has led to a Reset-Request, and both ends guess alike. -/
theorem pred1_roundTrip (sender receiver : Pred1Info) {frames : List Bytes}
    (short : ∀ frame ∈ frames, frame.length ≤ 4096) (sent : Nat) :
    let peers := Transition.run Pred1Peers.send (.init sender receiver) (frames.take sent)
    peers.results = (frames.take sent).map .frame ∧
      peers.receiver.input = peers.sender.output := by
  have prefixes : ∀ frame ∈ frames.take sent, frame.length ≤ pred1DecompBufSize :=
    fun frame member => short frame (List.mem_of_mem_take member)
  exact pred1_session (.init sender receiver) rfl prefixes

theorem pred1_roundTrip_repeated :
    let peers := Transition.run Pred1Peers.send (.init .init .init)
      ([[1, 1, 1, 1, 1, 1, 1, 1, 1, 1], [], [1, 1, 2]].take 3)
    peers.results = ([[1, 1, 1, 1, 1, 1, 1, 1, 1, 1], [], [1, 1, 2]].take 3).map .frame ∧
      peers.receiver.input = peers.sender.output :=
  pred1_roundTrip .init .init (by decide) 3

end Session

end Mpd
