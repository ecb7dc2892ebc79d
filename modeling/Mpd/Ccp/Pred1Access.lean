import Mpd.Ccp.Pred1

/-! Which bytes `Pred1Decompress` reads and writes. The packet lies in a memory
that goes on behind it, and every access is recorded. -/

set_option autoImplicit false

namespace Mpd

/-- The variables of `Decompress`: the place of `source` in the packet, what is
left of `slen` and `dlen`, the bytes at `orgdest` and the places that were read. -/
structure Pred1Cursor where
  guess : Guess
  source : Nat
  slen : Int
  dlen : Nat
  dest : Bytes
  reads : List Nat

namespace Pred1Cursor

/-- `*source++` with `slen--`. -/
def advance (c : Pred1Cursor) : Pred1Cursor :=
  { c with source := c.source + 1, slen := c.slen - 1, reads := c.reads ++ [c.source] }

/-- `IHASH(*dest++)` with `dlen--`, for the byte that was put there. -/
def put (c : Pred1Cursor) (x : UInt8) : Pred1Cursor :=
  { c with guess := c.guess.hashByte x, dlen := c.dlen - 1, dest := c.dest ++ [x] }

def store (c : Pred1Cursor) (x : UInt8) : Pred1Cursor :=
  { c with guess := c.guess.store x }

end Pred1Cursor

variable (mem : Nat → UInt8)

/-- The inner loop of `Decompress`, with the number of flag bits that are left,
and whether it returned for want of space. -/
def decompressGroupAt (flags : UInt8) : Nat → Pred1Cursor → Bool × Pred1Cursor
  | 0, c => (false, c)
  | left + 1, c =>
      if c.dlen = 0 then (true, c)
      else if flags &&& bitmask left ≠ 0 then decompressGroupAt flags left (c.put c.guess.next)
      else if c.slen = 0 then (false, c)
      else
        let x := mem c.source
        decompressGroupAt flags left ((c.advance.store x).put x)

structure GroupStep (before after : Pred1Cursor) : Prop where
  dest : after.dest.length + after.dlen = before.dest.length + before.dlen
  limit : after.source + after.slen = before.source + before.slen
  reads : before.reads <+: after.reads
  progress : before.source ≤ after.source
  inside : ∀ place ∈ after.reads, place ∈ before.reads ∨
    before.source ≤ place ∧ (0 ≤ before.slen → (place : Int) < before.source + before.slen)
  nonneg : 0 ≤ before.slen → 0 ≤ after.slen
  space : after.dlen ≤ before.dlen

theorem GroupStep.refl (c : Pred1Cursor) : GroupStep c c where
  dest := rfl
  limit := rfl
  reads := List.prefix_rfl
  progress := Nat.le_refl _
  inside := fun _ member => .inl member
  nonneg := fun nonneg => nonneg
  space := Nat.le_refl _

theorem GroupStep.trans {first second third : Pred1Cursor} (step : GroupStep first second)
    (next : GroupStep second third) : GroupStep first third where
  dest := by rw [next.dest, step.dest]
  limit := by rw [next.limit, step.limit]
  reads := step.reads.trans next.reads
  progress := Nat.le_trans step.progress next.progress
  inside := by
    intro place member
    rcases next.inside place member with earlier | ⟨from_, within⟩
    · exact step.inside place earlier
    · refine .inr ⟨Nat.le_trans step.progress from_, ?_⟩
      intro nonneg
      have limit := step.limit
      have below := within (step.nonneg nonneg)
      omega
  nonneg := fun nonneg => next.nonneg (step.nonneg nonneg)
  space := Nat.le_trans next.space step.space

theorem GroupStep.put {c : Pred1Cursor} (space : c.dlen ≠ 0) (x : UInt8) :
    GroupStep c (c.put x) where
  dest := by
    simp only [Pred1Cursor.put, List.length_append, List.length_singleton]
    omega
  limit := rfl
  reads := List.prefix_rfl
  progress := Nat.le_refl _
  inside := fun _ member => .inl member
  nonneg := fun nonneg => nonneg
  space := Nat.sub_le _ _

theorem GroupStep.store (c : Pred1Cursor) (x : UInt8) : GroupStep c (c.store x) where
  dest := rfl
  limit := rfl
  reads := List.prefix_rfl
  progress := Nat.le_refl _
  inside := fun _ member => .inl member
  nonneg := fun nonneg => nonneg
  space := Nat.le_refl _

theorem GroupStep.advance {c : Pred1Cursor} (more : c.slen ≠ 0) : GroupStep c c.advance where
  dest := rfl
  limit := by
    simp only [Pred1Cursor.advance]
    omega
  reads := List.prefix_append _ _
  progress := Nat.le_succ _
  inside := by
    intro place member
    rcases List.mem_append.mp member with earlier | now
    · exact .inl earlier
    · have here := List.mem_singleton.mp now
      right
      omega
  nonneg := by
    intro nonneg
    simp only [Pred1Cursor.advance]
    omega
  space := Nat.le_refl _

theorem decompressGroupAt_step (flags : UInt8) (left : Nat) (c : Pred1Cursor) :
    GroupStep c (decompressGroupAt mem flags left c).2 := by
  fun_induction decompressGroupAt mem flags left c with
  | case1 c => exact .refl c
  | case2 left c full => exact .refl c
  | case3 left c space bit ih => exact (GroupStep.put space _).trans ih
  | case4 left c space bit ended => exact .refl c
  | case5 left c space bit more x ih =>
      exact ((GroupStep.advance more).trans (GroupStep.store _ x)).trans
        ((GroupStep.put (c := c.advance.store x) space x).trans ih)

theorem decompressGroupAt_shrinks (flags : UInt8) (left : Nat) (c : Pred1Cursor)
    (finished : (decompressGroupAt mem flags (left + 1) c).1 = false) :
    (decompressGroupAt mem flags (left + 1) c).2.slen = 0 ∨
      (decompressGroupAt mem flags (left + 1) c).2.dlen < c.dlen := by
  unfold decompressGroupAt at finished ⊢
  split_ifs at finished ⊢ with full bit ended
  · have kept := (decompressGroupAt_step mem flags left (c.put c.guess.next)).space
    have less : (c.put c.guess.next).dlen = c.dlen - 1 := rfl
    right
    omega
  · exact .inl ended
  · have kept := (decompressGroupAt_step mem flags left
      ((c.advance.store (mem c.source)).put (mem c.source))).space
    have less : ((c.advance.store (mem c.source)).put (mem c.source)).dlen = c.dlen - 1 := rfl
    exact .inr (Nat.lt_of_le_of_lt kept (by omega))

/-- The loop of `Decompress`. A negative `slen` does not end it: then the space
for the output does. -/
def decompressAt (c : Pred1Cursor) : Bool × Pred1Cursor :=
  if c.slen = 0 then (false, c)
  else
    let group := decompressGroupAt mem (mem c.source) 8 c.advance
    if group.1 then group else decompressAt group.2
  termination_by if c.slen = 0 then 0 else c.dlen + 1
  decreasing_by
    rename_i more running
    have shrinks : (decompressGroupAt mem (mem c.source) 8 c.advance).2.slen = 0 ∨
        (decompressGroupAt mem (mem c.source) 8 c.advance).2.dlen < c.dlen :=
      decompressGroupAt_shrinks mem (mem c.source) 7 c.advance (by simpa using running)
    rw [if_neg more]
    split_ifs with ended
    · exact Nat.succ_pos _
    · rcases shrinks with done | less
      · exact absurd done ended
      · omega

/-- The places that the whole loop reads, and how many bytes it puts out. -/
theorem decompressAt_step (c : Pred1Cursor) : GroupStep c (decompressAt mem c).2 := by
  fun_induction decompressAt mem c with
  | case1 c ended => exact .refl c
  | case2 c more group full =>
      exact (GroupStep.advance more).trans (decompressGroupAt_step mem (mem c.source) 8 c.advance)
  | case3 c more group running ih =>
      exact ((GroupStep.advance more).trans
        (decompressGroupAt_step mem (mem c.source) 8 c.advance)).trans ih

/-- A group does not run out of space while it has a byte for every flag. -/
theorem decompressGroupAt_roomy (flags : UInt8) (left : Nat) (c : Pred1Cursor)
    (roomy : left ≤ c.dlen) : (decompressGroupAt mem flags left c).1 = false := by
  fun_induction decompressGroupAt mem flags left c with
  | case1 c => rfl
  | case2 left c full => omega
  | case3 left c space bit ih => exact ih (Nat.le_sub_one_of_lt roomy)
  | case4 left c space bit ended => rfl
  | case5 left c space bit more x ih => exact ih (Nat.le_sub_one_of_lt roomy)

theorem GroupStep.negative {before after : Pred1Cursor} (step : GroupStep before after)
    (negative : before.slen < 0) : after.slen < 0 := by
  have limit := step.limit
  have progress := step.progress
  omega

theorem read_source (c : Pred1Cursor) (more : c.slen ≠ 0) :
    c.source ∈ (decompressAt mem c).2.reads := by
  have first : c.source ∈ c.advance.reads := List.mem_append_right _ (List.mem_singleton_self _)
  have group := decompressGroupAt_step mem (mem c.source) 8 c.advance
  unfold decompressAt
  rw [if_neg more]
  dsimp only
  split_ifs
  · exact group.reads.subset first
  · exact (decompressAt_step mem _).reads.subset (group.reads.subset first)

/-- It has read a second group of flags by then. -/
theorem read_of_negative (c : Pred1Cursor) (negative : c.slen < 0) (roomy : 8 ≤ c.dlen) :
    ∃ place ∈ (decompressAt mem c).2.reads, c.source + 1 ≤ place := by
  have more : c.slen ≠ 0 := by omega
  have kept := decompressGroupAt_roomy mem (mem c.source) 8 c.advance roomy
  have group := decompressGroupAt_step mem (mem c.source) 8 c.advance
  have after := ((GroupStep.advance more).trans group).negative negative
  have second := read_source mem (decompressGroupAt mem (mem c.source) 8 c.advance).2
    (Int.ne_of_lt after)
  unfold decompressAt
  rw [if_neg more]
  simp only [kept, Bool.false_eq_true, if_false]
  exact ⟨_, second, group.progress⟩

structure Pred1Run where
  result : Pred1Result
  info : Pred1Info
  reads : List Nat
  written : Nat

/-- `Pred1Decompress` from the check of the CRC on, which reads two bytes at `cp`. -/
def pred1CheckFcsAt (p : Pred1Info) (len : UInt16) (uncomp : Bytes) (cp : Nat)
    (reads : List Nat) : Pred1Run :=
  let checked := pred1CheckFcs p len uncomp [mem cp, mem (cp + 1)]
  { result := checked.1
    info := checked.2
    reads := reads ++ [cp, cp + 1]
    written := uncomp.length }

def pred1Flag : UInt16 := be16 (mem 0) (mem 1) &&& 0x8000

def pred1Length : UInt16 := be16 (mem 0) (mem 1) &&& 0x7fff

def pred1Cursor (input : Guess) (orglen : Nat) : Pred1Cursor :=
  ⟨input, 2, (orglen : Int) - 4, pred1DecompBufSize, [], [0, 1]⟩

/-- `Pred1Decompress` on a packet of `orglen` bytes at the start of the memory. -/
def pred1DecompressAt (p : Pred1Info) (orglen : Nat) : Pred1Run :=
  let stats := { p.recv_stats with
    InOctets := p.recv_stats.InOctets + UInt64.ofNat orglen }
  let len := pred1Length mem
  if pred1Flag mem ≠ 0 then
    let p := { p with recv_stats := { stats with FramesComp := stats.FramesComp + 1 } }
    let plain := decompressAt mem (pred1Cursor p.input orglen)
    -- the -1 of a full buffer becomes 65535 in `len1`
    let len1 : UInt16 := if plain.1 then 65535 else UInt16.ofNat plain.2.dest.length
    if len ≠ len1 then
      { result := (pred1Reset p).1, info := (pred1Reset p).2, reads := plain.2.reads
        written := plain.2.dest.length }
    else
      pred1CheckFcsAt mem { p with input := plain.2.guess } len plain.2.dest (orglen - 2)
        plain.2.reads
  else
    let p := { p with recv_stats := { stats with FramesUncomp := stats.FramesUncomp + 1 } }
    let uncomp := (List.range' 2 len.toNat).map mem
    pred1CheckFcsAt mem { p with input := syncTable p.input uncomp } len uncomp (2 + len.toNat)
      ([0, 1] ++ List.range' 2 len.toNat)

section Bounds

/-- The packet has room for its header and its check, and if it is plain, for the
data that it announces, which must not be more than the buffer takes. -/
def Pred1Sized (orglen : Nat) : Prop :=
  4 ≤ orglen ∧ (pred1Flag mem ≠ 0 ∨
    (pred1Length mem).toNat + 4 ≤ orglen ∧ (pred1Length mem).toNat ≤ pred1DecompBufSize)

/-- What a run returns: nothing, after the request for a reset, or the bytes that
were announced, with the check that belongs to them. -/
def Pred1Returned (run : Pred1Run) (orglen : Nat) : Prop :=
  run.result = .resetReq ∨
    ∃ uncomp, run.result = .frame uncomp ∧ uncomp.length = (pred1Length mem).toNat ∧
      let cp := if pred1Flag mem ≠ 0 then orglen - 2 else 2 + (pred1Length mem).toNat
      crc16 (crc16 (crc16 pppInitFcs (putBe16 (pred1Length mem))) uncomp) [mem cp, mem (cp + 1)] =
        pppGoodFcs

theorem pred1Length_le : (pred1Length mem).toNat ≤ 32767 := by
  rw [pred1Length, UInt16.toNat_and]
  exact Nat.and_le_right

theorem pred1CheckFcs_returned (p : Pred1Info) (len : UInt16) (uncomp : Bytes) (a b : UInt8) :
    (pred1CheckFcs p len uncomp [a, b]).1 = .resetReq ∨
      (pred1CheckFcs p len uncomp [a, b]).1 = .frame uncomp ∧
        crc16 (crc16 (crc16 pppInitFcs (putBe16 len)) uncomp) [a, b] = pppGoodFcs := by
  unfold pred1CheckFcs
  dsimp only
  split_ifs with bad
  · exact .inl rfl
  · exact .inr ⟨rfl, not_not.mp bad⟩

theorem written_decompressAt (input : Guess) (orglen : Nat) :
    (decompressAt mem (pred1Cursor input orglen)).2.dest.length ≤ pred1DecompBufSize := by
  have dest := (decompressAt_step mem (pred1Cursor input orglen)).dest
  simp only [pred1Cursor, List.length_nil, Nat.zero_add] at dest ⊢
  omega

theorem pred1DecompressAt_returned (p : Pred1Info) (orglen : Nat) :
    Pred1Returned mem (pred1DecompressAt mem p orglen) orglen := by
  unfold Pred1Returned pred1DecompressAt
  by_cases flag : pred1Flag mem = 0
  · simp only [flag, ne_eq, not_true_eq_false, if_false]
    rcases pred1CheckFcs_returned _ (pred1Length mem)
      ((List.range' 2 (pred1Length mem).toNat).map mem) (mem (2 + (pred1Length mem).toNat))
      (mem (2 + (pred1Length mem).toNat + 1)) with reset | ⟨frame, good⟩
    · exact .inl reset
    · exact .inr ⟨_, frame, by simp, good⟩
  · simp only [flag, ne_eq, not_false_eq_true, if_true]
    have written := written_decompressAt mem p.input orglen
    generalize decompressAt mem (pred1Cursor p.input orglen) = plain at written ⊢
    by_cases other : pred1Length mem ≠
        if plain.1 = true then 65535 else UInt16.ofNat plain.2.dest.length
    · rw [if_pos other]
      exact .inl rfl
    · rw [if_neg other]
      have same := not_not.mp other
      have bounded := pred1Length_le mem
      rcases pred1CheckFcs_returned _ (pred1Length mem) plain.2.dest (mem (orglen - 2))
        (mem (orglen - 2 + 1)) with reset | ⟨frame, good⟩
      · exact .inl reset
      · refine .inr ⟨_, frame, ?_, good⟩
        split_ifs at same with full
        · rw [same] at bounded
          exact absurd bounded (by decide)
        · have small : plain.2.dest.length ≤ 4096 := written
          rw [same, UInt16.toNat_ofNat']
          omega

theorem pred1DecompressAt_inside_iff (p : Pred1Info) (orglen : Nat) :
    ((∀ place ∈ (pred1DecompressAt mem p orglen).reads, place < orglen) ∧
      (pred1DecompressAt mem p orglen).written ≤ pred1DecompBufSize) ↔
      Pred1Sized mem orglen := by
  unfold Pred1Sized
  by_cases flag : pred1Flag mem = 0
  · have reads : (pred1DecompressAt mem p orglen).reads =
        [0, 1] ++ List.range' 2 (pred1Length mem).toNat ++
          [2 + (pred1Length mem).toNat, 2 + (pred1Length mem).toNat + 1] := by
      simp only [pred1DecompressAt, flag, ne_eq, not_true_eq_false, if_false, pred1CheckFcsAt]
    have written : (pred1DecompressAt mem p orglen).written = (pred1Length mem).toNat := by
      simp [pred1DecompressAt, flag, pred1CheckFcsAt]
    rw [reads, written]
    simp only [flag, ne_eq, not_true_eq_false, false_or]
    constructor
    · rintro ⟨inside, fits⟩
      have last := inside (2 + (pred1Length mem).toNat + 1) (by simp)
      omega
    · rintro ⟨-, room, fits⟩
      refine ⟨?_, fits⟩
      intro place member
      simp only [List.mem_append, List.mem_cons, List.not_mem_nil, or_false,
        List.mem_range'_1] at member
      omega
  · simp only [flag, ne_eq, not_false_eq_true, true_or, and_true]
    have step := decompressAt_step mem (pred1Cursor p.input orglen)
    have fits := written_decompressAt mem p.input orglen
    have short (small : orglen < 4) := read_of_negative mem (pred1Cursor p.input orglen)
      (by simp only [pred1Cursor]; omega) (by change 8 ≤ pred1DecompBufSize; decide)
    -- The check reads the last two bytes, if the run comes to it.
    have shape : ∃ checked, (checked = [] ∨ checked = [orglen - 2, orglen - 2 + 1]) ∧
        (pred1DecompressAt mem p orglen).reads =
          (decompressAt mem (pred1Cursor p.input orglen)).2.reads ++ checked ∧
        (pred1DecompressAt mem p orglen).written =
          (decompressAt mem (pred1Cursor p.input orglen)).2.dest.length := by
      simp only [pred1DecompressAt, flag, ne_eq, not_false_eq_true, if_true]
      generalize decompressAt mem (pred1Cursor p.input orglen) = plain
      split_ifs
      · exact ⟨_, .inr rfl, rfl, rfl⟩
      · exact ⟨[], .inl rfl, (List.append_nil _).symm, rfl⟩
      · exact ⟨_, .inr rfl, rfl, rfl⟩
      · exact ⟨[], .inl rfl, (List.append_nil _).symm, rfl⟩
    obtain ⟨checked, last, reads, written⟩ := shape
    rw [reads, written]
    constructor
    · rintro ⟨inside, -⟩
      by_contra small
      obtain ⟨place, member, beyond⟩ := short (Nat.lt_of_not_le small)
      have within := inside place (List.mem_append_left _ member)
      simp only [pred1Cursor] at beyond
      omega
    · intro room
      refine ⟨?_, fits⟩
      intro place member
      rcases List.mem_append.mp member with looped | final
      · rcases step.inside place looped with header | ⟨-, within⟩
        · simp only [pred1Cursor, List.mem_cons, List.not_mem_nil, or_false] at header
          omega
        · simp only [pred1Cursor] at within
          have below := within (by omega)
          omega
      · rcases last with none | both
        · rw [none] at final
          cases final
        · rw [both] at final
          simp only [List.mem_cons, List.not_mem_nil, or_false] at final
          omega

end Bounds

section Agreement

variable {mem}

structure Holds (mem : Nat → UInt8) (c : Pred1Cursor) (source : Bytes) : Prop where
  slen : c.slen = source.length
  bytes : source = (List.range' c.source source.length).map mem

theorem Holds.cons {c : Pred1Cursor} {x : UInt8} {source : Bytes}
    (holds : Holds mem c (x :: source)) : mem c.source = x ∧ Holds mem c.advance source := by
  have slen := holds.slen
  have bytes := holds.bytes
  rw [List.length_cons, List.range'_succ, List.map_cons, List.cons.injEq] at bytes
  refine ⟨bytes.1.symm, ?_, bytes.2⟩
  simp only [Pred1Cursor.advance, slen, List.length_cons]
  omega

def GroupAgrees (mem : Nat → UInt8) (before : Pred1Cursor) (after : Bool × Pred1Cursor) :
    Option Pred1Plain → Prop
  | none => after.1 = true
  | some plain =>
      after.1 = false ∧ Holds mem after.2 plain.source ∧ after.2.guess = plain.guess ∧
        after.2.dlen = plain.dlen ∧ after.2.dest = before.dest ++ plain.dest

theorem GroupAgrees.cons {c next : Pred1Cursor} {after : Bool × Pred1Cursor}
    {plain : Option Pred1Plain} {x : UInt8} (agrees : GroupAgrees mem next after plain)
    (dest : next.dest = c.dest ++ [x]) : GroupAgrees mem c after (plain.map (·.cons x)) := by
  cases plain with
  | none => exact agrees
  | some plain =>
      obtain ⟨finished, holds, guess, dlen, dest'⟩ := agrees
      refine ⟨finished, holds, guess, dlen, ?_⟩
      rw [dest', dest, List.append_assoc]
      rfl

theorem decompressGroupAt_agrees {flags : UInt8} {left : Nat} {c : Pred1Cursor} {source : Bytes}
    (holds : Holds mem c source) :
    GroupAgrees mem c (decompressGroupAt mem flags left c)
      (decompressGroup flags left c.guess source c.dlen) := by
  induction left generalizing c source with
  | zero => exact ⟨rfl, holds, rfl, rfl, (List.append_nil _).symm⟩
  | succ left ih =>
      cases space : c.dlen with
      | zero =>
          rw [decompressGroupAt, if_pos space]
          exact rfl
      | succ dlen =>
          have room : c.dlen ≠ 0 := by omega
          unfold decompressGroupAt decompressGroup
          rw [if_neg room]
          by_cases bit : flags &&& bitmask left = 0
          · have unset : ¬ flags &&& bitmask left ≠ 0 := not_not.mpr bit
            rw [if_neg unset, if_neg unset]
            cases source with
            | nil =>
                have ended : c.slen = 0 := holds.slen
                rw [if_pos ended]
                exact ⟨rfl, holds, rfl, space, (List.append_nil _).symm⟩
            | cons x rest =>
                obtain ⟨read, held⟩ := holds.cons
                have slen := holds.slen
                have more : c.slen ≠ 0 := by
                  rw [slen, List.length_cons]
                  omega
                have less : ((c.advance.store x).put x).dlen = dlen := by
                  change c.dlen - 1 = dlen
                  omega
                have later : Holds mem ((c.advance.store x).put x) rest := ⟨held.slen, held.bytes⟩
                have inner := ih later
                rw [less] at inner
                rw [if_neg more, read]
                exact inner.cons rfl
          · rw [if_pos bit, if_pos bit]
            have less : (c.put c.guess.next).dlen = dlen := by
              change c.dlen - 1 = dlen
              omega
            have later : Holds mem (c.put c.guess.next) source := ⟨holds.slen, holds.bytes⟩
            have inner := ih later
            rw [less] at inner
            exact inner.cons rfl

def LoopAgrees (before : Pred1Cursor) (after : Bool × Pred1Cursor) : Option (Bytes × Guess) → Prop
  | none => after.1 = true
  | some plain =>
      after.1 = false ∧ after.2.guess = plain.2 ∧ after.2.dest = before.dest ++ plain.1

theorem decompressAt_agrees {c : Pred1Cursor} {source : Bytes} (holds : Holds mem c source) :
    LoopAgrees c (decompressAt mem c) (decompress c.guess source c.dlen) := by
  induction sized : source.length using Nat.strongRecOn generalizing c source with
  | ind size ih =>
      cases source with
      | nil =>
          have ended : c.slen = 0 := holds.slen
          unfold decompress decompressAt
          rw [if_pos ended]
          exact ⟨rfl, rfl, (List.append_nil _).symm⟩
      | cons flags rest =>
          obtain ⟨read, held⟩ := holds.cons
          have more : c.slen ≠ 0 := by
            rw [holds.slen, List.length_cons]
            omega
          have inner : GroupAgrees mem c.advance (decompressGroupAt mem flags 8 c.advance)
              (decompressGroup flags 8 c.guess rest c.dlen) := decompressGroupAt_agrees held
          unfold decompressAt
          rw [if_neg more, read, decompress]
          split
          · rename_i failed
            rw [failed] at inner
            have full : (decompressGroupAt mem flags 8 c.advance).1 = true := inner
            simp only [full, if_true]
            exact full
          · rename_i plain decoded
            rw [decoded] at inner
            obtain ⟨finished, holds', guess, dlen, dest⟩ := inner
            have shorter : plain.source.length < size := by
              have kept := length_source_decompressGroup decoded
              rw [← sized, List.length_cons]
              omega
            have after := ih _ shorter holds' rfl
            simp only [finished, Bool.false_eq_true, if_false]
            rw [guess, dlen] at after
            cases rest' : decompress plain.guess plain.source plain.dlen with
            | none =>
                rw [rest'] at after
                exact after
            | some plain' =>
                rw [rest'] at after
                obtain ⟨finished', guess', dest'⟩ := after
                refine ⟨finished', guess', ?_⟩
                rw [dest', dest, List.append_assoc]
                rfl

theorem packet_eq (mem : Nat → UInt8) (size : Nat) :
    (List.range (size + 2)).map mem = mem 0 :: mem 1 :: (List.range' 2 size).map mem := by
  rw [List.range_eq_range', List.range'_succ, List.range'_succ]
  rfl

theorem map_range'_append (mem : Nat → UInt8) (start first second : Nat) :
    (List.range' start (first + second)).map mem =
      (List.range' start first).map mem ++ (List.range' (start + first) second).map mem := by
  rw [← List.map_append, List.range'_append_1]

/-- On a packet of the right size the access by place agrees with the list. -/
theorem pred1DecompressAt_eq (p : Pred1Info) {orglen : Nat} (sized : Pred1Sized mem orglen) :
    ((pred1DecompressAt mem p orglen).result, (pred1DecompressAt mem p orglen).info) =
      pred1Decompress p ((List.range orglen).map mem) := by
  obtain ⟨room, fits⟩ := sized
  obtain ⟨size, rfl⟩ : ∃ size, orglen = size + 2 + 2 := ⟨orglen - 4, by omega⟩
  have counted : (mem 0 :: mem 1 :: (List.range' 2 (size + 2)).map mem).length = size + 2 + 2 := by
    simp
  rw [packet_eq]
  unfold pred1Decompress pred1DecompressAt
  dsimp only
  rw [counted]
  have length : be16 (mem 0) (mem 1) &&& 0x7fff = pred1Length mem := rfl
  by_cases flag : pred1Flag mem = 0
  · have flag' : be16 (mem 0) (mem 1) &&& 0x8000 = 0 := flag
    obtain ⟨announced, -⟩ := fits.resolve_left (not_not.mpr flag)
    obtain ⟨rest, whole⟩ : ∃ rest, size + 2 = (pred1Length mem).toNat + (rest + 2) :=
      ⟨size - (pred1Length mem).toNat, by omega⟩
    have data : ((List.range' 2 (size + 2)).map mem).take (pred1Length mem).toNat =
        (List.range' 2 (pred1Length mem).toNat).map mem := by
      rw [whole, map_range'_append, List.take_left' (by simp)]
    have check : ((List.range' 2 (size + 2)).map mem).drop (pred1Length mem).toNat =
        mem (2 + (pred1Length mem).toNat) :: mem (2 + (pred1Length mem).toNat + 1) ::
          (List.range' (2 + (pred1Length mem).toNat + 2) rest).map mem := by
      rw [whole, map_range'_append, List.drop_left' (by simp), List.range'_succ,
        List.range'_succ]
      rfl
    have enough : ¬ ((List.range' 2 (size + 2)).map mem).length < (pred1Length mem).toNat := by
      rw [List.length_map, List.length_range']
      omega
    rw [if_neg (not_not.mpr flag), if_neg (not_not.mpr flag'), length, if_neg enough, data, check]
    rfl
  · have flag' : be16 (mem 0) (mem 1) &&& 0x8000 ≠ 0 := flag
    have left : size + 2 + 2 - 4 = size := by omega
    have last : size + 2 + 2 - 2 = 2 + size := by omega
    have data : ((List.range' 2 (size + 2)).map mem).take size =
        (List.range' 2 size).map mem := by
      rw [map_range'_append, List.take_left' (by simp)]
    have check : ((List.range' 2 (size + 2)).map mem).drop size =
        [mem (2 + size), mem (2 + size + 1)] := by
      rw [map_range'_append, List.drop_left' (by simp)]
      rfl
    have holds : Holds mem (pred1Cursor p.input (size + 2 + 2)) ((List.range' 2 size).map mem) := by
      constructor
      · simp only [pred1Cursor, List.length_map, List.length_range']
        omega
      · simp [pred1Cursor]
    have agrees := decompressAt_agrees holds
    have small : ¬ size + 2 + 2 < 4 := by omega
    rw [if_pos flag, if_pos flag', if_neg small, length, left, data, check, last]
    change LoopAgrees _ _ (decompress p.input _ pred1DecompBufSize) at agrees
    generalize decompressAt mem (pred1Cursor p.input (size + 2 + 2)) = plain at agrees ⊢
    cases decoded : decompress p.input ((List.range' 2 size).map mem) pred1DecompBufSize with
    | none =>
        rw [decoded] at agrees
        have full : plain.1 = true := agrees
        have bounded := pred1Length_le mem
        have other : pred1Length mem ≠ 65535 := by
          intro same
          rw [same] at bounded
          exact absurd bounded (by decide)
        simp only [full, if_true]
        rw [if_pos other]
    | some found =>
        rw [decoded] at agrees
        obtain ⟨finished, guess, dest⟩ := agrees
        have dest' : plain.2.dest = found.1 := dest
        simp only [finished, Bool.false_eq_true, if_false, guess, dest']
        by_cases other : pred1Length mem ≠ UInt16.ofNat found.1.length
        · rw [if_pos other, if_pos other]
          rfl
        · rw [if_neg other, if_neg other]
          rfl

end Agreement

/-- `Pred1Decompress` stays inside the packet and the buffer if and only if the
packet has room for its header and its check and, if it is plain, the announced
data is there and fits. It ends for every packet, with a frame of the announced
length and a good check or with a request for a reset. -/
theorem pred1DecompressAt_safe_iff (mem : Nat → UInt8) (p : Pred1Info) (orglen : Nat) :
    (((∀ place ∈ (pred1DecompressAt mem p orglen).reads, place < orglen) ∧
      (pred1DecompressAt mem p orglen).written ≤ pred1DecompBufSize ∧
      Pred1Returned mem (pred1DecompressAt mem p orglen) orglen) ↔ Pred1Sized mem orglen) := by
  rw [← and_assoc, pred1DecompressAt_inside_iff]
  exact and_iff_left (pred1DecompressAt_returned mem p orglen)

/-- A plain packet that announces two bytes and ends after the two of its check. -/
theorem pred1DecompressAt_reads_beyond :
    ¬ ∀ place ∈ (pred1DecompressAt (fun i => if i = 1 then 2 else 0) .init 4).reads, place < 4 := by
  intro inside
  have last := inside 5 (by decide)
  omega

end Mpd
