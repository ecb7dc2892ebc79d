import Mpd.Bytes
import Mpd.Outcome
import Mpd.Region

/-! The memory buffers of `mbuf.c`, with every access to their memory checked, and every
computation that may leave the range of an `int`. -/

set_option autoImplicit false

namespace Mpd

open Outcome Region

structure Mbuf where
  size : Int
  offset : Int
  cnt : Int
  memory : Bytes
  deriving DecidableEq, Repr

inductive MbufFault where
  | assertion | outside | overflow
  deriving DecidableEq, Repr

def intMax : Int := 2147483647

/-- What is computed as an `int`. -/
def mbufInt (value : Int) : Except MbufFault Int :=
  if -intMax - 1 ≤ value ∧ value ≤ intMax then .ok value else .error .overflow

def sizeofMbuf : Int := 12

def mbufRead (bp : Mbuf) (start count : Int) : Except MbufFault Bytes :=
  if 0 ≤ start ∧ 0 ≤ count ∧ start + count ≤ bp.memory.length then
    .ok (window bp.memory start.toNat count.toNat)
  else .error .outside

def mbufWrite (bp : Mbuf) (start : Int) (block : Bytes) : Except MbufFault Mbuf :=
  if 0 ≤ start ∧ start + block.length ≤ bp.memory.length then
    .ok { bp with memory := overwrite bp.memory start.toNat block }
  else .error .outside

/-- The memory for a buffer and its structure, which `mballoc` computes as an `int` before it
takes the structure off. -/
def mbufAmount (size : Int) : Int :=
  if size = 0 then 64
  else if size < 512 then ((size - 1) / 32 + 1) * 64
  else ((size - 1) / 64 + 1) * 64 + 512

/-- What `malloc` leaves in the memory. -/
def mbufBlock (fresh : Nat → UInt8) (osize : Int) : Bytes := (List.range osize.toNat).map fresh

def mballoc (fresh : Nat → UInt8) (size : Int) : Except MbufFault Mbuf :=
  if size < 0 then .error .assertion
  else do
    let amount ← mbufInt (mbufAmount size)
    let osize := amount - sizeofMbuf
    pure
      { size := osize, offset := (osize - size) / 2, cnt := 0, memory := mbufBlock fresh osize }

def mbread (bp : Option Mbuf) (cnt : Int) : Except MbufFault (Bytes × Option Mbuf) :=
  if cnt < 0 then .error .assertion
  else
    match bp with
    | none => .ok ([], none)
    | some bp => do
        let nread := if cnt > bp.cnt then bp.cnt else cnt
        let buf ← mbufRead bp bp.offset nread
        let bp := { bp with offset := bp.offset + nread, cnt := bp.cnt - nread }
        pure (buf, if bp.cnt = 0 then none else some bp)

def mbcopy (bp : Option Mbuf) (offset cnt : Int) : Except MbufFault Bytes :=
  if offset < 0 ∨ cnt < 0 then .error .assertion
  else
    match bp with
    | none => .ok []
    | some bp =>
        if offset ≥ bp.cnt then .ok []
        else
          mbufRead bp (bp.offset + offset)
            (if cnt > bp.cnt - offset then bp.cnt - offset else cnt)

/-- `mbcopyback` where it makes room for `b` bytes in front and `e` bytes at the end. -/
def mbufMakeRoom (fresh : Nat → UInt8) (bp : Mbuf) (b e : Int) : Except MbufFault Mbuf := do
  let total ← mbufInt (b + bp.cnt + e)
  if total > bp.size then
    let nbp ← mballoc fresh total
    let old ← mbufRead bp bp.offset bp.cnt
    let nbp ← mbufWrite nbp (nbp.offset + b) old
    pure { nbp with cnt := bp.cnt }
  else
    -- the end of the data is not looked at where the head room is too small
    let reach ← (if b > bp.offset then .ok 0 else mbufInt (bp.offset + bp.cnt + e))
    if b > bp.offset ∨ reach > bp.size then
      let noff := (bp.size - total) / 2
      let old ← mbufRead bp bp.offset bp.cnt
      let bp ← mbufWrite bp (noff + b) old
      pure { bp with offset := noff }
    else pure { bp with offset := bp.offset - b }

def mbcopyback (fresh : Nat → UInt8) (bp : Option Mbuf) (offset : Int) (buf : Bytes) :
    Except MbufFault Mbuf :=
  match bp with
  | none => do
      let offset := if offset < 0 then 0 else offset
      let size ← mbufInt (offset + buf.length)
      let bp ← mballoc fresh size
      let bp ← mbufWrite bp (bp.offset + offset) buf
      pure { bp with cnt := offset + buf.length }
  | some bp => do
      let b ← (if offset > 0 then .ok 0 else mbufInt (-offset))
      let reach ← mbufInt (offset + buf.length)
      let e := if reach > bp.cnt then reach - bp.cnt else 0
      let cnt := b + bp.cnt + e
      let bp ← mbufMakeRoom fresh bp b e
      mbufWrite { bp with cnt := cnt } (bp.offset + offset + b) buf

def mbtrunc (bp : Option Mbuf) (max : Int) : Except MbufFault (Option Mbuf) :=
  if max < 0 then .error .assertion
  else .ok (bp.map fun bp => if bp.cnt > max then { bp with cnt := max } else bp)

def mbadj (bp : Option Mbuf) (cnt : Int) : Except MbufFault (Option Mbuf) :=
  match bp with
  | none => .ok none
  | some bp =>
      if cnt ≥ 0 then
        if bp.cnt > cnt then .ok (some { bp with cnt := bp.cnt - cnt, offset := bp.offset + cnt })
        else .ok (some { bp with cnt := 0 })
      else do
        let less ← mbufInt (-cnt)
        if bp.cnt > less then pure (some { bp with cnt := bp.cnt - less })
        else pure (some { bp with cnt := 0 })

def mbsplit (fresh : Nat → UInt8) (bp : Option Mbuf) (cnt : Int) :
    Except MbufFault (Option Mbuf × Option Mbuf) :=
  if cnt < 0 then .error .assertion
  else
    match bp with
    | none => .ok (none, none)
    | some bp =>
        if bp.cnt ≤ cnt then .ok (some bp, none)
        else do
          let nbp ← mballoc fresh (bp.cnt - cnt)
          let rest ← mbufRead bp (bp.offset + cnt) (bp.cnt - cnt)
          let nbp ← mbufWrite nbp nbp.offset rest
          pure (some { bp with cnt := cnt }, some { nbp with cnt := bp.cnt - cnt })

/-- The data lie in the memory, whose size is an `int`. -/
structure Mbuf.Valid (bp : Mbuf) : Prop where
  offset : 0 ≤ bp.offset
  cnt : 0 ≤ bp.cnt
  within : bp.offset + bp.cnt ≤ bp.size
  size : bp.memory.length = bp.size
  int : bp.size ≤ intMax

def Mbuf.contents (bp : Mbuf) : Bytes := window bp.memory bp.offset.toNat bp.cnt.toNat

/-- The most bytes for which `mballoc` computes the size of the memory. -/
def mbufMost : Int := 2147483072

section Memory

variable {bp : Mbuf}

theorem mbufInt_ok {value : Int} (least : -intMax - 1 ≤ value) (most : value ≤ intMax) :
    mbufInt value = .ok value :=
  if_pos ⟨least, most⟩

theorem mbufInt_error {value : Int} (outside : value < -intMax - 1 ∨ intMax < value) :
    mbufInt value = .error .overflow :=
  if_neg (by omega)

theorem mbufRead_ok {start count : Int} (starts : 0 ≤ start) (counts : 0 ≤ count)
    (within : start + count ≤ bp.memory.length) :
    mbufRead bp start count = .ok (window bp.memory start.toNat count.toNat) :=
  if_pos ⟨starts, counts, within⟩

theorem mbufWrite_ok (bp : Mbuf) {start : Int} (block : Bytes) (starts : 0 ≤ start)
    (within : start + block.length ≤ bp.memory.length) :
    mbufWrite bp start block =
      .ok { bp with memory := overwrite bp.memory start.toNat block } :=
  if_pos ⟨starts, within⟩

theorem Mbuf.Valid.length_contents (valid : bp.Valid) : (bp.contents.length : Int) = bp.cnt := by
  obtain ⟨offset, cnt, within, size, -⟩ := valid
  rw [Mbuf.contents, length_window (by omega)]
  omega

/-- The memory has more bytes than are asked for. -/
theorem le_mbufAmount {size : Int} (positive : 0 ≤ size) :
    size ≤ mbufAmount size - sizeofMbuf := by
  unfold mbufAmount sizeofMbuf
  split_ifs <;> omega

theorem mbufAmount_le_iff {size : Int} (positive : 0 ≤ size) :
    mbufAmount size ≤ intMax ↔ size ≤ mbufMost := by
  unfold mbufAmount intMax mbufMost
  split_ifs <;> omega

theorem mballoc_ok (fresh : Nat → UInt8) {size : Int} (positive : 0 ≤ size)
    (most : size ≤ mbufMost) :
    ∃ bp, mballoc fresh size = .ok bp ∧ bp.Valid ∧ bp.cnt = 0 ∧ bp.offset + size ≤ bp.size ∧
      bp.memory = mbufBlock fresh (mbufAmount size - sizeofMbuf) ∧
      bp.offset = (mbufAmount size - sizeofMbuf - size) / 2 := by
  have room := le_mbufAmount positive
  have fits := (mbufAmount_le_iff positive).mpr most
  have structured : 0 ≤ sizeofMbuf := by decide
  unfold mballoc
  rw [if_neg (Int.not_lt.mpr positive), mbufInt_ok (by unfold intMax; omega) fits]
  refine ⟨_, rfl, ⟨?_, Int.le_refl _, ?_, ?_, ?_⟩, rfl, ?_, rfl, rfl⟩
  · dsimp only
    omega
  · dsimp only
    omega
  · rw [mbufBlock, List.length_map, List.length_range]
    exact Int.toNat_of_nonneg (by omega)
  · dsimp only
    omega
  · dsimp only
    omega

theorem mballoc_error (fresh : Nat → UInt8) {size : Int} (positive : 0 ≤ size)
    (large : mbufMost < size) : mballoc fresh size = .error .overflow := by
  have fits := mbufAmount_le_iff positive
  unfold mballoc
  rw [if_neg (Int.not_lt.mpr positive), mbufInt_error (.inr (by omega))]
  rfl

/-- The memory in which `mbcopyback` comes to write, as it is before the data are moved there,
and the place at which they will begin. -/
def mbufRoom (fresh : Nat → UInt8) (bp : Mbuf) (b e : Int) : Bytes × Int :=
  let total := b + bp.cnt + e
  if total > bp.size then
    let osize := mbufAmount total - sizeofMbuf
    (mbufBlock fresh osize, (osize - total) / 2)
  else if b > bp.offset ∨ bp.offset + bp.cnt + e > bp.size then
    (bp.memory, (bp.size - total) / 2)
  else (bp.memory, bp.offset - b)

/-- The sizes for which the room is computed without an overflow: a new block, and the end of
the data where they may stay in place. -/
structure RoomFits (bp : Mbuf) (b e : Int) : Prop where
  block : bp.size < b + bp.cnt + e → b + bp.cnt + e ≤ mbufMost
  place : b + bp.cnt + e ≤ bp.size → b ≤ bp.offset → bp.offset + bp.cnt + e ≤ intMax

/-- The buffer has the room, with the data in their place and the memory around them as it
was. -/
structure HasRoom (memory : Bytes) (place : Int) (bp after : Mbuf) (b e : Int) : Prop where
  size : after.memory.length = after.size
  int : after.size ≤ intMax
  offset : after.offset = place
  starts : 0 ≤ place
  within : place + (b + bp.cnt + e) ≤ after.size
  data : window after.memory (place.toNat + b.toNat) bp.cnt.toNat = bp.contents
  front : window after.memory place.toNat b.toNat = window memory place.toNat b.toNat
  back : window after.memory (place.toNat + b.toNat + bp.cnt.toNat) e.toNat =
    window memory (place.toNat + b.toNat + bp.cnt.toNat) e.toNat

/-- The data are moved to a place that has room on both sides. -/
theorem hasRoom_moved (valid : bp.Valid) {b e place : Int} (front : 0 ≤ b) (back : 0 ≤ e)
    {memory : Bytes} {size cnt : Int} (sized : memory.length = size) (int : size ≤ intMax)
    (starts : 0 ≤ place) (within : place + (b + bp.cnt + e) ≤ size) :
    HasRoom memory place bp
      { size, offset := place, cnt,
        memory := overwrite memory (place + b).toNat bp.contents } b e := by
  have length := valid.length_contents
  have counted := valid.cnt
  have start : (place + b).toNat = place.toNat + b.toNat := Int.toNat_add starts front
  refine ⟨?_, int, rfl, starts, within, ?_, ?_, ?_⟩
  · dsimp only
    rw [length_overwrite (by omega)]
    exact sized
  · have block := @window_overwrite_self _ memory bp.contents (place + b).toNat (by omega)
    have whole : bp.contents.length = bp.cnt.toNat := by omega
    rw [whole] at block
    rw [← start]
    exact block
  · exact window_overwrite_of_apart (by omega) (.inl (by omega))
  · exact window_overwrite_of_apart (by omega) (.inr (by omega))

/-- Room is made around the data, which stay as they are. -/
theorem mbufMakeRoom_ok (fresh : Nat → UInt8) (valid : bp.Valid) {b e : Int} (front : 0 ≤ b)
    (back : 0 ≤ e) (fits : RoomFits bp b e) :
    ∃ after, mbufMakeRoom fresh bp b e = .ok after ∧
      HasRoom (mbufRoom fresh bp b e).1 (mbufRoom fresh bp b e).2 bp after b e := by
  have counted := valid.cnt
  have within := valid.within
  have offset := valid.offset
  have size := valid.size
  have int := valid.int
  have length := valid.length_contents
  have small : mbufMost ≤ intMax := by decide
  have total : mbufInt (b + bp.cnt + e) = .ok (b + bp.cnt + e) := by
    apply mbufInt_ok
    · unfold intMax
      omega
    · by_cases large : b + bp.cnt + e > bp.size
      · have block := fits.block large
        omega
      · omega
  have old : mbufRead bp bp.offset bp.cnt = .ok bp.contents :=
    mbufRead_ok offset counted (by omega)
  unfold mbufMakeRoom mbufRoom
  rw [total]
  dsimp only [bind, Except.bind]
  by_cases large : b + bp.cnt + e > bp.size
  · rw [if_pos large, if_pos large]
    obtain ⟨nbp, allocated, new, -, room, memory, placed⟩ := mballoc_ok fresh
      (show 0 ≤ b + bp.cnt + e by omega) (fits.block large)
    have starts := new.offset
    have sized := new.size
    have write := mbufWrite_ok nbp bp.contents (show 0 ≤ nbp.offset + b by omega) (by omega)
    rw [allocated]
    dsimp only
    rw [old]
    dsimp only
    rw [write, ← memory, ← placed]
    exact ⟨_, rfl, hasRoom_moved valid front back sized new.int starts room⟩
  rw [if_neg large, if_neg large]
  by_cases ahead : b > bp.offset
  · rw [if_pos ahead, if_pos (.inl ahead)]
    have write := mbufWrite_ok bp bp.contents
      (show 0 ≤ (bp.size - (b + bp.cnt + e)) / 2 + b by omega) (by omega)
    dsimp only
    rw [if_pos (.inl ahead), old]
    dsimp only
    rw [write]
    exact ⟨_, rfl, hasRoom_moved valid front back size int (by omega)
      (by dsimp only; omega)⟩
  have reach : mbufInt (bp.offset + bp.cnt + e) = .ok (bp.offset + bp.cnt + e) := by
    apply mbufInt_ok
    · unfold intMax
      omega
    · exact fits.place (by omega) (by omega)
  rw [if_neg ahead, reach]
  dsimp only
  by_cases shift : b > bp.offset ∨ bp.offset + bp.cnt + e > bp.size
  · have write := mbufWrite_ok bp bp.contents
      (show 0 ≤ (bp.size - (b + bp.cnt + e)) / 2 + b by omega) (by omega)
    rw [if_pos shift, if_pos shift, old]
    dsimp only
    rw [write]
    exact ⟨_, rfl, hasRoom_moved valid front back size int (by omega)
      (by dsimp only; omega)⟩
  · rw [if_neg shift, if_neg shift]
    refine ⟨_, rfl, size, int, rfl, by omega, by dsimp only; omega, ?_, rfl, rfl⟩
    have start : (bp.offset - b).toNat + b.toNat = bp.offset.toNat := by omega
    dsimp only
    rw [start]
    rfl

theorem mbufMakeRoom_error (fresh : Nat → UInt8) (valid : bp.Valid) {b e : Int} (front : 0 ≤ b)
    (back : 0 ≤ e) (large : ¬ RoomFits bp b e) :
    mbufMakeRoom fresh bp b e = .error .overflow := by
  have counted := valid.cnt
  have int := valid.int
  have offset := valid.offset
  unfold mbufMakeRoom
  by_cases block : bp.size < b + bp.cnt + e
  · have most : mbufMost < b + bp.cnt + e := by
      by_contra few
      exact large ⟨fun _ => by omega, fun within => by omega⟩
    by_cases most' : b + bp.cnt + e ≤ intMax
    · rw [mbufInt_ok (by unfold intMax; omega) most']
      dsimp only [bind, Except.bind]
      rw [if_pos block, mballoc_error fresh (by omega) most]
    · rw [mbufInt_error (.inr (by omega))]
      rfl
  · have place : b ≤ bp.offset ∧ intMax < bp.offset + bp.cnt + e := by
      by_contra few
      exact large ⟨fun more => absurd more block, fun _ ahead => by omega⟩
    rw [mbufInt_ok (by unfold intMax; omega) (by omega)]
    dsimp only [bind, Except.bind]
    rw [if_neg block, if_neg (by omega), mbufInt_error (.inr place.2)]

end Memory

/-- A byte string that is extended in front for a negative offset, and at the end for one past
the end, and overwritten where it is. The gap is between the old bytes and the new ones, where
these do not touch. -/
def copiedBack (gap old : Bytes) (offset : Int) (buf : Bytes) : Bytes :=
  if offset + buf.length < 0 then buf ++ gap ++ old
  else if offset > old.length then old ++ gap ++ buf
  else old.take offset.toNat ++ buf ++ old.drop (offset + buf.length).toNat

/-- The bytes that `mbcopyback` puts in front of the data, and at their end. -/
def copybackFront (offset : Int) : Int := if offset > 0 then 0 else -offset

def copybackBack (cnt offset : Int) (buf : Bytes) : Int :=
  if offset + buf.length > cnt then offset + buf.length - cnt else 0

/-- The gap that `mbcopyback` leaves: what the memory holds there in which it comes to write. -/
def copybackGap (fresh : Nat → UInt8) (bp : Option Mbuf) (offset : Int) (buf : Bytes) : Bytes :=
  match bp with
  | none =>
      let size := max offset 0 + buf.length
      let osize := mbufAmount size - sizeofMbuf
      window (mbufBlock fresh osize) ((osize - size) / 2).toNat offset.toNat
  | some bp =>
      let room := mbufRoom fresh bp (copybackFront offset) (copybackBack bp.cnt offset buf)
      if offset + buf.length < 0 then
        window room.1 (room.2.toNat + buf.length) (-(offset + buf.length)).toNat
      else window room.1 (room.2 + bp.cnt).toNat (offset - bp.cnt).toNat

/-- The sizes for which `mbcopyback` computes without an overflow. -/
def CopybackFits (bp : Option Mbuf) (offset : Int) (buf : Bytes) : Prop :=
  match bp with
  | none => max offset 0 + buf.length ≤ mbufMost
  | some bp =>
      -intMax ≤ offset ∧ offset + buf.length ≤ intMax ∧
        RoomFits bp (copybackFront offset) (copybackBack bp.cnt offset buf)

section CopiedBack

variable {old buf front back : Bytes} {offset : Int}

/-- The bytes in front and at the end are overwritten, up to the gap. -/
theorem overwrite_eq_copiedBack (inFront : (front.length : Int) = copybackFront offset)
    (atEnd : (back.length : Int) = copybackBack old.length offset buf) :
    overwrite (front ++ old ++ back) (offset + front.length).toNat buf =
      copiedBack (if offset + buf.length < 0 then front.drop buf.length
        else back.take (offset - old.length).toNat) old offset buf := by
  unfold copybackFront at inFront
  unfold copybackBack at atEnd
  unfold copiedBack overwrite
  by_cases before : offset + buf.length < 0
  · rw [if_neg (show ¬ offset > 0 by omega)] at inFront
    rw [if_neg (show ¬ offset + buf.length > old.length by omega)] at atEnd
    have place : (offset + front.length).toNat = 0 := by omega
    have none : back = [] := List.length_eq_zero_iff.mp (by omega)
    rw [if_pos before, if_pos before, place, none, List.take_zero, List.append_nil,
      List.nil_append, Nat.zero_add, List.drop_append_of_le_length (by omega),
      List.append_assoc]
  rw [if_neg before, if_neg before]
  by_cases past : offset > old.length
  · rw [if_pos (show offset > 0 by omega)] at inFront
    rw [if_pos (show offset + buf.length > old.length by omega)] at atEnd
    have none : front = [] := List.length_eq_zero_iff.mp (by omega)
    have kept : offset.toNat = old.length + (offset - old.length).toNat := by omega
    have all : (old ++ back).length ≤ offset.toNat + buf.length := by
      rw [List.length_append]
      omega
    rw [if_pos past, none, List.nil_append, List.length_nil, Int.natCast_zero, Int.add_zero,
      List.drop_of_length_le all, List.append_nil, kept, List.take_length_add_append]
  rw [if_neg past]
  have rest : (old ++ back).drop (offset + buf.length).toNat =
      old.drop (offset + buf.length).toNat := by
    rw [List.drop_append]
    have none : back.drop ((offset + buf.length).toNat - old.length) = [] := by
      rw [List.drop_eq_nil_iff]
      split_ifs at atEnd <;> omega
    rw [none, List.append_nil]
  by_cases ahead : offset > 0
  · rw [if_pos ahead] at inFront
    have none : front = [] := List.length_eq_zero_iff.mp (by omega)
    have past : offset.toNat + buf.length = (offset + buf.length).toNat := by omega
    have kept : (old ++ back).take offset.toNat = old.take offset.toNat :=
      List.take_append_of_le_length (by omega)
    rw [none, List.nil_append, List.length_nil, Int.natCast_zero, Int.add_zero, past, rest, kept]
  · rw [if_neg ahead] at inFront
    have place : (offset + front.length).toNat = 0 := by omega
    have none : offset.toNat = 0 := by omega
    have past : buf.length = front.length + (offset + buf.length).toNat := by omega
    rw [place, none, List.take_zero, List.take_zero, List.nil_append, Nat.zero_add,
      List.append_assoc front]
    congr 1
    rw [past, List.drop_length_add_append, ← past]
    exact rest

end CopiedBack

section Operations

variable {bp : Mbuf}

theorem copybackFront_nonneg (offset : Int) : 0 ≤ copybackFront offset := by
  unfold copybackFront
  split_ifs <;> omega

theorem copybackBack_nonneg (cnt offset : Int) (buf : Bytes) : 0 ≤ copybackBack cnt offset buf := by
  unfold copybackBack
  split_ifs <;> omega

theorem mbcopyback_ok (fresh : Nat → UInt8) (valid : bp.Valid) {offset : Int} {buf : Bytes}
    (fits : CopybackFits (some bp) offset buf) :
    ∃ after, mbcopyback fresh (some bp) offset buf = .ok after ∧ after.Valid ∧
      after.contents = copiedBack (copybackGap fresh (some bp) offset buf) bp.contents offset
        buf := by
  have length := valid.length_contents
  have counted := valid.cnt
  have front := copybackFront_nonneg offset
  have back := copybackBack_nonneg bp.cnt offset buf
  obtain ⟨least, most, roomFits⟩ := fits
  obtain ⟨room, made, has⟩ := mbufMakeRoom_ok fresh valid front back roomFits
  unfold mbcopyback
  dsimp only
  have first : (if offset > 0 then .ok 0 else mbufInt (-offset)) =
      (.ok (copybackFront offset) : Except MbufFault Int) := by
    unfold copybackFront
    split_ifs
    · rfl
    · exact mbufInt_ok (by unfold intMax; omega) (by omega)
  rw [first, mbufInt_ok (by omega) most]
  dsimp only [bind, Except.bind]
  have last : (if offset + buf.length > bp.cnt then offset + buf.length - bp.cnt else 0) =
    copybackBack bp.cnt offset buf := rfl
  rw [last, made]
  dsimp only
  generalize inFront : copybackFront offset = b at *
  generalize atEnd : copybackBack bp.cnt offset buf = e at *
  have place : 0 ≤ offset + b ∧ offset + b + buf.length ≤ b + bp.cnt + e := by
    unfold copybackFront at inFront
    unfold copybackBack at atEnd
    split_ifs at inFront atEnd <;> omega
  have starts := has.starts
  have within := has.within
  have sized := has.size
  have offsets := has.offset
  have write := mbufWrite_ok { room with cnt := b + bp.cnt + e } buf
    (show 0 ≤ room.offset + offset + b by omega) (by dsimp only; omega)
  refine ⟨_, write, ⟨by dsimp only; omega, by dsimp only; omega, by dsimp only; omega, ?_,
    has.int⟩, ?_⟩
  · rw [length_overwrite (by dsimp only; omega)]
    exact sized
  have frontSized : (window room.memory room.offset.toNat b.toNat).length = b.toNat :=
    length_window (by omega)
  have backSized : (window room.memory (room.offset.toNat + b.toNat + bp.cnt.toNat)
      e.toNat).length = e.toNat := length_window (by omega)
  have parts := window_parts room.memory room.offset.toNat b.toNat bp.cnt.toNat e.toNat
  have start : (room.offset + offset + b).toNat =
      room.offset.toNat + (offset + b.toNat).toNat := by omega
  have total : (b + bp.cnt + e).toNat = b.toNat + bp.cnt.toNat + e.toNat := by omega
  have written : window (overwrite room.memory (room.offset + offset + b).toNat buf)
      room.offset.toNat (b + bp.cnt + e).toNat = overwrite
        (window room.memory room.offset.toNat b.toNat ++ bp.contents ++
          window room.memory (room.offset.toNat + b.toNat + bp.cnt.toNat) e.toNat)
        (offset + (window room.memory room.offset.toNat b.toNat).length).toNat buf := by
    rw [frontSized, start, total, window_overwrite (by omega) (by omega), parts, offsets, has.data]
  refine written.trans ?_
  rw [overwrite_eq_copiedBack (by rw [frontSized, inFront]; omega)
    (by rw [backSized, length, atEnd]; omega)]
  congr 1
  unfold copybackGap
  dsimp only
  rw [inFront, atEnd, length, offsets, has.front, has.back]
  by_cases before : offset + buf.length < 0
  · have negative : b = -offset := by
      unfold copybackFront at inFront
      rw [if_neg (by omega)] at inFront
      exact inFront.symm
    rw [if_pos before, if_pos before, drop_window]
    congr 1
    omega
  · rw [if_neg before, if_neg before]
    by_cases past : offset > bp.cnt
    · have nothing : b = 0 := by
        unfold copybackFront at inFront
        rw [if_pos (by omega)] at inFront
        exact inFront.symm
      rw [take_window]
      · congr 1
        omega
      · unfold copybackBack at atEnd
        rw [if_pos (by omega)] at atEnd
        omega
    · have none : (offset - bp.cnt).toNat = 0 := by omega
      rw [none, List.take_zero, window, List.take_zero]

theorem mbcopyback_error (fresh : Nat → UInt8) (valid : bp.Valid) {offset : Int} {buf : Bytes}
    (large : ¬ CopybackFits (some bp) offset buf) :
    mbcopyback fresh (some bp) offset buf = .error .overflow := by
  unfold mbcopyback
  dsimp only
  by_cases least : offset < -intMax
  · rw [if_neg (by unfold intMax at least; omega), mbufInt_error (.inr (by omega))]
    rfl
  have first : (if offset > 0 then .ok 0 else mbufInt (-offset)) =
      (.ok (copybackFront offset) : Except MbufFault Int) := by
    unfold copybackFront
    split_ifs
    · rfl
    · exact mbufInt_ok (by unfold intMax; omega) (by omega)
  rw [first]
  dsimp only [bind, Except.bind]
  by_cases most : offset + buf.length ≤ intMax
  · rw [mbufInt_ok (by omega) most]
    dsimp only
    have unfit : ¬ RoomFits bp (copybackFront offset) (copybackBack bp.cnt offset buf) :=
      fun room => large ⟨by omega, most, room⟩
    have failed := mbufMakeRoom_error fresh valid (copybackFront_nonneg offset)
      (copybackBack_nonneg _ _ _) unfit
    unfold copybackBack at failed
    rw [failed]
  · rw [mbufInt_error (.inr (by omega))]

/-- A missing buffer is written to from an offset that is not negative. -/
theorem mbcopyback_null (fresh : Nat → UInt8) {offset : Int} {buf : Bytes}
    (fits : CopybackFits none offset buf) :
    ∃ after, mbcopyback fresh none offset buf = .ok after ∧ after.Valid ∧
      after.contents = copiedBack (copybackGap fresh none offset buf) [] (max offset 0) buf := by
  unfold CopybackFits at fits
  dsimp only at fits
  unfold mbcopyback copybackGap
  dsimp only
  have clipped : (if offset < 0 then 0 else offset) = max offset 0 := by split_ifs <;> omega
  have natural : (max offset 0).toNat = offset.toNat := by omega
  rw [clipped, ← natural]
  generalize max offset 0 = place at clipped fits ⊢
  have positive : 0 ≤ place := by split_ifs at clipped <;> omega
  have small : mbufMost ≤ intMax := by decide
  obtain ⟨bp, allocated, valid, -, room, memory, start⟩ := mballoc_ok fresh
    (show 0 ≤ place + buf.length by omega) fits
  have starts := valid.offset
  have length := valid.size
  rw [mbufInt_ok (by unfold intMax; omega) (by omega)]
  dsimp only [bind, Except.bind]
  rw [allocated]
  dsimp only
  rw [mbufWrite_ok _ _ (by omega) (by omega)]
  refine ⟨_, rfl, ⟨starts, by dsimp only; omega, room, ?_, valid.int⟩, ?_⟩
  · rw [length_overwrite (by omega)]
    exact length
  have placed : (bp.offset + place).toNat = bp.offset.toNat + place.toNat := by omega
  have total : (place + buf.length).toNat = place.toNat + buf.length := by omega
  have written : window (overwrite bp.memory (bp.offset + place).toNat buf) bp.offset.toNat
      (place + buf.length).toNat = window bp.memory bp.offset.toNat place.toNat ++ buf := by
    rw [placed, total, window_overwrite (by omega) (Nat.le_refl _), overwrite,
      take_window _ _ (Nat.le_add_right _ _), drop_window, Nat.sub_self]
    exact List.append_nil _
  refine written.trans ?_
  rw [← memory, ← start]
  unfold copiedBack
  rw [if_neg (by omega)]
  split_ifs
  · rfl
  · have none : place.toNat = 0 := by
      rw [List.length_nil] at *
      omega
    rw [none, window, List.take_zero, List.take_zero, List.drop_nil, List.append_nil]

theorem mbcopyback_null_error (fresh : Nat → UInt8) {offset : Int} {buf : Bytes}
    (large : ¬ CopybackFits none offset buf) :
    mbcopyback fresh none offset buf = .error .overflow := by
  unfold CopybackFits at large
  dsimp only at large
  unfold mbcopyback
  dsimp only
  have clipped : (if offset < 0 then 0 else offset) = max offset 0 := by split_ifs <;> omega
  rw [clipped]
  by_cases most : max offset 0 + buf.length ≤ intMax
  · rw [mbufInt_ok (by unfold intMax; omega) most]
    dsimp only [bind, Except.bind]
    rw [mballoc_error fresh (by omega) (by omega)]
  · rw [mbufInt_error (.inr (by omega))]
    rfl

theorem mbread_ok (valid : bp.Valid) {cnt : Int} (counts : 0 ≤ cnt) :
    ∃ after, mbread (some bp) cnt = .ok (bp.contents.take cnt.toNat, after) ∧
      (∀ rest ∈ after, rest.Valid) ∧
      after.map Mbuf.contents =
        if bp.contents.drop cnt.toNat = [] then none else some (bp.contents.drop cnt.toNat) := by
  have length := valid.length_contents
  obtain ⟨offset, counted, within, size, int⟩ := valid
  unfold mbread
  rw [if_neg (by omega)]
  dsimp only
  generalize asked : (if cnt > bp.cnt then bp.cnt else cnt) = nread
  have few : 0 ≤ nread ∧ nread ≤ bp.cnt := by split_ifs at asked <;> omega
  rw [mbufRead_ok offset few.1 (by omega)]
  have taken : window bp.memory bp.offset.toNat nread.toNat = bp.contents.take cnt.toNat := by
    have all : bp.contents.take cnt.toNat = bp.contents.take nread.toNat := by
      split_ifs at asked
      · rw [List.take_of_length_le (by omega), List.take_of_length_le (by omega)]
      · rw [asked]
    rw [all]
    unfold Mbuf.contents window
    rw [List.take_take, Nat.min_eq_left (by omega)]
  rw [taken]
  refine ⟨_, rfl, ?_, ?_⟩
  · intro rest member
    split at member
    · exact nomatch member
    · cases Option.mem_some_iff.mp member
      exact ⟨by dsimp only; omega, by dsimp only; omega, by dsimp only; omega, size, int⟩
  · by_cases consumed : bp.cnt - nread = 0
    · rw [if_pos consumed, if_pos]
      · rfl
      · rw [List.drop_eq_nil_iff]
        split_ifs at asked <;> omega
    · have whole : nread = cnt := by split_ifs at asked <;> omega
      rw [if_neg consumed, if_neg]
      · rw [Option.map_some, whole]
        unfold Mbuf.contents window
        dsimp only
        have start : (bp.offset + cnt).toNat = bp.offset.toNat + cnt.toNat := by omega
        have left : (bp.cnt - cnt).toNat = bp.cnt.toNat - cnt.toNat := by omega
        rw [List.drop_take, List.drop_drop, start, left]
      · rw [List.drop_eq_nil_iff]
        omega

theorem mbcopy_ok (valid : bp.Valid) {offset cnt : Int} (starts : 0 ≤ offset)
    (counts : 0 ≤ cnt) :
    mbcopy (some bp) offset cnt = .ok ((bp.contents.drop offset.toNat).take cnt.toNat) := by
  have length := valid.length_contents
  obtain ⟨placed, counted, within, size, int⟩ := valid
  unfold mbcopy
  rw [if_neg (by omega)]
  dsimp only
  by_cases past : offset ≥ bp.cnt
  · rw [if_pos past, List.drop_of_length_le (by omega), List.take_nil]
  rw [if_neg past]
  generalize asked : (if cnt > bp.cnt - offset then bp.cnt - offset else cnt) = nread
  have few : 0 ≤ nread ∧ nread ≤ bp.cnt - offset := by split_ifs at asked <;> omega
  rw [mbufRead_ok (by omega) few.1 (by omega)]
  have all : (bp.contents.drop offset.toNat).take cnt.toNat =
      (bp.contents.drop offset.toNat).take nread.toNat := by
    split_ifs at asked
    · rw [List.take_of_length_le (by rw [List.length_drop]; omega),
        List.take_of_length_le (by rw [List.length_drop]; omega)]
    · rw [asked]
  have start : (bp.offset + offset).toNat = bp.offset.toNat + offset.toNat := by omega
  rw [all, start]
  congr 1
  exact (window_window bp.memory (by omega)).symm

theorem mbtrunc_ok (valid : bp.Valid) {max : Int} (counts : 0 ≤ max) :
    ∃ after, mbtrunc (some bp) max = .ok (some after) ∧ after.Valid ∧
      after.contents = bp.contents.take max.toNat := by
  have length := valid.length_contents
  obtain ⟨offset, counted, within, size, int⟩ := valid
  unfold mbtrunc
  rw [if_neg (by omega), Option.map_some]
  refine ⟨_, rfl, ?_⟩
  split
  · refine ⟨⟨offset, counts, by dsimp only; omega, size, int⟩, ?_⟩
    unfold Mbuf.contents window
    dsimp only
    rw [List.take_take, Nat.min_eq_left (by omega)]
  · refine ⟨⟨offset, counted, within, size, int⟩, ?_⟩
    rw [List.take_of_length_le (by omega)]

theorem mbadj_ok (valid : bp.Valid) {cnt : Int} (least : -intMax ≤ cnt) :
    ∃ after, mbadj (some bp) cnt = .ok (some after) ∧ after.Valid ∧
      after.contents = if 0 ≤ cnt then bp.contents.drop cnt.toNat
        else bp.contents.take (bp.contents.length - (-cnt).toNat) := by
  have length := valid.length_contents
  obtain ⟨offset, counted, within, size, int⟩ := valid
  have emptied : ({ bp with cnt := 0 } : Mbuf).Valid :=
    ⟨offset, Int.le_refl 0, by dsimp only; omega, size, int⟩
  have nothing : ({ bp with cnt := 0 } : Mbuf).contents = [] := by
    unfold Mbuf.contents window
    exact List.take_zero
  unfold mbadj
  dsimp only
  by_cases head : 0 ≤ cnt
  · rw [if_pos head, if_pos (show cnt ≥ 0 from head)]
    by_cases some : bp.cnt > cnt
    · rw [if_pos some]
      refine ⟨_, rfl, ⟨by dsimp only; omega, by dsimp only; omega, by dsimp only; omega, size,
        int⟩, ?_⟩
      unfold Mbuf.contents
      dsimp only
      rw [drop_window]
      congr 1
      · omega
      · omega
    · rw [if_neg some, List.drop_of_length_le (by omega)]
      exact ⟨_, rfl, emptied, nothing⟩
  · rw [if_neg head, if_neg (show ¬ cnt ≥ 0 from head),
      mbufInt_ok (by unfold intMax; omega) (by omega)]
    dsimp only [bind, Except.bind]
    by_cases some : bp.cnt > -cnt
    · rw [if_pos some]
      refine ⟨_, rfl, ⟨offset, by dsimp only; omega, by dsimp only; omega, size, int⟩, ?_⟩
      have left : bp.contents.length - (-cnt).toNat = (bp.cnt - -cnt).toNat := by omega
      rw [left]
      exact (take_window _ _ (by dsimp only; omega)).symm
    · have none : bp.contents.length - (-cnt).toNat = 0 := by omega
      rw [if_neg some, none, List.take_zero]
      exact ⟨_, rfl, emptied, nothing⟩

theorem mbadj_error {cnt : Int} (large : cnt < -intMax) :
    mbadj (some bp) cnt = .error .overflow := by
  unfold mbadj
  dsimp only
  rw [if_neg (by unfold intMax at large; omega), mbufInt_error (.inr (by omega))]
  rfl

theorem mbsplit_ok (fresh : Nat → UInt8) (valid : bp.Valid) {cnt : Int} (counts : 0 ≤ cnt)
    (most : bp.cnt - cnt ≤ mbufMost) :
    ∃ head rest, mbsplit fresh (some bp) cnt = .ok (some head, rest) ∧ head.Valid ∧
      (∀ nbp ∈ rest, nbp.Valid) ∧ head.contents = bp.contents.take cnt.toNat ∧
      rest.map Mbuf.contents =
        if bp.contents.length ≤ cnt.toNat then none else some (bp.contents.drop cnt.toNat) := by
  have length := valid.length_contents
  have kept := valid
  obtain ⟨offset, counted, within, size, int⟩ := valid
  unfold mbsplit
  rw [if_neg (by omega)]
  dsimp only
  by_cases whole : bp.cnt ≤ cnt
  · rw [if_pos whole, if_pos (by omega)]
    exact ⟨bp, none, rfl, kept, nofun, (List.take_of_length_le (by omega)).symm, rfl⟩
  rw [if_neg whole, if_neg (by omega)]
  obtain ⟨nbp, allocated, fits, -, room, -⟩ := mballoc_ok fresh
    (show 0 ≤ bp.cnt - cnt by omega) most
  have starts := fits.offset
  have sized := fits.size
  have restSized : (window bp.memory (bp.offset + cnt).toNat (bp.cnt - cnt).toNat).length =
      (bp.cnt - cnt).toNat := length_window (by omega)
  rw [allocated]
  dsimp only [bind, Except.bind]
  rw [mbufRead_ok (by omega) (by omega) (by omega)]
  dsimp only
  rw [mbufWrite_ok _ _ starts (by omega)]
  refine ⟨_, _, rfl, ⟨offset, counts, by dsimp only; omega, size, int⟩, ?_, ?_, ?_⟩
  · intro other member
    cases Option.mem_some_iff.mp member
    refine ⟨starts, by dsimp only; omega, room, ?_, fits.int⟩
    rw [length_overwrite (by omega)]
    exact sized
  · unfold Mbuf.contents window
    dsimp only
    rw [List.take_take, Nat.min_eq_left (by omega)]
  · rw [Option.map_some]
    have copied := @window_overwrite_self _ nbp.memory
      (window bp.memory (bp.offset + cnt).toNat (bp.cnt - cnt).toNat) nbp.offset.toNat (by omega)
    rw [restSized] at copied
    have same : window bp.memory (bp.offset + cnt).toNat (bp.cnt - cnt).toNat =
        bp.contents.drop cnt.toNat := by
      unfold Mbuf.contents window
      have start : (bp.offset + cnt).toNat = bp.offset.toNat + cnt.toNat := by omega
      have left : (bp.cnt - cnt).toNat = bp.cnt.toNat - cnt.toNat := by omega
      rw [List.drop_take, List.drop_drop, start, left]
    exact congrArg some (copied.trans same)

theorem mbsplit_error (fresh : Nat → UInt8) {cnt : Int} (counts : 0 ≤ cnt)
    (large : mbufMost < bp.cnt - cnt) : mbsplit fresh (some bp) cnt = .error .overflow := by
  unfold mbsplit
  dsimp only
  rw [if_neg (by omega), if_neg (by unfold mbufMost at large; omega),
    mballoc_error fresh (by unfold mbufMost at large; omega) large]
  rfl

end Operations

/-- A call on buffers that are held in variables. -/
inductive MbufOp where
  | mballoc (bp : Nat) (size : Int)
  | mbread (bp : Nat) (cnt : Int)
  | mbcopy (bp : Nat) (offset cnt : Int)
  | mbcopyback (bp : Nat) (offset : Int) (buf : Bytes)
  | mbtrunc (bp : Nat) (max : Int)
  | mbadj (bp : Nat) (cnt : Int)
  | mbsplit (bp nbp : Nat) (cnt : Int)
  | mbfree (bp : Nat)
  deriving DecidableEq

/-- What the assertions at the start of a call say. -/
def MbufOp.Asserted : MbufOp → Prop
  | .mballoc _ size => 0 ≤ size
  | .mbread _ cnt | .mbsplit _ _ cnt => 0 ≤ cnt
  | .mbcopy _ offset cnt => 0 ≤ offset ∧ 0 ≤ cnt
  | .mbtrunc _ max => 0 ≤ max
  | .mbcopyback .. | .mbadj .. | .mbfree _ => True

/-- The sizes for which a call computes without an overflow. -/
def MbufOp.Fits (s : Nat → Option Mbuf) : MbufOp → Prop
  | .mballoc _ size => size ≤ mbufMost
  | .mbcopyback k offset buf => CopybackFits (s k) offset buf
  | .mbadj k cnt => s k = none ∨ -intMax ≤ cnt
  | .mbsplit k _ cnt => ∀ bp ∈ s k, bp.cnt - cnt ≤ mbufMost
  | .mbread .. | .mbcopy .. | .mbtrunc .. | .mbfree _ => True

def mbufStep (fresh : Nat → UInt8) (s : Nat → Option Mbuf) :
    MbufOp → Except MbufFault (Bytes × (Nat → Option Mbuf))
  | .mballoc k size => do
      let bp ← mballoc fresh size
      pure ([], Function.update s k (some bp))
  | .mbread k cnt => do
      let (buf, bp) ← mbread (s k) cnt
      pure (buf, Function.update s k bp)
  | .mbcopy k offset cnt => do
      let buf ← mbcopy (s k) offset cnt
      pure (buf, s)
  | .mbcopyback k offset buf => do
      let bp ← mbcopyback fresh (s k) offset buf
      pure ([], Function.update s k (some bp))
  | .mbtrunc k max => do
      let bp ← mbtrunc (s k) max
      pure ([], Function.update s k bp)
  | .mbadj k cnt => do
      let bp ← mbadj (s k) cnt
      pure ([], Function.update s k bp)
  | .mbsplit k n cnt => do
      let (bp, nbp) ← mbsplit fresh (s k) cnt
      pure ([], Function.update (Function.update s k bp) n nbp)
  | .mbfree k => .ok ([], Function.update s k none)

/-- A sequence of calls, each with what `malloc` leaves in the memory. -/
def mbufRun (s : Nat → Option Mbuf) :
    List ((Nat → UInt8) × MbufOp) → Except MbufFault (List Bytes × (Nat → Option Mbuf))
  | [] => .ok ([], s)
  | (fresh, op) :: ops => do
      let (buf, s) ← mbufStep fresh s op
      let (bufs, s) ← mbufRun s ops
      pure (buf :: bufs, s)

def mbufGap (fresh : Nat → UInt8) (s : Nat → Option Mbuf) : MbufOp → Bytes
  | .mbcopyback k offset buf => copybackGap fresh (s k) offset buf
  | _ => []

/-- The calls of a sequence with the gaps that they leave. -/
def mbufGaps (s : Nat → Option Mbuf) : List ((Nat → UInt8) × MbufOp) → List (Bytes × MbufOp)
  | [] => []
  | (fresh, op) :: ops =>
      (mbufGap fresh s op, op) ::
        match mbufStep fresh s op with
        | .ok (_, s) => mbufGaps s ops
        | .error _ => []

/-- The operation on byte strings, with what it copies out. A missing string is not the empty
one. -/
def byteStep (gap : Bytes) (s : Nat → Option Bytes) : MbufOp → Bytes × (Nat → Option Bytes)
  | .mballoc k _ => ([], Function.update s k (some []))
  | .mbread k cnt =>
      (((s k).getD []).take cnt.toNat, Function.update s k
        (if ((s k).getD []).drop cnt.toNat = [] then none
          else some (((s k).getD []).drop cnt.toNat)))
  | .mbcopy k offset cnt => ((((s k).getD []).drop offset.toNat).take cnt.toNat, s)
  | .mbcopyback k offset buf =>
      ([], Function.update s k (some (copiedBack gap ((s k).getD [])
        (if (s k).isSome then offset else max offset 0) buf)))
  | .mbtrunc k max => ([], Function.update s k ((s k).map (·.take max.toNat)))
  | .mbadj k cnt =>
      ([], Function.update s k ((s k).map fun bytes =>
        if 0 ≤ cnt then bytes.drop cnt.toNat else bytes.take (bytes.length - (-cnt).toNat)))
  | .mbsplit k n cnt =>
      ([], Function.update (Function.update s k ((s k).map (·.take cnt.toNat))) n
        ((s k).bind fun bytes =>
          if bytes.length ≤ cnt.toNat then none else some (bytes.drop cnt.toNat)))
  | .mbfree k => ([], Function.update s k none)

/-- A sequence of operations on byte strings, with the gaps that they leave. -/
def byteRun (s : Nat → Option Bytes) :
    List (Bytes × MbufOp) → List Bytes × (Nat → Option Bytes)
  | [] => ([], s)
  | (gap, op) :: ops =>
      let stepped := byteStep gap s op
      let rest := byteRun stepped.2 ops
      (stepped.1 :: rest.1, rest.2)

def mbufContents (s : Nat → Option Mbuf) (k : Nat) : Option Bytes := (s k).map Mbuf.contents

def MbufsValid (s : Nat → Option Mbuf) : Prop := ∀ k, ∀ bp ∈ s k, bp.Valid

section Machine

variable {s : Nat → Option Mbuf}

theorem MbufsValid.update (valid : MbufsValid s) (k : Nat) {bp : Option Mbuf}
    (also : ∀ m ∈ bp, m.Valid) : MbufsValid (Function.update s k bp) := by
  intro other m member
  by_cases same : other = k
  · subst same
    rw [Function.update_self] at member
    exact also m member
  · rw [Function.update_of_ne same] at member
    exact valid other m member

theorem MbufsValid.clear (valid : MbufsValid s) (k : Nat) :
    MbufsValid (Function.update s k none) := by
  apply valid.update k
  intro m member
  cases member

theorem MbufsValid.hold (valid : MbufsValid s) (k : Nat) {bp : Mbuf} (new : bp.Valid) :
    MbufsValid (Function.update s k (some bp)) := by
  apply valid.update k
  intro m member
  exact Option.mem_some_iff.mp member ▸ new

theorem mbufContents_update (s : Nat → Option Mbuf) (k : Nat) (bp : Option Mbuf) :
    mbufContents (Function.update s k bp) =
      Function.update (mbufContents s) k (bp.map Mbuf.contents) := by
  funext other
  by_cases same : other = k
  · subst same
    rw [mbufContents, Function.update_self, Function.update_self]
  · rw [mbufContents, Function.update_of_ne same, Function.update_of_ne same, mbufContents]

/-- Each call keeps the buffers valid and does to their bytes what the operation says. -/
theorem mbufStep_ok (fresh : Nat → UInt8) (valid : MbufsValid s) {op : MbufOp}
    (asserted : op.Asserted) (fits : op.Fits s) :
    ∃ buf after, mbufStep fresh s op = .ok (buf, after) ∧ MbufsValid after ∧
      (buf, mbufContents after) = byteStep (mbufGap fresh s op) (mbufContents s) op := by
  cases op with
  | mballoc k size =>
      obtain ⟨bp, allocated, new, empty, -⟩ := mballoc_ok fresh (show 0 ≤ size from asserted) fits
      refine ⟨[], Function.update s k (some bp), ?_, valid.hold k new, ?_⟩
      · unfold mbufStep
        dsimp only
        rw [allocated]
        rfl
      · have nothing : bp.contents = [] := by
          rw [Mbuf.contents, window, empty]
          exact List.take_zero
        rw [mbufContents_update, Option.map_some, nothing]
        rfl
  | mbread k cnt =>
      cases held : s k with
      | none =>
          refine ⟨[], Function.update s k none, ?_, valid.clear k, ?_⟩
          · unfold mbufStep mbread
            dsimp only
            rw [if_neg (Int.not_lt.mpr asserted), held]
            rfl
          · rw [mbufContents_update]
            simp [byteStep, mbufContents, held]
      | some bp =>
          obtain ⟨rest, read, validRest, contents⟩ := mbread_ok (valid k bp held) asserted
          refine ⟨bp.contents.take cnt.toNat, Function.update s k rest, ?_,
            valid.update k validRest, ?_⟩
          · unfold mbufStep
            dsimp only
            rw [held, read]
            rfl
          · rw [mbufContents_update, contents]
            simp [byteStep, mbufContents, held]
  | mbcopy k offset cnt =>
      cases held : s k with
      | none =>
          refine ⟨[], s, ?_, valid, ?_⟩
          · unfold mbufStep mbcopy
            dsimp only
            rw [if_neg (not_or.mpr ⟨Int.not_lt.mpr asserted.1, Int.not_lt.mpr asserted.2⟩), held]
            rfl
          · simp [byteStep, mbufContents, held]
      | some bp =>
          have copied := mbcopy_ok (valid k bp held) asserted.1 asserted.2
          refine ⟨(bp.contents.drop offset.toNat).take cnt.toNat, s, ?_, valid, ?_⟩
          · unfold mbufStep
            dsimp only
            rw [held, copied]
            rfl
          · simp [byteStep, mbufContents, held]
  | mbcopyback k offset buf =>
      cases held : s k with
      | none =>
          have small : CopybackFits none offset buf := held ▸ fits
          obtain ⟨bp, written, new, contents⟩ := mbcopyback_null fresh small
          refine ⟨[], Function.update s k (some bp), ?_, valid.hold k new, ?_⟩
          · unfold mbufStep
            dsimp only
            rw [held, written]
            rfl
          · rw [mbufContents_update, Option.map_some, contents]
            simp [byteStep, mbufGap, mbufContents, held]
      | some old =>
          have small : CopybackFits (some old) offset buf := held ▸ fits
          obtain ⟨bp, written, new, contents⟩ := mbcopyback_ok fresh (valid k old held) small
          refine ⟨[], Function.update s k (some bp), ?_, valid.hold k new, ?_⟩
          · unfold mbufStep
            dsimp only
            rw [held, written]
            rfl
          · rw [mbufContents_update, Option.map_some, contents]
            simp [byteStep, mbufGap, mbufContents, held]
  | mbtrunc k max =>
      cases held : s k with
      | none =>
          refine ⟨[], Function.update s k none, ?_, valid.clear k, ?_⟩
          · unfold mbufStep mbtrunc
            dsimp only
            rw [if_neg (Int.not_lt.mpr asserted), held]
            rfl
          · rw [mbufContents_update]
            simp [byteStep, mbufContents, held]
      | some old =>
          obtain ⟨bp, cut, new, contents⟩ := mbtrunc_ok (valid k old held) asserted
          refine ⟨[], Function.update s k (some bp), ?_, valid.hold k new, ?_⟩
          · unfold mbufStep
            dsimp only
            rw [held, cut]
            rfl
          · rw [mbufContents_update, Option.map_some, contents]
            simp [byteStep, mbufContents, held]
  | mbadj k cnt =>
      cases held : s k with
      | none =>
          refine ⟨[], Function.update s k none, ?_, valid.clear k, ?_⟩
          · unfold mbufStep
            dsimp only
            rw [held]
            rfl
          · rw [mbufContents_update]
            simp [byteStep, mbufContents, held]
      | some old =>
          have least : -intMax ≤ cnt := by
            rcases fits with none | least
            · rw [held] at none
              cases none
            · exact least
          obtain ⟨bp, cut, new, contents⟩ := mbadj_ok (valid k old held) least
          refine ⟨[], Function.update s k (some bp), ?_, valid.hold k new, ?_⟩
          · unfold mbufStep
            dsimp only
            rw [held, cut]
            rfl
          · rw [mbufContents_update, Option.map_some, contents]
            simp [byteStep, mbufContents, held]
  | mbsplit k n cnt =>
      cases held : s k with
      | none =>
          have cleared : MbufsValid (Function.update s k none) := valid.clear k
          refine ⟨[], Function.update (Function.update s k none) n none, ?_,
            cleared.clear n, ?_⟩
          · unfold mbufStep mbsplit
            dsimp only
            rw [if_neg (Int.not_lt.mpr asserted), held]
            rfl
          · rw [mbufContents_update, mbufContents_update]
            simp [byteStep, mbufContents, held]
      | some old =>
          obtain ⟨head, rest, cut, newHead, newRest, contents, others⟩ :=
            mbsplit_ok fresh (valid k old held) asserted (fits old held)
          refine ⟨[], Function.update (Function.update s k (some head)) n rest, ?_,
            (valid.hold k newHead).update n newRest, ?_⟩
          · unfold mbufStep
            dsimp only
            rw [held, cut]
            rfl
          · rw [mbufContents_update, mbufContents_update, Option.map_some, contents, others]
            simp [byteStep, mbufContents, held]
  | mbfree k =>
      refine ⟨[], Function.update s k none, rfl, valid.clear k, ?_⟩
      rw [mbufContents_update]
      rfl

/-- A call whose assertion fails stops there. -/
theorem mbufStep_assertion (fresh : Nat → UInt8) {op : MbufOp} (refused : ¬ op.Asserted) :
    mbufStep fresh s op = .error .assertion := by
  cases op with
  | mballoc k size =>
      unfold mbufStep mballoc
      dsimp only
      rw [if_pos (Int.not_le.mp refused)]
      rfl
  | mbread k cnt =>
      unfold mbufStep mbread
      dsimp only
      rw [if_pos (Int.not_le.mp refused)]
      rfl
  | mbcopy k offset cnt =>
      unfold mbufStep mbcopy
      dsimp only
      rw [if_pos]
      · rfl
      · obtain offset | cnt := not_and_or.mp refused
        · exact Or.inl (Int.not_le.mp offset)
        · exact Or.inr (Int.not_le.mp cnt)
  | mbtrunc k max =>
      unfold mbufStep mbtrunc
      dsimp only
      rw [if_pos (Int.not_le.mp refused)]
      rfl
  | mbsplit k n cnt =>
      unfold mbufStep mbsplit
      dsimp only
      rw [if_pos (Int.not_le.mp refused)]
      rfl
  | mbcopyback | mbadj | mbfree => exact absurd trivial refused

/-- A call whose sizes do not fit overflows. -/
theorem mbufStep_overflow (fresh : Nat → UInt8) (valid : MbufsValid s) {op : MbufOp}
    (asserted : op.Asserted) (large : ¬ op.Fits s) :
    mbufStep fresh s op = .error .overflow := by
  cases op with
  | mballoc k size =>
      unfold mbufStep
      dsimp only
      rw [mballoc_error fresh asserted (Int.not_le.mp large)]
      rfl
  | mbcopyback k offset buf =>
      unfold mbufStep
      dsimp only
      unfold MbufOp.Fits at large
      dsimp only at large
      cases held : s k with
      | none =>
          rw [held] at large
          rw [mbcopyback_null_error fresh large]
          rfl
      | some old =>
          rw [held] at large
          rw [mbcopyback_error fresh (valid k old held) large]
          rfl
  | mbadj k cnt =>
      obtain ⟨some, least⟩ := not_or.mp large
      obtain ⟨old, held⟩ := Option.ne_none_iff_exists'.mp some
      unfold mbufStep
      dsimp only
      rw [held, mbadj_error (Int.not_le.mp least)]
      rfl
  | mbsplit k n cnt =>
      obtain ⟨old, both⟩ := not_forall.mp large
      obtain ⟨held, most⟩ := Classical.not_imp.mp both
      unfold mbufStep
      dsimp only
      rw [Option.mem_def.mp held, mbsplit_error fresh asserted (Int.not_le.mp most)]
      rfl
  | mbread | mbcopy | mbtrunc | mbfree => exact absurd trivial large

variable {fresh : Nat → UInt8} {op : MbufOp} {buf : Bytes} {middle : Nat → Option Mbuf}
  (ops : List ((Nat → UInt8) × MbufOp))

theorem mbufRun_of_error {fault : MbufFault} (stepped : mbufStep fresh s op = .error fault) :
    mbufRun s ((fresh, op) :: ops) = .error fault := by
  unfold mbufRun
  rw [stepped]
  rfl

theorem mbufRun_of_ok (stepped : mbufStep fresh s op = .ok (buf, middle)) :
    mbufRun s ((fresh, op) :: ops) =
      (mbufRun middle ops).map fun rest => (buf :: rest.1, rest.2) := by
  generalize rest : mbufRun middle ops = outcome
  unfold mbufRun
  rw [stepped]
  dsimp only [bind, Except.bind]
  rw [rest]
  cases outcome <;> rfl

theorem mbufRun_from (valid : MbufsValid s) :
    match mbufRun s ops with
    | .error fault =>
        ∃ earlier fresh op later bufs middle, ops = earlier ++ (fresh, op) :: later ∧
          mbufRun s earlier = .ok (bufs, middle) ∧
          (fault = .assertion ∧ ¬ op.Asserted ∨ fault = .overflow ∧ ¬ op.Fits middle)
    | .ok (bufs, after) =>
        MbufsValid after ∧
          (bufs, mbufContents after) = byteRun (mbufContents s) (mbufGaps s ops) := by
  induction ops generalizing s with
  | nil => exact ⟨valid, rfl⟩
  | cons op ops ih =>
      obtain ⟨fresh, op⟩ := op
      by_cases asserted : op.Asserted
      case neg =>
        rw [mbufRun_of_error ops (mbufStep_assertion fresh asserted)]
        exact ⟨[], fresh, op, ops, [], s, rfl, rfl, .inl ⟨rfl, asserted⟩⟩
      by_cases fits : op.Fits s
      case neg =>
        rw [mbufRun_of_error ops (mbufStep_overflow fresh valid asserted fits)]
        exact ⟨[], fresh, op, ops, [], s, rfl, rfl, .inr ⟨rfl, fits⟩⟩
      obtain ⟨buf, middle, stepped, kept, done⟩ := mbufStep_ok fresh valid asserted fits
      have rest := ih kept
      rw [mbufRun_of_ok ops stepped]
      cases ran : mbufRun middle ops with
      | error fault =>
          rw [ran] at rest
          obtain ⟨earlier, fresh', op', later, bufs, last, same, begun, faulted⟩ := rest
          refine ⟨(fresh, op) :: earlier, fresh', op', later, buf :: bufs, last, ?_, ?_, faulted⟩
          · rw [same, List.cons_append]
          · rw [mbufRun_of_ok earlier stepped, begun]
            rfl
      | ok result =>
          obtain ⟨bufs, after⟩ := result
          rw [ran] at rest
          refine ⟨rest.1, ?_⟩
          have first : buf = _ := congrArg Prod.fst done
          have second : mbufContents middle = _ := congrArg Prod.snd done
          have others : (bufs, mbufContents after) = _ := rest.2
          unfold mbufGaps byteRun
          rw [stepped]
          dsimp only
          rw [← second, ← others, ← first]

end Machine

/-- Every sequence of calls, from no buffers at all, either stops at an assertion about an
argument, or at sizes that are too large for an `int`, or leaves every buffer with its data in
its memory, and with the bytes that the operations on byte strings give, whose gaps are what
the memory held. -/
theorem mbuf_refines (ops : List ((Nat → UInt8) × MbufOp)) :
    match mbufRun (fun _ => none) ops with
    | .error fault =>
        ∃ earlier fresh op later bufs middle, ops = earlier ++ (fresh, op) :: later ∧
          mbufRun (fun _ => none) earlier = .ok (bufs, middle) ∧
          (fault = .assertion ∧ ¬ op.Asserted ∨ fault = .overflow ∧ ¬ op.Fits middle)
    | .ok (bufs, after) =>
        (∀ k, ∀ bp ∈ after k, 0 ≤ bp.offset ∧ bp.offset + bp.cnt ≤ bp.size ∧ bp.Valid) ∧
          (bufs, mbufContents after) = byteRun (fun _ => none) (mbufGaps (fun _ => none) ops) := by
  have start : MbufsValid fun _ => none := by
    intro k bp member
    exact nomatch member
  have refines := mbufRun_from ops start
  cases ran : mbufRun (fun _ => none) ops with
  | error fault =>
      rw [ran] at refines
      exact refines
  | ok result =>
      obtain ⟨bufs, after⟩ := result
      rw [ran] at refines
      refine ⟨fun k bp member => ?_, refines.2⟩
      have valid := refines.1 k bp member
      exact ⟨valid.offset, valid.within, valid⟩

def sixLetters : Bytes := [65, 66, 67, 68, 69, 70]

def writeLetters (size : Int) : List ((Nat → UInt8) × MbufOp) :=
  [(fun _ => 0, .mballoc 0 size), (fun _ => 0, .mbcopyback 0 0 sixLetters)]

theorem mbufRun_writeLetters {size : Int} {bp : Mbuf}
    (written : ((mbufRun (fun _ => none) (writeLetters size)).toOption.bind fun last => last.2 0) =
      some bp) :
    ∃ bufs after, mbufRun (fun _ => none) (writeLetters size) = .ok (bufs, after) ∧
      after 0 = some bp := by
  cases ran : mbufRun (fun _ => none) (writeLetters size) with
  | error fault =>
      rw [ran] at written
      cases written
  | ok result =>
      rw [ran] at written
      exact ⟨result.1, result.2, rfl, written⟩

/-- After six letters at 0 another one at 40 has the letters a second time in its gap. In a
larger buffer, with the same bytes in it, the gap is zero, so that no operation on byte
strings alone is the one of `mbcopyback`. The least `int` has no negation. -/
theorem mbcopyback_not_exact :
    (((mbufRun (fun _ => none)
        (writeLetters 6 ++ [(fun _ => 0, .mbcopyback 0 40 [90])])).toOption.bind
      fun last => mbufContents last.2 0) =
        some (sixLetters ++ List.replicate 12 0 ++ sixLetters ++ List.replicate 16 0 ++ [90])) ∧
    (¬ ∃ copied : Bytes → Int → Bytes → Bytes, ∀ ops bufs after k bp fresh offset buf new,
      mbufRun (fun _ => none) ops = .ok (bufs, after) → after k = some bp →
        mbcopyback fresh (some bp) offset buf = .ok new →
          new.contents = copied bp.contents offset buf) ∧
    mbufRun (fun _ => none)
      [(fun _ => 0, .mballoc 0 6), (fun _ => 0, .mbadj 0 (-2147483648))] = .error .overflow := by
  refine ⟨by decide +kernel, ?_, rfl⟩
  intro ⟨copied, copies⟩
  let small : Mbuf :=
    { size := 52, offset := 23, cnt := 6,
      memory := List.replicate 23 0 ++ sixLetters ++ List.replicate 23 0 }
  let large : Mbuf :=
    { size := 116, offset := 28, cnt := 6,
      memory := List.replicate 28 0 ++ sixLetters ++ List.replicate 82 0 }
  obtain ⟨bufs, after, ran, held⟩ := @mbufRun_writeLetters 6 small (by decide +kernel)
  obtain ⟨bufs', after', ran', held'⟩ := @mbufRun_writeLetters 60 large (by decide +kernel)
  have first := copies _ _ _ 0 small (fun _ => 0) 40 [90] _ ran held rfl
  have second := copies _ _ _ 0 large (fun _ => 0) 40 [90] _ ran' held' rfl
  have same : small.contents = large.contents := by decide +kernel
  rw [same, ← second] at first
  revert first
  decide +kernel

end Mpd
