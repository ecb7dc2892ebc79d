import Mpd.Ipcp.Options

/-! `IpAddrInRange` of `ip.c` for addresses of both families. A shift by a
negative count is one of the things that C leaves undefined, and what comes out
of it is a parameter here. -/

set_option autoImplicit false

namespace Mpd.Ip

/-- `struct u_addr` by family, the IPv4 address as the number that `ntohl` gives. -/
inductive Addr where
  | unspec
  | ip4 (s_addr : UInt32)
  | ip6 (s6_addr : Vector UInt8 16)
  deriving DecidableEq

structure Range where
  addr : Addr
  width : UInt8
  deriving DecidableEq

namespace Addr

def family : Addr → AddrFamily
  | unspec => .unspec
  | ip4 _ => .inet
  | ip6 _ => .inet6

/-- How many bits an address of the family has. -/
def bits : Addr → Nat
  | unspec => 0
  | ip4 _ => 32
  | ip6 _ => 128

end Addr

def byteAt (s6_addr : Vector UInt8 16) (i : Nat) : UInt8 := s6_addr[i]?.getD 0

def addrempty : Addr → Bool
  | .unspec => true
  | .ip4 s_addr => s_addr == 0
  | .ip6 s6_addr => s6_addr.toList.all (· == 0)

def rangeempty (range : Range) : Bool := addrempty range.addr

/-- `~0 << count` in an `int`. `undefined` is the outcome for a count that the
language does not allow. -/
def onesShifted (undefined : Int → UInt32) (count : Int) : UInt32 :=
  if 0 ≤ count ∧ count < 32 then 0xFFFFFFFF <<< UInt32.ofNat count.toNat else undefined count

variable (undefined : Int → UInt32)

/-- One round of the loop over the bytes of an IPv6 address: the range and the
address agree there as far as the code compares them. -/
def byteAgrees (width : UInt8) (net addr : Vector UInt8 16) (i : Nat) : Bool :=
  if i * 8 + 7 < width.toNat then byteAt addr i == byteAt net i
  else
    let bmask : UInt8 :=
      if width.toNat = i * 8 then 0 else (onesShifted undefined (8 - (width.toNat : Int))).toUInt8
    byteAt addr i &&& bmask == byteAt net i &&& bmask

def ipAddrInRange (range : Range) (addr : Addr) : Bool :=
  if rangeempty range then true
  else
    match range.addr, addr with
    | .ip4 net, .ip4 s_addr =>
        let mask : UInt32 :=
          if range.width = 0 then 0 else onesShifted undefined (32 - (range.width.toNat : Int))
        s_addr &&& mask == net &&& mask
    | .ip6 net, .ip6 s6_addr =>
        (List.range ((range.width.toNat + 7) / 8)).all
          (byteAgrees undefined range.width net s6_addr)
    | _, _ => false

def Addr.bit : Addr → Nat → Bool
  | .unspec, _ => false
  | .ip4 s_addr, index => s_addr.toBitVec.getMsbD index
  | .ip6 s6_addr, index => (byteAt s6_addr (index / 8)).toBitVec.getMsbD (index % 8)

/-- The first `width` bits of the two addresses are equal. -/
def SamePrefix (width : Nat) (first second : Addr) : Prop :=
  ∀ index < width, first.bit index = second.bit index

/-- The code gets by without the outcome of an undefined shift. That is so for
IPv4, for a width of at most one byte and for one of whole bytes. Otherwise an
earlier byte has to decide, or the last one must be equal as a whole, so that
any mask does. -/
def WellShifted (range : Range) (addr : Addr) : Prop :=
  match range.addr, addr with
  | .ip6 net, .ip6 s6_addr =>
      range.width.toNat ≤ 8 ∨ range.width.toNat % 8 = 0 ∨
        (∃ i < range.width.toNat / 8, byteAt s6_addr i ≠ byteAt net i) ∨
        byteAt s6_addr (range.width.toNat / 8) = byteAt net (range.width.toNat / 8)
  | _, _ => True

section Masks

theorem and_leadingOnes_eq_iff {size : Nat} (first second : BitVec size) {count : Nat}
    (fits : count ≤ size) :
    first &&& (BitVec.allOnes size <<< (size - count)) =
        second &&& (BitVec.allOnes size <<< (size - count)) ↔
      ∀ index < count, first.getMsbD index = second.getMsbD index := by
  have inside : ∀ index < count, index + (size - count) < size := by omega
  constructor
  · intro equal index below
    have bits := congrArg (fun value => BitVec.getMsbD value index) equal
    simpa [inside index below] using bits
  · intro equal
    apply BitVec.eq_of_getMsbD_eq
    intro index _
    simp only [BitVec.getMsbD_and, BitVec.getMsbD_shiftLeft, BitVec.getMsbD_allOnes]
    by_cases below : index < count
    · rw [equal index below]
    · have outside : ¬ index + (size - count) < size := by omega
      simp only [outside, decide_false, Bool.and_false]

theorem onesShifted_natCast {count : Nat} (small : count < 32) :
    onesShifted undefined (count : Int) = 0xFFFFFFFF <<< UInt32.ofNat count := by
  rw [onesShifted, if_pos (by omega), Int.toNat_natCast]

theorem and_onesShifted_eq_iff (first second : UInt32) {width : Nat} (positive : 0 < width)
    (fits : width ≤ 32) :
    first &&& onesShifted undefined (32 - (width : Int)) =
        second &&& onesShifted undefined (32 - (width : Int)) ↔
      ∀ index < width, first.toBitVec.getMsbD index = second.toBitVec.getMsbD index := by
  have masks : ∀ count < 32, ((0xFFFFFFFF : UInt32) <<< UInt32.ofNat count).toBitVec =
      BitVec.allOnes 32 <<< count := by decide
  have count : (32 : Int) - (width : Int) = ((32 - width : Nat) : Int) := by omega
  rw [count, onesShifted_natCast undefined (by omega), ← UInt32.toBitVec_inj,
    UInt32.toBitVec_and, UInt32.toBitVec_and, masks (32 - width) (by omega)]
  exact and_leadingOnes_eq_iff _ _ fits

/-- The mask of the IPv6 case does so while the width stays within the first byte. -/
theorem and_byteMask_eq_iff (first second : UInt8) {width : Nat} (fits : width ≤ 8) :
    first &&& (onesShifted undefined (8 - (width : Int))).toUInt8 =
        second &&& (onesShifted undefined (8 - (width : Int))).toUInt8 ↔
      ∀ index < width, first.toBitVec.getMsbD index = second.toBitVec.getMsbD index := by
  have masks : ∀ count < 9, ((0xFFFFFFFF : UInt32) <<< UInt32.ofNat count).toUInt8.toBitVec =
      BitVec.allOnes 8 <<< count := by decide
  have count : (8 : Int) - (width : Int) = ((8 - width : Nat) : Int) := by omega
  rw [count, onesShifted_natCast undefined (by omega), ← UInt8.toBitVec_inj,
    UInt8.toBitVec_and, UInt8.toBitVec_and, masks (8 - width) (by omega)]
  exact and_leadingOnes_eq_iff _ _ fits

theorem byte_eq_iff (first second : UInt8) :
    first = second ↔
      ∀ index < 8, first.toBitVec.getMsbD index = second.toBitVec.getMsbD index := by
  constructor
  · intro equal index _
    rw [equal]
  · intro bits
    exact UInt8.toBitVec_inj.mp (BitVec.eq_of_getMsbD_eq bits)

end Masks

section Bytes

variable {net s6_addr : Vector UInt8 16} {width : UInt8}

/-- The bits of a prefix, byte by byte: the whole bytes, then what is left of
the next one. -/
theorem samePrefix_ip6_iff (width : Nat) :
    SamePrefix width (.ip6 net) (.ip6 s6_addr) ↔
      (∀ i < width / 8, byteAt s6_addr i = byteAt net i) ∧
        ∀ index < width % 8, (byteAt s6_addr (width / 8)).toBitVec.getMsbD index =
          (byteAt net (width / 8)).toBitVec.getMsbD index := by
  constructor
  · intro same
    constructor
    · intro i below
      refine (byte_eq_iff _ _).mpr ?_
      intro index inByte
      have bit := same (i * 8 + index) (by omega)
      have byte : (i * 8 + index) / 8 = i := by omega
      have place : (i * 8 + index) % 8 = index := by omega
      simpa only [Addr.bit, byte, place] using bit.symm
    · intro index below
      have bit := same (width / 8 * 8 + index) (by omega)
      have byte : (width / 8 * 8 + index) / 8 = width / 8 := by omega
      have place : (width / 8 * 8 + index) % 8 = index := by omega
      simpa only [Addr.bit, byte, place] using bit.symm
  · rintro ⟨whole, part⟩ index below
    simp only [Addr.bit]
    by_cases inWhole : index / 8 < width / 8
    · rw [whole _ inWhole]
    · have last : index / 8 = width / 8 := by omega
      rw [last]
      exact (part (index % 8) (by omega)).symm

theorem byteAgrees_whole {i : Nat} (below : i < width.toNat / 8) :
    byteAgrees undefined width net s6_addr i = true ↔ byteAt s6_addr i = byteAt net i := by
  rw [byteAgrees, if_pos (by omega), beq_iff_eq]

/-- What the loop looks at, byte by byte: the whole bytes, then the part that is
left of the next one under the mask. -/
theorem all_byteAgrees_iff :
    (List.range ((width.toNat + 7) / 8)).all (byteAgrees undefined width net s6_addr) = true ↔
      (∀ i < width.toNat / 8, byteAt s6_addr i = byteAt net i) ∧
        (width.toNat % 8 ≠ 0 →
          byteAt s6_addr (width.toNat / 8) &&&
              (onesShifted undefined (8 - (width.toNat : Int))).toUInt8 =
            byteAt net (width.toNat / 8) &&&
              (onesShifted undefined (8 - (width.toNat : Int))).toUInt8) := by
  rw [List.all_eq_true]
  simp only [List.mem_range]
  have last (part : width.toNat % 8 ≠ 0) :
      byteAgrees undefined width net s6_addr (width.toNat / 8) = true ↔
        byteAt s6_addr (width.toNat / 8) &&&
            (onesShifted undefined (8 - (width.toNat : Int))).toUInt8 =
          byteAt net (width.toNat / 8) &&&
            (onesShifted undefined (8 - (width.toNat : Int))).toUInt8 := by
    rw [byteAgrees, if_neg (by omega), beq_iff_eq, if_neg (by omega)]
  constructor
  · intro every
    constructor
    · intro i below
      exact (byteAgrees_whole undefined below).mp (every i (by omega))
    · intro part
      exact (last part).mp (every _ (by omega))
  · rintro ⟨whole, part⟩ i below
    by_cases inWhole : i < width.toNat / 8
    · exact (byteAgrees_whole undefined inWhole).mpr (whole i inWhole)
    · have there : i = width.toNat / 8 := by omega
      rw [there]
      exact (last (by omega)).mpr (part (by omega))

end Bytes

/-- The prefix test is right for every outcome of an undefined shift as soon as
the code gets by without it. -/
theorem ipAddrInRange_of_wellShifted {range : Range} {addr : Addr}
    (sized : range.width.toNat ≤ range.addr.bits) (family : range.addr.family = addr.family)
    (nonEmpty : rangeempty range = false) (shifted : WellShifted range addr) :
    ipAddrInRange undefined range addr = true ↔
      SamePrefix range.width.toNat range.addr addr := by
  obtain ⟨first, width⟩ := range
  unfold ipAddrInRange
  rw [if_neg (by simp [nonEmpty])]
  cases first with
  | unspec => simp [rangeempty, addrempty] at nonEmpty
  | ip4 net =>
      cases addr with
      | unspec => simp [Addr.family] at family
      | ip6 s6_addr => simp [Addr.family] at family
      | ip4 s_addr =>
          by_cases none : width = 0
          · simp [SamePrefix, none]
          · have positive : 0 < width.toNat := by
              refine Nat.pos_of_ne_zero ?_
              intro zero
              exact none (UInt8.toNat_inj.mp zero)
            simp only [if_neg none, beq_iff_eq]
            rw [and_onesShifted_eq_iff undefined s_addr net positive sized]
            constructor
            · intro bits index below
              exact (bits index below).symm
            · intro bits index below
              exact (bits index below).symm
  | ip6 net =>
      cases addr with
      | unspec => simp [Addr.family] at family
      | ip4 s_addr => simp [Addr.family] at family
      | ip6 s6_addr =>
          simp only
          rw [all_byteAgrees_iff, samePrefix_ip6_iff]
          refine and_congr_right ?_
          intro whole
          rcases shifted with small | aligned | ⟨i, below, differ⟩ | equal
          · have small : width.toNat ≤ 8 := small
            by_cases eight : width.toNat = 8
            · simp [eight]
            · have rest : width.toNat % 8 = width.toNat := Nat.mod_eq_of_lt (by omega)
              rw [rest, and_byteMask_eq_iff undefined _ _ small]
              constructor
              · intro bits index below
                exact bits (by omega) index below
              · intro bits _
                exact bits
          · simp [aligned]
          · exact (differ (whole i below)).elim
          · simp [equal]

/-- Where the code does depend on the outcome, one of two masks is wrong. -/
theorem wellShifted_of_forall {range : Range} {addr : Addr}
    (family : range.addr.family = addr.family) (nonEmpty : rangeempty range = false)
    (right : ∀ undefined, ipAddrInRange undefined range addr = true ↔
      SamePrefix range.width.toNat range.addr addr) : WellShifted range addr := by
  obtain ⟨first, width⟩ := range
  cases first with
  | unspec => exact trivial
  | ip4 net => exact trivial
  | ip6 net =>
      cases addr with
      | unspec => exact trivial
      | ip4 s_addr => exact trivial
      | ip6 s6_addr =>
          by_contra ill
          simp only [WellShifted, not_or, not_exists, not_and, not_not] at ill
          obtain ⟨wide, part, whole, differ⟩ := ill
          -- The verdict under a constant outcome is whether the whole bytes agree
          -- and the masked last byte does.
          have verdict (mask : UInt32) :
              byteAt s6_addr (width.toNat / 8) &&& mask.toUInt8 =
                  byteAt net (width.toNat / 8) &&& mask.toUInt8 ↔
                SamePrefix width.toNat (.ip6 net) (.ip6 s6_addr) := by
            have outcome : onesShifted (fun _ => mask) (8 - (width.toNat : Int)) = mask :=
              if_neg (by omega)
            have found := right (fun _ => mask)
            unfold ipAddrInRange at found
            rw [if_neg (by simp [nonEmpty])] at found
            simp only [all_byteAgrees_iff, outcome] at found
            rw [← found]
            constructor
            · intro masked
              exact ⟨whole, fun _ => masked⟩
            · rintro ⟨-, masked⟩
              exact masked part
          have nothing := (verdict 0).mp (by simp)
          have everything := (verdict 0xFF).mpr nothing
          have ones : (0xFF : UInt32).toUInt8 = -1 := by decide
          rw [ones] at everything
          exact differ (by simpa using everything)

/-- Whatever an undefined shift gives, an address of the family of a range that
is not empty is found in the range if and only if the prefixes are equal: that
holds exactly where the code gets by without such a shift. -/
theorem ipAddrInRange_iff_samePrefix_iff (range : Range) (addr : Addr)
    (sized : range.width.toNat ≤ range.addr.bits) (family : range.addr.family = addr.family)
    (nonEmpty : rangeempty range = false) :
    (∀ undefined, ipAddrInRange undefined range addr = true ↔
      SamePrefix range.width.toNat range.addr addr) ↔ WellShifted range addr := by
  constructor
  · exact wellShifted_of_forall family nonEmpty
  · intro shifted undefined
    exact ipAddrInRange_of_wellShifted undefined sized family nonEmpty shifted

def startingWith (first second : UInt8) : Addr :=
  .ip6 #v[first, second, 0, 0, 0, 0, 0, 0, 0, 0, 0, 0, 0, 0, 0, 0]

/-- The shift of a machine that looks at the low five bits of the count. -/
def shiftMod32 (count : Int) : UInt32 := 0xFFFFFFFF <<< UInt32.ofNat (count % 32).toNat

/-- A width of one byte and a half, decided by the first byte. -/
theorem ipAddrInRange_iff_samePrefix_iff_decided :
    ipAddrInRange shiftMod32 ⟨startingWith 0x20 0x10, 12⟩ (startingWith 0x30 0x10) = true ↔
      SamePrefix 12 (startingWith 0x20 0x10) (startingWith 0x30 0x10) :=
  (ipAddrInRange_iff_samePrefix_iff ⟨startingWith 0x20 0x10, 12⟩ (startingWith 0x30 0x10)
    (by decide) rfl (by decide)).mpr (.inr (.inr (.inl ⟨0, by decide, by decide⟩))) shiftMod32

/-- The range 2010::/12 takes the address 2030::, although the eleventh bits differ. -/
theorem ipAddrInRange_wrong_twelve :
    ipAddrInRange shiftMod32 ⟨startingWith 0x20 0x10, 12⟩ (startingWith 0x20 0x30) = true ∧
      ¬ SamePrefix 12 (startingWith 0x20 0x10) (startingWith 0x20 0x30) := by
  refine ⟨by decide, ?_⟩
  intro same
  have bit := same 10 (by decide)
  revert bit
  decide

def Addr.uaddr : Addr → UAddr
  | .unspec => ⟨.unspec, 0, []⟩
  | .ip4 s_addr => ⟨.inet, s_addr, []⟩
  | .ip6 s6_addr =>
      ⟨.inet6, be32 s6_addr[0] s6_addr[1] s6_addr[2] s6_addr[3], s6_addr.toList.drop 4⟩

theorem uAddrempty_uaddr (addr : Addr) : uAddrempty addr.uaddr = addrempty addr := by
  cases addr with
  | unspec => rfl
  | ip4 s_addr => rfl
  | ip6 s6_addr =>
      obtain ⟨⟨bytes⟩, sized⟩ := s6_addr
      match bytes, sized with
      | a :: b :: c :: d :: rest, sized =>
          have none : be32 a b c d = 0 ↔ a = 0 ∧ b = 0 ∧ c = 0 ∧ d = 0 := by
            simp only [be32, ← UInt32.toNat_inj, ← UInt8.toNat_inj, UInt32.toNat_ofNat',
              UInt32.toNat_zero, UInt8.toNat_zero]
            have boundA : a.toNat < 256 := a.toNat_lt
            have boundB : b.toNat < 256 := b.toNat_lt
            have boundC : c.toNat < 256 := c.toNat_lt
            have boundD : d.toNat < 256 := d.toNat_lt
            omega
          rw [Bool.eq_iff_iff]
          simp [uAddrempty, addrempty, Addr.uaddr, none, and_assoc]

/-- For an IPv4 address the test is the one that IPCP uses. -/
theorem ipAddrInRange_ip4 (range : Range) (ip : UInt32)
    (sized : range.width.toNat ≤ 32) :
    Mpd.ipAddrInRange ⟨range.addr.uaddr, range.width⟩ ip =
      ipAddrInRange undefined range (.ip4 ip) := by
  obtain ⟨first, width⟩ := range
  unfold Mpd.ipAddrInRange ipAddrInRange
  have empty : uRangeempty ⟨first.uaddr, width⟩ = rangeempty ⟨first, width⟩ :=
    uAddrempty_uaddr first
  rw [empty]
  cases first with
  | unspec => rfl
  | ip6 net => rfl
  | ip4 net =>
      by_cases none : width = 0
      · simp only [Addr.uaddr, none, ne_eq, not_true_eq_false, if_false, if_true]
      · have fits : width.toNat ≤ 32 := sized
        have positive : width.toNat ≠ 0 := by
          intro zero
          exact none (UInt8.toNat_inj.mp zero)
        have cast : (32 : Int) - (width.toNat : Int) = ((32 - width.toNat : Nat) : Int) := by
          omega
        have count : UInt32.ofNat (32 - width.toNat) = 32 - width.toUInt32 := by
          have same : UInt32.ofNat width.toNat = width.toUInt32 := by simp
          rw [UInt32.ofNat_sub fits, same]
          rfl
        have mask : (0xFFFFFFFF : UInt32) <<< (32 - width.toUInt32) =
            onesShifted undefined (32 - (width.toNat : Int)) := by
          rw [cast, onesShifted_natCast undefined (by omega), count]
        simp only [Addr.uaddr, mask, ne_eq, not_true_eq_false, if_false]

end Mpd.Ip
