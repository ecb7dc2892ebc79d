import Mpd.Bund.OnePeerRuns
import Mpd.Link.Defs

/-! When the comparison of two endpoint discriminators is right. -/

set_option autoImplicit false

namespace Mpd.Membership

/-- What `memcmp` looks at, with the length of the first for both. -/
def SameBytes (d1 d2 : DiscrimBuf) : Prop :=
  d1.bytes.take d1.len.toNat = d2.bytes.take d1.len.toNat

/-- Class and length are told apart together, or else the bytes are. -/
def ToldApart (d1 d2 : DiscrimBuf) : Prop :=
  SameBytes d1 d2 → (d1.class = d2.class ↔ d1.len = d2.len)

theorem mpDiscrimEqual_eq_true_iff (d1 d2 : DiscrimBuf) :
    mpDiscrimEqual d1 d2 = true ↔ (d1.class = d2.class ∨ d1.len = d2.len) ∧ SameBytes d1 d2 := by
  unfold mpDiscrimEqual SameBytes
  split_ifs with both
  · simp [both.1, both.2]
  · have one : d1.class = d2.class ∨ d1.len = d2.len := by
      by_contra neither
      exact both (not_or.mp neither)
    rw [beq_iff_eq]
    exact (and_iff_right one).symm

theorem sameDiscrim_iff (d1 d2 : DiscrimBuf) :
    SameDiscrim d1 d2 ↔ (d1.class = d2.class ∧ d1.len = d2.len) ∧ SameBytes d1 d2 := by
  constructor
  · rintro ⟨«class», len, bytes⟩
    rw [← len] at bytes
    exact ⟨⟨«class», len⟩, bytes⟩
  · rintro ⟨⟨«class», len⟩, bytes⟩
    refine ⟨«class», len, ?_⟩
    rw [← len]
    exact bytes

/-- `MpDiscrimEqual` is equality for a pair if and only if no agreement in one of class and
length, and in the bytes, hides a difference in the other. -/
theorem mpDiscrimEqual_iff_sameDiscrim_iff (d1 d2 : DiscrimBuf) :
    (mpDiscrimEqual d1 d2 = true ↔ SameDiscrim d1 d2) ↔ ToldApart d1 d2 := by
  rw [mpDiscrimEqual_eq_true_iff, sameDiscrim_iff]
  unfold ToldApart
  constructor
  · intro right same
    constructor
    · intro «class»
      exact (right.mp ⟨.inl «class», same⟩).1.2
    · intro len
      exact (right.mp ⟨.inr len, same⟩).1.1
  · intro apart
    constructor
    · rintro ⟨«class» | len, same⟩
      · exact ⟨⟨«class», (apart same).mp «class»⟩, same⟩
      · exact ⟨⟨(apart same).mpr len, len⟩, same⟩
    · rintro ⟨⟨«class», -⟩, same⟩
      exact ⟨.inl «class», same⟩

def discrimOf («class» : UInt8) (bytes : Bytes) : DiscrimBuf where
  len := UInt8.ofNat bytes.length
  «class» := «class»
  bytes := bytes ++ List.replicate (maxDiscrim - bytes.length) 0

/-- The empty discriminator of a class equals every other one of that class, seen from its own
side, and two that are told apart come out equal by way of it. -/
theorem mpDiscrimEqual_not_equality :
    ¬ SameDiscrim (discrimOf 1 []) (discrimOf 1 [7]) ∧
      mpDiscrimEqual (discrimOf 1 []) (discrimOf 1 [7]) = true ∧
      mpDiscrimEqual (discrimOf 1 [7]) (discrimOf 1 []) = false ∧
      mpDiscrimEqual (discrimOf 1 [0]) (discrimOf 1 []) = true ∧
      mpDiscrimEqual (discrimOf 1 [0]) (discrimOf 1 [7]) = false := by
  refine ⟨?_, by decide, by decide, by decide, by decide⟩
  rintro ⟨-, len, -⟩
  exact absurd len (by decide)

end Mpd.Membership
