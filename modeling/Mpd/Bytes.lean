import Mathlib.Data.List.Basic

/-! Byte strings and numbers in network byte order. -/

set_option autoImplicit false

namespace Mpd

/-- The contents of an mbuf or of a plain buffer. A missing mbuf and an empty
one have the same contents. -/
abbrev Bytes := List UInt8

/-- `ntohs` of two bytes in memory order. -/
def be16 (high low : UInt8) : UInt16 :=
  UInt16.ofNat (high.toNat * 256 + low.toNat)

def be32 (a b c d : UInt8) : UInt32 :=
  UInt32.ofNat (((a.toNat * 256 + b.toNat) * 256 + c.toNat) * 256 + d.toNat)

def putBe16 (value : UInt16) : Bytes :=
  [UInt8.ofNat (value.toNat / 256), UInt8.ofNat (value.toNat % 256)]

def putBe32 (value : UInt32) : Bytes :=
  [UInt8.ofNat (value.toNat / 16777216), UInt8.ofNat (value.toNat / 65536 % 256),
    UInt8.ofNat (value.toNat / 256 % 256), UInt8.ofNat (value.toNat % 256)]

@[simp] theorem length_putBe16 (value : UInt16) : (putBe16 value).length = 2 := rfl

theorem length_putBe16_fits (value : UInt16) : (putBe16 value).length + 2 < 256 := by
  rw [length_putBe16]
  decide

@[simp] theorem length_putBe32 (value : UInt32) : (putBe32 value).length = 4 := rfl

theorem be16_putBe16 (value : UInt16) :
    be16 (UInt8.ofNat (value.toNat / 256)) (UInt8.ofNat (value.toNat % 256)) = value := by
  have bounded : value.toNat < 65536 := value.toNat_lt
  apply UInt16.toNat_inj.mp
  simp only [be16, UInt16.toNat_ofNat', UInt8.toNat_ofNat']
  omega

theorem putBe16_be16 (high low : UInt8) : putBe16 (be16 high low) = [high, low] := by
  have first : high.toNat < 256 := high.toNat_lt
  have second : low.toNat < 256 := low.toNat_lt
  have joined : (be16 high low).toNat = high.toNat * 256 + low.toNat := by
    simp only [be16, UInt16.toNat_ofNat']
    omega
  have upper : (high.toNat * 256 + low.toNat) / 256 = high.toNat := by omega
  have lower : (high.toNat * 256 + low.toNat) % 256 = low.toNat := by omega
  simp only [putBe16, joined, upper, lower, UInt8.ofNat_toNat]

theorem putBe32_be32 (a b c d : UInt8) : putBe32 (be32 a b c d) = [a, b, c, d] := by
  have first : a.toNat < 256 := a.toNat_lt
  have second : b.toNat < 256 := b.toNat_lt
  have third : c.toNat < 256 := c.toNat_lt
  have fourth : d.toNat < 256 := d.toNat_lt
  generalize total : ((a.toNat * 256 + b.toNat) * 256 + c.toNat) * 256 + d.toNat = sum
  have joined : (be32 a b c d).toNat = sum := by
    simp only [be32, UInt32.toNat_ofNat', total]
    omega
  have byteA : sum / 16777216 = a.toNat := by omega
  have byteB : sum / 65536 % 256 = b.toNat := by omega
  have byteC : sum / 256 % 256 = c.toNat := by omega
  have byteD : sum % 256 = d.toNat := by omega
  simp only [putBe32, joined, byteA, byteB, byteC, byteD, UInt8.ofNat_toNat]

theorem be32_putBe32 (value : UInt32) :
    be32 (UInt8.ofNat (value.toNat / 16777216)) (UInt8.ofNat (value.toNat / 65536 % 256))
      (UInt8.ofNat (value.toNat / 256 % 256)) (UInt8.ofNat (value.toNat % 256)) = value := by
  have bounded : value.toNat < 4294967296 := value.toNat_lt
  apply UInt32.toNat_inj.mp
  simp only [be32, UInt32.toNat_ofNat', UInt8.toNat_ofNat']
  omega

theorem putBe32_injective {first second : UInt32} (same : putBe32 first = putBe32 second) :
    first = second := by
  have bounded : first.toNat < 4294967296 := first.toNat_lt
  have bounded' : second.toNat < 4294967296 := second.toNat_lt
  simp only [putBe32, List.cons.injEq, ← UInt8.toNat_inj, UInt8.toNat_ofNat'] at same
  obtain ⟨a, b, c, d, -⟩ := same
  apply UInt32.toNat_inj.mp
  omega

/-- Arithmetic on a C `short`, which wraps around at 16 bits. -/
def short (value : Int) : Int :=
  (value + 32768) % 65536 - 32768

theorem short_of_bounds {value : Int} (low : -32768 ≤ value) (high : value < 32768) :
    short value = value := by
  unfold short
  omega

end Mpd
