import Mathlib.Data.List.Basic
import Mathlib.Data.Int.ModEq
import Mathlib.Tactic.Linarith
import Mathlib.Tactic.LinearCombination
import Mathlib.Tactic.Ring
import Mpd.OnesComplement
import Mpd.Region

/-! `IfaceCorrectMSS`: the MSS options of a TCP segment are lowered, its checksum is adjusted. -/

set_option autoImplicit false

namespace Mpd.CorrectMss

section Definitions

inductive Fault where
  | outside | endless
  deriving DecidableEq, Repr

/-- The order of the bytes of a number in the memory of the machine. -/
inductive ByteOrder where
  | little | big
  deriving DecidableEq, Repr

def ByteOrder.load (order : ByteOrder) (a b : UInt8) : Nat :=
  match order with
  | .little => b.toNat * 256 + a.toNat
  | .big => a.toNat * 256 + b.toNat

def ByteOrder.store (order : ByteOrder) (value : Nat) : Bytes :=
  match order with
  | .little => [UInt8.ofNat value, UInt8.ofNat (value / 256)]
  | .big => [UInt8.ofNat (value / 256), UInt8.ofNat value]

def byte (packet : Bytes) (place : Nat) : Except Fault UInt8 :=
  match packet[place]? with
  | some b => .ok b
  | none => .error .outside

def put (packet : Bytes) (place : Nat) (block : Bytes) : Except Fault Bytes :=
  if place + block.length ≤ packet.length then .ok (Region.overwrite packet place block)
  else .error .outside

def tcpHeader : Nat := 20
def thOff : Nat := 12
def thFlags : Nat := 13
def thSum : Nat := 16

def optEol : UInt8 := 0
def optNop : UInt8 := 1
def optMaxseg : UInt8 := 2
def lenMaxseg : UInt8 := 4

def adjustChecksum (acc : Int) (cksum : Nat) : Nat :=
  let acc := acc + cksum
  if acc < 0 then
    let acc := -acc
    let acc := acc / 65536 + acc % 65536
    let acc := acc + acc / 65536
    ((-acc - 1) % 65536).toNat
  else
    let acc := acc / 65536 + acc % 65536
    let acc := acc + acc / 65536
    (acc % 65536).toNat

/-- The MSS option at a place of the packet, whose TCP header starts at `tc`. -/
def correctOption (order : ByteOrder) (maxmss : UInt16) (tc opt : Nat) (packet : Bytes) :
    Except Fault Bytes := do
  let a ← byte packet (opt + 2)
  let b ← byte packet (opt + 3)
  if be16 a b > maxmss then
    let packet ← put packet (opt + 2) (putBe16 maxmss)
    let a' ← byte packet (opt + 2)
    let b' ← byte packet (opt + 3)
    let s ← byte packet (tc + thSum)
    let t ← byte packet (tc + thSum + 1)
    put packet (tc + thSum)
      (order.store (adjustChecksum (order.load a b - order.load a' b') (order.load s t)))
  else .ok packet

/-- The loop over the options, as often as there are bytes of them. -/
def options (order : ByteOrder) (maxmss : UInt16) (tc : Nat) :
    Nat → (opt olen : Nat) → Bytes → Except Fault Bytes
  | 0, _, olen, packet => if olen = 0 then .ok packet else .error .endless
  | fuel + 1, opt, olen, packet =>
      if olen = 0 then .ok packet
      else do
        let kind ← byte packet opt
        if kind = optEol then .ok packet
        else if kind = optNop then options order maxmss tc fuel (opt + 1) (olen - 1) packet
        else
          let optlen ← byte packet (opt + 1)
          if optlen = 0 ∨ optlen.toNat > olen then .ok packet
          else if kind = optMaxseg ∧ optlen = lenMaxseg then
            let packet ← correctOption order maxmss tc opt packet
            options order maxmss tc fuel (opt + optlen.toNat) (olen - optlen.toNat) packet
          else options order maxmss tc fuel (opt + optlen.toNat) (olen - optlen.toNat) packet

/-- The place of the TCP header, after the four bits `ip_hl`. -/
def tcpPlace (first : UInt8) : Nat := (first.toNat % 16) * 4

def ifaceCorrectMSS (order : ByteOrder) (maxmss : UInt16) (packet : Bytes) :
    Except Fault Bytes := do
  let first ← byte packet 0
  let tc := tcpPlace first
  let pktlen : Int := packet.length - tc
  let offset ← byte packet (tc + thOff)
  let hlen := (offset.toNat / 16) * 4
  if hlen ≤ tcpHeader ∨ hlen > pktlen then .ok packet
  else
    let flags ← byte packet (tc + thFlags)
    if flags.toNat / 2 % 2 = 0 then .ok packet
    else
      options order maxmss tc (hlen - tcpHeader) (tc + tcpHeader) (hlen - tcpHeader) packet

/-- How far the option at the beginning of an area reaches, if there is a next one. -/
def optionLength : Bytes → Option Nat
  | [] => none
  | kind :: rest =>
      if kind = optEol then none
      else if kind = optNop then some 1
      else
        match rest with
        | [] => none
        | len :: _ => if len = 0 ∨ len.toNat > rest.length + 1 then none else some len.toNat

def optionStarts (place skip : Nat) : Bytes → List (Nat × Bytes)
  | [] => []
  | kind :: rest =>
      match skip with
      | skip + 1 => optionStarts (place + 1) skip rest
      | 0 =>
          (place, kind :: rest) ::
            match optionLength (kind :: rest) with
            | none => []
            | some n => optionStarts (place + 1) (n - 1) rest

def mssOption : Nat × Bytes → Option (Nat × UInt16)
  | (place, kind :: len :: a :: b :: _) =>
      if kind = optMaxseg ∧ len = lenMaxseg then some (place + 2, be16 a b) else none
  | _ => none

def lacksLength : Nat × Bytes → Bool
  | (_, [kind]) => kind != optEol && kind != optNop
  | _ => false

structure Segment where
  tc : Nat
  hlen : Nat
  syn : Bool
  deriving DecidableEq, Repr

def segment (packet : Bytes) : Segment :=
  let tc := tcpPlace (packet.headD 0)
  ⟨tc, ((packet.getD (tc + thOff) 0).toNat / 16) * 4,
    (packet.getD (tc + thFlags) 0).toNat / 2 % 2 = 1⟩

def HasOptions (packet : Bytes) : Prop :=
  let s := segment packet
  s.syn = true ∧ tcpHeader < s.hlen ∧ s.tc + s.hlen ≤ packet.length

instance (packet : Bytes) : Decidable (HasOptions packet) :=
  inferInstanceAs (Decidable (_ ∧ _ ∧ _))

def starts (packet : Bytes) : List (Nat × Bytes) :=
  let s := segment packet
  if HasOptions packet then
    optionStarts (s.tc + tcpHeader) 0
      (Region.window packet (s.tc + tcpHeader) (s.hlen - tcpHeader))
  else []

def tooGreat (maxmss : UInt16) (starts : List (Nat × Bytes)) : List (Nat × UInt16) :=
  (starts.filterMap mssOption).filter (·.2 > maxmss)

def pseudoHeader (tc : Nat) (packet : Bytes) : Bytes :=
  Region.window packet 12 8 ++ [0, 6] ++ putBe16 (UInt16.ofNat (packet.length - tc))

/-- The checksum of the segment is valid. -/
def Valid (tc : Nat) (packet : Bytes) : Prop :=
  OnesComplement.sum 65536
    (OnesComplement.words (pseudoHeader tc packet ++ packet.drop tc)) = 65535

instance (tc : Nat) (packet : Bytes) : Decidable (Valid tc packet) :=
  inferInstanceAs (Decidable (_ = _))

structure Corrected (maxmss : UInt16) (packet packet' : Bytes) : Prop where
  length : packet'.length = packet.length
  values : ∀ value ∈ tooGreat maxmss (starts packet),
    Region.window packet' value.1 2 = putBe16 maxmss
  others : ∀ place,
    (∀ value ∈ tooGreat maxmss (starts packet), place ≠ value.1 ∧ place ≠ value.1 + 1) →
    place ≠ (segment packet).tc + thSum → place ≠ (segment packet).tc + thSum + 1 →
    packet'[place]? = packet[place]?
  valid : Valid (segment packet).tc packet → Valid (segment packet).tc packet'

/-- The MSS of a packet is corrected, and no byte outside the packet is used. -/
def CorrectsRight (order : ByteOrder) (maxmss : UInt16) (packet : Bytes) : Prop :=
  ∃ packet', ifaceCorrectMSS order maxmss packet = .ok packet' ∧ Corrected maxmss packet packet'

def checksumCount (tc : Nat) : Int := if tc = 0 then 2 else 1

/-- What a value counts in the sum of the segment. -/
def valueWeight (tc place : Nat) : Int := if (place - tc) % 2 = 0 then 1 else 256

/-- By how much the sum of the segment is off after the corrections. -/
def drift (maxmss : UInt16) (tc : Nat) (values : List (Nat × UInt16)) : Int :=
  (values.map fun value =>
    (checksumCount tc - valueWeight tc value.1) * (value.2.toNat - maxmss.toNat)).sum

/-- The packet has a byte `th_off`, it does not end in the middle of an option's head, and what the
values at odd places lack does not show in the sum. -/
structure CorrectsFit (maxmss : UInt16) (packet : Bytes) : Prop where
  header : (segment packet).tc + thOff < packet.length
  ends : (starts packet).any lacksLength = true →
    (segment packet).tc + (segment packet).hlen < packet.length
  even : Valid (segment packet).tc packet →
    (65535 : Int) ∣ drift maxmss (segment packet).tc (tooGreat maxmss (starts packet))

end Definitions

section Arithmetic

/-- `ADJUST_CHECKSUM` adds, but for multiples of 65535. -/
theorem adjustChecksum_modEq {acc : Int} {cksum : Nat} (low : -65536 < acc) (high : acc < 65536)
    (small : cksum < 65536) :
    adjustChecksum acc cksum < 65536 ∧
      (adjustChecksum acc cksum : Int) ≡ acc + cksum [ZMOD 65535] := by
  unfold adjustChecksum Int.ModEq
  generalize total : acc + (cksum : Int) = sum
  dsimp only
  split
  · have none : -sum / 65536 = 0 := by omega
    have whole : -sum % 65536 = -sum := by omega
    rw [none, whole, Int.zero_add, none]
    omega
  · -- The sum has one carry at most, and none after that has been added.
    have carry : sum / 65536 = 0 ∨ sum / 65536 = 1 := by omega
    have folded : (sum / 65536 + sum % 65536) / 65536 = 0 := by omega
    rw [folded, Int.add_zero]
    omega

theorem ByteOrder.load_lt (order : ByteOrder) (a b : UInt8) : order.load a b < 65536 := by
  have := a.toNat_lt
  have := b.toNat_lt
  cases order with
  | little =>
      show b.toNat * 256 + a.toNat < 65536
      omega
  | big =>
      show a.toNat * 256 + b.toNat < 65536
      omega

theorem ByteOrder.store_eq (order : ByteOrder) {value : Nat} (small : value < 65536) :
    ∃ a b, order.store value = [a, b] ∧ order.load a b = value := by
  cases order with
  | little =>
      refine ⟨_, _, rfl, ?_⟩
      show (UInt8.ofNat (value / 256)).toNat * 256 + (UInt8.ofNat value).toNat = value
      simp only [UInt8.toNat_ofNat']
      omega
  | big =>
      refine ⟨_, _, rfl, ?_⟩
      show (UInt8.ofNat (value / 256)).toNat * 256 + (UInt8.ofNat value).toNat = value
      simp only [UInt8.toNat_ofNat']
      omega

theorem toNat_be16 (a b : UInt8) : (be16 a b).toNat = a.toNat * 256 + b.toNat := by
  have := a.toNat_lt
  have := b.toNat_lt
  simp only [be16, UInt16.toNat_ofNat']
  omega

/-- An equation between numbers in memory is one between numbers in network order. -/
theorem ByteOrder.load_modEq (order : ByteOrder) {a b a' b' s t s' t' : UInt8}
    (loaded : (order.load s' t' : Int) ≡ order.load a b - order.load a' b' + order.load s t
      [ZMOD 65535]) :
    ((be16 s' t').toNat : Int) ≡ (be16 a b).toNat - (be16 a' b').toNat + (be16 s t).toNat
      [ZMOD 65535] := by
  simp only [toNat_be16]
  cases order with
  | big =>
      unfold ByteOrder.load at loaded
      exact loaded
  | little =>
      unfold ByteOrder.load at loaded
      obtain ⟨count, same⟩ := loaded.dvd
      dsimp only at same
      apply (Int.modEq_iff_dvd).mpr
      -- Swapping the bytes is a multiplication by 256.
      refine ⟨256 * count - (b.toNat - b'.toNat + t.toNat - t'.toNat), ?_⟩
      push_cast at same ⊢
      linarith

end Arithmetic

section Sums

variable {tc q : Nat} {packet : Bytes} {a b : UInt8}

def total (tc : Nat) (packet : Bytes) : Nat :=
  OnesComplement.weighted true (pseudoHeader tc packet ++ packet.drop tc)

theorem total_eq (long : 20 ≤ packet.length) :
    total tc packet = OnesComplement.weighted true (Region.window packet 12 8) + 6 +
      OnesComplement.weighted true (putBe16 (UInt16.ofNat (packet.length - tc))) +
      OnesComplement.weighted true (Region.window packet tc (packet.length - tc)) := by
  have eight : (Region.window packet 12 8).length = 8 := Region.length_window long
  have rest : Region.window packet tc (packet.length - tc) = packet.drop tc :=
    List.take_of_length_le (by rw [List.length_drop])
  unfold total pseudoHeader
  rw [rest, OnesComplement.weighted_append, OnesComplement.weighted_append,
    OnesComplement.weighted_append, List.length_append, List.length_append, List.length_append,
    eight, length_putBe16]
  rfl

theorem valid_iff (long : 20 ≤ packet.length) :
    Valid tc packet ↔ (65535 : Int) ∣ total tc packet := by
  have sum := OnesComplement.sum_words (pseudoHeader tc packet ++ packet.drop tc)
  have nonzero : (OnesComplement.words (pseudoHeader tc packet ++ packet.drop tc)).sum ≠ 0 := by
    rw [sum]
    have six : total tc packet = _ + 6 + _ + _ := total_eq long
    unfold total at six
    omega
  have top := OnesComplement.sum_eq_top_iff (OnesComplement.words_lt _) nonzero
  rw [sum] at top
  unfold Valid total
  rw [top]
  exact Int.natCast_dvd_natCast.symm

/-- What two bytes that are written in a part of the packet change in the sum of the part. -/
theorem weighted_window {start count place : Nat} (first : packet[start + place]? = some a)
    (second : packet[start + place + 1]? = some b) (whole : start + count ≤ packet.length)
    (inside : place + 2 ≤ count) (c d : UInt8) :
    OnesComplement.weighted true
        (Region.window (Region.overwrite packet (start + place) [c, d]) start count) +
      (OnesComplement.weight (OnesComplement.highAt place true) * a.toNat +
        OnesComplement.weight (!OnesComplement.highAt place true) * b.toNat) =
      OnesComplement.weighted true (Region.window packet start count) +
      (OnesComplement.weight (OnesComplement.highAt place true) * c.toNat +
        OnesComplement.weight (!OnesComplement.highAt place true) * d.toNat) := by
  have high : (Region.window packet start count)[place]? = some a := by
    rw [Region.getElem?_window, if_pos (by omega), first]
  have low : (Region.window packet start count)[place + 1]? = some b := by
    rw [Region.getElem?_window, if_pos (by omega), ← Nat.add_assoc, second]
  rw [Region.window_overwrite whole inside]
  exact OnesComplement.weighted_overwrite true high low c d

/-- Two bytes that are written behind both headers. -/
theorem total_value {m : UInt16} (first : packet[q]? = some a) (second : packet[q + 1]? = some b)
    (behind : tc + 20 ≤ q) :
    (total tc (Region.overwrite packet q (putBe16 m)) : Int) ≡
      total tc packet + valueWeight tc q * (m.toNat - (be16 a b).toNat) [ZMOD 65535] := by
  have within : q + 1 < packet.length := (List.getElem?_eq_some_iff.mp second).1
  have same : (Region.overwrite packet q (putBe16 m)).length = packet.length :=
    Region.length_overwrite (by rw [length_putBe16]; omega)
  have addresses : Region.window (Region.overwrite packet q (putBe16 m)) 12 8 =
      Region.window packet 12 8 := by
    apply Region.window_congr
    intro place low high
    rw [Region.getElem?_overwrite (by rw [length_putBe16]; omega), if_neg (by omega)]
  obtain ⟨place, rfl⟩ := Nat.exists_eq_add_of_le (show tc ≤ q by omega)
  have whole : tc + (packet.length - tc) ≤ packet.length := by omega
  have changed := weighted_window first second whole (by omega) (UInt8.ofNat (m.toNat / 256))
    (UInt8.ofNat (m.toNat % 256))
  have value : m.toNat = (UInt8.ofNat (m.toNat / 256)).toNat * 256 +
      (UInt8.ofNat (m.toNat % 256)).toNat := by
    rw [← toNat_be16, be16_putBe16]
  rw [total_eq (by omega), total_eq (by omega), same, addresses, toNat_be16]
  unfold putBe16 valueWeight
  rw [Nat.add_sub_cancel_left]
  generalize UInt8.ofNat (m.toNat / 256) = c at changed value ⊢
  generalize UInt8.ofNat (m.toNat % 256) = d at changed value ⊢
  generalize OnesComplement.weighted true
    (Region.window (Region.overwrite packet (tc + place) [c, d]) tc _) = after at changed ⊢
  generalize OnesComplement.weighted true (Region.window packet tc _) = before at changed ⊢
  generalize OnesComplement.weighted true (Region.window packet 12 8) = front
  rw [value]
  apply (Int.modEq_iff_dvd).mpr
  unfold OnesComplement.weight OnesComplement.highAt at changed
  by_cases even : place % 2 = 0
  · rw [if_pos even] at changed ⊢
    refine ⟨0, ?_⟩
    simp only [Bool.not_true, if_true, Bool.false_eq_true, if_false] at changed
    push_cast
    omega
  · rw [if_neg even] at changed ⊢
    -- The high byte counts 1 and the low one 256, which is 256 times as much but for 65535.
    refine ⟨(c.toNat : Int) - a.toNat, ?_⟩
    simp only [Bool.not_true, Bool.not_false, if_true, Bool.false_eq_true, if_false] at changed
    push_cast
    omega

/-- A checksum that is written. -/
theorem total_checksum {s t : UInt8} (first : packet[tc + thSum]? = some a)
    (second : packet[tc + thSum + 1]? = some b) (long : 20 ≤ packet.length) (even : tc % 4 = 0) :
    (total tc (Region.overwrite packet (tc + thSum) [s, t]) : Int) =
      total tc packet + checksumCount tc * ((be16 s t).toNat - (be16 a b).toNat) := by
  have within : tc + thSum + 1 < packet.length := (List.getElem?_eq_some_iff.mp second).1
  have block : [s, t].length = 2 := rfl
  have same : (Region.overwrite packet (tc + thSum) [s, t]).length = packet.length :=
    Region.length_overwrite (by rw [block]; omega)
  have whole : tc + (packet.length - tc) ≤ packet.length := by omega
  have changed := weighted_window first second whole (by omega) s t
  have weights : OnesComplement.weight (OnesComplement.highAt thSum true) = 256 ∧
      OnesComplement.weight (!OnesComplement.highAt thSum true) = 1 := ⟨rfl, rfl⟩
  rw [weights.1, weights.2] at changed
  rw [total_eq (by omega), total_eq long, same]
  simp only [toNat_be16]
  unfold checksumCount
  by_cases zero : tc = 0
  · subst zero
    -- The checksum is also in the pseudo header, at the place 4.
    have here : 0 + thSum = 12 + 4 := rfl
    rw [here] at first second
    have twice := weighted_window first second (show 12 + 8 ≤ packet.length by omega) (by decide) s t
    have weights : OnesComplement.weight (OnesComplement.highAt 4 true) = 256 ∧
        OnesComplement.weight (!OnesComplement.highAt 4 true) = 1 := ⟨rfl, rfl⟩
    rw [weights.1, weights.2] at twice
    rw [if_pos rfl]
    rw [here] at changed ⊢
    omega
  · have addresses : Region.window (Region.overwrite packet (tc + thSum) [s, t]) 12 8 =
        Region.window packet 12 8 := by
      apply Region.window_congr
      intro index low high
      have high_tc : 4 ≤ tc := by omega
      have sum : thSum = 16 := rfl
      rw [Region.getElem?_overwrite (by rw [block]; omega), if_neg (by omega)]
    rw [if_neg zero, addresses]
    push_cast
    omega

end Sums

section Outcomes

variable {order : ByteOrder} {maxmss : UInt16} {tc : Nat}

structure Lowers (maxmss : UInt16) (tc : Nat) (values : List (Nat × UInt16))
    (packet packet' : Bytes) : Prop where
  length : packet'.length = packet.length
  lowered : ∀ value ∈ values, Region.window packet' value.1 2 = putBe16 maxmss
  others : ∀ place, (∀ value ∈ values, place ≠ value.1 ∧ place ≠ value.1 + 1) →
    place ≠ tc + thSum → place ≠ tc + thSum + 1 → packet'[place]? = packet[place]?
  total : (total tc packet' : Int) ≡ total tc packet + drift maxmss tc values [ZMOD 65535]

theorem Lowers.refl (packet : Bytes) : Lowers maxmss tc [] packet packet where
  length := rfl
  lowered := nofun
  others _ _ _ _ := rfl
  total := by
    show (_ : Int) ≡ _ + 0 [ZMOD 65535]
    rw [Int.add_zero]

/-- Values that are lowered later stand behind those that have been lowered. -/
theorem Lowers.trans {values values' : List (Nat × UInt16)} {p q r : Bytes}
    (one : Lowers maxmss tc values p q) (other : Lowers maxmss tc values' q r)
    (behind : ∀ value ∈ values, tc + 20 ≤ value.1)
    (apart : ∀ value ∈ values, ∀ value' ∈ values', value.1 + 2 ≤ value'.1) :
    Lowers maxmss tc (values ++ values') p r where
  length := other.length.trans one.length
  lowered value found := by
    rcases List.mem_append.mp found with early | late
    · rw [← one.lowered value early]
      apply Region.window_congr
      intro place low high
      have sum : thSum = 16 := rfl
      have header := behind value early
      apply other.others place
      · intro value' late
        have := apart value early value' late
        omega
      · omega
      · omega
    · exact other.lowered value late
  others place untouched checksum checksum' :=
    (other.others place (fun value late => untouched value (List.mem_append_right _ late)) checksum
      checksum').trans
      (one.others place (fun value early => untouched value (List.mem_append_left _ early)) checksum
        checksum')
  total := by
    have sums : drift maxmss tc (values ++ values') =
        drift maxmss tc values + drift maxmss tc values' := by
      unfold drift
      rw [List.map_append, List.sum_append]
    rw [sums, ← Int.add_assoc]
    exact other.total.trans (one.total.add_right _)

theorem byte_ok {packet : Bytes} {place : Nat} {b : UInt8} (found : packet[place]? = some b) :
    byte packet place = .ok b := by
  unfold byte
  rw [found]

theorem put_eq {packet block : Bytes} {place : Nat}
    (within : place + block.length ≤ packet.length) :
    put packet place block = .ok (Region.overwrite packet place block) := if_pos within

theorem exists_byte {packet : Bytes} {place : Nat} (within : place < packet.length) :
    ∃ b, packet[place]? = some b := ⟨packet[place], List.getElem?_eq_getElem within⟩

/-- The value of an MSS option is lowered if it is too great. -/
theorem correctOption_lowers (order : ByteOrder) (maxmss : UInt16) {packet : Bytes} {opt : Nat}
    {a b : UInt8} (first : packet[opt + 2]? = some a) (second : packet[opt + 3]? = some b)
    (behind : tc + 20 ≤ opt) (even : tc % 4 = 0) :
    ∃ packet', correctOption order maxmss tc opt packet = .ok packet' ∧
      Lowers maxmss tc ([(opt + 2, be16 a b)].filter (·.2 > maxmss)) packet packet' := by
  have within : opt + 3 < packet.length := (List.getElem?_eq_some_iff.mp second).1
  have sum : thSum = 16 := rfl
  unfold correctOption
  rw [byte_ok first, byte_ok second]
  simp only [bind, Except.bind]
  by_cases great : be16 a b > maxmss
  · rw [if_pos great, List.filter_cons_of_pos (by simpa using great), List.filter_nil]
    have room : opt + 2 + (putBe16 maxmss).length ≤ packet.length := by
      rw [length_putBe16]
      omega
    -- What is in the packet after the value has been written.
    have written (place : Nat) := Region.getElem?_overwrite room place
    rw [length_putBe16] at written
    have length := Region.length_overwrite room
    have lowered := Region.window_overwrite_self room
    have value : (total tc (Region.overwrite packet (opt + 2) (putBe16 maxmss)) : Int) ≡ _
        [ZMOD 65535] := total_value first second (by omega)
    obtain ⟨s, checksum⟩ := exists_byte (show tc + thSum < packet.length by omega)
    obtain ⟨t, checksum'⟩ := exists_byte (show tc + thSum + 1 < packet.length by omega)
    rw [put_eq room]
    generalize Region.overwrite packet (opt + 2) (putBe16 maxmss) = packet₁ at *
    have first₁ : packet₁[opt + 2]? = some (UInt8.ofNat (maxmss.toNat / 256)) := by
      rw [written, if_pos (by omega), Nat.sub_self]
      rfl
    have second₁ : packet₁[opt + 3]? = some (UInt8.ofNat (maxmss.toNat % 256)) := by
      rw [written, if_pos (by omega), show opt + 3 - (opt + 2) = 1 by omega]
      rfl
    have checksum₁ : packet₁[tc + thSum]? = some s := by
      rw [written, if_neg (by omega), checksum]
    have checksum₁' : packet₁[tc + thSum + 1]? = some t := by
      rw [written, if_neg (by omega), checksum']
    dsimp only
    rw [byte_ok first₁, byte_ok second₁, byte_ok checksum₁, byte_ok checksum₁']
    dsimp only
    have same := be16_putBe16 maxmss
    generalize UInt8.ofNat (maxmss.toNat / 256) = a' at *
    generalize UInt8.ofNat (maxmss.toNat % 256) = b' at *
    have old := order.load_lt a b
    have new := order.load_lt a' b'
    have least : -65536 < (order.load a b - order.load a' b' : Int) := by omega
    have most : (order.load a b - order.load a' b' : Int) < 65536 := by omega
    obtain ⟨small, adjusted⟩ := adjustChecksum_modEq least most (order.load_lt s t)
    obtain ⟨s', t', stored, loaded⟩ := order.store_eq small
    rw [stored]
    rw [← loaded] at adjusted
    have agrees := order.load_modEq adjusted
    have room₁ : tc + thSum + [s', t'].length ≤ packet₁.length := by
      rw [length]
      show tc + thSum + 2 ≤ packet.length
      omega
    have written₁ (place : Nat) := Region.getElem?_overwrite room₁ place
    have counted := total_checksum (s := s') (t := t') checksum₁ checksum₁' (by omega) even
    have length₁ := Region.length_overwrite room₁
    rw [put_eq room₁]
    generalize Region.overwrite packet₁ (tc + thSum) [s', t'] = packet₂ at *
    have two : [s', t'].length = 2 := rfl
    rw [two] at written₁
    refine ⟨packet₂, rfl, length₁.trans length, ?_, ?_, ?_⟩
    · intro value found
      rw [List.mem_singleton.mp found]
      rw [length_putBe16] at lowered
      rw [← lowered]
      apply Region.window_congr
      intro place low high
      dsimp only at low high
      rw [written₁, if_neg (by omega)]
    · intro place untouched other other'
      have apart := untouched _ List.mem_cons_self
      dsimp only at apart
      rw [written₁, if_neg (by omega), written, if_neg (by omega)]
    · unfold drift
      rw [List.map_singleton, List.sum_singleton, counted]
      rw [same] at agrees
      obtain ⟨k, value⟩ := value.dvd
      obtain ⟨l, agrees⟩ := agrees.dvd
      apply (Int.modEq_iff_dvd).mpr
      refine ⟨k + checksumCount tc * l, ?_⟩
      dsimp only
      linear_combination value + checksumCount tc * agrees
  · rw [if_neg great, List.filter_cons_of_neg (by simpa using great), List.filter_nil]
    exact ⟨packet, rfl, .refl packet⟩

end Outcomes

section Walks

variable {order : ByteOrder} {maxmss : UInt16} {tc : Nat}

theorem optionStarts_skip (place skip : Nat) (area : Bytes) :
    optionStarts place skip area = optionStarts (place + skip) 0 (area.drop skip) := by
  induction skip generalizing place area with
  | zero => rfl
  | succ skip ih =>
      cases area with
      | nil => rw [List.drop_nil, optionStarts, optionStarts]
      | cons kind rest =>
          rw [optionStarts, ih, List.drop_succ_cons, Nat.add_assoc, Nat.add_comm 1 skip]

theorem optionLength_pos {area : Bytes} {n : Nat} (next : optionLength area = some n) : 0 < n := by
  unfold optionLength at next
  split at next
  · exact nomatch next
  · split at next
    · exact nomatch next
    · split at next
      · cases next
        exact Nat.one_pos
      · split at next
        · exact nomatch next
        · split at next
          · exact nomatch next
          · next valid =>
            cases next
            exact Nat.pos_of_ne_zero fun zero => (not_or.mp valid).1 (UInt8.toNat_inj.mp zero)

theorem optionStarts_none {place : Nat} {kind : UInt8} {rest : Bytes}
    (last : optionLength (kind :: rest) = none) :
    optionStarts place 0 (kind :: rest) = [(place, kind :: rest)] := by
  rw [optionStarts, last]

theorem optionStarts_some {place n : Nat} {kind : UInt8} {rest : Bytes}
    (next : optionLength (kind :: rest) = some n) :
    optionStarts place 0 (kind :: rest) =
      (place, kind :: rest) :: optionStarts (place + n) 0 ((kind :: rest).drop n) := by
  obtain ⟨n, rfl⟩ := Nat.exists_eq_succ_of_ne_zero (optionLength_pos next).ne'
  rw [optionStarts, next]
  dsimp only
  rw [Nat.succ_sub_one, optionStarts_skip, List.drop_succ_cons, Nat.add_assoc, Nat.add_comm 1 n]

theorem le_of_mem_optionStarts {place skip : Nat} {area : Bytes} {start : Nat × Bytes}
    (found : start ∈ optionStarts place skip area) : place + skip ≤ start.1 := by
  induction area generalizing place skip with
  | nil => exact absurd found List.not_mem_nil
  | cons kind rest ih =>
      cases skip with
      | succ skip =>
          have behind : place + 1 + skip ≤ start.1 := ih found
          omega
      | zero =>
          rw [optionStarts] at found
          rcases List.mem_cons.mp found with rfl | later
          · exact Nat.le_refl _
          · split at later
            · exact absurd later List.not_mem_nil
            · next n _ =>
              have behind : place + 1 + (n - 1) ≤ start.1 := ih later
              omega

theorem le_of_mem_tooGreat {place : Nat} {area : Bytes} {value : Nat × UInt16}
    (found : value ∈ tooGreat maxmss (optionStarts place 0 area)) : place + 2 ≤ value.1 := by
  obtain ⟨member, -⟩ := List.mem_filter.mp found
  obtain ⟨start, started, option⟩ := List.mem_filterMap.mp member
  have behind := le_of_mem_optionStarts started
  unfold mssOption at option
  split at option
  · split at option
    · cases option
      dsimp only at behind ⊢
      omega
    · exact nomatch option
  · exact nomatch option

theorem tooGreat_cons (start : Nat × Bytes) (found : List (Nat × Bytes)) :
    tooGreat maxmss (start :: found) = tooGreat maxmss [start] ++ tooGreat maxmss found := by
  unfold tooGreat
  rw [← List.filter_append, ← List.filterMap_append]
  rfl

theorem tooGreat_none {start : Nat × Bytes} (none : mssOption start = .none) :
    tooGreat maxmss [start] = [] := by
  unfold tooGreat
  rw [List.filterMap_cons_none none]
  rfl

theorem mssOption_of_ne {place : Nat} {kind : UInt8} {rest : Bytes} (other : kind ≠ optMaxseg) :
    mssOption (place, kind :: rest) = none := by
  unfold mssOption
  split
  · next same =>
    cases same
    exact if_neg fun both => other both.1
  · rfl

def Walked (maxmss : UInt16) (tc : Nat) (found : List (Nat × Bytes)) (stop : Nat)
    (packet : Bytes) : Except Fault Bytes → Prop
  | .ok packet' =>
      (found.any lacksLength = true → stop < packet.length) ∧
        Lowers maxmss tc (tooGreat maxmss found) packet packet'
  | .error _ => found.any lacksLength = true ∧ stop = packet.length

theorem Walked.last {start : Nat × Bytes} {stop : Nat} {packet : Bytes}
    (whole : lacksLength start = true → stop < packet.length) (none : mssOption start = .none) :
    Walked maxmss tc [start] stop packet (.ok packet) := by
  refine ⟨fun any => whole ?_, ?_⟩
  · rwa [List.any_cons, List.any_nil, Bool.or_false] at any
  · rw [tooGreat_none none]
    exact .refl packet

/-- An option, and the walk from the next one on. -/
theorem Walked.next {start : Nat × Bytes} {stop next : Nat} {area : Bytes}
    {packet packet₁ : Bytes} {result : Except Fault Bytes} (whole : lacksLength start = false)
    (one : Lowers maxmss tc (tooGreat maxmss [start]) packet packet₁)
    (inside : ∀ value ∈ tooGreat maxmss [start], tc + 20 ≤ value.1 ∧ value.1 ≤ next)
    (rest : Walked maxmss tc (optionStarts next 0 area) stop packet₁ result) :
    Walked maxmss tc (start :: optionStarts next 0 area) stop packet result := by
  have any : (start :: optionStarts next 0 area).any lacksLength =
      (optionStarts next 0 area).any lacksLength := by
    rw [List.any_cons, whole, Bool.false_or]
  unfold Walked at rest ⊢
  rw [any, ← one.length]
  cases result with
  | error fault => exact rest
  | ok packet' =>
      refine ⟨rest.1, ?_⟩
      rw [tooGreat_cons]
      refine one.trans rest.2 (fun value found => (inside value found).1) ?_
      intro value found value' found'
      exact (Nat.add_le_add_right (inside value found).2 2).trans (le_of_mem_tooGreat found')

theorem window_cons {packet : Bytes} {start : Nat} {c : UInt8}
    (first : packet[start]? = some c) (count : Nat) :
    Region.window packet start (count + 1) = c :: Region.window packet (start + 1) count := by
  obtain ⟨within, rfl⟩ := List.getElem?_eq_some_iff.mp first
  unfold Region.window
  rw [List.drop_eq_getElem_cons within, List.take_succ_cons]

theorem drop_window (packet : Bytes) (start count n : Nat) :
    (Region.window packet start count).drop n = Region.window packet (start + n) (count - n) := by
  unfold Region.window
  rw [List.drop_take, List.drop_drop]

theorem options_zero (order : ByteOrder) (maxmss : UInt16) (tc fuel opt : Nat) (packet : Bytes) :
    options order maxmss tc fuel opt 0 packet = .ok packet := by
  cases fuel with
  | zero => rw [options, if_pos rfl]
  | succ fuel => rw [options, if_pos rfl]

theorem lacksLength_cons {place : Nat} {kind : UInt8} {rest : Bytes}
    (lacks : lacksLength (place, kind :: rest) = true) :
    rest = [] ∧ kind ≠ optEol ∧ kind ≠ optNop := by
  cases rest with
  | nil =>
      obtain ⟨eol, nop⟩ := (Bool.and_eq_true _ _).mp lacks
      exact ⟨rfl, bne_iff_ne.mp eol, bne_iff_ne.mp nop⟩
  | cons len rest => exact nomatch lacks

/-- An option that is no MSS option, and the walk from the next one on. -/
theorem Walked.other {place stop next : Nat} {kind : UInt8} {rest area : Bytes} {packet : Bytes}
    {result : Except Fault Bytes} (whole : lacksLength (place, kind :: rest) ≠ true)
    (none : mssOption (place, kind :: rest) = .none)
    (walked : Walked maxmss tc (optionStarts next 0 area) stop packet result) :
    Walked maxmss tc ((place, kind :: rest) :: optionStarts next 0 area) stop packet result := by
  have nothing : tooGreat maxmss [(place, kind :: rest)] = [] := tooGreat_none none
  have stays : Lowers maxmss tc (tooGreat maxmss [(place, kind :: rest)]) packet packet := by
    rw [nothing]
    exact .refl packet
  refine Walked.next (Bool.eq_false_iff.mpr whole) stays ?_ walked
  rw [nothing]
  exact nofun

theorem optionLength_len {kind len : UInt8} {rest : Bytes} (eol : kind ≠ optEol)
    (nop : kind ≠ optNop) :
    optionLength (kind :: len :: rest) =
      if len = 0 ∨ len.toNat > rest.length + 2 then none else some len.toNat := by
  show (if kind = optEol then none else if kind = optNop then some 1 else _) = _
  rw [if_neg eol, if_neg nop]
  rfl

theorem mssOption_len {place : Nat} {kind len : UInt8} {rest : Bytes}
    (other : ¬ (kind = optMaxseg ∧ len = lenMaxseg)) :
    mssOption (place, kind :: len :: rest) = none := by
  unfold mssOption
  split
  · next same =>
    cases same
    exact if_neg other
  · rfl

theorem mssOption_value {place : Nat} {kind len a b : UInt8} {rest : Bytes}
    (mss : kind = optMaxseg ∧ len = lenMaxseg) :
    mssOption (place, kind :: len :: a :: b :: rest) = some (place + 2, be16 a b) := if_pos mss

theorem mssOption_short {place : Nat} {kind len : UInt8} {rest : Bytes} (short : rest.length < 2) :
    mssOption (place, kind :: len :: rest) = none := by
  cases rest with
  | nil => rfl
  | cons a rest =>
      cases rest with
      | nil => rfl
      | cons b rest => exact absurd short (by simp)

/-- The loop over the options does what the options that it meets ask for. -/
theorem options_walked (order : ByteOrder) (maxmss : UInt16) (even : tc % 4 = 0)
    (fuel opt olen : Nat) (packet : Bytes) (enough : olen ≤ fuel)
    (inside : opt + olen ≤ packet.length) (behind : tc + 20 ≤ opt) :
    Walked maxmss tc (optionStarts opt 0 (Region.window packet opt olen)) (opt + olen) packet
      (options order maxmss tc fuel opt olen packet) := by
  induction fuel generalizing opt olen packet with
  | zero =>
      obtain rfl := Nat.le_zero.mp enough
      rw [options_zero]
      exact ⟨nofun, .refl packet⟩
  | succ fuel ih =>
      cases olen with
      | zero =>
          rw [options_zero]
          exact ⟨nofun, .refl packet⟩
      | succ olen =>
          obtain ⟨kind, first⟩ := exists_byte (show opt < packet.length by omega)
          have area := window_cons first olen
          have dropped (n : Nat) := drop_window packet opt (olen + 1) n
          rw [area] at dropped
          rw [options, if_neg (Nat.succ_ne_zero _), byte_ok first, area]
          simp only [bind, Except.bind]
          by_cases eol : kind = optEol
          · subst eol
            rw [if_pos rfl, optionStarts_none rfl]
            exact .last (fun lacks => absurd rfl (lacksLength_cons lacks).2.1)
              (mssOption_of_ne (by decide))
          by_cases nop : kind = optNop
          · subst nop
            rw [if_neg eol, if_pos rfl, optionStarts_some (n := 1) rfl, dropped]
            refine .other (fun lacks => absurd rfl (lacksLength_cons lacks).2.2)
              (mssOption_of_ne (by decide)) ?_
            have walked := ih (opt + 1) olen packet (by omega) (by omega) (by omega)
            rwa [Nat.add_assoc, Nat.add_comm 1 olen] at walked
          rw [if_neg eol, if_neg nop]
          cases olen with
          | zero =>
              -- The last byte of the header, and no length behind it there.
              have empty : Region.window packet (opt + 1) 0 = [] := rfl
              have last : optionLength [kind] = none := by
                show (if kind = optEol then none else if kind = optNop then some 1 else none) = none
                rw [if_neg eol, if_neg nop]
              have lacks : lacksLength (opt, [kind]) = true :=
                (Bool.and_eq_true _ _).mpr ⟨bne_iff_ne.mpr eol, bne_iff_ne.mpr nop⟩
              rw [empty, optionStarts_none last]
              by_cases more : opt + 1 < packet.length
              · obtain ⟨len, second⟩ := exists_byte more
                have stays : Walked maxmss tc [(opt, [kind])] (opt + (0 + 1)) packet (.ok packet) :=
                  .last (fun _ => more) rfl
                rw [byte_ok second]
                dsimp only
                by_cases stops : len = 0 ∨ len.toNat > 0 + 1
                · rw [if_pos stops]
                  exact stays
                · have one : len.toNat = 1 := by
                    have nonzero : len.toNat ≠ 0 := fun zero =>
                      (not_or.mp stops).1 (UInt8.toNat_inj.mp zero)
                    have := (not_or.mp stops).2
                    omega
                  have other : ¬ (kind = optMaxseg ∧ len = lenMaxseg) := by
                    rintro ⟨-, rfl⟩
                    exact absurd one (by decide)
                  rw [if_neg stops, if_neg other, one]
                  rw [options_zero]
                  exact stays
              · have beyond : byte packet (opt + 1) = .error .outside := by
                  unfold byte
                  rw [List.getElem?_eq_none (Nat.le_of_not_lt more)]
                rw [beyond]
                refine ⟨?_, by omega⟩
                rw [List.any_cons, lacks, Bool.true_or]
          | succ olen =>
              obtain ⟨len, second⟩ := exists_byte (show opt + 1 < packet.length by omega)
              have rest := window_cons second olen
              have size : (Region.window packet (opt + 1 + 1) olen).length = olen :=
                Region.length_window (by omega)
              rw [rest] at dropped ⊢
              rw [byte_ok second]
              dsimp only
              have whole : lacksLength
                  (opt, kind :: len :: Region.window packet (opt + 1 + 1) olen) ≠ true :=
                fun lacks => absurd (lacksLength_cons lacks).1 (List.cons_ne_nil _ _)
              have next := @optionLength_len kind len (Region.window packet (opt + 1 + 1) olen) eol nop
              rw [size] at next
              by_cases stops : len = 0 ∨ len.toNat > olen + 1 + 1
              · rw [if_pos stops] at next ⊢
                rw [optionStarts_none next]
                refine .last (fun lacks => absurd lacks whole) ?_
                by_cases mss : kind = optMaxseg ∧ len = lenMaxseg
                · have four : len.toNat = 4 := by rw [mss.2]; rfl
                  have nonzero : len ≠ 0 := by rw [mss.2]; decide
                  have less := stops.resolve_left nonzero
                  exact mssOption_short (by omega)
                · exact mssOption_len mss
              · rw [if_neg stops] at next ⊢
                rw [optionStarts_some next, dropped]
                have short : len.toNat ≤ olen + 2 := Nat.le_of_not_lt (not_or.mp stops).2
                have positive := optionLength_pos next
                have stop : opt + len.toNat + (olen + 1 + 1 - len.toNat) = opt + (olen + 1 + 1) := by
                  omega
                by_cases mss : kind = optMaxseg ∧ len = lenMaxseg
                · have four : len.toNat = 4 := by rw [mss.2]; rfl
                  obtain ⟨a, third⟩ := exists_byte (show opt + 2 < packet.length by omega)
                  obtain ⟨b, fourth⟩ := exists_byte (show opt + 3 < packet.length by omega)
                  obtain ⟨packet₁, corrected, lowers⟩ :=
                    correctOption_lowers order maxmss third fourth behind even
                  have value : Region.window packet (opt + 1 + 1) olen =
                      a :: b :: Region.window packet (opt + 4) (olen - 2) := by
                    obtain ⟨olen, rfl⟩ := Nat.exists_eq_add_of_le' (show 2 ≤ olen by omega)
                    exact (window_cons third _).trans (congrArg (a :: ·) (window_cons fourth _))
                  have option : tooGreat maxmss
                      [(opt, kind :: len :: Region.window packet (opt + 1 + 1) olen)] =
                        [(opt + 2, be16 a b)].filter (·.2 > maxmss) := by
                    rw [value]
                    unfold tooGreat
                    rw [List.filterMap_cons_some (mssOption_value mss), List.filterMap_nil]
                  have untouched : Region.window packet (opt + len.toNat)
                      (olen + 1 + 1 - len.toNat) =
                        Region.window packet₁ (opt + len.toNat) (olen + 1 + 1 - len.toNat) := by
                    have sum : thSum = 16 := rfl
                    apply Region.window_congr
                    intro place low high
                    refine (lowers.others place ?_ (by omega) (by omega)).symm
                    intro value found
                    rw [List.mem_singleton.mp (List.mem_filter.mp found).1]
                    dsimp only
                    omega
                  have length := lowers.length
                  have walked := ih (opt + len.toNat) (olen + 1 + 1 - len.toNat) packet₁ (by omega)
                    (by omega) (by omega)
                  rw [if_pos mss, corrected, untouched]
                  rw [stop] at walked
                  rw [← option] at lowers
                  refine .next (Bool.eq_false_iff.mpr whole) lowers ?_ walked
                  intro value found
                  rw [option] at found
                  rw [List.mem_singleton.mp (List.mem_filter.mp found).1]
                  dsimp only
                  omega
                · rw [if_neg mss]
                  have walked := ih (opt + len.toNat) (olen + 1 + 1 - len.toNat) packet (by omega)
                    (by omega) (by omega)
                  rw [stop] at walked
                  exact .other whole (mssOption_len mss) walked

end Walks

section Theorems

variable {order : ByteOrder} {maxmss : UInt16} {packet : Bytes}

theorem even_tcpPlace (first : UInt8) : tcpPlace first % 4 = 0 := Nat.mul_mod_left _ _

/-- A packet without a byte `th_off` is read beyond its end. -/
theorem ifaceCorrectMSS_outside (short : ¬ (segment packet).tc + thOff < packet.length) :
    ifaceCorrectMSS order maxmss packet = .error .outside := by
  cases packet with
  | nil => rfl
  | cons first rest =>
      have beyond : byte (first :: rest) (tcpPlace first + thOff) = .error .outside := by
        unfold byte
        rw [List.getElem?_eq_none (show (first :: rest).length ≤ tcpPlace first + thOff from
          Nat.le_of_not_lt short)]
      unfold ifaceCorrectMSS
      rw [byte_ok (b := first) rfl]
      simp only [bind, Except.bind]
      rw [beyond]

/-- The options are looked at where there are any. -/
theorem ifaceCorrectMSS_eq (order : ByteOrder) (maxmss : UInt16)
    (header : (segment packet).tc + thOff < packet.length) :
    ifaceCorrectMSS order maxmss packet =
      if HasOptions packet then
        options order maxmss (segment packet).tc ((segment packet).hlen - tcpHeader)
          ((segment packet).tc + tcpHeader) ((segment packet).hlen - tcpHeader) packet
      else .ok packet := by
  cases packet with
  | nil => exact absurd header (Nat.not_lt_zero _)
  | cons first rest =>
      generalize whole : first :: rest = packet at *
      have head : packet.headD 0 = first := by rw [← whole]; rfl
      have zero : packet[0]? = some first := by rw [← whole]; rfl
      obtain ⟨offset, found⟩ := exists_byte header
      have place : (segment packet).tc = tcpPlace first := congrArg tcpPlace head
      have length : (segment packet).hlen = offset.toNat / 16 * 4 := by
        show (packet.getD ((segment packet).tc + thOff) 0).toNat / 16 * 4 = _
        rw [List.getD_eq_getElem?_getD, found, Option.getD_some]
      rw [place] at found
      have asks : HasOptions packet ↔ (segment packet).syn = true ∧
          tcpHeader < offset.toNat / 16 * 4 ∧
            tcpPlace first + offset.toNat / 16 * 4 ≤ packet.length := by
        rw [← length, ← place]
        exact Iff.rfl
      unfold ifaceCorrectMSS
      rw [byte_ok zero]
      simp only [bind, Except.bind]
      rw [byte_ok found, place, length]
      dsimp only
      have sizes : tcpHeader = 20 ∧ thFlags = 13 := ⟨rfl, rfl⟩
      by_cases invalid : offset.toNat / 16 * 4 ≤ tcpHeader ∨
          ((offset.toNat / 16 * 4 : Nat) : Int) > (packet.length : Int) - (tcpPlace first : Nat)
      · rw [if_pos invalid, if_neg]
        rw [asks]
        rintro ⟨-, options, inside⟩
        omega
      · obtain ⟨flags, found⟩ := exists_byte
          (show tcpPlace first + thFlags < packet.length by omega)
        have syn : (segment packet).syn = decide (flags.toNat / 2 % 2 = 1) := by
          show decide ((packet.getD ((segment packet).tc + thFlags) 0).toNat / 2 % 2 = 1) = _
          rw [place, List.getD_eq_getElem?_getD, found, Option.getD_some]
        rw [if_neg invalid, byte_ok found]
        rw [syn] at asks
        dsimp only
        by_cases no_syn : flags.toNat / 2 % 2 = 0
        · rw [if_pos no_syn, if_neg]
          rw [asks]
          rintro ⟨set, -⟩
          have := of_decide_eq_true set
          omega
        · rw [if_neg no_syn, if_pos]
          exact asks.mpr ⟨decide_eq_true (by omega), by omega, by omega⟩

theorem starts_none (no_options : ¬ HasOptions packet) : starts packet = [] := if_neg no_options

theorem starts_some (some_options : HasOptions packet) :
    starts packet = optionStarts ((segment packet).tc + tcpHeader) 0
      (Region.window packet ((segment packet).tc + tcpHeader)
        ((segment packet).hlen - tcpHeader)) := if_pos some_options

theorem length_of_hasOptions (some_options : HasOptions packet) : 20 ≤ packet.length := by
  obtain ⟨-, options, inside⟩ := some_options
  have size : tcpHeader = 20 := rfl
  omega

/-- What the options ask for is done, unless the packet ends in the head of one. -/
theorem ifaceCorrectMSS_walked (order : ByteOrder) (maxmss : UInt16)
    (some_options : HasOptions packet) :
    Walked maxmss (segment packet).tc (starts packet) ((segment packet).tc + (segment packet).hlen)
      packet (ifaceCorrectMSS order maxmss packet) := by
  obtain ⟨syn, options, inside⟩ := some_options
  have size : tcpHeader = 20 ∧ thOff = 12 := ⟨rfl, rfl⟩
  have stop : (segment packet).tc + tcpHeader + ((segment packet).hlen - tcpHeader) =
      (segment packet).tc + (segment packet).hlen := by omega
  have even : (segment packet).tc % 4 = 0 := even_tcpPlace _
  have walked := options_walked order maxmss even ((segment packet).hlen - tcpHeader)
    ((segment packet).tc + tcpHeader) ((segment packet).hlen - tcpHeader) packet (Nat.le_refl _)
    (by omega) (by omega)
  rw [stop] at walked
  rw [ifaceCorrectMSS_eq order maxmss (by omega), if_pos ⟨syn, options, inside⟩,
    starts_some ⟨syn, options, inside⟩]
  exact walked

/-- The checksum of a packet stays valid if and only if the drift does not show. -/
theorem Lowers.valid_iff {tc : Nat} {values : List (Nat × UInt16)} {packet' : Bytes}
    (lowers : Lowers maxmss tc values packet packet') (long : 20 ≤ packet.length) :
    (Valid tc packet → Valid tc packet') ↔
      (Valid tc packet → (65535 : Int) ∣ drift maxmss tc values) := by
  have long' : 20 ≤ packet'.length := by rwa [lowers.length]
  have sum := lowers.total
  rw [CorrectMss.valid_iff long, CorrectMss.valid_iff long']
  refine imp_congr_right fun valid => ?_
  rw [sum.dvd_iff]
  exact (Int.dvd_add_right valid)

/-- The MSS of a packet is corrected as it should be if and only if the packet fits. -/
theorem correctsRight_iff (order : ByteOrder) (maxmss : UInt16) (packet : Bytes) :
    CorrectsRight order maxmss packet ↔ CorrectsFit maxmss packet := by
  by_cases header : (segment packet).tc + thOff < packet.length
  · by_cases some_options : HasOptions packet
    · have walked := ifaceCorrectMSS_walked order maxmss some_options
      have long := length_of_hasOptions some_options
      unfold CorrectsRight
      cases result : ifaceCorrectMSS order maxmss packet with
      | error fault =>
          rw [result] at walked
          constructor
          · rintro ⟨packet', corrected, -⟩
            exact nomatch corrected
          · intro fits
            have less := fits.ends walked.1
            rw [walked.2] at less
            exact absurd less (Nat.lt_irrefl _)
      | ok packet' =>
          rw [result] at walked
          obtain ⟨ends, lowers⟩ := walked
          constructor
          · rintro ⟨packet'', same, corrected⟩
            cases same
            exact ⟨header, ends, (lowers.valid_iff long).mp corrected.valid⟩
          · intro fits
            exact ⟨packet', rfl, lowers.length, lowers.lowered, lowers.others,
              (lowers.valid_iff long).mpr fits.even⟩
    · have stays := ifaceCorrectMSS_eq order maxmss header
      rw [if_neg some_options] at stays
      have nothing : tooGreat maxmss (starts packet) = [] := by
        rw [starts_none some_options]
        rfl
      constructor
      · intro _
        refine ⟨header, ?_, fun _ => ?_⟩
        · rw [starts_none some_options]
          exact nofun
        · rw [nothing]
          exact dvd_zero _
      · intro _
        refine ⟨packet, stays, rfl, ?_, fun _ _ _ _ => rfl, id⟩
        rw [nothing]
        exact nofun
  · constructor
    · rintro ⟨packet', corrected, -⟩
      rw [ifaceCorrectMSS_outside header] at corrected
      exact nomatch corrected
    · intro fits
      exact absurd fits.header header

def oddSyn : Bytes :=
  [69, 0, 0, 48, 0, 0, 0, 0, 64, 6, 0, 0, 10, 0, 0, 1, 10, 0, 0, 2,
    18, 52, 0, 80, 0, 0, 0, 0, 0, 0, 0, 0, 112, 2, 255, 255, 176, 76, 0, 0,
    1, 2, 4, 5, 180, 0, 0, 0]

/-- The value is at an odd place: its checksum is invalid after it has been lowered to 1400. -/
theorem not_correctsRight : ¬ ∀ order maxmss packet, CorrectsRight order maxmss packet := by
  intro always
  obtain ⟨packet', corrected, right⟩ := always .little 1400 oddSyn
  have made : ifaceCorrectMSS .little 1400 oddSyn =
      .ok (Region.overwrite (Region.overwrite oddSyn 43 [5, 120]) 36 [176, 136]) := by decide +kernel
  rw [made] at corrected
  cases corrected
  have valid : Valid (segment oddSyn).tc oddSyn := by decide
  exact absurd (right.valid valid) (by decide)

end Theorems

end Mpd.CorrectMss
