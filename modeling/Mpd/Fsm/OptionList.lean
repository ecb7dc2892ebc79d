import Mpd.Fsm.Acknowledgement
import Mpd.Lcp.Options

/-! The two directions of a configuration packet: `FsmConfValue`, which writes
one option, and `FsmExtractOptions`, which takes a packet apart. -/

set_option autoImplicit false

namespace Mpd

/-- The order in which the host keeps the bytes of an integer in memory. -/
inductive HostOrder where
  | little | big
  deriving DecidableEq, Repr

namespace HostOrder

def load16 : HostOrder → Bytes → UInt16
  | little, a :: b :: _ => be16 b a
  | big, a :: b :: _ => be16 a b
  | _, _ => 0

def load32 : HostOrder → Bytes → UInt32
  | little, a :: b :: c :: d :: _ => be32 d c b a
  | big, a :: b :: c :: d :: _ => be32 a b c d
  | _, _ => 0

def store16 : HostOrder → UInt16 → Bytes
  | little, value => (putBe16 value).reverse
  | big, value => putBe16 value

def store32 : HostOrder → UInt32 → Bytes
  | little, value => (putBe32 value).reverse
  | big, value => putBe32 value

/-- `htons` swaps the bytes unless the host keeps them in network order. -/
def htons : HostOrder → UInt16 → UInt16
  | little, value => load16 big (store16 little value)
  | big, value => value

def htonl : HostOrder → UInt32 → UInt32
  | little, value => load32 big (store32 little value)
  | big, value => value

theorem store16_htons (host : HostOrder) (value : UInt16) :
    host.store16 (host.htons value) = putBe16 value := by
  cases host with
  | big => rfl
  | little =>
      change (putBe16 (be16 _ _)).reverse = _
      rw [putBe16_be16]
      rfl

theorem store32_htonl (host : HostOrder) (value : UInt32) :
    host.store32 (host.htonl value) = putBe32 value := by
  cases host with
  | big => rfl
  | little =>
      change (putBe32 (be32 _ _ _ _)).reverse = _
      rw [putBe32_be32]
      rfl

end HostOrder

/-- The arguments of one call of `FsmConfValue`: `data` is the memory from the
pointer on, which holds at least what `len` asks for. The codes -2 and -4 stand
for an integer of 16 or 32 bits in the order of the host. -/
structure ConfValue where
  type : UInt8
  len : Int
  data : Bytes
  sized : len = -2 ∧ 2 ≤ data.length ∨ len = -4 ∧ 4 ≤ data.length ∨
    0 ≤ len ∧ len ≤ 253 ∧ len ≤ data.length

namespace ConfValue

variable (host : HostOrder)

/-- `FsmConfValue`, as the bytes that it puts at the pointer. -/
def write (value : ConfValue) : Bytes :=
  let (len, bytes) :=
    if value.len = -2 then (2, host.store16 (host.htons (host.load16 value.data)))
    else if value.len = -4 then (4, host.store32 (host.htonl (host.load32 value.data)))
    else (value.len, value.data)
  value.type :: UInt8.ofNat ((len + 2) % 256).toNat :: bytes.take len.toNat

def payload (value : ConfValue) : Bytes :=
  if value.len = -2 then putBe16 (host.load16 value.data)
  else if value.len = -4 then putBe32 (host.load32 value.data)
  else value.data.take value.len.toNat

theorem length_payload (value : ConfValue) : (value.payload host).length ≤ 253 := by
  unfold payload
  split_ifs with short long
  · rw [length_putBe16]
    decide
  · rw [length_putBe32]
    decide
  · have sized := value.sized
    rw [List.length_take]
    omega

def option (value : ConfValue) : FsmOption where
  type := value.type
  data := value.payload host
  fits := by
    have bounded := value.length_payload host
    omega

/-- What is written is the option, header and all. -/
theorem write_eq_bytes (value : ConfValue) : value.write host = (value.option host).bytes := by
  by_cases short : value.len = -2
  · have data : value.payload host = putBe16 (host.load16 value.data) := if_pos short
    simp only [write, short, if_true, HostOrder.store16_htons, FsmOption.bytes, option,
      FsmOption.len, data]
    rfl
  · by_cases long : value.len = -4
    · have data : value.payload host = putBe32 (host.load32 value.data) := by
        rw [payload, if_neg short, if_pos long]
      simp only [write, long, HostOrder.store32_htonl, FsmOption.bytes, option,
        FsmOption.len, data]
      rfl
    · have data : value.payload host = value.data.take value.len.toNat := by
        rw [payload, if_neg short, if_neg long]
      have sized := value.sized
      have counted : (value.data.take value.len.toNat).length = value.len.toNat := by
        rw [List.length_take]
        omega
      have header : ((value.len + 2) % 256).toNat = value.len.toNat + 2 := by omega
      simp only [write, if_neg short, if_neg long, FsmOption.bytes, option, FsmOption.len, data,
        counted, header]

end ConfValue

/-- The calls that give their length as it is write what the option builders of
the protocols write. -/
theorem ConfValue.write_eq_fsmConfValue (host : HostOrder) (value : ConfValue)
    (plain : 0 ≤ value.len) :
    value.write host = fsmConfValue value.type (value.data.take value.len.toNat) := by
  have data : value.payload host = value.data.take value.len.toNat := by
    rw [payload, if_neg (by omega), if_neg (by omega)]
  rw [write_eq_bytes]
  change value.type :: UInt8.ofNat ((value.payload host).length + 2) :: value.payload host = _
  rw [data, fsmConfValue]

/-- The extraction cannot go on at these bytes: the length byte counts less than
the header, or more than there is. -/
def Malformed : Bytes → Prop
  | _ :: length :: data => length.toNat < 2 ∨ data.length + 2 < length.toNat
  | _ => False

theorem fsmExtractOptions_cons (max : Nat) (option : FsmOption) (rest : Bytes) :
    fsmExtractOptions (max + 1) (option.bytes ++ rest) =
      (option :: (fsmExtractOptions max rest).1, (fsmExtractOptions max rest).2) := by
  obtain ⟨type, data, fits⟩ := option
  have counted : (UInt8.ofNat (data.length + 2)).toNat = data.length + 2 := by
    rw [UInt8.toNat_ofNat']
    omega
  simp only [FsmOption.bytes, FsmOption.len, List.cons_append]
  conv_lhs => unfold fsmExtractOptions
  rw [dif_neg (by rw [counted, List.length_append]; omega)]
  simp only [counted, Nat.add_sub_cancel, List.take_left, List.drop_left]

theorem fsmExtractOptions_flatMap_bytes (max : Nat) (options : List FsmOption)
    (few : options.length ≤ max) :
    fsmExtractOptions max (options.flatMap FsmOption.bytes) = (options, []) := by
  induction options generalizing max with
  | nil => cases max <;> rfl
  | cons option options ih =>
      cases max with
      | zero => simp at few
      | succ max =>
          have rest := ih max (by simpa using few)
          rw [List.flatMap_cons, fsmExtractOptions_cons, rest]

theorem length_fsmExtractOptions (max : Nat) (buf : Bytes) :
    (fsmExtractOptions max buf).1.length ≤ max := by
  fun_induction fsmExtractOptions max buf with
  | case1 => simp
  | case2 max type length data fits option tail ih =>
      have bounded : tail.1.length ≤ max := ih
      simpa using bounded
  | case3 => simp

/-- Why the extraction stopped where it did. -/
theorem fsmExtractOptions_stopped (max : Nat) (buf : Bytes) :
    (fsmExtractOptions max buf).1.length = max ∨ (fsmExtractOptions max buf).2.length < 2 ∨
      Malformed (fsmExtractOptions max buf).2 := by
  fun_induction fsmExtractOptions max buf with
  | case1 max type length data malformed => exact .inr (.inr malformed)
  | case2 max type length data fits option tail ih =>
      rcases ih with full | stopped
      · have all : tail.1.length = max := full
        exact .inl (by simpa using all)
      · exact .inr stopped
  | case3 max data other =>
      match max, data, other with
      | 0, _, _ => exact .inl rfl
      | _ + 1, [], _ => exact .inr (.inl (by simp))
      | _ + 1, [_], _ => exact .inr (.inl (by simp))
      | max + 1, type :: length :: data, other => exact (other max type length data rfl rfl).elim

/-- The two functions are inverse: what is built out of at most `FSM_MAX_OPTS`
calls is extracted option by option, and what is extracted from any buffer
stands in it one option after the other, up to the place where it stops. -/
theorem fsmExtractOptions_inverse_fsmConfValue (host : HostOrder) :
    (∀ values : List ConfValue, values.length ≤ fsmMaxOpts →
      fsmExtractOptions fsmMaxOpts (values.flatMap (ConfValue.write host)) =
        (values.map (ConfValue.option host), [])) ∧
    ∀ buf : Bytes,
      let found := fsmExtractOptions fsmMaxOpts buf
      found.1.flatMap FsmOption.bytes ++ found.2 = buf ∧
      (∀ earlier option later, found.1 = earlier ++ option :: later →
        2 ≤ option.len ∧
          option.bytes <+: buf.drop (earlier.flatMap FsmOption.bytes).length) ∧
      found.1.length ≤ fsmMaxOpts ∧
      (found.1.length = fsmMaxOpts ∨ found.2.length < 2 ∨ Malformed found.2) := by
  constructor
  · intro values few
    have written : ConfValue.write host = fun value => (value.option host).bytes :=
      funext (ConfValue.write_eq_bytes host)
    rw [written, ← List.flatMap_map]
    exact fsmExtractOptions_flatMap_bytes fsmMaxOpts _ (by simpa using few)
  · intro buf found
    have whole : found.1.flatMap FsmOption.bytes ++ found.2 = buf :=
      fsmExtractOptions_bytes fsmMaxOpts buf
    refine ⟨whole, ?_, length_fsmExtractOptions fsmMaxOpts buf,
      fsmExtractOptions_stopped fsmMaxOpts buf⟩
    intro earlier option later split
    refine ⟨by simp [FsmOption.len], ?_⟩
    rw [split, List.flatMap_append, List.flatMap_cons, List.append_assoc, List.append_assoc]
      at whole
    rw [← whole, List.drop_left]
    exact List.prefix_append _ _

/-- A 16 bit value, a 32 bit value, three plain bytes and an empty option, on a
host that keeps its integers in the other order. -/
theorem fsmExtractOptions_inverse_fsmConfValue_four :
    fsmExtractOptions fsmMaxOpts
        [1, 4, 0x05, 0xDC, 5, 6, 1, 2, 3, 4, 3, 5, 0xC2, 0x23, 5, 7, 2] =
      ([⟨1, [0x05, 0xDC], by decide⟩, ⟨5, [1, 2, 3, 4], by decide⟩,
        ⟨3, [0xC2, 0x23, 5], by decide⟩, ⟨7, [], by decide⟩], []) := by
  let values : List ConfValue :=
    [⟨1, -2, [0xDC, 0x05], by decide⟩, ⟨5, -4, [4, 3, 2, 1], by decide⟩,
      ⟨3, 3, [0xC2, 0x23, 5, 9], by decide⟩, ⟨7, 0, [], by decide⟩]
  have written : values.flatMap (ConfValue.write .little) =
      [1, 4, 0x05, 0xDC, 5, 6, 1, 2, 3, 4, 3, 5, 0xC2, 0x23, 5, 7, 2] := by decide
  have found := (fsmExtractOptions_inverse_fsmConfValue .little).1 values (by decide)
  rw [written] at found
  exact found

end Mpd
