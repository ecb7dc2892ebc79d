import Mpd.L2tp.Avp

/-! A list of AVPs survives packing and unpacking exactly when none of its values is too
long for the length field. -/

set_option autoImplicit false

namespace Mpd

section Hiding

variable (md5 : Md5) (secret : Bytes)

theorem length_xorHash (hash : Vector UInt8 16) (block : Bytes) :
    (xorHash hash block).length = min block.length 16 := by
  simp [xorHash]

theorem xorHash_append (hash : Vector UInt8 16) (first second : Bytes) :
    ∃ tail, xorHash hash (first ++ second) = xorHash hash first ++ tail := by
  refine ⟨second.zipWith (· ^^^ ·) (hash.toList.drop first.length), ?_⟩
  unfold xorHash
  generalize hash.toList = bytes
  induction first generalizing bytes with
  | nil => rfl
  | cons byte first ih =>
      cases bytes with
      | nil => simp
      | cons other bytes => simp [ih]

theorem xorHash_xorHash (hash : Vector UInt8 16) {block : Bytes} (short : block.length ≤ 16) :
    xorHash hash (xorHash hash block) = block := by
  apply List.ext_getElem
  · simp [length_xorHash, short]
  · intro i inside inside'
    simp only [xorHash, List.getElem_zipWith, Vector.getElem_toList, UInt8.xor_assoc,
      UInt8.xor_self, UInt8.xor_zero]

@[simp] theorem avpHideBlocks_nil (blocks : Nat) (hash : Vector UInt8 16) :
    avpHideBlocks md5 secret blocks hash [] = [] := by
  induction blocks generalizing hash with
  | zero => rfl
  | succ blocks ih => simp [avpHideBlocks, xorHash, ih]

theorem length_avpHideBlocks {blocks : Nat} (hash : Vector UInt8 16) {value : Bytes}
    (enough : value.length ≤ 16 * blocks) :
    (avpHideBlocks md5 secret blocks hash value).length = value.length := by
  induction blocks generalizing hash value with
  | zero =>
      have empty : value = [] := List.eq_nil_of_length_eq_zero (by omega)
      rw [empty, avpHideBlocks_nil]
  | succ blocks ih =>
      have rest : (value.drop 16).length ≤ 16 * blocks := by
        rw [List.length_drop]
        omega
      simp only [avpHideBlocks, List.length_append, length_xorHash, List.length_take, ih _ rest,
        List.length_drop]
      omega

/-- The unhiding of a hidden value and more bytes begins with the value. -/
theorem avpUnhideBlocks_avpHideBlocks {blocks blocks' : Nat} (more : blocks ≤ blocks')
    (hash : Vector UInt8 16) {value : Bytes} (enough : value.length ≤ 16 * blocks) (rest : Bytes)
    {limit : Nat} (covered : value.length ≤ limit) :
    ∃ tail, avpUnhideBlocks md5 secret blocks' hash limit
      (avpHideBlocks md5 secret blocks hash value ++ rest) = value ++ tail := by
  induction blocks generalizing blocks' hash value limit with
  | zero =>
      have empty : value = [] := List.eq_nil_of_length_eq_zero (by omega)
      rw [empty]
      exact ⟨_, (List.nil_append _).symm⟩
  | succ blocks ih =>
      obtain ⟨others, rfl⟩ := Nat.exists_eq_succ_of_ne_zero
        (Nat.ne_of_gt (Nat.lt_of_lt_of_le (Nat.succ_pos blocks) more))
      by_cases last : value.length ≤ 16
      · have hidden : avpHideBlocks md5 secret (blocks + 1) hash value = xorHash hash value := by
          rw [avpHideBlocks, List.take_of_length_le last, List.drop_of_length_le last,
            avpHideBlocks_nil, List.append_nil]
        have size : (xorHash hash value).length = value.length := by
          rw [length_xorHash, Nat.min_eq_left last]
        have first : (xorHash hash value ++ rest).take (min 16 limit) =
            xorHash hash value ++ rest.take (min 16 limit - value.length) := by
          rw [List.take_append, List.take_of_length_le (by omega), size]
        obtain ⟨tail, appended⟩ := xorHash_append hash (xorHash hash value)
          (rest.take (min 16 limit - value.length))
        rw [hidden]
        simp only [avpUnhideBlocks]
        rw [first, appended, xorHash_xorHash hash last, List.append_assoc]
        exact ⟨_, rfl⟩
      · have size : (xorHash hash (value.take 16)).length = 16 := by
          rw [length_xorHash, List.length_take]
          omega
        have left : (value.drop 16).length ≤ 16 * blocks := by
          rw [List.length_drop]
          omega
        have covers : (value.drop 16).length ≤ limit - 16 := by
          rw [List.length_drop]
          omega
        obtain ⟨tail, unhidden⟩ := ih (Nat.le_of_succ_le_succ more)
          (md5 (secret ++ xorHash hash (value.take 16))) left covers
        have whole : min 16 limit = 16 := Nat.min_eq_left (by omega)
        refine ⟨tail, ?_⟩
        simp only [avpHideBlocks, avpUnhideBlocks, List.append_assoc]
        rw [whole, List.take_left' size, List.drop_left' size,
          xorHash_xorHash hash (by rw [List.length_take]; omega), unhidden, ← List.append_assoc,
          List.take_append_drop]

end Hiding

section Flags

theorem uint16_or_and_right (x y z : UInt16) : (x ||| y) &&& z = (x &&& z) ||| (y &&& z) := by
  apply UInt16.toBitVec_inj.mp
  ext i inside
  simp only [UInt16.toBitVec_and, UInt16.toBitVec_or, BitVec.getElem_and, BitVec.getElem_or]
  exact Bool.and_or_distrib_right _ _ _

theorem avpFlags_fields (mandatory hidden : Bool) :
    avpFlags mandatory hidden &&& avpLengthMask = 0 ∧
      avpFlags mandatory hidden &&& avpReserved = 0 ∧
      (avpFlags mandatory hidden &&& avpMandatory ≠ 0 ↔ mandatory = true) ∧
      (avpFlags mandatory hidden &&& avpHidden ≠ 0 ↔ hidden = true) := by
  cases mandatory <;> cases hidden <;> decide

/-- A length that fits into its field touches no other. -/
theorem length_fields {alen : Nat} (fits : alen ≤ avpMaxLength) :
    (UInt16.ofNat alen &&& avpLengthMask).toNat = alen ∧ UInt16.ofNat alen &&& avpReserved = 0 ∧
      UInt16.ofNat alen &&& avpMandatory = 0 ∧ UInt16.ofNat alen &&& avpHidden = 0 := by
  have small : alen < 1024 := Nat.lt_succ_of_le fits
  have all : ∀ alen < 1024, UInt16.ofNat alen &&& avpReserved = 0 ∧
      UInt16.ofNat alen &&& avpMandatory = 0 ∧ UInt16.ofNat alen &&& avpHidden = 0 := by
    decide +kernel
  refine ⟨?_, all alen small⟩
  rw [UInt16.toNat_and, UInt16.toNat_ofNat']
  refine (Nat.and_two_pow_sub_one_eq_mod _ 10).trans ?_
  omega

/-- The fields that are read back from a header whose length fits. -/
theorem header_fields (mandatory hidden : Bool) {alen : Nat} (fits : alen ≤ avpMaxLength) :
    ((avpFlags mandatory hidden ||| UInt16.ofNat alen) &&& avpLengthMask).toNat = alen ∧
      (avpFlags mandatory hidden ||| UInt16.ofNat alen) &&& avpReserved = 0 ∧
      ((avpFlags mandatory hidden ||| UInt16.ofNat alen) &&& avpMandatory ≠ 0 ↔
        mandatory = true) ∧
      ((avpFlags mandatory hidden ||| UInt16.ofNat alen) &&& avpHidden ≠ 0 ↔ hidden = true) := by
  obtain ⟨length, reserved, mandatoryBit, hiddenBit⟩ := avpFlags_fields mandatory hidden
  obtain ⟨length', reserved', mandatory', hidden'⟩ := length_fields fits
  simp only [uint16_or_and_right, length, reserved, reserved', mandatory', hidden', UInt16.zero_or,
    UInt16.or_zero]
  exact ⟨length', trivial, mandatoryBit, hiddenBit⟩

end Flags

section Unpacking

variable {md5 : Md5} {info : List AvpInfo} {secret randvec : Option Bytes}

/-- One round of the loop, on a header with a value that is all there. -/
theorem avpUnpackOne_header (md5 : Md5) (info : List AvpInfo) (secret randvec : Option Bytes)
    (mandatory hidden : Bool) (vendor type : UInt16) {alen : Nat}
    (fits : alen ≤ avpMaxLength) {value : Bytes} (enough : alen ≤ 6 + value.length)
    (header : 6 ≤ alen) :
    avpUnpackOne md5 info secret randvec
        (avpHeader (avpFlags mandatory hidden ||| UInt16.ofNat alen) vendor type ++ value) =
      (avpUnpackItem md5 info secret randvec (avpFlags mandatory hidden ||| UInt16.ofNat alen)
        vendor type alen
        (avpHeader (avpFlags mandatory hidden ||| UInt16.ofNat alen) vendor type ++ value)).map
          fun item => (item, alen) := by
  have length := (header_fields mandatory hidden fits).1
  simp only [avpHeader, putBe16, List.cons_append, List.nil_append, avpUnpackOne, be16_putBe16,
    length]
  rw [if_neg]
  simp only [List.length_cons]
  omega

theorem length_avpHeader (flags vendor type : UInt16) :
    (avpHeader flags vendor type).length = 6 := rfl

theorem avpUnpackFrom_of_ne_nil {data : Bytes} (nonempty : data.length ≠ 0) {item : AvpItem}
    {alen : Nat} (unpacked : avpUnpackOne md5 info secret randvec data = .ok (item, alen)) :
    avpUnpackFrom md5 info secret randvec data =
      match item with
      | .skip => avpUnpackFrom md5 info secret randvec (data.drop alen)
      | .randomVector value => avpUnpackFrom md5 info secret (some value) (data.drop alen)
      | .avp avp => (avpUnpackFrom md5 info secret randvec (data.drop alen)).map (avp :: ·) := by
  rw [avpUnpackFrom, if_neg nonempty]
  split <;> rename_i found <;> rw [found] at unpacked
  · cases unpacked
  · obtain ⟨rfl, rfl⟩ := Prod.mk.inj (Except.ok.inj unpacked)
    rfl
  · obtain ⟨rfl, rfl⟩ := Prod.mk.inj (Except.ok.inj unpacked)
    rfl
  · obtain ⟨rfl, rfl⟩ := Prod.mk.inj (Except.ok.inj unpacked)
    rfl

theorem avpUnpackFrom_error {data : Bytes} (nonempty : data.length ≠ 0) {errno : AvpError}
    (failed : avpUnpackOne md5 info secret randvec data = .error errno) :
    avpUnpackFrom md5 info secret randvec data = .error errno := by
  rw [avpUnpackFrom, if_neg nonempty]
  split <;> rename_i found <;> rw [found] at failed
  · rw [Except.error.inj failed]
  · cases failed
  · cases failed
  · cases failed

/-- A Random-Vector AVP is remembered. -/
theorem avpUnpackFrom_avpRandomVector (vector : Vector UInt8 4) (rest : Bytes)
    (known : (avpDescriptor info 0 AvpType.randomVector.num).isSome = true) :
    avpUnpackFrom md5 info secret randvec (avpRandomVector vector ++ rest) =
      avpUnpackFrom md5 info secret (some vector.toList) rest := by
  obtain ⟨desc, found⟩ := Option.isSome_iff_exists.mp known
  have fits : 4 + 6 ≤ avpMaxLength := by decide
  have size : vector.toList.length = 4 + 6 - 6 := vector.length_toList
  obtain ⟨-, reserved, -, -⟩ := header_fields true false fits
  have enough : 4 + 6 ≤ 6 + (vector.toList ++ rest).length := by
    rw [List.length_append, size]
    omega
  have one := avpUnpackOne_header md5 info secret randvec true false 0 AvpType.randomVector.num fits
    enough (by decide)
  have item : avpUnpackItem md5 info secret randvec
      (avpFlags true false ||| UInt16.ofNat (4 + 6)) 0 AvpType.randomVector.num
      (4 + 6) (avpHeader (avpFlags true false ||| UInt16.ofNat (4 + 6)) 0
        AvpType.randomVector.num ++ (vector.toList ++ rest)) =
      .ok (.randomVector vector.toList) := by
    unfold avpUnpackItem
    rw [if_neg (not_not.mpr reserved), found]
    simp only [and_self, if_true]
    rw [List.drop_left' (length_avpHeader _ _ _), List.take_left' size]
  rw [item] at one
  have step := avpUnpackFrom_of_ne_nil (by simp [avpHeader]) one
  rw [avpRandomVector, List.append_assoc, step]
  dsimp only
  rw [← List.append_assoc, List.drop_left' (by simp [length_avpHeader])]

theorem avpUnpackFrom_plain {avp : Avp} (old : Nat → UInt8) (vector : Vector UInt8 4) (rest : Bytes)
    {hidden_ok : Bool} (plain : (secret.isSome && hidden_ok) = false)
    (known : (avpDescriptor info avp.vendor avp.type).isSome = true)
    (other : ¬ (avp.vendor = 0 ∧ avp.type = AvpType.randomVector.num))
    (fits : avp.vlen ≤ avpMaxVlen) :
    avpUnpackFrom md5 info secret randvec
        (avpPackAvp md5 secret vector hidden_ok avp old ++ rest) =
      (avpUnpackFrom md5 info secret randvec rest).map (avp :: ·) := by
  obtain ⟨desc, found⟩ := Option.isSome_iff_exists.mp known
  have packed : avpPackAvp md5 secret vector hidden_ok avp old =
      avpHeader (avpFlags avp.mandatory false ||| UInt16.ofNat (6 + avp.vlen)) avp.vendor avp.type ++
        avp.value := by
    unfold avpPackAvp
    cases secret with
    | none => rfl
    | some secret =>
        cases hidden_ok with
        | true => exact nomatch plain
        | false => rfl
  have small : 6 + avp.vlen ≤ avpMaxLength := by
    have bound : avp.vlen ≤ 1017 := fits
    change 6 + avp.vlen ≤ 1023
    omega
  have size : avp.value.length = 6 + avp.vlen - 6 := (Nat.add_sub_cancel_left 6 avp.vlen).symm
  have enough : 6 + avp.vlen ≤ 6 + (avp.value ++ rest).length := by
    rw [List.length_append]
    exact Nat.add_le_add_left (Nat.le_add_right _ _) 6
  obtain ⟨-, reserved, mandatory, hidden⟩ := header_fields avp.mandatory false small
  have one := avpUnpackOne_header md5 info secret randvec avp.mandatory false avp.vendor avp.type small
    enough (Nat.le_add_right _ _)
  have item : avpUnpackItem md5 info secret randvec
      (avpFlags avp.mandatory false ||| UInt16.ofNat (6 + avp.vlen)) avp.vendor avp.type
      (6 + avp.vlen) (avpHeader (avpFlags avp.mandatory false ||| UInt16.ofNat (6 + avp.vlen))
        avp.vendor avp.type ++ (avp.value ++ rest)) = .ok (.avp avp) := by
    unfold avpUnpackItem
    rw [if_neg (not_not.mpr reserved), found]
    simp only [other, if_false, hidden, Bool.false_eq_true, mandatory]
    rw [List.drop_left' (length_avpHeader _ _ _), List.take_left' size]
    simp
  rw [item] at one
  have step := avpUnpackFrom_of_ne_nil (by simp [avpHeader]) one
  rw [packed, List.append_assoc, step]
  dsimp only
  rw [← List.append_assoc, List.drop_left']
  rw [List.length_append, length_avpHeader]
  rfl

/-- The length and the value that are found in front of the unhidden bytes. -/
theorem avpUnhide_of_hidden {s r : Bytes} {flags vendor type : UInt16} {alen : Nat} {data : Bytes}
    (value tail : Bytes) (fits : value.length + 8 ≤ alen) (small : alen ≤ 65535)
    (unhidden : avpUnhideBlocks md5 s ((2 + alen - 1) / 16 + 1) (avpFirstHash md5 type s r)
      (alen - 6) (data.drop 6) = putBe16 (UInt16.ofNat value.length) ++ value ++ tail) :
    avpUnhide md5 (some s) (some r) flags vendor type alen data =
      .ok (.avp ⟨flags &&& avpMandatory ≠ 0, vendor, type, value⟩) := by
  have olen : (UInt16.ofNat value.length + 6).toNat = value.length + 6 := by
    rw [UInt16.toNat_add, UInt16.toNat_ofNat']
    change (value.length % 2 ^ 16 + 6) % 2 ^ 16 = _
    omega
  have inside : ¬ (value.length + 6 < 6 ∨ value.length + 6 > alen - 2) := by omega
  simp only [avpUnhide, unhidden, putBe16, List.cons_append, List.nil_append, List.getD_cons_zero,
    List.getD_cons_succ, be16_putBe16, olen, inside, if_false, List.drop_succ_cons, List.drop_zero,
    Nat.add_sub_cancel]
  rw [List.append_assoc, List.take_left' rfl]

theorem avpUnpackFrom_hidden {avp : Avp} (old : Nat → UInt8) (vector : Vector UInt8 4)
    (s rest : Bytes) (known : (avpDescriptor info avp.vendor avp.type).isSome = true)
    (other : ¬ (avp.vendor = 0 ∧ avp.type = AvpType.randomVector.num))
    (fits : avp.vlen + 2 ≤ avpMaxVlen) :
    avpUnpackFrom md5 info (some s) (some vector.toList)
        (avpPackAvp md5 (some s) vector true avp old ++ rest) =
      (avpUnpackFrom md5 info (some s) (some vector.toList) rest).map (avp :: ·) := by
  obtain ⟨desc, found⟩ := Option.isSome_iff_exists.mp known
  have bound : avp.vlen ≤ 1015 := Nat.le_of_add_le_add_right fits
  let pad := 7 - avp.vlen % 8
  let alen := 6 + 2 + avp.vlen + pad
  have small : alen ≤ avpMaxLength := by
    change 6 + 2 + avp.vlen + (7 - avp.vlen % 8) ≤ 1023
    omega
  let flags := avpFlags avp.mandatory true ||| UInt16.ofNat alen
  let header := avpHeader flags avp.vendor avp.type
  let hidden := putBe16 (UInt16.ofNat avp.vlen) ++ avp.value
  have length : hidden.length = 2 + avp.vlen := by
    simp only [hidden, List.length_append, length_putBe16]
    rfl
  let cypher := avpHideBlocks md5 s ((2 + avp.vlen - 1) / 16 + 1)
    (avpFirstHash md5 avp.type s vector.toList) hidden
  have enough : hidden.length ≤ 16 * ((2 + avp.vlen - 1) / 16 + 1) := by omega
  have size : cypher.length = 2 + avp.vlen := by
    rw [← length]
    exact length_avpHideBlocks md5 s _ enough
  have packed : avpPackAvp md5 (some s) vector true avp old =
      header ++ (cypher ++ (List.range pad).map old) := by
    rw [← List.append_assoc]
    rfl
  let data := header ++ (cypher ++ (List.range pad).map old ++ rest)
  have whole : alen ≤ 6 + (cypher ++ (List.range pad).map old ++ rest).length := by
    simp only [List.length_append, size, List.length_map, List.length_range]
    omega
  obtain ⟨-, reserved, mandatory, hiddenBit⟩ := header_fields avp.mandatory true small
  have one := avpUnpackOne_header md5 info (some s) (some vector.toList) avp.mandatory true
    avp.vendor avp.type small whole (by omega)
  obtain ⟨tail, unhidden⟩ := avpUnhideBlocks_avpHideBlocks md5 s
    (by omega : (2 + avp.vlen - 1) / 16 + 1 ≤ (2 + alen - 1) / 16 + 1)
    (avpFirstHash md5 avp.type s vector.toList) enough ((List.range pad).map old ++ rest)
    (by omega : hidden.length ≤ alen - 6)
  have item : avpUnpackItem md5 info (some s) (some vector.toList) flags avp.vendor avp.type alen
      data = .ok (.avp avp) := by
    unfold avpUnpackItem
    rw [if_neg (not_not.mpr reserved), found]
    simp only [other, if_false, flags, hiddenBit, if_true]
    have dropped : data.drop 6 = cypher ++ ((List.range pad).map old ++ rest) := by
      rw [List.drop_left' (length_avpHeader _ _ _), List.append_assoc]
    rw [avpUnhide_of_hidden avp.value tail]
    · simp [mandatory]
    · change avp.vlen + 8 ≤ alen
      omega
    · exact Nat.le_trans small (by decide)
    · rw [dropped]
      exact unhidden
  rw [item] at one
  have step := avpUnpackFrom_of_ne_nil (by simp [avpHeader]) one
  rw [packed, List.append_assoc, step]
  dsimp only
  rw [← List.append_assoc, List.drop_left']
  simp only [List.length_append, length_avpHeader, size, List.length_map, List.length_range]
  omega

end Unpacking

section Lists

variable {md5 : Md5} {info : List AvpInfo} {secret : Option Bytes}

/-- The AVP has a type of the table, a length that the table allows, and is no Random
Vector. -/
def Avp.Allowed (info : List AvpInfo) (avp : Avp) : Prop :=
  ¬ (avp.vendor = 0 ∧ avp.type = AvpType.randomVector.num) ∧
    ∃ desc, avpDescriptor info avp.vendor avp.type = some desc ∧ desc.min_length ≤ avp.vlen ∧
      avp.vlen ≤ desc.max_length

/-- The AVP is hidden where there is a secret. -/
def Avp.hides (info : List AvpInfo) (secret : Option Bytes) (avp : Avp) : Bool :=
  secret.isSome && (avpDescriptor info avp.vendor avp.type).any (·.hidden_ok)

/-- The value fits into the length field, with the length before it where it is hidden. -/
def Avp.Fits (info : List AvpInfo) (secret : Option Bytes) (avp : Avp) : Prop :=
  avp.vlen ≤ avpMaxVlen ∧ (avp.hides info secret = true → avp.vlen + 2 ≤ avpMaxVlen)

theorem length_avpPackAvp (md5 : Md5) (secret : Option Bytes) (vector : Vector UInt8 4)
    (hidden_ok : Bool) (avp : Avp) (old : Nat → UInt8) :
    (avpPackAvp md5 secret vector hidden_ok avp old).length =
      avpPackLen (secret.isSome && hidden_ok) avp := by
  unfold avpPackAvp avpPackLen
  cases secret with
  | none => simp [length_avpHeader, Avp.vlen]
  | some s =>
      cases hidden_ok with
      | false => simp [length_avpHeader, Avp.vlen]
      | true =>
          have length : (putBe16 (UInt16.ofNat avp.vlen) ++ avp.value).length = 2 + avp.vlen := by
            rw [List.length_append, length_putBe16]
            rfl
          have enough : (putBe16 (UInt16.ofNat avp.vlen) ++ avp.value).length ≤
              16 * ((2 + avp.vlen - 1) / 16 + 1) := by omega
          have hidden := length_avpHideBlocks md5 s
            (avpFirstHash md5 avp.type s vector.toList) enough
          simp only [List.length_append, length_avpHeader, List.length_map, List.length_range,
            Option.isSome_some, Bool.and_self, if_true] at hidden length ⊢
          omega

def avpPiece (md5 : Md5) (info : List AvpInfo) (secret : Option Bytes) (vector : Vector UInt8 4)
    (old : Nat → UInt8) (randsent : Bool) (len : Nat) (avp : Avp) : Bytes :=
  let random := if avp.hides info secret && !randsent then avpRandomVector vector else []
  random ++ avpPackAvp md5 secret vector ((avpDescriptor info avp.vendor avp.type).any (·.hidden_ok))
    avp fun k => old (len + random.length + (6 + 2 + avp.vlen) + k)

theorem avpPackFrom_cons (md5 : Md5) (secret : Option Bytes) (vector : Vector UInt8 4)
    (old : Nat → UInt8) (randsent : Bool) (len : Nat) {avp : Avp} (list : List Avp)
    (allowed : avp.Allowed info) (fits : avp.vlen ≤ avpMaxVlen) :
    avpPackFrom md5 info secret vector (some old) randsent len (avp :: list) =
        (avpPackFrom md5 info secret vector (some old) (randsent || avp.hides info secret)
          (len + (avpPiece md5 info secret vector old randsent len avp).length) list).map
            (fun rest => (rest.1, avpPiece md5 info secret vector old randsent len avp ++ rest.2)) ∧
      avpPackFrom md5 info secret vector none randsent len (avp :: list) =
        (avpPackFrom md5 info secret vector none (randsent || avp.hides info secret)
          (len + (avpPiece md5 info secret vector old randsent len avp).length) list) := by
  obtain ⟨-, desc, found, atLeast, atMost⟩ := allowed
  have sane : ¬ (avp.vlen < desc.min_length ∨ avp.vlen > desc.max_length ∨
      avp.vlen > avpMaxVlen) := by omega
  have hides : avp.hides info secret = (secret.isSome && desc.hidden_ok) := by
    simp [Avp.hides, found]
  have length : (avpPiece md5 info secret vector old randsent len avp).length =
      (if (secret.isSome && desc.hidden_ok) && !randsent then avpRandomVector vector
        else []).length + avpPackLen (secret.isSome && desc.hidden_ok) avp := by
    simp only [avpPiece, List.length_append, length_avpPackAvp, hides, found, Option.any_some]
  constructor
  · simp only [avpPackFrom, found, sane, if_false, hides, length, Option.map_some,
      Option.getD_some, Nat.add_assoc]
    simp only [avpPiece, hides, found, Option.any_some, Nat.add_assoc]
  · simp only [avpPackFrom, found, sane, if_false, hides, length, Option.map_none,
      Option.getD_none, Nat.add_assoc, List.nil_append]
    exact Option.map_id'

def VectorKnown (vector : Vector UInt8 4) (randsent : Bool) (randvec : Option Bytes) : Prop :=
  randsent = true → randvec = some vector.toList

def vectorAfter (vector : Vector UInt8 4) (hide : Bool) (randvec : Option Bytes) : Option Bytes :=
  if hide then some vector.toList else randvec

theorem VectorKnown.after {vector : Vector UInt8 4} {randsent : Bool} {randvec : Option Bytes}
    (known : VectorKnown vector randsent randvec) (hide : Bool) :
    VectorKnown vector (randsent || hide) (vectorAfter vector hide randvec) := by
  intro sent
  cases hide with
  | true => rfl
  | false => exact known (by simpa using sent)

variable (random : (avpDescriptor info 0 AvpType.randomVector.num).isSome = true)
include random

/-- The Random Vector in front of an AVP is remembered. -/
theorem avpUnpackFrom_piece (vector : Vector UInt8 4) (old : Nat → UInt8) {randsent : Bool}
    {randvec : Option Bytes} (known : VectorKnown vector randsent randvec) (len : Nat)
    (avp : Avp) (rest : Bytes) :
    ∃ old', avpUnpackFrom md5 info secret randvec
        (avpPiece md5 info secret vector old randsent len avp ++ rest) =
      avpUnpackFrom md5 info secret (vectorAfter vector (avp.hides info secret) randvec)
        (avpPackAvp md5 secret vector
          ((avpDescriptor info avp.vendor avp.type).any (·.hidden_ok)) avp old' ++ rest) := by
  unfold avpPiece vectorAfter
  dsimp only
  cases hides : avp.hides info secret with
  | false => exact ⟨_, rfl⟩
  | true =>
      cases sent : randsent with
      | false =>
          refine ⟨fun k => old (len + (avpRandomVector vector).length + (6 + 2 + avp.vlen) + k), ?_⟩
          simp only [Bool.not_false, Bool.and_self, if_true, List.append_assoc]
          exact avpUnpackFrom_avpRandomVector vector _ random
      | true =>
          rw [known sent]
          exact ⟨_, rfl⟩

/-- What is packed of an AVP that fits comes back. -/
theorem avpUnpackFrom_of_fits (vector : Vector UInt8 4) (old : Nat → UInt8) {randsent : Bool}
    {randvec : Option Bytes} (known : VectorKnown vector randsent randvec) (len : Nat) {avp : Avp}
    (allowed : avp.Allowed info) (fits : avp.Fits info secret) (rest : Bytes) :
    avpUnpackFrom md5 info secret randvec
        (avpPiece md5 info secret vector old randsent len avp ++ rest) =
      (avpUnpackFrom md5 info secret (vectorAfter vector (avp.hides info secret) randvec)
        rest).map (avp :: ·) := by
  obtain ⟨other, desc, found, -, -⟩ := allowed
  have described : (avpDescriptor info avp.vendor avp.type).isSome = true := by
    rw [found]
    rfl
  obtain ⟨old', piece⟩ := avpUnpackFrom_piece random vector old known len avp rest
  rw [piece]
  cases hides : avp.hides info secret with
  | false => exact avpUnpackFrom_plain old' vector rest hides described other fits.1
  | true =>
      have short := fits.2 hides
      unfold Avp.hides at hides
      obtain ⟨given, hidden_ok⟩ := Bool.and_eq_true_iff.mp hides
      obtain ⟨s, rfl⟩ := Option.isSome_iff_exists.mp given
      rw [hidden_ok]
      exact avpUnpackFrom_hidden old' vector s rest described other short

/-- A list whose AVPs all fit is packed, counted and unpacked. -/
theorem avpPackFrom_roundTrip (md5 : Md5) (vector : Vector UInt8 4) (old : Nat → UInt8)
    {randsent : Bool} {randvec : Option Bytes} (known : VectorKnown vector randsent randvec)
    (len : Nat) {list : List Avp} (allowed : ∀ avp ∈ list, avp.Allowed info)
    (fits : ∀ avp ∈ list, avp.Fits info secret) :
    ∃ packed, avpPackFrom md5 info secret vector (some old) randsent len list =
        some (len + packed.length, packed) ∧
      avpPackFrom md5 info secret vector none randsent len list =
        some (len + packed.length, []) ∧
      avpUnpackFrom md5 info secret randvec packed = .ok list := by
  induction list generalizing randsent randvec len with
  | nil =>
      refine ⟨[], rfl, rfl, ?_⟩
      rw [avpUnpackFrom]
      rfl
  | cons avp list ih =>
      have first := allowed avp List.mem_cons_self
      have firstFits := fits avp List.mem_cons_self
      obtain ⟨packs, counts⟩ := avpPackFrom_cons md5 secret vector old randsent len list first
        firstFits.1
      obtain ⟨packed, written, counted, unpacked⟩ := ih (known.after (avp.hides info secret))
        (len + (avpPiece md5 info secret vector old randsent len avp).length)
        (fun other member => allowed other (List.mem_cons_of_mem avp member))
        (fun other member => fits other (List.mem_cons_of_mem avp member))
      refine ⟨avpPiece md5 info secret vector old randsent len avp ++ packed, ?_, ?_, ?_⟩
      · rw [packs, written, List.length_append, ← Nat.add_assoc]
        rfl
      · rw [counts, counted, List.length_append, ← Nat.add_assoc]
      · rw [avpUnpackFrom_of_fits random vector old known len first firstFits, unpacked]
        rfl

end Lists

section TooLong

variable {info : List AvpInfo} {secret : Option Bytes}

/-- A value that is longer than any AVP is not packed. -/
theorem avpPackFrom_of_too_long (md5 : Md5) (vector : Vector UInt8 4)
    (buf : Option (Nat → UInt8)) (randsent : Bool) (len : Nat) {list : List Avp} {avp : Avp}
    (member : avp ∈ list) (long : avpMaxVlen < avp.vlen) :
    avpPackFrom md5 info secret vector buf randsent len list = none := by
  induction list generalizing randsent len with
  | nil => exact nomatch member
  | cons first list ih =>
      unfold avpPackFrom
      cases avpDescriptor info first.vendor first.type with
      | none => rfl
      | some desc =>
          dsimp only
          by_cases insane : first.vlen < desc.min_length ∨ first.vlen > desc.max_length ∨
              first.vlen > avpMaxVlen
          · rw [if_pos insane]
          · rcases List.mem_cons.mp member with rfl | later
            · exact absurd (.inr (.inr long)) insane
            · rw [if_neg insane, ih _ _ later]
              rfl

/-- The length field of a hidden value of 1016 or 1017 bytes overflows into a reserved bit. -/
theorem overflow_fields (mandatory : Bool) :
    ((avpFlags mandatory true ||| UInt16.ofNat 1031) &&& avpLengthMask).toNat = 7 ∧
      (avpFlags mandatory true ||| UInt16.ofNat 1031) &&& avpReserved ≠ 0 ∧
      ((avpFlags mandatory true ||| UInt16.ofNat 1031) &&& avpMandatory ≠ 0 ↔
        mandatory = true) := by
  cases mandatory <;> decide

def zeroingHash (first second : UInt8) : Vector UInt8 16 :=
  #v[0, first, second, 0, 0, 0, 0, 0, 0, 0, 0, 0, 0, 0, 0, 0]

theorem avpUnpackFrom_zeroes (md5 : Md5) (randvec : Option Bytes) (rest : Bytes) :
    avpUnpackFrom md5 info secret randvec (0 :: 0 :: rest) = .error .eilseq := by
  refine avpUnpackFrom_error (by simp) ?_
  unfold avpUnpackOne
  split
  · rename_i a b c d e f value same
    injection same with first same
    injection same with second same
    subst first second
    rfl
  · rfl

theorem xorHash_zeroingHash (high first second : UInt8) (rest : Bytes) :
    ∃ more, xorHash (zeroingHash first second) (high :: first :: second :: rest) =
      high :: 0 :: 0 :: more := by
  refine ⟨rest.zipWith (· ^^^ ·) ((zeroingHash first second).toList.drop 3), ?_⟩
  change (high ^^^ 0) :: (first ^^^ first) :: (second ^^^ second) :: _ = _
  rw [UInt8.xor_zero, UInt8.xor_self, UInt8.xor_self]
  rfl

def spoilingHash (avp : Avp) : Vector UInt8 16 :=
  zeroingHash (UInt8.ofNat ((UInt16.ofNat avp.vlen).toNat % 256)) (avp.value.headD 0)

/-- A hidden value that is too long is not unpacked where the hash spoils it. -/
theorem avpUnpackFrom_overlong {avp : Avp} (old : Nat → UInt8) (vector : Vector UInt8 4)
    (s : Bytes) (randvec : Option Bytes) (rest : Bytes) (fits : avp.vlen ≤ avpMaxVlen)
    (long : avpMaxVlen < avp.vlen + 2) :
    ∃ errno, avpUnpackFrom (fun _ => spoilingHash avp) info secret randvec
      (avpPackAvp (fun _ => spoilingHash avp) (some s) vector true avp old ++ rest) =
        .error errno := by
  have atMost : avp.vlen ≤ 1017 := fits
  have atLeast : 1017 < avp.vlen + 2 := long
  have sum : 6 + 2 + avp.vlen + (7 - avp.vlen % 8) = 1031 := by omega
  let flags := avpFlags avp.mandatory true ||| UInt16.ofNat 1031
  obtain ⟨length, reserved, mandatory⟩ := overflow_fields avp.mandatory
  have cypher : ∃ high more, avpHideBlocks (fun _ => spoilingHash avp) s
      ((2 + avp.vlen - 1) / 16 + 1) (spoilingHash avp)
        (putBe16 (UInt16.ofNat avp.vlen) ++ avp.value) = high :: 0 :: 0 :: more := by
    unfold spoilingHash
    cases value : avp.value with
    | nil =>
        have empty : avp.vlen = 0 := by
          rw [Avp.vlen, value]
          rfl
        omega
    | cons byte others =>
        simp only [avpHideBlocks, putBe16, List.cons_append, List.nil_append,
          List.take_succ_cons, List.headD_cons]
        obtain ⟨more, block⟩ := xorHash_zeroingHash
          (UInt8.ofNat ((UInt16.ofNat avp.vlen).toNat / 256))
          (UInt8.ofNat ((UInt16.ofNat avp.vlen).toNat % 256)) byte (others.take 13)
        rw [block]
        exact ⟨_, _, rfl⟩
  obtain ⟨high, more, hidden⟩ := cypher
  have packed : ∃ more, avpPackAvp (fun _ => spoilingHash avp) (some s) vector true avp old ++ rest =
      avpHeader flags avp.vendor avp.type ++ high :: 0 :: 0 :: more := by
    refine ⟨more ++ ((List.range (7 - avp.vlen % 8)).map old ++ rest), ?_⟩
    simp only [avpPackAvp, avpFirstHash, sum, hidden, List.append_assoc, List.cons_append]
    rfl
  obtain ⟨more, packed⟩ := packed
  have one : avpUnpackOne (fun _ => spoilingHash avp) info secret randvec
      (avpHeader flags avp.vendor avp.type ++ high :: 0 :: 0 :: more) =
        if avp.mandatory then .error .enosys else .ok (.skip, 7) := by
    simp only [avpHeader, putBe16, List.cons_append, List.nil_append, avpUnpackOne, be16_putBe16,
      flags, length]
    rw [if_neg (by simp), avpUnpackItem, if_pos reserved]
    simp only [mandatory]
    cases avp.mandatory <;> rfl
  rw [packed]
  cases strict : avp.mandatory with
  | true =>
      rw [strict, if_pos rfl] at one
      exact ⟨_, avpUnpackFrom_error (by simp [avpHeader]) one⟩
  | false =>
      rw [strict, if_neg (by decide)] at one
      refine ⟨.eilseq, (avpUnpackFrom_of_ne_nil (by simp [avpHeader]) one).trans ?_⟩
      exact avpUnpackFrom_zeroes _ randvec more

variable (random : (avpDescriptor info 0 AvpType.randomVector.num).isSome = true)
include random

/-- A list with a hidden value that is too long is not unpacked where the hash spoils the
first of them. -/
theorem exists_spoilt {list : List Avp} (allowed : ∀ avp ∈ list, avp.Allowed info)
    (packable : ∀ avp ∈ list, avp.vlen ≤ avpMaxVlen)
    (misfit : ∃ avp ∈ list, ¬ avp.Fits info secret) :
    ∃ bad : Avp, ∀ (vector : Vector UInt8 4) (old : Nat → UInt8) (randsent : Bool)
      (randvec : Option Bytes) (len : Nat) (packed : Nat × Bytes),
      VectorKnown vector randsent randvec →
      avpPackFrom (fun _ => spoilingHash bad) info secret vector (some old) randsent len list =
        some packed →
      ∃ errno, avpUnpackFrom (fun _ => spoilingHash bad) info secret randvec packed.2 =
        .error errno := by
  induction list with
  | nil =>
      obtain ⟨avp, member, -⟩ := misfit
      exact nomatch member
  | cons avp list ih =>
      have first := allowed avp List.mem_cons_self
      have short := packable avp List.mem_cons_self
      by_cases fits : avp.Fits info secret
      · obtain ⟨bad, spoilt⟩ := ih (fun other member => allowed other (List.mem_cons_of_mem avp member))
          (fun other member => packable other (List.mem_cons_of_mem avp member)) (by
            obtain ⟨other, member, long⟩ := misfit
            rcases List.mem_cons.mp member with rfl | later
            · exact absurd fits long
            · exact ⟨other, later, long⟩)
        refine ⟨bad, fun vector old randsent randvec len packed known packs => ?_⟩
        rw [(avpPackFrom_cons _ secret vector old randsent len list first short).1] at packs
        obtain ⟨rest, packsRest, rfl⟩ := Option.map_eq_some_iff.mp packs
        obtain ⟨errno, failed⟩ := spoilt vector old _ _ _ rest (known.after _) packsRest
        refine ⟨errno, ?_⟩
        rw [avpUnpackFrom_of_fits random vector old known len first fits, failed]
        rfl
      · have hides : avp.hides info secret = true := by
          by_contra plain
          exact fits ⟨short, fun hides => absurd hides plain⟩
        have long : avpMaxVlen < avp.vlen + 2 := by
          by_contra within
          exact fits ⟨short, fun _ => Nat.le_of_not_lt within⟩
        have hidden := hides
        unfold Avp.hides at hidden
        obtain ⟨given, hidden_ok⟩ := Bool.and_eq_true_iff.mp hidden
        obtain ⟨s, same⟩ := Option.isSome_iff_exists.mp given
        refine ⟨avp, fun vector old randsent randvec len packed known packs => ?_⟩
        rw [(avpPackFrom_cons _ secret vector old randsent len list first short).1] at packs
        obtain ⟨rest, -, rfl⟩ := Option.map_eq_some_iff.mp packs
        obtain ⟨old', piece⟩ := avpUnpackFrom_piece random vector old known len avp rest.2
        dsimp only
        rw [piece, hidden_ok]
        subst same
        exact avpUnpackFrom_overlong old' vector s _ rest.2 short long

end TooLong

section RoundTrip

/-- The list is packed into as many bytes as the sizing pass counts, and unpacked from
them again, whatever the hash, the random vector and the bytes in the buffer. -/
def AvpRoundTrips (secret : Option Bytes) (list : List Avp) : Prop :=
  ∀ (md5 : Md5) (randvec : Vector UInt8 4) (old : Nat → UInt8), ∃ packed,
    avpPack md5 pppL2tpAvpInfoList secret randvec (some old) list =
        some (packed.length, packed) ∧
      (avpPack md5 pppL2tpAvpInfoList secret randvec none list).map Prod.fst =
        some packed.length ∧
      avpUnpack md5 pppL2tpAvpInfoList secret packed = .ok list

theorem vectorKnown_init (vector : Vector UInt8 4) : VectorKnown vector false none := nofun

theorem avpRoundTrips_of_fits {secret : Option Bytes} {list : List Avp}
    (allowed : ∀ avp ∈ list, avp.Allowed pppL2tpAvpInfoList)
    (fits : ∀ avp ∈ list, avp.Fits pppL2tpAvpInfoList secret) : AvpRoundTrips secret list := by
  intro md5 vector old
  obtain ⟨packed, written, counted, unpacked⟩ := avpPackFrom_roundTrip (by decide) md5 vector old
    (vectorKnown_init vector) 0 allowed fits
  rw [Nat.zero_add] at written counted
  refine ⟨packed, written, ?_, unpacked⟩
  rw [avpPack, counted]
  rfl

theorem fits_of_avpRoundTrips {secret : Option Bytes} {list : List Avp}
    (allowed : ∀ avp ∈ list, avp.Allowed pppL2tpAvpInfoList)
    (roundTrips : AvpRoundTrips secret list) : ∀ avp ∈ list, avp.Fits pppL2tpAvpInfoList secret := by
  have packable : ∀ avp ∈ list, avp.vlen ≤ avpMaxVlen := by
    intro avp member
    by_contra long
    obtain ⟨packed, written, -, -⟩ := roundTrips (fun _ => .replicate 16 0) (.replicate 4 0) fun _ => 0
    rw [avpPack, avpPackFrom_of_too_long _ _ _ _ _ member (Nat.lt_of_not_le long)] at written
    exact nomatch written
  by_contra misfits
  have misfit : ∃ avp ∈ list, ¬ avp.Fits pppL2tpAvpInfoList secret := by
    simpa using misfits
  obtain ⟨bad, spoilt⟩ := exists_spoilt (by decide) allowed packable misfit
  obtain ⟨packed, written, -, unpacked⟩ :=
    roundTrips (fun _ => spoilingHash bad) (.replicate 4 0) fun _ => 0
  obtain ⟨errno, failed⟩ := spoilt _ _ _ _ _ _ (vectorKnown_init _) written
  exact nomatch failed.symm.trans unpacked

/-- Of the lists that the table allows, those make the round trip whose values have at
most 1017 bytes, and at most 1015 where they are hidden. -/
theorem avpRoundTrips_iff (secret : Option Bytes) {list : List Avp}
    (allowed : ∀ avp ∈ list, avp.Allowed pppL2tpAvpInfoList) :
    AvpRoundTrips secret list ↔
      ∀ avp ∈ list, avp.vlen ≤ 1017 ∧
        (avp.hides pppL2tpAvpInfoList secret = true → avp.vlen ≤ 1015) := by
  constructor
  · intro roundTrips avp member
    have fits := fits_of_avpRoundTrips allowed roundTrips avp member
    exact ⟨fits.1, fun hides => Nat.le_of_add_le_add_right (fits.2 hides)⟩
  · intro short
    refine avpRoundTrips_of_fits allowed fun avp member => ?_
    exact ⟨(short avp member).1, fun hides => Nat.add_le_add_right ((short avp member).2 hides) 2⟩

theorem Avp.allowed_of_descriptor {info : List AvpInfo} {avp : Avp} (desc : AvpInfo)
    (found : avpDescriptor info avp.vendor avp.type = some desc)
    (other : avp.type ≠ AvpType.randomVector.num) (atLeast : desc.min_length ≤ avp.vlen)
    (atMost : avp.vlen ≤ desc.max_length) : avp.Allowed info :=
  ⟨fun random => other random.2, desc, found, atLeast, atMost⟩

theorem avpRoundTrips_challenge :
    AvpRoundTrips (some [1, 2]) [⟨true, 0, AvpType.challenge.num, [7, 8, 9]⟩] :=
  (avpRoundTrips_iff (some [1, 2]) (by
    intro avp member
    rw [List.mem_singleton.mp member]
    exact Avp.allowed_of_descriptor ⟨.challenge, true, true, 0, avpMaxLength⟩ (by decide)
      (by decide) (by decide) (by decide))).mpr (by decide)

/-- A hidden Challenge of 1016 bytes is not unpacked. -/
theorem not_avpRoundTrips_hidden :
    ¬ ∀ (secret : Option Bytes) (list : List Avp),
      (∀ avp ∈ list, avp.Allowed pppL2tpAvpInfoList) → AvpRoundTrips secret list := by
  intro all
  let challenge : Avp := ⟨true, 0, AvpType.challenge.num, List.replicate 1016 0⟩
  have vlen : challenge.vlen = 1016 := List.length_replicate
  have allowed : ∀ avp ∈ [challenge], avp.Allowed pppL2tpAvpInfoList := by
    intro avp member
    rw [List.mem_singleton.mp member]
    refine Avp.allowed_of_descriptor ⟨.challenge, true, true, 0, avpMaxLength⟩ (by decide)
      (by decide) (Nat.zero_le _) ?_
    rw [vlen]
    decide
  have fits := fits_of_avpRoundTrips allowed (all (some [1]) [challenge] allowed) challenge
    List.mem_cons_self
  have short := fits.2 (by decide)
  rw [vlen] at short
  exact absurd short (by decide)

end RoundTrip

end Mpd
