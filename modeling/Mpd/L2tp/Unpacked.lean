import Mpd.L2tp.DataEvent

/-! What holds of the AVPs of a message that could be unpacked. -/

set_option autoImplicit false

namespace Mpd

section Unpacked

variable (md5 : Md5) (secret : Option Bytes)

/-- Every AVP that is unpacked has a descriptor, and none is a Random-Vector. -/
def Avp.Known (info : List AvpInfo) (avp : Avp) : Prop :=
  (avpDescriptor info avp.vendor avp.type).isSome = true ∧
    ¬(avp.vendor = 0 ∧ avp.type = AvpType.randomVector.num)

theorem known_of_avpUnpackOne {info : List AvpInfo} {randvec : Option Bytes} {data : Bytes}
    {avp : Avp} {alen : Nat}
    (unpacked : avpUnpackOne md5 info secret randvec data = .ok (.avp avp, alen)) :
    avp.Known info := by
  unfold avpUnpackOne at unpacked
  split at unpacked
  case h_2 => exact nomatch unpacked
  rename_i a b c d e f rest
  dsimp only at unpacked
  split_ifs at unpacked
  generalize item : avpUnpackItem md5 info secret randvec (be16 a b) (be16 c d) (be16 e f) _ _ =
    found at unpacked
  cases found with
  | error errno => exact nomatch unpacked
  | ok found =>
      have same : found = .avp avp := (Prod.mk.inj (Except.ok.inj unpacked)).1
      subst same
      unfold avpUnpackItem at item
      split at item
      · split_ifs at item
        exact nomatch Except.ok.inj item
      rename_i desc described
      have known : (avpDescriptor info (be16 c d) (be16 e f)).isSome = true := by
        split_ifs at described
        rw [described]
        rfl
      dsimp only at item
      split_ifs at item with vector hidden
      · exact nomatch Except.ok.inj item
      · unfold avpUnhide at item
        split at item
        · exact nomatch item
        · exact nomatch item
        · dsimp only at item
          split_ifs at item
          cases Except.ok.inj item
          exact ⟨known, vector⟩
      · cases Except.ok.inj item
        exact ⟨known, vector⟩

theorem known_of_avpUnpackFrom {info : List AvpInfo} (randvec : Option Bytes) (data : Bytes)
    {list : List Avp} (unpacked : avpUnpackFrom md5 info secret randvec data = .ok list) :
    ∀ avp ∈ list, avp.Known info := by
  induction size : data.length using Nat.strongRecOn generalizing randvec data list with
  | _ size ih =>
    rw [avpUnpackFrom] at unpacked
    split_ifs at unpacked with empty
    · cases Except.ok.inj unpacked
      exact fun _ found => absurd found List.not_mem_nil
    split at unpacked
    · cases unpacked
    · rename_i alen found
      obtain ⟨atLeast, atMost⟩ := alen_of_avpUnpackOne found
      exact ih _ (by rw [List.length_drop]; omega) _ _ unpacked rfl
    · rename_i value alen found
      obtain ⟨atLeast, atMost⟩ := alen_of_avpUnpackOne found
      exact ih _ (by rw [List.length_drop]; omega) _ _ unpacked rfl
    · rename_i avp alen found
      obtain ⟨atLeast, atMost⟩ := alen_of_avpUnpackOne found
      generalize rest : avpUnpackFrom md5 info secret randvec (data.drop alen) = others at unpacked
      cases others with
      | error errno => cases unpacked
      | ok others =>
          cases Except.ok.inj unpacked
          intro other member
          cases member with
          | head => exact known_of_avpUnpackOne md5 secret found
          | tail _ member =>
              exact ih _ (by rw [List.length_drop]; omega) _ _ rest rfl other member

/-- The descriptors are all for vendor 0. -/
theorem Avp.Known.vendor {info : List AvpInfo} {avp : Avp} (known : avp.Known info) :
    avp.vendor = 0 := by
  obtain ⟨desc, found⟩ := Option.isSome_iff_exists.mp known.1
  have both := List.find?_some found
  rw [Bool.and_eq_true, decide_eq_true_eq] at both
  exact both.1.symm

end Unpacked

theorem known_of_avpUnpack {md5 : Md5} {secret : Option Bytes} {data : Bytes} {avps : List Avp}
    (unpacked : avpUnpack md5 pppL2tpAvpInfoList secret data = .ok avps) :
    ∀ avp ∈ avps, avp.Known pppL2tpAvpInfoList :=
  known_of_avpUnpackFrom md5 secret none data unpacked

/-- The pointer of an unpacked AVP is set. -/
theorem ptrs_of_known {info : List AvpInfo} {avps : List Avp}
    (known : ∀ avp ∈ avps, avp.Known info) :
    ∃ ptrs, avpList2ptrs avps = .ok ptrs ∧
      ∀ avp ∈ avps, ∀ type, avp.type = type.num → (ptrs type).isSome = true := by
  obtain ⟨ptrs, stored, filled⟩ := avpList2ptrs_ok avps
  refine ⟨ptrs, stored, fun avp member type is => ?_⟩
  have vendor := (known avp member).vendor
  refine filled avp member type vendor is ?_
  intro vector
  exact (known avp member).2 ⟨vendor, vector ▸ is⟩

/-- The message types that the debug log looks up are in its table of names. Without a value of
two bytes the type is taken to be zero. -/
def l2tpDumpSafe (env : L2tpEnv) (avps : List Avp) : Prop :=
  env.debug = true → ∀ avp ∈ avps, avp.vendor = 0 → avp.type = AvpType.messageType.num →
    avpStore16 avp 0 ≠ .ok 17

theorem avpDecodeMessageType_ok {avp : Avp} (safe : avpStore16 avp 0 ≠ .ok 17) :
    ∃ name, avpDecodeMessageType avp = .ok name := by
  obtain ⟨mesgtype, stored⟩ := avpStore16_ok avp 0
  have other : mesgtype ≠ 17 := fun is => safe (is ▸ stored)
  unfold avpDecodeMessageType
  rw [stored]
  change ∃ name, (if mesgtype.toNat > l2tpMsgNames.length then _ else _) = Except.ok name
  by_cases large : mesgtype.toNat > l2tpMsgNames.length
  · rw [if_pos large]
    exact ⟨_, rfl⟩
  rw [if_neg large]
  have inside : mesgtype.toNat < l2tpMsgNames.length := by
    have different : mesgtype.toNat ≠ 17 := fun is => other (UInt16.toNat_inj.mp is)
    have length : l2tpMsgNames.length = 17 := rfl
    omega
  rw [List.getElem?_eq_getElem inside]
  exact ⟨_, rfl⟩

theorem avpDecodeMessageType_fault {avp : Avp} (unsafe17 : avpStore16 avp 0 = .ok 17) :
    avpDecodeMessageType avp = .error .tableIndex := by
  unfold avpDecodeMessageType
  rw [unsafe17]
  rfl

/-- The debug log comes to an end exactly when every type it looks up has a name. -/
theorem l2tpCtrlDump_ok_iff (env : L2tpEnv) (avps : List Avp) :
    (∃ names, l2tpCtrlDump env avps = .ok names) ↔ l2tpDumpSafe env avps := by
  unfold l2tpCtrlDump l2tpDumpSafe
  cases env.debug with
  | false => simp
  | true =>
      simp only [Bool.not_true, Bool.false_eq_true, if_false, true_imp_iff]
      induction avps with
      | nil => exact ⟨fun _ => nofun, fun _ => ⟨[], rfl⟩⟩
      | cons avp avps ih =>
          by_cases looked : avp.vendor = 0 ∧ avp.type = AvpType.messageType.num
          · rw [List.filter_cons_of_pos (by simpa using looked), List.mapM_cons]
            by_cases bad : avpStore16 avp 0 = .ok 17
            · rw [avpDecodeMessageType_fault bad]
              constructor
              · intro ⟨names, done⟩
                exact nomatch done
              · intro safe
                exact absurd bad (safe avp (List.mem_cons_self ..) looked.1 looked.2)
            · obtain ⟨name, decoded⟩ := avpDecodeMessageType_ok bad
              rw [decoded]
              constructor
              · intro ⟨names, done⟩ other member vendor type
                cases member with
                | head => exact bad
                | tail _ member =>
                    refine ih.mp ?_ other member vendor type
                    generalize (avps.filter _).mapM avpDecodeMessageType = rest at done ⊢
                    cases rest with
                    | error fault => exact nomatch done
                    | ok rest => exact ⟨rest, rfl⟩
              · intro safe
                obtain ⟨names, done⟩ := ih.mpr fun other member =>
                  safe other (List.mem_cons_of_mem _ member)
                exact ⟨name :: names, by rw [done]; rfl⟩
          · rw [List.filter_cons_of_neg (by simpa using looked), ih]
            constructor
            · intro safe other member vendor type
              cases member with
              | head => exact absurd ⟨vendor, type⟩ looked
              | tail _ member => exact safe other member vendor type
            · exact fun safe other member => safe other (List.mem_cons_of_mem _ member)

end Mpd
