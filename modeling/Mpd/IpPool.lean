import Mpd.Bytes
import Mathlib.Data.List.Nodup

/-! The address pools of `ippool.c`. -/

set_option autoImplicit false

namespace Mpd

structure IPPoolRec where
  ip : UInt32
  used : Bool
  deriving DecidableEq, Repr

/-- `struct ippool`. The size is that of the list. -/
structure IPPool where
  name : Bytes
  pool : List IPPoolRec
  deriving DecidableEq, Repr

/-- The loop of `IPPoolGet` over the records of a pool. -/
def ipPoolTake : List IPPoolRec → Option (UInt32 × List IPPoolRec)
  | [] => none
  | record :: pool =>
      if record.used then (ipPoolTake pool).map fun taken => (taken.1, record :: taken.2)
      else some (record.ip, { record with used := true } :: pool)

/-- `IPPoolGet`: the address and the pools without it, or nothing. -/
def ipPoolGet (name : Bytes) : List IPPool → Option (UInt32 × List IPPool)
  | [] => none
  | p :: pools =>
      if p.name = name then
        (ipPoolTake p.pool).map fun taken => (taken.1, { p with pool := taken.2 } :: pools)
      else (ipPoolGet name pools).map fun got => (got.1, p :: got.2)

/-- The loop of `IPPoolFree` over the records of a pool. -/
def ipPoolGive (ip : UInt32) : List IPPoolRec → List IPPoolRec
  | [] => []
  | record :: pool =>
      if record.ip = ip then { record with used := false } :: pool else record :: ipPoolGive ip pool

def ipPoolFree (name : Bytes) (ip : UInt32) : List IPPool → List IPPool
  | [] => []
  | p :: pools =>
      if p.name = name then { p with pool := ipPoolGive ip p.pool } :: pools
      else p :: ipPoolFree name ip pools

def ipPoolIps (pools : List IPPool) : List UInt32 := pools.flatMap fun p => p.pool.map (·.ip)

def ipPoolUsed (pools : List IPPool) : List UInt32 :=
  pools.flatMap fun p => (p.pool.filter (·.used)).map (·.ip)

def InPool (name : Bytes) (ip : UInt32) : List IPPool → Prop
  | [] => False
  | p :: pools => if p.name = name then ip ∈ p.pool.map (·.ip) else InPool name ip pools

theorem mem_ips_of_mem_used {pools : List IPPool} {ip : UInt32} (used : ip ∈ ipPoolUsed pools) :
    ip ∈ ipPoolIps pools := by
  obtain ⟨p, listed, member⟩ := List.mem_flatMap.mp used
  obtain ⟨rec, marked, rfl⟩ := List.mem_map.mp member
  exact List.mem_flatMap.mpr ⟨p, listed, List.mem_map_of_mem (List.mem_of_mem_filter marked)⟩

theorem InPool.mem {name : Bytes} {ip : UInt32} {pools : List IPPool}
    (inside : InPool name ip pools) : ip ∈ ipPoolIps pools := by
  induction pools with
  | nil => exact inside.elim
  | cons p pools ih =>
      unfold InPool at inside
      split_ifs at inside
      · exact List.mem_append_left _ inside
      · exact List.mem_append_right _ (ih inside)

section Take

theorem ips_ipPoolTake {pool pool' : List IPPoolRec} {ip : UInt32}
    (taken : ipPoolTake pool = some (ip, pool')) :
    pool'.map (·.ip) = pool.map (·.ip) ∧ ip ∈ pool.map (·.ip) := by
  induction pool generalizing pool' with
  | nil => cases taken
  | cons record pool ih =>
      unfold ipPoolTake at taken
      split_ifs at taken
      · obtain ⟨⟨ip', rest⟩, found, same⟩ := Option.map_eq_some_iff.mp taken
        obtain ⟨rfl, rfl⟩ := Prod.mk.inj same
        obtain ⟨kept, member⟩ := ih found
        exact ⟨by simp [kept], List.mem_cons_of_mem _ member⟩
      · obtain ⟨rfl, rfl⟩ := Prod.mk.inj (Option.some.inj taken)
        exact ⟨rfl, List.mem_cons_self⟩

theorem used_ipPoolTake {pool pool' : List IPPoolRec} {ip : UInt32}
    (taken : ipPoolTake pool = some (ip, pool')) (x : UInt32) :
    x ∈ (pool'.filter (·.used)).map (·.ip) ↔ x ∈ (pool.filter (·.used)).map (·.ip) ∨ x = ip := by
  induction pool generalizing pool' with
  | nil => cases taken
  | cons record pool ih =>
      unfold ipPoolTake at taken
      split_ifs at taken with marked
      · obtain ⟨⟨ip', rest⟩, found, same⟩ := Option.map_eq_some_iff.mp taken
        obtain ⟨rfl, rfl⟩ := Prod.mk.inj same
        have tail := ih found
        simp only [List.filter_cons, marked, if_true, List.map_cons, List.mem_cons, tail, or_assoc]
      · obtain ⟨rfl, rfl⟩ := Prod.mk.inj (Option.some.inj taken)
        simp [marked, or_comm]

theorem unused_ipPoolTake {pool pool' : List IPPoolRec} {ip : UInt32}
    (taken : ipPoolTake pool = some (ip, pool')) (distinct : (pool.map (·.ip)).Nodup) :
    ip ∉ (pool.filter (·.used)).map (·.ip) := by
  induction pool generalizing pool' with
  | nil => cases taken
  | cons record pool ih =>
      rw [List.map_cons, List.nodup_cons] at distinct
      unfold ipPoolTake at taken
      split_ifs at taken with marked
      · obtain ⟨⟨ip', rest⟩, found, same⟩ := Option.map_eq_some_iff.mp taken
        obtain ⟨rfl, rfl⟩ := Prod.mk.inj same
        have member := (ips_ipPoolTake found).2
        simp only [List.filter_cons, marked, if_true, List.map_cons, List.mem_cons, not_or]
        exact ⟨fun same => distinct.1 (same ▸ member), ih found distinct.2⟩
      · obtain ⟨rfl, rfl⟩ := Prod.mk.inj (Option.some.inj taken)
        rw [List.filter_cons_of_neg marked]
        intro member
        obtain ⟨other, inside, same⟩ := List.mem_map.mp member
        exact distinct.1 (same ▸ List.mem_map_of_mem (List.mem_of_mem_filter inside))

end Take

section Give

theorem ips_ipPoolGive (ip : UInt32) (pool : List IPPoolRec) :
    (ipPoolGive ip pool).map (·.ip) = pool.map (·.ip) := by
  induction pool with
  | nil => rfl
  | cons record pool ih =>
      unfold ipPoolGive
      split_ifs
      · rfl
      · rw [List.map_cons, List.map_cons, ih]

theorem used_ipPoolGive {ip : UInt32} {pool : List IPPoolRec} (distinct : (pool.map (·.ip)).Nodup)
    (x : UInt32) :
    x ∈ ((ipPoolGive ip pool).filter (·.used)).map (·.ip) ↔
      x ∈ (pool.filter (·.used)).map (·.ip) ∧ x ≠ ip := by
  induction pool with
  | nil => simp [ipPoolGive]
  | cons record pool ih =>
      rw [List.map_cons, List.nodup_cons] at distinct
      unfold ipPoolGive
      split_ifs with same
      · have absent : ip ∉ (pool.filter (·.used)).map (·.ip) := by
          intro member
          obtain ⟨other, inside, found⟩ := List.mem_map.mp member
          exact distinct.1 (same ▸ found ▸ List.mem_map_of_mem (List.mem_of_mem_filter inside))
        have apart : x ∈ (pool.filter (·.used)).map (·.ip) → x ≠ ip := fun member same =>
          absent (same ▸ member)
        cases marked : record.used with
        | false =>
            simp only [List.filter_cons, marked, Bool.false_eq_true, if_false]
            exact ⟨fun member => ⟨member, apart member⟩, fun member => member.1⟩
        | true =>
            simp only [List.filter_cons, marked, Bool.false_eq_true, if_false, if_true,
              List.map_cons, List.mem_cons, same]
            constructor
            · intro member
              exact ⟨.inr member, apart member⟩
            · rintro ⟨equal | member, other⟩
              · exact absurd equal other
              · exact member
      · cases marked : record.used with
        | false =>
            simp only [List.filter_cons, marked, Bool.false_eq_true, if_false, ih distinct.2]
        | true =>
            simp only [List.filter_cons, marked, if_true, List.map_cons, List.mem_cons,
              ih distinct.2]
            constructor
            · rintro (rfl | ⟨member, other⟩)
              · exact ⟨.inl rfl, same⟩
              · exact ⟨.inr member, other⟩
            · rintro ⟨rfl | member, other⟩
              · exact .inl rfl
              · exact .inr ⟨member, other⟩

end Give

section Pools

variable {name : Bytes} {ip : UInt32} {pools pools' : List IPPool}

/-- The address comes from the first pool, or from one behind it. -/
theorem ipPoolGet_cons {p : IPPool} (got : ipPoolGet name (p :: pools) = some (ip, pools')) :
    (p.name = name ∧ ∃ pool, ipPoolTake p.pool = some (ip, pool) ∧
      pools' = { p with pool } :: pools) ∨
    p.name ≠ name ∧ ∃ rest, ipPoolGet name pools = some (ip, rest) ∧ pools' = p :: rest := by
  unfold ipPoolGet at got
  split_ifs at got with named
  · obtain ⟨⟨ip', pool⟩, found, same⟩ := Option.map_eq_some_iff.mp got
    obtain ⟨rfl, rfl⟩ := Prod.mk.inj same
    exact .inl ⟨named, pool, found, rfl⟩
  · obtain ⟨⟨ip', rest⟩, found, same⟩ := Option.map_eq_some_iff.mp got
    obtain ⟨rfl, rfl⟩ := Prod.mk.inj same
    exact .inr ⟨named, rest, found, rfl⟩

theorem ips_ipPoolGet (got : ipPoolGet name pools = some (ip, pools')) :
    ipPoolIps pools' = ipPoolIps pools := by
  induction pools generalizing pools' with
  | nil => cases got
  | cons p pools ih =>
      rcases ipPoolGet_cons got with ⟨-, pool, found, rfl⟩ | ⟨-, rest', found, rfl⟩
      · simp only [ipPoolIps, List.flatMap_cons, (ips_ipPoolTake found).1]
      · have rest := ih found
        simp only [ipPoolIps, List.flatMap_cons] at rest ⊢
        rw [rest]

theorem inPool_ipPoolGet (got : ipPoolGet name pools = some (ip, pools')) (other : Bytes)
    (x : UInt32) : InPool other x pools' ↔ InPool other x pools := by
  induction pools generalizing pools' with
  | nil => cases got
  | cons p pools ih =>
      rcases ipPoolGet_cons got with ⟨-, pool, found, rfl⟩ | ⟨-, rest', found, rfl⟩
      · simp only [InPool, (ips_ipPoolTake found).1]
      · simp only [InPool, ih found]

theorem inPool_of_ipPoolGet (got : ipPoolGet name pools = some (ip, pools')) :
    InPool name ip pools := by
  induction pools generalizing pools' with
  | nil => cases got
  | cons p pools ih =>
      rcases ipPoolGet_cons got with ⟨named, pool, found, rfl⟩ | ⟨named, rest, found, rfl⟩
      · simp only [InPool, if_pos named]
        exact (ips_ipPoolTake found).2
      · simp only [InPool, if_neg named]
        exact ih found

/-- Just one address more is marked used. -/
theorem used_ipPoolGet (got : ipPoolGet name pools = some (ip, pools')) (x : UInt32) :
    x ∈ ipPoolUsed pools' ↔ x ∈ ipPoolUsed pools ∨ x = ip := by
  induction pools generalizing pools' with
  | nil => cases got
  | cons p pools ih =>
      rcases ipPoolGet_cons got with ⟨-, pool, found, rfl⟩ | ⟨-, rest', found, rfl⟩
      · simp only [ipPoolUsed, List.flatMap_cons, List.mem_append, used_ipPoolTake found]
        tauto
      · have rest := ih found
        simp only [ipPoolUsed, List.flatMap_cons, List.mem_append] at rest ⊢
        rw [rest, or_assoc]

theorem unused_ipPoolGet (got : ipPoolGet name pools = some (ip, pools'))
    (distinct : (ipPoolIps pools).Nodup) : ip ∉ ipPoolUsed pools := by
  induction pools generalizing pools' with
  | nil => cases got
  | cons p pools ih =>
      simp only [ipPoolIps, List.flatMap_cons, List.nodup_append] at distinct
      obtain ⟨first, others, apart⟩ := distinct
      rcases ipPoolGet_cons got with ⟨-, pool, found, rfl⟩ | ⟨-, rest', found, rfl⟩
      · have member := (ips_ipPoolTake found).2
        simp only [ipPoolUsed, List.flatMap_cons, List.mem_append, not_or]
        refine ⟨unused_ipPoolTake found first, fun used => ?_⟩
        exact apart _ member _ (mem_ips_of_mem_used used) rfl
      · simp only [ipPoolUsed, List.flatMap_cons, List.mem_append, not_or]
        refine ⟨fun used => ?_, ih found others⟩
        obtain ⟨record, marked, same⟩ := List.mem_map.mp used
        exact apart _ (same ▸ List.mem_map_of_mem (List.mem_of_mem_filter marked)) _
          (inPool_of_ipPoolGet found).mem rfl

theorem ips_ipPoolFree (name : Bytes) (ip : UInt32) (pools : List IPPool) :
    ipPoolIps (ipPoolFree name ip pools) = ipPoolIps pools := by
  induction pools with
  | nil => rfl
  | cons p pools ih =>
      unfold ipPoolFree
      simp only [ipPoolIps, List.flatMap_cons] at ih ⊢
      split_ifs
      · rw [List.flatMap_cons, ips_ipPoolGive]
      · rw [List.flatMap_cons, ih]

theorem inPool_ipPoolFree (name : Bytes) (ip : UInt32) (pools : List IPPool) (other : Bytes)
    (x : UInt32) : InPool other x (ipPoolFree name ip pools) ↔ InPool other x pools := by
  induction pools with
  | nil => rfl
  | cons p pools ih =>
      unfold ipPoolFree
      split_ifs
      · simp only [InPool, ips_ipPoolGive]
      · simp only [InPool, ih]

/-- The address of a pool that is freed is the only one that is no longer used. -/
theorem used_ipPoolFree (inside : InPool name ip pools) (distinct : (ipPoolIps pools).Nodup)
    (x : UInt32) : x ∈ ipPoolUsed (ipPoolFree name ip pools) ↔ x ∈ ipPoolUsed pools ∧ x ≠ ip := by
  induction pools with
  | nil => exact inside.elim
  | cons p pools ih =>
      simp only [ipPoolIps, List.flatMap_cons, List.nodup_append] at distinct
      obtain ⟨first, others, apart⟩ := distinct
      unfold InPool at inside
      unfold ipPoolFree
      split_ifs at inside ⊢
      · have kept : x ∈ ipPoolUsed pools → x ≠ ip := fun used same =>
          apart _ inside _ (mem_ips_of_mem_used used) same.symm
        simp only [ipPoolUsed, List.flatMap_cons, List.mem_append, used_ipPoolGive first] at kept ⊢
        tauto
      · have kept : x ∈ (p.pool.filter (·.used)).map (·.ip) → x ≠ ip := by
          intro used same
          obtain ⟨record, marked, found⟩ := List.mem_map.mp used
          exact apart _ (found ▸ List.mem_map_of_mem (List.mem_of_mem_filter marked)) _
            inside.mem same
        have rest := ih inside others
        simp only [ipPoolUsed, List.flatMap_cons, List.mem_append] at rest ⊢
        rw [rest]
        tauto

end Pools

end Mpd
