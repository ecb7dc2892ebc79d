import Mathlib.Data.List.Basic
import Mpd.Transition

/-! The pools of numbers for the pipes, queues, tables and rules that interfaces install in
the firewall. -/

set_option autoImplicit false

namespace Mpd.AclPools

inductive Pool where
  | pipe | queue | table | rule
  deriving DecidableEq, Repr

structure PoolEntry where
  ifname : String
  acl_number : UInt16
  real_number : UInt16
  deriving DecidableEq, Repr

/-- `struct acl`. A static one comes with its real number; no field of the source tells. -/
structure Acl where
  number : UInt16
  real_number : UInt16
  isStatic : Bool
  deriving DecidableEq, Repr

structure Cursor where
  before : List PoolEntry
  rest : List PoolEntry
  start : Nat
  deriving DecidableEq, Repr

def Cursor.pool (c : Cursor) : List PoolEntry := c.before ++ c.rest

/-- The walk over the entries whose number is not beyond the one that is looked for. -/
def walk : Nat → List PoolEntry → List PoolEntry × Nat × List PoolEntry
  | i, [] => ([], i, [])
  | i, rp :: rest =>
      if rp.real_number.toNat ≤ i then
        let walked := walk (rp.real_number.toNat + 1) rest
        (rp :: walked.1, walked.2)
      else ([], i, rp :: rest)

def ifaceAllocACL (ifname : String) (number : UInt16) (c : Cursor) : UInt16 × Cursor :=
  let walked := walk c.start c.rest
  let real_number := UInt16.ofNat walked.2.1
  (real_number,
    { before := c.before ++ walked.1
      rest := ⟨ifname, number, real_number⟩ :: walked.2.2
      start := real_number.toNat })

def allocAll (ifname : String) : Cursor → List Acl → Cursor × List Acl
  | c, [] => (c, [])
  | c, acl :: acls =>
      let allocated := ifaceAllocACL ifname acl.number c
      let others := allocAll ifname allocated.2 acls
      (others.1, { acl with real_number := allocated.1 } :: others.2)

def allocTables (ifname : String) : Option (UInt16 × UInt16) → Cursor → List Acl →
    Cursor × List Acl
  | _, c, [] => (c, [])
  | prev, c, acl :: acls =>
      if acl.real_number = 0 then
        match prev.filter (·.1 = acl.number) with
        | some (_, prev_real_number) =>
            let others := allocTables ifname prev c acls
            (others.1, { acl with real_number := prev_real_number } :: others.2)
        | none =>
            let allocated := ifaceAllocACL ifname acl.number c
            let others := allocTables ifname (some (acl.number, allocated.1)) allocated.2 acls
            (others.1, { acl with real_number := allocated.1 } :: others.2)
      else
        let others := allocTables ifname prev c acls
        (others.1, acl :: others.2)

/-- A bundle's interface, the ACLs in its `params`, and those it has installed. -/
structure AclIface where
  ifname : String
  up : Bool
  params : Pool → List Acl
  installed : Pool → List Acl

structure AclWorld where
  pools : Pool → List PoolEntry
  starts : Pool → Nat
  ifaces : List AclIface

def allocPool (w : AclWorld) (ifname : String) (pool : Pool) (acls : List Acl) :
    Cursor × List Acl :=
  let c : Cursor := { before := [], rest := w.pools pool, start := w.starts pool }
  match pool with
  | .table => allocTables ifname none c acls
  | _ => allocAll ifname c acls

def ifaceSetName (w : AclWorld) (iface : AclIface) (name : Option String) : AclIface :=
  match name with
  | none => iface
  | some name =>
      if w.ifaces.any (·.ifname = name) then iface else { iface with ifname := name }

def ifaceUp (w : AclWorld) (id : Nat) (iface : AclIface) (ready : Bool) (name : Option String) :
    AclWorld :=
  if ready then
    let iface := ifaceSetName w iface name
    let allocated pool := allocPool w iface.ifname pool (iface.params pool)
    { w with
      pools pool := (allocated pool).1.pool
      ifaces := w.ifaces.set id { iface with
        up := true
        params := fun pool => (allocated pool).2
        installed := fun pool => (allocated pool).2 } }
  else { w with ifaces := w.ifaces.set id { iface with up := true } }

def ifaceDown (w : AclWorld) (id : Nat) (iface : AclIface) (name : Option String) : AclWorld :=
  { w with
    pools pool := (w.pools pool).filter (·.ifname ≠ iface.ifname)
    ifaces := w.ifaces.set id
      { ifaceSetName w iface name with up := false, installed := fun _ => [] } }

/-- The bounds of `set global start...`, which is refused while the pool is in use. -/
def startAllowed (pool : Pool) (val : Nat) : Bool :=
  0 < val && (if pool = .table then val ≤ 127 else val < 65535)

inductive AclEvent where
  | create (ifname : String)
  | setParams (id : Nat) (params : Pool → List Acl)
  | setStart (pool : Pool) (val : Nat)
  | up (id : Nat) (ready : Bool) (name : Option String)
  | down (id : Nat) (name : Option String)

/-- An interface goes up when it is down, and down when it is up. -/
def aclStep (w : AclWorld) : AclEvent → AclWorld
  | .create ifname =>
      if w.ifaces.any (·.ifname = ifname) then w
      else { w with ifaces := w.ifaces ++ [⟨ifname, false, fun _ => [], fun _ => []⟩] }
  | .setParams id params =>
      match w.ifaces[id]? with
      | some iface => { w with ifaces := w.ifaces.set id { iface with params } }
      | none => w
  | .setStart pool val =>
      if (w.pools pool).isEmpty && startAllowed pool val then
        { w with starts := Function.update w.starts pool val }
      else w
  | .up id ready name =>
      match w.ifaces[id]? with
      | some iface => if iface.up then w else ifaceUp w id iface ready name
      | none => w
  | .down id name =>
      match w.ifaces[id]? with
      | some iface => if iface.up then ifaceDown w id iface name else w
      | none => w

def aclStart : AclWorld where
  pools _ := []
  starts
    | .table => 32
    | _ => 10000
  ifaces := []

def tableDemand : Option UInt16 → List Acl → Nat
  | _, [] => 0
  | prev, acl :: acls =>
      if acl.real_number = 0 then
        if prev = some acl.number then tableDemand prev acls
        else tableDemand (some acl.number) acls + 1
      else tableDemand prev acls

def demand (pool : Pool) (acls : List Acl) : Nat :=
  match pool with
  | .table => tableDemand none acls
  | _ => acls.length

/-- What an interface that goes up is to find: no number in its tables from an earlier run,
and room in every pool below 65536. -/
def Allocatable (w : AclWorld) : AclEvent → Prop
  | .up id true _ => ∀ iface, w.ifaces[id]? = some iface → iface.up = false →
      (∀ acl ∈ iface.params .table, acl.isStatic = false → acl.real_number = 0) ∧
        ∀ pool, w.starts pool + (w.pools pool).length + demand pool (iface.params pool) ≤ 65536
  | _ => True

abbrev Increasing (entries : List PoolEntry) : Prop :=
  entries.Pairwise fun first second => first.real_number < second.real_number

/-- The pools are in order, what an interface has installed is entered there under its
name, and no two interfaces have one number. -/
structure PoolsRight (w : AclWorld) : Prop where
  increasing : ∀ pool, Increasing (w.pools pool)
  entered : ∀ (id : Nat) (iface : AclIface) (pool : Pool), w.ifaces[id]? = some iface →
    iface.up = true → ∀ acl ∈ iface.installed pool, acl.isStatic = false →
      ⟨iface.ifname, acl.number, acl.real_number⟩ ∈ w.pools pool
  unshared : ∀ (id : Nat) (iface : AclIface) (otherId : Nat) (other : AclIface) (pool : Pool),
    id ≠ otherId → w.ifaces[id]? = some iface → iface.up = true →
      w.ifaces[otherId]? = some other → other.up = true →
      ∀ acl ∈ iface.installed pool, ∀ otherAcl ∈ other.installed pool,
        acl.isStatic = false → otherAcl.isStatic = false →
        acl.real_number ≠ otherAcl.real_number

/-- The walk passes over a run of consecutive numbers, to the first one that is free. -/
theorem walk_spec {i : Nat} {rest : List PoolEntry} (sorted : Increasing rest)
    (from_i : ∀ entry ∈ rest, i ≤ entry.real_number.toNat) :
    (walk i rest).1 ++ (walk i rest).2.2 = rest ∧
      (walk i rest).2.1 + (walk i rest).2.2.length = i + rest.length ∧
      i ≤ (walk i rest).2.1 ∧
      (∀ entry ∈ (walk i rest).1, entry.real_number.toNat < (walk i rest).2.1) ∧
      ∀ entry ∈ (walk i rest).2.2, (walk i rest).2.1 < entry.real_number.toNat := by
  induction rest generalizing i with
  | nil => simp [walk]
  | cons rp rest ih =>
      obtain ⟨above, sorted_rest⟩ := List.pairwise_cons.mp sorted
      rw [walk]
      split
      case isTrue taken =>
          have at_i : rp.real_number.toNat = i :=
            Nat.le_antisymm taken (from_i rp List.mem_cons_self)
          have from_next : ∀ entry ∈ rest, rp.real_number.toNat + 1 ≤ entry.real_number.toNat :=
            fun entry member => UInt16.lt_iff_toNat_lt.mp (above entry member)
          obtain ⟨whole, count, reached, passed, ahead⟩ := ih sorted_rest from_next
          refine ⟨by simp [whole], ?_, ?_, ?_, ahead⟩
          · simp only [List.length_cons]
            omega
          · dsimp only
            omega
          · intro entry member
            rcases List.mem_cons.mp member with rfl | member
            · dsimp only
              omega
            · exact passed entry member
      case isFalse free =>
          refine ⟨rfl, rfl, Nat.le_refl i, by simp, ?_⟩
          intro entry member
          rcases List.mem_cons.mp member with rfl | member
          · exact Nat.lt_of_not_le free
          · have later := UInt16.lt_iff_toNat_lt.mp (above entry member)
            dsimp only
            omega

/-- The cursor stands where numbers may be taken, none is below the first number of the
pool, and there is room for as many as asked. -/
structure CursorOk (c : Cursor) (low room : Nat) : Prop where
  sorted : Increasing c.pool
  passed : ∀ entry ∈ c.before, entry.real_number.toNat < c.start
  ahead : ∀ entry ∈ c.rest, c.start ≤ entry.real_number.toNat
  room : c.start + c.rest.length + room ≤ 65536
  low_start : low ≤ c.start
  low_pool : ∀ entry ∈ c.pool, low ≤ entry.real_number.toNat

/-- A number is allocated and entered, and every entry stays. -/
theorem ifaceAllocACL_spec {c : Cursor} {low room : Nat} (ok : CursorOk c low (room + 1))
    (ifname : String) (number : UInt16) :
    CursorOk (ifaceAllocACL ifname number c).2 low room ∧
      ⟨ifname, number, (ifaceAllocACL ifname number c).1⟩ ∈ (ifaceAllocACL ifname number c).2.pool ∧
      ∀ entry ∈ c.pool, entry ∈ (ifaceAllocACL ifname number c).2.pool := by
  obtain ⟨sorted, passed, ahead, fits, low_start, low_pool⟩ := ok
  obtain ⟨sorted_before, sorted_rest, apart⟩ := List.pairwise_append.mp sorted
  obtain ⟨whole, count, reached, walked, free⟩ := walk_spec sorted_rest ahead
  unfold Cursor.pool at low_pool
  unfold ifaceAllocACL Cursor.pool
  generalize walk c.start c.rest = result at whole count reached walked free
  obtain ⟨skipped, i, rest⟩ := result
  dsimp only at whole count reached walked free ⊢
  have stored : (UInt16.ofNat i).toNat = i := by
    rw [UInt16.toNat_ofNat']
    exact Nat.mod_eq_of_lt (by omega)
  rw [← whole] at sorted_rest apart
  obtain ⟨sorted_skipped, sorted_after, -⟩ := List.pairwise_append.mp sorted_rest
  have below : ∀ entry ∈ c.before ++ skipped, entry.real_number.toNat < i := by
    intro entry member
    rcases List.mem_append.mp member with member | member
    · exact Nat.lt_of_lt_of_le (passed entry member) reached
    · exact walked entry member
  refine ⟨⟨?_, ?_, ?_, ?_, ?_, ?_⟩, by simp, ?_⟩
  · refine List.pairwise_append.mpr ⟨?_, ?_, ?_⟩
    · refine List.pairwise_append.mpr ⟨sorted_before, sorted_skipped, fun first early second late => ?_⟩
      exact apart first early second (List.mem_append_left _ late)
    · refine List.pairwise_cons.mpr ⟨fun entry member => ?_, sorted_after⟩
      rw [UInt16.lt_iff_toNat_lt, stored]
      exact free entry member
    · intro first early second late
      rw [UInt16.lt_iff_toNat_lt]
      rcases List.mem_cons.mp late with rfl | late
      · rw [stored]
        exact below first early
      · exact Nat.lt_trans (below first early) (free second late)
  · intro entry member
    rw [stored]
    exact below entry member
  · intro entry member
    rw [stored]
    rcases List.mem_cons.mp member with rfl | member
    · exact Nat.le_of_eq stored.symm
    · exact Nat.le_of_lt (free entry member)
  · rw [stored, List.length_cons]
    dsimp only
    omega
  · rw [stored]
    exact Nat.le_trans low_start reached
  · rw [← whole] at low_pool
    intro entry member
    simp only [Cursor.pool, List.mem_append, List.mem_cons] at member low_pool
    rcases member with (early | late) | rfl | late
    · exact low_pool entry (.inl early)
    · exact low_pool entry (.inr (.inl late))
    · exact Nat.le_trans (Nat.le_trans low_start reached) (Nat.le_of_eq stored.symm)
    · exact low_pool entry (.inr (.inr late))
  · intro entry member
    rw [← whole] at member
    simp only [List.mem_append, List.mem_cons] at member ⊢
    tauto

/-- What a loop over ACLs leaves: a pool in order with all it had before, and an entry for
each ACL that is not static. -/
structure Allocated (ifname : String) (low : Nat) (c : Cursor) (result : Cursor × List Acl) :
    Prop where
  sorted : Increasing result.1.pool
  low : ∀ entry ∈ result.1.pool, low ≤ entry.real_number.toNat
  kept : ∀ entry ∈ c.pool, entry ∈ result.1.pool
  entered : ∀ acl ∈ result.2, acl.isStatic = false →
    ⟨ifname, acl.number, acl.real_number⟩ ∈ result.1.pool

theorem CursorOk.done {ifname : String} {c : Cursor} {low room : Nat} (ok : CursorOk c low room) :
    Allocated ifname low c (c, []) where
  sorted := ok.sorted
  low := ok.low_pool
  kept _ member := member
  entered := nofun

/-- One more ACL, whose entry was in the pool before the loop went on. -/
theorem Allocated.cons {ifname : String} {low : Nat} {c before : Cursor}
    {result : Cursor × List Acl} (allocated : Allocated ifname low c result) (acl : Acl)
    (kept : ∀ entry ∈ before.pool, entry ∈ c.pool)
    (entered : acl.isStatic = false → ⟨ifname, acl.number, acl.real_number⟩ ∈ c.pool) :
    Allocated ifname low before (result.1, acl :: result.2) where
  sorted := allocated.sorted
  low := allocated.low
  kept entry member := allocated.kept entry (kept entry member)
  entered other member dynamic := by
    rcases List.mem_cons.mp member with rfl | member
    · exact allocated.kept _ (entered dynamic)
    · exact allocated.entered other member dynamic

theorem allocAll_spec (ifname : String) {low : Nat} {c : Cursor} {acls : List Acl}
    (ok : CursorOk c low acls.length) : Allocated ifname low c (allocAll ifname c acls) := by
  induction acls generalizing c with
  | nil => exact ok.done
  | cons acl acls ih =>
      obtain ⟨next, entered, kept⟩ := ifaceAllocACL_spec ok ifname acl.number
      exact (ih next).cons { acl with real_number := _ } kept fun _ => entered

def PrevEntered (ifname : String) (prev : Option (UInt16 × UInt16)) (c : Cursor) : Prop :=
  ∀ number real_number, prev = some (number, real_number) →
    ⟨ifname, number, real_number⟩ ∈ c.pool

theorem allocTables_spec (ifname : String) {low : Nat} {c : Cursor} {acls : List Acl}
    {prev : Option (UInt16 × UInt16)} (ok : CursorOk c low (tableDemand (prev.map (·.1)) acls))
    (prev_entered : PrevEntered ifname prev c)
    (unnumbered : ∀ acl ∈ acls, acl.isStatic = false → acl.real_number = 0) :
    Allocated ifname low c (allocTables ifname prev c acls) := by
  induction acls generalizing c prev with
  | nil => exact ok.done
  | cons acl acls ih =>
      have others : ∀ other ∈ acls, other.isStatic = false → other.real_number = 0 :=
        fun other member => unnumbered other (List.mem_cons_of_mem acl member)
      rw [allocTables]
      rw [tableDemand] at ok
      by_cases zero : acl.real_number = 0
      · rw [if_pos zero] at ok ⊢
        by_cases same : prev.map (·.1) = some acl.number
        · obtain ⟨⟨number, real_number⟩, rfl, rfl⟩ := Option.map_eq_some_iff.mp same
          rw [if_pos same] at ok
          simp only [Option.filter_some, decide_true, if_true]
          exact (ih ok prev_entered others).cons { acl with real_number := real_number }
            (fun _ member => member) fun _ => prev_entered _ _ rfl
        · rw [if_neg same] at ok
          have differs : prev.filter (·.1 = acl.number) = none := by
            cases prev with
            | none => rfl
            | some held => simpa [Option.filter_some] using same
          rw [differs]
          obtain ⟨next, entered, kept⟩ := ifaceAllocACL_spec ok ifname acl.number
          have now_entered : PrevEntered ifname
              (some (acl.number, (ifaceAllocACL ifname acl.number c).1))
              (ifaceAllocACL ifname acl.number c).2 := by
            rintro _ _ ⟨⟩
            exact entered
          exact (ih next now_entered others).cons { acl with real_number := _ } kept
            fun _ => entered
      · rw [if_neg zero] at ok ⊢
        refine (ih ok prev_entered others).cons acl (fun _ member => member) fun dynamic => ?_
        exact (zero (unnumbered acl List.mem_cons_self dynamic)).elim

structure AclInv (w : AclWorld) : Prop where
  increasing : ∀ pool, Increasing (w.pools pool)
  low : ∀ pool, ∀ entry ∈ w.pools pool, w.starts pool ≤ entry.real_number.toNat
  entered : ∀ (id : Nat) (iface : AclIface) (pool : Pool), w.ifaces[id]? = some iface →
    iface.up = true → ∀ acl ∈ iface.installed pool, acl.isStatic = false →
      ⟨iface.ifname, acl.number, acl.real_number⟩ ∈ w.pools pool
  names : ∀ (id otherId : Nat) (iface other : AclIface), w.ifaces[id]? = some iface →
    w.ifaces[otherId]? = some other → iface.ifname = other.ifname → id = otherId
  idle : ∀ (id : Nat) (iface : AclIface), w.ifaces[id]? = some iface → iface.up = false →
    ∀ pool, iface.installed pool = []

theorem increasing_inj {entries : List PoolEntry} (sorted : Increasing entries)
    {first second : PoolEntry} (first_in : first ∈ entries) (second_in : second ∈ entries)
    (same : first.real_number = second.real_number) : first = second := by
  induction entries with
  | nil => exact absurd first_in List.not_mem_nil
  | cons head entries ih =>
      obtain ⟨above, sorted⟩ := List.pairwise_cons.mp sorted
      rcases List.mem_cons.mp first_in with rfl | first_tail <;>
        rcases List.mem_cons.mp second_in with rfl | second_tail
      · rfl
      · have later := above second second_tail
        rw [same] at later
        exact absurd later (UInt16.lt_irrefl _)
      · have later := above first first_tail
        rw [same] at later
        exact absurd later (UInt16.lt_irrefl _)
      · exact ih sorted first_tail second_tail

theorem AclInv.right {w : AclWorld} (inv : AclInv w) : PoolsRight w where
  increasing := inv.increasing
  entered := inv.entered
  unshared id iface otherId other pool differ held up otherHeld otherUp acl installed otherAcl
      otherInstalled dynamic otherDynamic same := by
    have entry := inv.entered id iface pool held up acl installed dynamic
    have otherEntry := inv.entered otherId other pool otherHeld otherUp otherAcl otherInstalled
      otherDynamic
    have one := increasing_inj (inv.increasing pool) entry otherEntry same
    exact differ (inv.names id otherId iface other held otherHeld (congrArg PoolEntry.ifname one))

theorem set_iface {ifaces : List AclIface} {id : Nat} {old : AclIface}
    (held : ifaces[id]? = some old) (iface : AclIface) (at_id : Nat) :
    (ifaces.set id iface)[at_id]? = if at_id = id then some iface else ifaces[at_id]? := by
  have inside : id < ifaces.length := (List.getElem?_eq_some_iff.mp held).1
  by_cases same : at_id = id
  · rw [same, List.getElem?_set_self inside, if_pos rfl]
  · rw [List.getElem?_set_ne (Ne.symm same), if_neg same]

/-- A new name is one that no interface has. -/
theorem ifaceSetName_ifname (w : AclWorld) (iface : AclIface) (name : Option String) :
    (ifaceSetName w iface name).ifname = iface.ifname ∨
      ∀ other ∈ w.ifaces, other.ifname ≠ (ifaceSetName w iface name).ifname := by
  unfold ifaceSetName
  split
  · exact .inl rfl
  · split
    · exact .inl rfl
    · next fresh =>
        refine .inr fun other member same => fresh ?_
        rw [List.any_eq_true]
        exact ⟨other, member, by simpa using same⟩

theorem ifaceSetName_params (w : AclWorld) (iface : AclIface) (name : Option String) :
    (ifaceSetName w iface name).params = iface.params := by
  unfold ifaceSetName
  split
  · rfl
  · split <;> rfl

/-- Names stay different where one interface keeps its name or takes one that is free. -/
theorem AclInv.names_set {w : AclWorld} (inv : AclInv w) {id : Nat} {old iface : AclIface}
    (held : w.ifaces[id]? = some old)
    (name : iface.ifname = old.ifname ∨ ∀ other ∈ w.ifaces, other.ifname ≠ iface.ifname) :
    ∀ (at_id otherId : Nat) (first second : AclIface),
      (w.ifaces.set id iface)[at_id]? = some first → (w.ifaces.set id iface)[otherId]? = some second →
      first.ifname = second.ifname → at_id = otherId := by
  have alone : ∀ (at_id : Nat) (other : AclIface), at_id ≠ id → w.ifaces[at_id]? = some other →
      other.ifname ≠ iface.ifname := by
    intro at_id other differ found same
    rcases name with kept | fresh
    · exact differ (inv.names at_id id other old found held (same.trans kept))
    · exact fresh other (List.mem_of_getElem? found) same
  intro at_id otherId first second found otherFound same
  rw [set_iface held] at found otherFound
  split at found <;> split at otherFound
  · next here there => exact here.trans there.symm
  · next here there =>
      cases found
      exact (alone otherId second there otherFound same.symm).elim
  · next here there =>
      cases otherFound
      exact (alone at_id first here found same).elim
  · exact inv.names at_id otherId first second found otherFound same

theorem allocPool_spec {w : AclWorld} (inv : AclInv w) (ifname : String) {pool : Pool}
    {acls : List Acl}
    (room : w.starts pool + (w.pools pool).length + demand pool acls ≤ 65536)
    (unnumbered : pool = .table → ∀ acl ∈ acls, acl.isStatic = false → acl.real_number = 0) :
    Allocated ifname (w.starts pool) ⟨[], w.pools pool, w.starts pool⟩
      (allocPool w ifname pool acls) := by
  have ok : CursorOk ⟨[], w.pools pool, w.starts pool⟩ (w.starts pool) (demand pool acls) :=
    ⟨inv.increasing pool, nofun, inv.low pool, room, Nat.le_refl _, inv.low pool⟩
  cases pool with
  | table => exact allocTables_spec ifname ok nofun (unnumbered rfl)
  | pipe => exact allocAll_spec ifname ok
  | queue => exact allocAll_spec ifname ok
  | rule => exact allocAll_spec ifname ok

theorem AclInv.ifaceUp {w : AclWorld} (inv : AclInv w) {id : Nat} {iface : AclIface}
    (held : w.ifaces[id]? = some iface) (down : iface.up = false) (ready : Bool)
    (name : Option String) (allocatable : Allocatable w (.up id ready name)) :
    AclInv (ifaceUp w id iface ready name) := by
  cases ready with
  | false =>
      constructor
      case increasing => exact inv.increasing
      case low => exact inv.low
      case entered =>
          intro at_id other pool found up acl installed dynamic
          rw [AclPools.ifaceUp, if_neg (by decide), set_iface held] at found
          split at found
          · cases found
            rw [inv.idle id iface held down pool] at installed
            exact absurd installed List.not_mem_nil
          · exact inv.entered at_id other pool found up acl installed dynamic
      case names => exact inv.names_set held (.inl rfl)
      case idle =>
          intro at_id other found off
          rw [AclPools.ifaceUp, if_neg (by decide), set_iface held] at found
          split at found
          · cases found
            exact absurd off nofun
          · exact inv.idle at_id other found off
  | true =>
      obtain ⟨unnumbered, room⟩ := allocatable iface held down
      have params := ifaceSetName_params w iface name
      have allocated : ∀ pool, Allocated (ifaceSetName w iface name).ifname (w.starts pool)
          ⟨[], w.pools pool, w.starts pool⟩
          (allocPool w (ifaceSetName w iface name).ifname pool
            ((ifaceSetName w iface name).params pool)) := by
        intro pool
        rw [params]
        refine allocPool_spec inv _ (room pool) ?_
        rintro rfl
        exact unnumbered
      rw [AclPools.ifaceUp, if_pos rfl]
      constructor
      case increasing => exact fun pool => (allocated pool).sorted
      case low => exact fun pool => (allocated pool).low
      case entered =>
          intro at_id other pool found up acl installed dynamic
          rw [set_iface held] at found
          split at found
          · cases found
            exact (allocated pool).entered acl installed dynamic
          · exact (allocated pool).kept _
              (inv.entered at_id other pool found up acl installed dynamic)
      case names => exact inv.names_set held (ifaceSetName_ifname w iface name)
      case idle =>
          intro at_id other found off
          rw [set_iface held] at found
          split at found
          · cases found
            exact absurd off nofun
          · exact inv.idle at_id other found off

/-- The entries of the interface are removed, and no others. -/
theorem ifaceDown_pools (w : AclWorld) (id : Nat) (iface : AclIface) (name : Option String)
    (pool : Pool) (entry : PoolEntry) :
    entry ∈ (ifaceDown w id iface name).pools pool ↔
      entry ∈ w.pools pool ∧ entry.ifname ≠ iface.ifname := by
  simp [ifaceDown]

theorem AclInv.ifaceDown {w : AclWorld} (inv : AclInv w) {id : Nat} {iface : AclIface}
    (held : w.ifaces[id]? = some iface) (name : Option String) :
    AclInv (ifaceDown w id iface name) := by
  constructor
  case increasing => exact fun pool => (inv.increasing pool).filter _
  case low => exact fun pool entry member => inv.low pool entry (List.mem_of_mem_filter member)
  case entered =>
      intro at_id other pool found up acl installed dynamic
      rw [AclPools.ifaceDown, set_iface held] at found
      split at found
      · cases found
        exact absurd up nofun
      · next differ =>
          refine (ifaceDown_pools w id iface name pool _).mpr
            ⟨inv.entered at_id other pool found up acl installed dynamic, fun same => ?_⟩
          exact differ (inv.names at_id id other iface found held same)
  case names => exact inv.names_set held (ifaceSetName_ifname w iface name)
  case idle =>
      intro at_id other found off pool
      rw [AclPools.ifaceDown, set_iface held] at found
      split at found
      · cases found
        rfl
      · exact inv.idle at_id other found off pool

theorem AclInv.setParams {w : AclWorld} (inv : AclInv w) {id : Nat} {iface : AclIface}
    (held : w.ifaces[id]? = some iface) (params : Pool → List Acl) :
    AclInv { w with ifaces := w.ifaces.set id { iface with params } } where
  increasing := inv.increasing
  low := inv.low
  entered at_id other pool found up acl installed dynamic := by
    rw [set_iface held] at found
    split at found
    · cases found
      exact inv.entered id iface pool held up acl installed dynamic
    · exact inv.entered at_id other pool found up acl installed dynamic
  names := inv.names_set held (.inl rfl)
  idle at_id other found off := by
    rw [set_iface held] at found
    split at found
    · cases found
      exact inv.idle id iface held off
    · exact inv.idle at_id other found off

theorem AclInv.create {w : AclWorld} (inv : AclInv w) {ifname : String}
    (fresh : ∀ other ∈ w.ifaces, other.ifname ≠ ifname) :
    AclInv { w with ifaces := w.ifaces ++ [⟨ifname, false, fun _ => [], fun _ => []⟩] } := by
  have found_cases : ∀ (at_id : Nat) (other : AclIface),
      (w.ifaces ++ [⟨ifname, false, fun _ => [], fun _ => []⟩])[at_id]? = some other →
      w.ifaces[at_id]? = some other ∨
        at_id = w.ifaces.length ∧ other = ⟨ifname, false, fun _ => [], fun _ => []⟩ := by
    intro at_id other found
    rcases Nat.lt_trichotomy at_id w.ifaces.length with below | rfl | above
    · rw [List.getElem?_append_left below] at found
      exact .inl found
    · exact .inr ⟨rfl, by simpa using found.symm⟩
    · rw [List.getElem?_eq_none (by simp; omega)] at found
      cases found
  constructor
  case increasing => exact inv.increasing
  case low => exact inv.low
  case entered =>
      intro at_id other pool found up acl installed dynamic
      rcases found_cases at_id other found with old | ⟨-, rfl⟩
      · exact inv.entered at_id other pool old up acl installed dynamic
      · cases up
  case names =>
      intro at_id otherId first second found otherFound same
      rcases found_cases at_id first found with old | ⟨here, rfl⟩ <;>
        rcases found_cases otherId second otherFound with otherOld | ⟨there, rfl⟩
      · exact inv.names at_id otherId first second old otherOld same
      · exact (fresh first (List.mem_of_getElem? old) same).elim
      · exact (fresh second (List.mem_of_getElem? otherOld) same.symm).elim
      · exact here.trans there.symm
  case idle =>
      intro at_id other found off
      rcases found_cases at_id other found with old | ⟨-, rfl⟩
      · exact inv.idle at_id other old off
      · exact fun _ => rfl

theorem aclStep_inv (w : AclWorld) (event : AclEvent) (inv : AclInv w)
    (allocatable : Allocatable w event) : AclInv (aclStep w event) := by
  cases event with
  | create ifname =>
      rw [aclStep]
      split
      · exact inv
      · next free =>
          apply inv.create
          intro other member same
          exact free (List.any_eq_true.mpr ⟨other, member, by simpa using same⟩)
  | setParams id params =>
      rw [aclStep]
      split
      · next iface held => exact inv.setParams held params
      · exact inv
  | setStart pool val =>
      rw [aclStep]
      split
      · next allowed =>
          have empty : w.pools pool = [] := by
            rw [Bool.and_eq_true] at allowed
            exact List.isEmpty_iff.mp allowed.1
          refine ⟨inv.increasing, fun at_pool entry member => ?_, inv.entered, inv.names, inv.idle⟩
          by_cases same : at_pool = pool
          · subst same
            rw [empty] at member
            exact absurd member List.not_mem_nil
          · simpa [Function.update_of_ne same] using inv.low at_pool entry member
      · exact inv
  | up id ready name =>
      rw [aclStep]
      split
      · next iface held =>
          split
          · exact inv
          · next off => exact inv.ifaceUp held (by simpa using off) ready name allocatable
      · exact inv
  | down id name =>
      rw [aclStep]
      split
      · next iface held =>
          split
          · exact inv.ifaceDown held name
          · exact inv
      · exact inv

theorem aclStart_inv : AclInv aclStart where
  increasing _ := .nil
  low _ _ member := absurd member List.not_mem_nil
  entered _ _ _ held := absurd held (by simp [aclStart])
  names _ _ _ _ held := absurd held (by simp [aclStart])
  idle _ _ held := absurd held (by simp [aclStart])

def aclRun (events : List AclEvent) : AclWorld := Transition.run aclStep aclStart events

theorem aclRun_inv {events : List AclEvent}
    (allocatable : Transition.Meets aclStep Allocatable aclStart events) :
    AclInv (aclRun events) :=
  Transition.invariant_run aclStep aclStep_inv aclStart_inv allocatable

/-- In a run whose interfaces go up without numbers left in their tables and with room in
the pools, the pools are right after every step, and going down removes the entries of
the interface and no others. -/
theorem pools_right (events : List AclEvent)
    (allocatable : Transition.Meets aclStep Allocatable aclStart events) :
    PoolsRight (aclRun events) ∧
      ∀ (id : Nat) (iface : AclIface) (name : Option String) (pool : Pool) (entry : PoolEntry),
        (aclRun events).ifaces[id]? = some iface → iface.up = true →
          (entry ∈ (aclStep (aclRun events) (.down id name)).pools pool ↔
            entry ∈ (aclRun events).pools pool ∧ entry.ifname ≠ iface.ifname) := by
  refine ⟨(aclRun_inv allocatable).right, fun id iface name pool entry held up => ?_⟩
  rw [aclStep, held]
  dsimp only
  rw [if_pos up]
  exact ifaceDown_pools _ id iface name pool entry

def oneTable : Pool → List Acl
  | .table => [⟨5, 0, false⟩]
  | _ => []

theorem pools_right_oneTable :
    PoolsRight (aclRun [.create "ng0", .setParams 0 oneTable, .up 0 true none]) ∧
      ∀ (id : Nat) (iface : AclIface) (name : Option String) (pool : Pool) (entry : PoolEntry),
        (aclRun [.create "ng0", .setParams 0 oneTable, .up 0 true none]).ifaces[id]? =
            some iface → iface.up = true →
          (entry ∈ (aclStep (aclRun [.create "ng0", .setParams 0 oneTable, .up 0 true none])
              (.down id name)).pools pool ↔
            entry ∈ (aclRun [.create "ng0", .setParams 0 oneTable, .up 0 true none]).pools pool ∧
              entry.ifname ≠ iface.ifname) :=
  pools_right _ ⟨trivial, trivial, by
    refine ⟨?_, trivial⟩
    rintro iface ⟨⟩ -
    refine ⟨?_, ?_⟩
    · rintro acl member -
      simpa [oneTable] using congrArg Acl.real_number (List.mem_singleton.mp member)
    · rintro (_ | _ | _ | _) <;> decide⟩

/-- The interface goes down and up again with the `params` it had: the number of its table
is no longer in the pool. -/
theorem kept_table_unentered :
    ¬ PoolsRight (aclRun [.create "ng0", .setParams 0 oneTable, .up 0 true none, .down 0 none,
      .up 0 true none]) := by
  rintro ⟨-, entered, -⟩
  have entry := entered 0 _ .table rfl rfl ⟨5, 32, false⟩ (by decide) rfl
  exact absurd entry (by decide)

end Mpd.AclPools
