import Mpd.Bund.Ncps

/-! What holds of a bundle's interface along every run of `BundNcpsJoin` and
`BundNcpsLeave`. -/

set_option autoImplicit false

namespace Mpd.Ncps

theorem Settled.attempt {calls : List FamilyCall} (settled : Settled calls false)
    (outcome : UpOutcome) : Settled (calls ++ outcome.calls) outcome.succeeds := by
  cases outcome with
  | configured => exact settled.configured
  | failed opened =>
      cases opened with
      | false => exact settled.failed
      | true => exact settled.failed_opened

def Families (w : IfaceWorld) : Prop := ∀ family, Settled (w.familyCalls family) (isUp w.iface family)

structure NcpsInv (w : IfaceWorld) : Prop where
  families : Families w
  covered : w.iface.up = true → ∃ family, isUp w.iface family = true
  dod : w.iface.dod = true → w.iface.up = true
  alternates : Alternates true w.ifaceCalls
  due : nextCall true w.ifaceCalls = !w.iface.up
  bounded : w.overflow = false

theorem Family.eq_other {family other : Family} (differ : other ≠ family) :
    other = family.other := by
  cases family <;> cases other <;> first | rfl | exact (differ rfl).elim

theorem Families.call {w : IfaceWorld} (families : Families w) (family : Family) (up : Bool)
    (calls : List FamilyCall) (settled : Settled (w.familyCalls family ++ calls) up) :
    Families ({ w with iface := setUp w.iface family up }.call family calls) := by
  intro other
  by_cases same : other = family
  · subst same
    simpa [IfaceWorld.call] using settled
  · have unchanged := families other
    have is_other := Family.eq_other same
    subst is_other
    simpa [IfaceWorld.call, same] using unchanged

theorem Families.familyDown {w : IfaceWorld} (families : Families w) (family : Family) :
    Families (familyDown family w) := by
  unfold Ncps.familyDown
  split
  case isTrue up =>
      apply families.call
      have settled := families family
      rw [up] at settled
      exact settled.down
  case isFalse => exact families

section FamilyDown

variable (family : Family) (w : IfaceWorld)

@[simp] theorem familyDown_up : (familyDown family w).iface.up = w.iface.up := by
  unfold familyDown; split <;> simp

@[simp] theorem familyDown_dod : (familyDown family w).iface.dod = w.iface.dod := by
  unfold familyDown; split <;> simp

@[simp] theorem familyDown_ifaceCalls : (familyDown family w).ifaceCalls = w.ifaceCalls := by
  unfold familyDown; split <;> rfl

@[simp] theorem familyDown_overflow : (familyDown family w).overflow = w.overflow := by
  unfold familyDown; split <;> rfl

@[simp] theorem isUp_familyDown : isUp (familyDown family w).iface family = false := by
  unfold familyDown
  split
  case isTrue => simp
  case isFalse down => simpa using down

@[simp] theorem isUp_familyDown_other :
    isUp (familyDown family w).iface family.other = isUp w.iface family.other := by
  unfold familyDown; split <;> simp

end FamilyDown

theorem NcpsInv.familyUp (outcomes : Nat → UpOutcome) (depth : Nat) {family : Family}
    {w : IfaceWorld} (inv : NcpsInv w) (down : isUp w.iface family = false) :
    NcpsInv (familyUp (bundNcpsLeave outcomes (depth + 1)) outcomes family w).2 ∧
      (familyUp (bundNcpsLeave outcomes (depth + 1)) outcomes family w).1 =
        (outcomes w.asked).succeeds ∧
      (familyUp (bundNcpsLeave outcomes (depth + 1)) outcomes family w).2.iface =
        setUp w.iface family (outcomes w.asked).succeeds ∧
      (familyUp (bundNcpsLeave outcomes (depth + 1)) outcomes family w).2.options = w.options ∧
      (familyUp (bundNcpsLeave outcomes (depth + 1)) outcomes family w).2.asked = w.asked + 1 := by
  have other_up : w.iface.up = true → isUp w.iface family.other = true := by
    intro up
    obtain ⟨covering, covered⟩ := inv.covered up
    have differ : covering ≠ family := by
      rintro rfl
      simp [down] at covered
    rwa [Family.eq_other differ] at covered
  rw [familyUp_eq outcomes depth family w other_up]
  refine ⟨?_, rfl, rfl, rfl, rfl⟩
  have settled := inv.families family
  rw [down] at settled
  constructor
  case families =>
      exact Families.call (w := { w with asked := w.asked + 1 }) inv.families family _ _
        (settled.attempt _)
  case covered =>
      intro up
      exact ⟨family.other, by simpa using other_up (by simpa using up)⟩
  case dod => simpa using inv.dod
  case alternates => exact inv.alternates
  case due => simpa using inv.due
  case bounded => exact inv.bounded

structure Consistent (iface : Iface) : Prop where
  up : iface.up = true ↔ iface.ip_up = true ∨ iface.ipv6_up = true
  dod : iface.dod = true → iface.up = true

theorem covered_iff (iface : Iface) :
    (∃ family, isUp iface family = true) ↔ iface.ip_up = true ∨ iface.ipv6_up = true := by
  constructor
  · rintro ⟨family, up⟩
    cases family with
    | ip => exact .inl up
    | ipv6 => exact .inr up
  · rintro (up | up)
    · exact ⟨.ip, up⟩
    · exact ⟨.ipv6, up⟩

theorem NcpsInv.consistent {w : IfaceWorld} (inv : NcpsInv w)
    (up : ∀ family, isUp w.iface family = true → w.iface.up = true) : Consistent w.iface where
  up := by
    rw [← covered_iff]
    exact ⟨inv.covered, fun ⟨family, isUp⟩ => up family isUp⟩
  dod := inv.dod

theorem Consistent.family {iface : Iface} (consistent : Consistent iface) (family : Family)
    (up : isUp iface family = true) : iface.up = true :=
  consistent.up.mpr ((covered_iff iface).mp ⟨family, up⟩)

theorem NcpsInv.ifaceDown {w : IfaceWorld} (families : Families w)
    (alternates : Alternates true w.ifaceCalls) (due : nextCall true w.ifaceCalls = false)
    (bounded : w.overflow = false) : NcpsInv (ifaceDown w) where
  families := fun family => by cases family <;> exact families _
  covered := nofun
  dod := nofun
  alternates := by simp [Ncps.ifaceDown, alternates, due]
  due := by simp [Ncps.ifaceDown, due]
  bounded := bounded

theorem NcpsInv.ifaceUp {w : IfaceWorld} (inv : NcpsInv w) (dod : Bool)
    (down : w.iface.up = false) (covered : ∃ family, isUp w.iface family = true) :
    NcpsInv (ifaceUp dod w) ∧ Consistent (ifaceUp dod w).iface := by
  have kept : NcpsInv (Ncps.ifaceUp dod w) := by
    constructor
    case families => exact fun family => by cases family <;> exact inv.families _
    case covered =>
        intro _
        obtain ⟨family, up⟩ := covered
        exact ⟨family, by cases family <;> exact up⟩
    case dod => exact fun _ => rfl
    case alternates => simp [Ncps.ifaceUp, inv.alternates, inv.due, down]
    case due => simp [Ncps.ifaceUp, inv.due, down]
    case bounded => exact inv.bounded
  exact ⟨kept, kept.consistent fun _ _ => rfl⟩

/-- A family that comes up on demand while the interface is down. -/
theorem NcpsInv.demand (outcomes : Nat → UpOutcome) (depth : Nat) (family : Family)
    {w : IfaceWorld} (inv : NcpsInv w) (down : isUp w.iface family = false) :
    NcpsInv (demand (bundNcpsLeave outcomes (depth + 1)) outcomes family w) ∧
      (demand (bundNcpsLeave outcomes (depth + 1)) outcomes family w).iface.up = w.iface.up ∧
      isUp (demand (bundNcpsLeave outcomes (depth + 1)) outcomes family w).iface family.other =
        isUp w.iface family.other := by
  unfold Ncps.demand
  split
  case isTrue =>
      obtain ⟨kept, -, iface, -⟩ := inv.familyUp outcomes depth down
      exact ⟨kept, by rw [iface, setUp_up], by rw [iface, isUp_setUp_other]⟩
  case isFalse => exact ⟨inv, rfl, rfl⟩

theorem Families.leaveFamilies {w : IfaceWorld} (families : Families w) (proto : NcpProto) :
    Families (leaveFamilies proto w) := by
  cases proto with
  | none => exact (families.familyDown .ip).familyDown .ipv6
  | ipcp => exact families.familyDown .ip
  | ipv6cp => exact families.familyDown .ipv6

/-- Families only go down, and nothing else changes. -/
theorem leaveFamilies_frame (proto : NcpProto) (w : IfaceWorld) :
    (leaveFamilies proto w).iface.up = w.iface.up ∧
      (leaveFamilies proto w).iface.dod = w.iface.dod ∧
      (leaveFamilies proto w).ifaceCalls = w.ifaceCalls ∧
      (leaveFamilies proto w).overflow = w.overflow ∧
      ∀ family, isUp (leaveFamilies proto w).iface family = true → isUp w.iface family = true := by
  have shrinks : ∀ (taken family : Family) (w : IfaceWorld),
      isUp (familyDown taken w).iface family = true → isUp w.iface family = true := by
    intro taken family w up
    by_cases same : family = taken
    · subst same
      simp at up
    · rw [Family.eq_other same] at up ⊢
      simpa using up
  cases proto with
  | none =>
      refine ⟨by simp [leaveFamilies], by simp [leaveFamilies], by simp [leaveFamilies],
        by simp [leaveFamilies], fun family up => ?_⟩
      exact shrinks _ _ _ (shrinks _ _ _ up)
  | ipcp =>
      exact ⟨by simp [leaveFamilies], by simp [leaveFamilies], by simp [leaveFamilies],
        by simp [leaveFamilies], fun family => shrinks _ _ _⟩
  | ipv6cp =>
      exact ⟨by simp [leaveFamilies], by simp [leaveFamilies], by simp [leaveFamilies],
        by simp [leaveFamilies], fun family => shrinks _ _ _⟩

/-- `BundNcpsLeave` keeps the invariant, and an interface that was consistent stays so. -/
theorem bundNcpsLeave_inv (outcomes : Nat → UpOutcome) (depth : Nat) {w : IfaceWorld}
    (inv : NcpsInv w) (proto : NcpProto) :
    NcpsInv (bundNcpsLeave outcomes (depth + 2) proto w) ∧
      (Consistent w.iface → Consistent (bundNcpsLeave outcomes (depth + 2) proto w).iface) := by
  obtain ⟨up_eq, dod_eq, calls_eq, overflow_eq, shrinks⟩ := leaveFamilies_frame proto w
  have families := inv.families.leaveFamilies proto
  rw [bundNcpsLeave]
  generalize leaveFamilies proto w = left at up_eq dod_eq calls_eq overflow_eq shrinks families
  dsimp only
  split
  case isFalse stays =>
      have kept : NcpsInv left := by
        constructor
        case families => exact families
        case covered =>
            intro up
            rw [covered_iff]
            cases ip : left.iface.ip_up <;> cases ipv6 : left.iface.ipv6_up <;> simp_all
        case dod => rw [up_eq, dod_eq]; exact inv.dod
        case alternates => rw [calls_eq]; exact inv.alternates
        case due => rw [calls_eq, up_eq]; exact inv.due
        case bounded => rw [overflow_eq]; exact inv.bounded
      refine ⟨kept, fun consistent => kept.consistent fun family up => ?_⟩
      rw [up_eq]
      exact consistent.family family (shrinks family up)
  case isTrue goes =>
      obtain ⟨⟨up, ip⟩, ipv6⟩ : (left.iface.up = true ∧ left.iface.ip_up = false) ∧
          left.iface.ipv6_up = false := by simpa using goes
      have due : nextCall true left.ifaceCalls = false := by
        rw [calls_eq, inv.due, ← up_eq, up]
        rfl
      have kept : NcpsInv (Ncps.ifaceDown left) := NcpsInv.ifaceDown families
        (calls_eq ▸ inv.alternates) due (overflow_eq ▸ inv.bounded)
      split
      case isFalse =>
          refine ⟨kept, fun _ => kept.consistent fun family up => ?_⟩
          cases family <;> simp_all [isUp, Ncps.ifaceDown]
      case isTrue =>
          obtain ⟨ip_kept, ip_down, ipv6_same⟩ := kept.demand outcomes depth .ip ip
          obtain ⟨ipv6_kept, ipv6_down, -⟩ := ip_kept.demand outcomes depth .ipv6 (ipv6_same.trans ipv6)
          have down := ipv6_down.trans ip_down
          generalize Ncps.demand (bundNcpsLeave outcomes (depth + 1)) outcomes .ipv6 _ = again
            at ipv6_kept down ⊢
          split
          case isTrue covers =>
              have covered : ∃ family, isUp again.iface family = true := by
                rw [covered_iff]
                simpa using covers
              obtain ⟨last, consistent⟩ := ipv6_kept.ifaceUp true down covered
              exact ⟨last, fun _ => consistent⟩
          case isFalse none =>
              refine ⟨ipv6_kept, fun _ => ipv6_kept.consistent fun family up => ?_⟩
              cases family <;> simp_all [isUp]

/-- What a join starts from: no interface on demand. -/
theorem endDod_inv {w : IfaceWorld} (inv : NcpsInv w) :
    NcpsInv (endDod w) ∧ (endDod w).options = w.options ∧ (endDod w).asked = w.asked ∧
      (Consistent w.iface → Consistent (endDod w).iface ∧
        (endDod w).iface.up = (w.iface.up && !w.iface.dod)) := by
  unfold endDod
  split
  case isFalse off =>
      refine ⟨inv, rfl, rfl, fun consistent => ⟨consistent, ?_⟩⟩
      simp [off]
  case isTrue dod =>
      have due : nextCall true (familyDown .ipv6 (familyDown .ip w)).ifaceCalls = false := by
        rw [familyDown_ifaceCalls, familyDown_ifaceCalls, inv.due, inv.dod dod]
        rfl
      have kept : NcpsInv (Ncps.ifaceDown (familyDown .ipv6 (familyDown .ip w))) :=
        NcpsInv.ifaceDown ((inv.families.familyDown .ip).familyDown .ipv6)
          (by simpa using inv.alternates) due (by simpa using inv.bounded)
      refine ⟨kept, ?_, ?_, fun _ => ⟨kept.consistent fun family up => ?_, ?_⟩⟩
      · simp only [Ncps.ifaceDown, familyDown]
        split <;> split <;> rfl
      · simp only [Ncps.ifaceDown, familyDown]
        split <;> split <;> rfl
      · have ip : isUp (familyDown .ipv6 (familyDown .ip w)).iface .ip = false :=
          (isUp_familyDown_other .ipv6 _).trans (isUp_familyDown .ip w)
        have ipv6 := isUp_familyDown .ipv6 (familyDown .ip w)
        cases family with
        | ip => cases ip.symm.trans up
        | ipv6 => cases ipv6.symm.trans up
      · simp [Ncps.ifaceDown, dod]

theorem setUp_self (iface : Iface) (family : Family) (up : Bool) (same : isUp iface family = up) :
    setUp iface family up = iface := by
  subst same
  cases family <;> rfl

theorem NcpsInv.joinFamily (outcomes : Nat → UpOutcome) (depth : Nat) {w : IfaceWorld}
    (inv : NcpsInv w) (family : Family) :
    NcpsInv (joinFamily (bundNcpsLeave outcomes (depth + 1)) outcomes family w).2 ∧
      (joinFamily (bundNcpsLeave outcomes (depth + 1)) outcomes family w).2.iface =
        setUp w.iface family
          (joinFamily (bundNcpsLeave outcomes (depth + 1)) outcomes family w).1 ∧
      (joinFamily (bundNcpsLeave outcomes (depth + 1)) outcomes family w).2.options = w.options ∧
      (isUp w.iface family = false →
        (joinFamily (bundNcpsLeave outcomes (depth + 1)) outcomes family w).1 =
            (outcomes w.asked).succeeds ∧
          (joinFamily (bundNcpsLeave outcomes (depth + 1)) outcomes family w).2.asked =
            w.asked + 1) ∧
      (isUp w.iface family = true →
        (joinFamily (bundNcpsLeave outcomes (depth + 1)) outcomes family w).1 = true) := by
  unfold Ncps.joinFamily
  split
  case isTrue up =>
      exact ⟨inv, (setUp_self _ _ _ up).symm, rfl, fun down => absurd (up.symm.trans down) nofun,
        fun _ => rfl⟩
  case isFalse off =>
      have down : isUp w.iface family = false := by simpa using off
      obtain ⟨kept, success, iface, options, asked⟩ :=
        inv.familyUp outcomes depth down
      exact ⟨kept, by rw [iface, success], options, fun _ => ⟨success, asked⟩,
        fun up => absurd up off⟩

theorem joinFamily_unchanged {outcomes : Nat → UpOutcome} {depth : Nat} {w : IfaceWorld}
    (inv : NcpsInv w) (family : Family)
    (failed : (joinFamily (bundNcpsLeave outcomes (depth + 1)) outcomes family w).1 = false) :
    (joinFamily (bundNcpsLeave outcomes (depth + 1)) outcomes family w).2.iface = w.iface := by
  obtain ⟨-, iface, -, -, stays⟩ := inv.joinFamily outcomes depth family
  have down : isUp w.iface family = false := by
    cases up : isUp w.iface family with
    | false => rfl
    | true => exact absurd (failed.symm.trans (stays up)) nofun
  rw [iface, failed]
  exact setUp_self _ _ _ down

/-- With the interface down, both families are to come up on demand, and only IP does. -/
structure HalfUp (outcomes : Nat → UpOutcome) (w : IfaceWorld) : Prop where
  ipcp : w.options.ipcp = true
  ipv6cp : w.options.ipv6cp = true
  down : w.iface.up = false
  ip : (outcomes w.asked).succeeds = true
  ipv6 : (outcomes (w.asked + 1)).succeeds = false

/-- A join for one protocol, whose failure leaves the interface as it was. -/
theorem joinFamily_spec {outcomes : Nat → UpOutcome} {depth : Nat} {w : IfaceWorld}
    {result : Bool × IfaceWorld} (inv : NcpsInv w) (family : Family)
    (eq : joinFamily (bundNcpsLeave outcomes (depth + 1)) outcomes family w = result) :
    NcpsInv result.2 ∧ result.2.iface.up = w.iface.up ∧
      (result.1 = true → isUp result.2.iface family = true) ∧
      (result.1 = false → result.2.iface = w.iface) := by
  subst eq
  obtain ⟨kept, iface, -⟩ := inv.joinFamily outcomes depth family
  refine ⟨kept, by rw [iface, setUp_up], fun success => ?_, fun failed => ?_⟩
  · rw [iface, success, isUp_setUp]
  · rw [joinFamily_unchanged inv family failed]

/-- Where both protocols are enabled, the second family decides. -/
theorem joinBoth_spec {outcomes : Nat → UpOutcome} {depth : Nat} {w : IfaceWorld}
    {ip ipv6 : Bool × IfaceWorld} (inv : NcpsInv w) (consistent : Consistent w.iface)
    (ipcp : w.options.ipcp = true) (ipv6cp : w.options.ipv6cp = true)
    (ip_eq : joinFamily (bundNcpsLeave outcomes (depth + 1)) outcomes .ip w = ip)
    (ip_up : ip.1 = true)
    (ipv6_eq : joinFamily (bundNcpsLeave outcomes (depth + 1)) outcomes .ipv6 ip.2 = ipv6) :
    (ipv6.1 = true → ¬ HalfUp outcomes w) ∧
      (ipv6.1 = false → (Consistent ipv6.2.iface ↔ ¬ HalfUp outcomes w)) := by
  subst ip_eq ipv6_eq
  obtain ⟨ip_inv, ip_iface, -, ip_asked, -⟩ :=
    inv.joinFamily outcomes depth .ip
  obtain ⟨ipv6_inv, -, -, ipv6_asked, -⟩ :=
    ip_inv.joinFamily outcomes depth .ipv6
  have down : w.iface.up = false → ∀ family, isUp w.iface family = false := by
    intro down family
    cases up : isUp w.iface family with
    | false => rfl
    | true => exact absurd (down.symm.trans (consistent.family family up)) nofun
  have second : w.iface.up = false →
      (joinFamily (bundNcpsLeave outcomes (depth + 1)) outcomes .ipv6
        (joinFamily (bundNcpsLeave outcomes (depth + 1)) outcomes .ip w).2).1 =
        (outcomes (w.asked + 1)).succeeds := by
    intro off
    have ipv6_down : isUp (joinFamily (bundNcpsLeave outcomes (depth + 1)) outcomes .ip w).2.iface
        .ipv6 = false := by
      rw [ip_iface]
      exact down off .ipv6
    rw [(ipv6_asked ipv6_down).1, (ip_asked (down off .ip)).2]
  constructor
  · intro success half
    exact absurd (success.symm.trans ((second half.down).trans half.ipv6)) nofun
  · intro failed
    have same := joinFamily_unchanged ip_inv .ipv6 failed
    rw [ip_up] at ip_iface
    constructor
    · intro after half
      have ip_is_up : isUp (setUp w.iface .ip true) .ip = true := isUp_setUp _ _ _
      rw [← ip_iface, ← same] at ip_is_up
      have up := after.family .ip ip_is_up
      rw [same, ip_iface, setUp_up, half.down] at up
      exact absurd up nofun
    · intro whole
      refine ipv6_inv.consistent fun _ _ => ?_
      rw [same, ip_iface, setUp_up]
      cases off : w.iface.up with
      | true => rfl
      | false =>
          exact (whole ⟨ipcp, ipv6cp, off, (ip_asked (down off .ip)).1.symm.trans ip_up,
            (second off).symm.trans failed⟩).elim

/-- The switch of `BundNcpsJoin`: an early return leaves the interface inconsistent only
where one family was configured on demand and the other was not. -/
theorem joinFamilies_spec {outcomes : Nat → UpOutcome} {depth : Nat} {w : IfaceWorld}
    {result : Bool × IfaceWorld} (inv : NcpsInv w) (consistent : Consistent w.iface)
    (proto : NcpProto)
    (eq : joinFamilies (bundNcpsLeave outcomes (depth + 1)) outcomes proto w = result) :
    NcpsInv result.2 ∧ result.2.iface.up = w.iface.up ∧
      (result.1 = true → (∃ family, isUp result.2.iface family = true) ∧
        ¬ (proto = .none ∧ HalfUp outcomes w)) ∧
      (result.1 = false →
        (Consistent result.2.iface ↔ ¬ (proto = .none ∧ HalfUp outcomes w))) := by
  have single : ∀ family : Family, ¬ (proto = .none ∧ HalfUp outcomes w) →
      joinFamily (bundNcpsLeave outcomes (depth + 1)) outcomes family w = result →
      NcpsInv result.2 ∧ result.2.iface.up = w.iface.up ∧
        (result.1 = true → (∃ family, isUp result.2.iface family = true) ∧
          ¬ (proto = .none ∧ HalfUp outcomes w)) ∧
        (result.1 = false →
          (Consistent result.2.iface ↔ ¬ (proto = .none ∧ HalfUp outcomes w))) := by
    intro family whole joined
    obtain ⟨kept, up, success, failed⟩ := joinFamily_spec inv family joined
    refine ⟨kept, up, fun joined => ⟨⟨family, success joined⟩, whole⟩, fun joined => ?_⟩
    rw [failed joined]
    exact ⟨fun _ => whole, fun _ => consistent⟩
  cases proto with
  | ipcp => exact single .ip nofun eq
  | ipv6cp => exact single .ipv6 nofun eq
  | none =>
      cases ipcp : w.options.ipcp with
      | false =>
          have ipv6cp : w.options.ipv6cp = true := by
            simpa [ipcp] using w.options.enabled
          apply single .ipv6
          · rintro ⟨-, half⟩
            exact absurd (ipcp.symm.trans half.ipcp) nofun
          · simpa [joinFamilies, joinEnabled, NcpOptions.family, ipcp, ipv6cp] using eq
      | true =>
          cases ip_eq : joinFamily (bundNcpsLeave outcomes (depth + 1)) outcomes .ip w with
          | mk success ip =>
          obtain ⟨-, -, options, asked, stays⟩ :=
            inv.joinFamily outcomes depth .ip
          rw [ip_eq] at options asked stays
          replace options : ip.options = w.options := options
          obtain ⟨ip_inv, ip_same, ip_up, -⟩ := joinFamily_spec inv .ip ip_eq
          cases success with
          | false =>
              apply single .ip
              · rintro ⟨-, half⟩
                cases up : isUp w.iface .ip with
                | true => exact absurd (stays up) nofun
                | false => exact absurd ((asked up).1.trans half.ip) nofun
              · rw [ip_eq]
                simpa [joinFamilies, joinEnabled, NcpOptions.family, ipcp, ip_eq] using eq
          | true =>
              cases ipv6cp : w.options.ipv6cp with
              | false =>
                  have eq : (true, ip) = result := by
                    simpa [joinFamilies, joinEnabled, NcpOptions.family, ipcp, ip_eq, options,
                      ipv6cp] using eq
                  subst eq
                  refine ⟨ip_inv, ip_same, fun _ => ⟨⟨.ip, ip_up rfl⟩, ?_⟩, nofun⟩
                  rintro ⟨-, half⟩
                  exact absurd (ipv6cp.symm.trans half.ipv6cp) nofun
              | true =>
                  have eq : joinFamily (bundNcpsLeave outcomes (depth + 1)) outcomes .ipv6 ip =
                      result := by
                    simpa [joinFamilies, joinEnabled, NcpOptions.family, ipcp, ip_eq, options,
                      ipv6cp] using eq
                  obtain ⟨kept, same, ipv6_up, -⟩ := joinFamily_spec ip_inv .ipv6 eq
                  obtain ⟨success, failed⟩ :=
                    joinBoth_spec inv consistent ipcp ipv6cp ip_eq rfl eq
                  refine ⟨kept, same.trans ip_same, fun joined => ⟨⟨.ipv6, ipv6_up joined⟩, ?_⟩,
                    fun joined => ?_⟩
                  · exact fun half => success joined half.2
                  · simpa using failed joined

/-- Only IP comes up for a join that is to bring both families up on demand. -/
def HalfDemanded (outcomes : Nat → UpOutcome) (w : IfaceWorld) (event : NcpsEvent) : Prop :=
  event = .join .none ∧ w.options.ipcp = true ∧ w.options.ipv6cp = true ∧
    (w.iface.up = false ∨ w.iface.dod = true) ∧
    (outcomes w.asked).succeeds = true ∧ (outcomes (w.asked + 1)).succeeds = false

theorem halfUp_endDod {outcomes : Nat → UpOutcome} {w : IfaceWorld} (inv : NcpsInv w)
    (consistent : Consistent w.iface) (proto : NcpProto) :
    proto = .none ∧ HalfUp outcomes (endDod w) ↔ HalfDemanded outcomes w (.join proto) := by
  obtain ⟨-, options, asked, started⟩ := endDod_inv inv
  have up := (started consistent).2
  constructor
  · rintro ⟨rfl, half⟩
    obtain ⟨ipcp, ipv6cp, down, ip, ipv6⟩ := half
    rw [options] at ipcp ipv6cp
    rw [asked] at ip ipv6
    refine ⟨rfl, ipcp, ipv6cp, ?_, ip, ipv6⟩
    rw [up] at down
    cases off : w.iface.up <;> simp_all
  · rintro ⟨proto_eq, ipcp, ipv6cp, down, ip, ipv6⟩
    refine ⟨by simpa using proto_eq, ?_⟩
    constructor
    case ipcp => rwa [options]
    case ipv6cp => rwa [options]
    case down => rw [up]; rcases down with down | dod <;> simp_all
    case ip => rwa [asked]
    case ipv6 => rwa [asked]

theorem bundNcpsJoin_inv {outcomes : Nat → UpOutcome} {depth : Nat} {w : IfaceWorld}
    (inv : NcpsInv w) (consistent : Consistent w.iface) (proto : NcpProto) :
    NcpsInv (bundNcpsJoin outcomes (depth + 1) proto w) ∧
      (Consistent (bundNcpsJoin outcomes (depth + 1) proto w).iface ↔
        ¬ HalfDemanded outcomes w (.join proto)) := by
  obtain ⟨started, -, -, starts⟩ := endDod_inv inv
  cases eq : joinFamilies (bundNcpsLeave outcomes (depth + 1)) outcomes proto (endDod w) with
  | mk success joined =>
  obtain ⟨kept, -, went, failed⟩ := joinFamilies_spec started (starts consistent).1 proto eq
  rw [halfUp_endDod inv consistent] at went failed
  rw [bundNcpsJoin, eq]
  dsimp only
  cases success with
  | false => exact ⟨kept, failed rfl⟩
  | true =>
      obtain ⟨covered, whole⟩ := went rfl
      cases up : joined.iface.up with
      | true =>
          have consistent : Consistent joined.iface := kept.consistent fun _ _ => up
          exact ⟨by simpa [up] using kept, iff_of_true (by simpa [up] using consistent) whole⟩
      | false =>
          obtain ⟨last, consistent⟩ := kept.ifaceUp (proto == .none) up covered
          exact ⟨by simpa [up] using last, iff_of_true (by simpa [up] using consistent) whole⟩

theorem ncpsStep_inv (outcomes : Nat → UpOutcome) {w : IfaceWorld} (inv : NcpsInv w)
    (consistent : Consistent w.iface) (event : NcpsEvent) :
    NcpsInv (ncpsStep outcomes w event) ∧
      (Consistent (ncpsStep outcomes w event).iface ↔ ¬ HalfDemanded outcomes w event) := by
  cases event with
  | join proto => exact bundNcpsJoin_inv inv consistent proto
  | leave proto =>
      obtain ⟨kept, stays⟩ := bundNcpsLeave_inv outcomes 0 inv proto
      exact ⟨kept, fun _ half => absurd half.1 nofun, fun _ => stays consistent⟩
  | setOpen isOpen =>
      obtain ⟨families, covered, dod, alternates, due, bounded⟩ := inv
      obtain ⟨up, demanded⟩ := consistent
      refine ⟨⟨fun family => ?_, fun isUp => ?_, dod, alternates, due, bounded⟩,
        fun _ half => absurd half.1 nofun, fun _ => ⟨up, demanded⟩⟩
      · cases family <;> exact families _
      · obtain ⟨family, isUp⟩ := covered isUp
        exact ⟨family, by cases family <;> exact isUp⟩
  | configure options =>
      obtain ⟨families, covered, dod, alternates, due, bounded⟩ := inv
      exact ⟨⟨families, covered, dod, alternates, due, bounded⟩,
        fun _ half => absurd half.1 nofun, fun _ => consistent⟩

theorem ncpsStart_inv (options : NcpOptions) :
    NcpsInv (ncpsStart options) ∧ Consistent (ncpsStart options).iface := by
  refine ⟨⟨fun family => ?_, nofun, nofun, trivial, rfl, rfl⟩, ⟨by simp [ncpsStart], nofun⟩⟩
  cases family <;> exact settled_nil

/-- What is to hold after every call: the flags agree, each family's configurations are
matched, the calls on the interface alternate, and no handler is entered without end. -/
structure InterfaceSound (w : IfaceWorld) : Prop where
  consistent : Consistent w.iface
  matched : ∀ family, Matched (w.familyCalls family)
  alternates : Alternates true w.ifaceCalls
  bounded : w.overflow = false

theorem NcpsInv.sound_iff {w : IfaceWorld} (inv : NcpsInv w) :
    InterfaceSound w ↔ Consistent w.iface :=
  ⟨InterfaceSound.consistent, fun consistent =>
    ⟨consistent, fun family => (inv.families family).matched, inv.alternates, inv.bounded⟩⟩

theorem ncpsRun_concat (outcomes : Nat → UpOutcome) (options : NcpOptions)
    (events : List NcpsEvent) (event : NcpsEvent) :
    ncpsRun outcomes options (events ++ [event]) =
      ncpsStep outcomes (ncpsRun outcomes options events) event := by
  simp [ncpsRun]

/-- No step of the run brings only IP up on demand. -/
def NeverHalf (outcomes : Nat → UpOutcome) (options : NcpOptions) (events : List NcpsEvent) : Prop :=
  ∀ before event after, events = before ++ event :: after →
    ¬ HalfDemanded outcomes (ncpsRun outcomes options before) event

theorem neverHalf_concat (outcomes : Nat → UpOutcome) (options : NcpOptions)
    (events : List NcpsEvent) (event : NcpsEvent) :
    NeverHalf outcomes options (events ++ [event]) ↔ NeverHalf outcomes options events ∧
      ¬ HalfDemanded outcomes (ncpsRun outcomes options events) event :=
  Transition.forall_split_concat

theorem ncpsRun_inv {outcomes : Nat → UpOutcome} {options : NcpOptions} {events : List NcpsEvent}
    (whole : NeverHalf outcomes options events) :
    NcpsInv (ncpsRun outcomes options events) ∧
      Consistent (ncpsRun outcomes options events).iface := by
  induction events using List.reverseRecOn with
  | nil => exact ncpsStart_inv options
  | append_singleton events event ih =>
      obtain ⟨earlier, last⟩ := (neverHalf_concat outcomes options events event).mp whole
      obtain ⟨inv, consistent⟩ := ih earlier
      obtain ⟨kept, stays⟩ := ncpsStep_inv outcomes inv consistent event
      rw [ncpsRun_concat]
      exact ⟨kept, stays.mpr last⟩

/-- Along a run the interface stays sound after every call exactly if no join for
`open iface` configures IP and then fails for IPv6. -/
theorem interface_sound_iff (outcomes : Nat → UpOutcome) (options : NcpOptions)
    (events : List NcpsEvent) :
    (∀ before after, events = before ++ after → InterfaceSound (ncpsRun outcomes options before)) ↔
      NeverHalf outcomes options events := by
  constructor
  · intro sound
    induction events using List.reverseRecOn with
    | nil => intro before event after eq; simp at eq
    | append_singleton events last ih =>
        have earlier := ih fun before after eq => sound before (after ++ [last]) (by simp [eq])
        obtain ⟨inv, consistent⟩ := ncpsRun_inv earlier
        obtain ⟨kept, stays⟩ := ncpsStep_inv outcomes inv consistent last
        have after_last := sound (events ++ [last]) [] (by simp)
        rw [ncpsRun_concat] at after_last
        exact (neverHalf_concat outcomes options events last).mpr
          ⟨earlier, stays.mp after_last.consistent⟩
  · intro whole before after eq
    have earlier : NeverHalf outcomes options before := fun first event rest split =>
      whole first event (rest ++ after) (by simp [eq, split])
    obtain ⟨inv, consistent⟩ := ncpsRun_inv earlier
    exact inv.sound_iff.mpr consistent

/-- `open iface` on a bundle with both protocols, where IPv6 cannot be configured. -/
theorem open_iface_half_up :
    ¬ InterfaceSound (ncpsRun (fun asked => if asked = 0 then .configured else .failed false)
      ⟨true, true, rfl⟩ [.setOpen true, .join .none]) := by
  rintro ⟨⟨up, -⟩, -⟩
  exact absurd (up.mpr (.inl rfl)) (by decide)

end Mpd.Ncps
