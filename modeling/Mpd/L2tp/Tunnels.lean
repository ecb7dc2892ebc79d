import Mpd.L2tp.Links

/-! The tunnels that links share: their counts of calls are right in every run, and their
flags in every run in which a link is still there when the control connection comes up. -/

set_option autoImplicit false

namespace Mpd

section Modify

variable {α : Type} (p : α → Bool) (f : α → α)

theorem countP_modify {xs : List α} {k : Nat} {x : α} (found : xs[k]? = some x) :
    (xs.modify k f).countP p + (if p x then 1 else 0) =
      xs.countP p + (if p (f x) then 1 else 0) := by
  induction xs generalizing k with
  | nil => simp at found
  | cons y ys ih =>
      cases k with
      | zero =>
          rw [List.getElem?_cons_zero, Option.some.injEq] at found
          subst found
          rw [List.modify_zero_cons, List.countP_cons, List.countP_cons]
          omega
      | succ k =>
          rw [List.getElem?_cons_succ] at found
          have rest := ih found
          rw [List.modify_succ_cons, List.countP_cons, List.countP_cons]
          omega

theorem mem_modify {xs : List α} {k : Nat} {y : α} (member : y ∈ xs.modify k f) :
    y ∈ xs ∨ ∃ x, xs[k]? = some x ∧ y = f x := by
  obtain ⟨index, found⟩ := List.mem_iff_getElem?.mp member
  rw [List.getElem?_modify] at found
  obtain ⟨x, there, rfl⟩ := Option.map_eq_some_iff.mp found
  by_cases same : k = index
  · subst same
    exact .inr ⟨x, there, by simp⟩
  · exact .inl (by simpa [same] using List.mem_of_getElem? there)

end Modify

namespace L2tpPhys

def attached (w : L2tpPhys) (tun : Nat) : Nat := w.links.countP fun l => l.tun = some tun

structure Counted (w : L2tpPhys) : Prop where
  counted : ∀ t ∈ w.tuns, t.active_sessions = w.attached t.id
  idle : ∀ l ∈ w.links, l.state = .down → l.tun = none
  known : ∀ l ∈ w.links, ∀ tun, l.tun = some tun → tun < w.nextTun
  numbered : ∀ t ∈ w.tuns, t.id < w.nextTun
  reported : ∀ tun ∈ w.completed, tun < w.nextTun

variable {w v : L2tpPhys}

theorem Counted.same (kept : w.Counted) (links : v.links = w.links) (tuns : v.tuns = w.tuns)
    (next : v.nextTun = w.nextTun) (completed : v.completed = w.completed) : v.Counted := by
  obtain ⟨counted, idle, known, numbered, reported⟩ := kept
  refine ⟨?_, ?_, ?_, ?_, ?_⟩
  · unfold attached
    rw [tuns, links]
    exact counted
  · rwa [links]
  · rwa [links, next]
  · rwa [tuns, next]
  · rwa [completed, next]

theorem Counted.act (kept : w.Counted) (a : L2tpLinkAct) : (w.act a).Counted :=
  kept.same rfl rfl rfl rfl

theorem Counted.ask (kept : w.Counted) (env : L2tpLinkEnv) : (w.ask env).2.Counted :=
  kept.same rfl rfl rfl rfl

theorem links_setLink (w : L2tpPhys) (link : Nat) (f : L2tpLink → L2tpLink) (other : Nat) :
    (w.setLink link f).links[other]? =
      if link = other then w.links[other]?.map f else w.links[other]? := by
  unfold setLink
  rw [List.getElem?_modify]
  split <;> simp

/-- A new tunnel has no links, since its id is new. -/
theorem Counted.newTun (kept : w.Counted) {t : L2tpTun} (id : t.id = w.nextTun)
    (unused : t.active_sessions = 0) :
    ({ w with tuns := t :: w.tuns, nextTun := w.nextTun + 1 } : L2tpPhys).Counted := by
  refine ⟨fun other member => ?_, kept.idle, fun l member tun its => ?_, fun other member => ?_,
    fun tun member => Nat.lt_succ_of_lt (kept.reported tun member)⟩
  · rcases List.mem_cons.mp member with rfl | old
    · symm
      rw [unused, show (0 : Int) = ((0 : Nat) : Int) from rfl, Int.natCast_inj]
      refine List.countP_eq_zero.mpr fun l member same => ?_
      have below := kept.known l member _ (of_decide_eq_true same)
      exact absurd (id ▸ below) (Nat.lt_irrefl _)
    · exact kept.counted other old
  · exact Nat.lt_succ_of_lt (kept.known l member tun its)
  · rcases List.mem_cons.mp member with rfl | old
    · exact id ▸ Nat.lt_succ_self _
    · exact Nat.lt_succ_of_lt (kept.numbered other old)

/-- A change of a link that leaves its tunnel alone. -/
theorem Counted.setLink (kept : w.Counted) (link : Nat) {f : L2tpLink → L2tpLink}
    (tun : ∀ l, (f l).tun = l.tun)
    (idle : ∀ l, w.links[link]? = some l → (f l).state = .down → l.tun = none) :
    (w.setLink link f).Counted := by
  have same : ∀ id, (w.setLink link f).attached id = w.attached id := by
    intro id
    unfold attached L2tpPhys.setLink
    cases found : w.links[link]? with
    | none => rw [List.modify_eq_self (List.getElem?_eq_none_iff.mp found)]
    | some l =>
        have balance := countP_modify (fun l => decide (l.tun = some id)) f found
        simp only [tun] at balance
        exact Nat.add_right_cancel balance
  constructor
  · intro t member
    rw [same]
    exact kept.counted t member
  · intro l member
    rcases mem_modify f member with old | ⟨before, found, rfl⟩
    · exact kept.idle l old
    · intro down
      rw [tun]
      exact idle before found down
  · intro l member
    rcases mem_modify f member with old | ⟨before, found, rfl⟩
    · exact kept.known l old
    · rw [tun]
      exact kept.known before (List.mem_of_getElem? found)
  · exact kept.numbered
  · exact kept.reported

theorem mem_setTun {tun : Nat} {f : L2tpTun → L2tpTun} {t : L2tpTun}
    (member : t ∈ (w.setTun tun f).tuns) :
    ∃ before ∈ w.tuns, t = if before.id = tun then f before else before := by
  obtain ⟨before, listed, rfl⟩ := List.mem_map.mp member
  exact ⟨before, listed, rfl⟩

/-- A change of a tunnel that leaves its count alone. -/
theorem Counted.setTun (kept : w.Counted) (tun : Nat) {f : L2tpTun → L2tpTun}
    (same : ∀ t, (f t).id = t.id ∧ (f t).active_sessions = t.active_sessions) :
    (w.setTun tun f).Counted := by
  refine ⟨fun t member => ?_, kept.idle, kept.known, fun t member => ?_, kept.reported⟩
  · obtain ⟨before, listed, rfl⟩ := mem_setTun member
    have counted := kept.counted before listed
    split
    · rw [(same before).2, (same before).1]
      exact counted
    · exact counted
  · obtain ⟨before, listed, rfl⟩ := mem_setTun member
    split
    · rw [(same before).1]
      exact kept.numbered before listed
    · exact kept.numbered before listed

theorem Counted.attach (kept : w.Counted) {link tun : Nat} {l : L2tpLink}
    (found : w.links[link]? = some l) (free : l.tun = none) (active : l.state ≠ .down)
    (there : tun < w.nextTun) : (w.attach link tun).Counted := by
  refine ⟨fun t member => ?_, fun other member => ?_, fun other member => ?_, fun t member => ?_,
    kept.reported⟩
  · obtain ⟨before, listed, rfl⟩ := mem_setTun member
    have counted := kept.counted before listed
    have balance : ∀ id, (w.attach link tun).attached id =
        w.attached id + if tun = id then 1 else 0 := by
      intro id
      have balance := countP_modify (fun l => decide (l.tun = some id))
        (fun l => { l with tun := some tun }) found
      simp only [free, Option.some.injEq, decide_eq_true_eq, reduceCtorEq] at balance
      exact balance
    split
    · rename_i here
      rw [balance, ← here, if_pos rfl]
      push_cast
      rw [← counted]
    · rename_i away
      rw [balance, if_neg (fun same => away same.symm)]
      simpa using counted
  · rcases mem_modify _ member with old | ⟨before, here, rfl⟩
    · exact kept.idle other old
    · intro down
      rw [found, Option.some.injEq] at here
      subst here
      exact absurd down active
  · rcases mem_modify _ member with old | ⟨before, here, rfl⟩
    · exact kept.known other old
    · rintro id ⟨⟩
      exact there
  · obtain ⟨before, listed, rfl⟩ := mem_setTun member
    split <;> exact kept.numbered before listed

theorem Counted.detach (kept : w.Counted) (link : Nat) : (w.detach link).Counted := by
  unfold L2tpPhys.detach
  cases found : w.links[link]? with
  | none => exact kept
  | some l =>
      rw [Option.bind_some]
      cases joined : l.tun with
      | none => exact kept
      | some tun =>
          refine ⟨fun t member => ?_, fun other member => ?_, fun other member => ?_,
            fun t member => ?_, kept.reported⟩
          · obtain ⟨before, listed, rfl⟩ := mem_setTun member
            have counted := kept.counted before listed
            have balance : ∀ id, ((w.links.modify link fun l => { l with tun := none }).countP
                fun l => l.tun = some id) + (if tun = id then 1 else 0) = w.attached id := by
              intro id
              have balance := countP_modify (fun l => decide (l.tun = some id))
                (fun l => { l with tun := none }) found
              simp only [joined, Option.some.injEq, decide_eq_true_eq, reduceCtorEq] at balance
              exact balance
            have left := balance before.id
            split
            · rename_i here
              rw [if_pos here.symm] at left
              change before.active_sessions - 1 =
                (((w.links.modify link fun l => { l with tun := none }).countP
                  fun l => l.tun = some before.id : Nat) : Int)
              omega
            · rename_i away
              rw [if_neg (fun same => away same.symm)] at left
              change before.active_sessions =
                (((w.links.modify link fun l => { l with tun := none }).countP
                  fun l => l.tun = some before.id : Nat) : Int)
              omega
          · rcases mem_modify _ member with old | ⟨before, here, rfl⟩
            · exact kept.idle other old
            · exact fun _ => rfl
          · rcases mem_modify _ member with old | ⟨before, here, rfl⟩
            · exact kept.known other old
            · exact nofun
          · obtain ⟨before, listed, rfl⟩ := mem_setTun member
            split <;> exact kept.numbered before listed

theorem tun_detach {link : Nat} {l : L2tpLink} (found : (w.detach link).links[link]? = some l) :
    l.tun = none := by
  unfold L2tpPhys.detach at found
  split at found
  · rename_i free
    rw [found, Option.bind_some] at free
    exact free
  · rw [links_setLink, if_pos rfl] at found
    obtain ⟨before, -, rfl⟩ := Option.map_eq_some_iff.mp found
    rfl

end L2tpPhys

open L2tpPhys

section Operations

variable (env : L2tpLinkEnv) {w : L2tpPhys} (kept : w.Counted)
include kept

/-- The link gives up its tunnel, if it has one, and goes down. -/
theorem counted_linkDropped (link : Nat) : (l2tpLinkDropped w link).Counted := by
  apply Counted.act
  refine (kept.detach link).setLink link (fun _ => rfl) fun l found _ => ?_
  exact tun_detach found

theorem counted_hookUp (link : Nat) (sess : Option Nat) :
    (l2tpHookUp env w link sess).Counted := by
  unfold l2tpHookUp
  dsimp only
  split
  · exact (kept.ask env).act _
  · refine ((kept.ask env).act _).setLink link (fun _ => rfl) fun l found down => ?_
    exact kept.idle l (List.mem_of_getElem? found) down

theorem counted_startCall (link tun : Nat) (conf : L2tpLinkConf) :
    (l2tpStartCall env w link tun conf).Counted := by
  have asked := kept.ask env
  have idle : ∀ (l : L2tpLink), w.links[link]? = some l → l.state = .down → l.tun = none :=
    fun l found down => kept.idle l (List.mem_of_getElem? found) down
  unfold l2tpStartCall
  dsimp only
  split
  · exact counted_linkDropped asked link
  · have made : (({ (w.ask env).2 with nextSess := (w.ask env).2.nextSess + 1 } : L2tpPhys).act
        (.initiate tun (w.ask env).2.nextSess conf.outcall)).Counted :=
      asked.same rfl rfl rfl rfl
    have stored := made.setLink link
      (f := fun l => { l with sess := some (w.ask env).2.nextSess, outcall := conf.outcall })
      (fun _ => rfl) idle
    split
    · exact stored
    · apply Counted.act
      refine stored.setLink link (fun _ => rfl) fun l found down => ?_
      exact stored.idle l (List.mem_of_getElem? found) down

theorem counted_openIncoming (link : Nat) (l : L2tpLink) :
    (l2tpOpenIncoming env w link l).Counted := by
  have up := kept.setLink link (f := fun l => { l with state := .up }) (fun _ => rfl)
    fun _ _ => nofun
  unfold l2tpOpenIncoming
  split
  · exact kept
  apply Counted.act
  apply counted_hookUp
  split
  · apply Counted.act
    refine up.setLink link (fun _ => rfl) fun l found down => ?_
    exact up.idle l (List.mem_of_getElem? found) down
  · exact up

theorem counted_openOutgoing {link : Nat} {l : L2tpLink} (conf : L2tpLinkConf)
    (found : w.links[link]? = some l) (free : l.tun = none) (active : l.state ≠ .down) :
    (l2tpOpenOutgoing env w link conf).Counted := by
  unfold l2tpOpenOutgoing
  split
  case h_1 tun usable =>
    have listed : tun ∈ w.tuns :=
      (env.order_perm w.tuns).mem_iff.mp (List.mem_of_find?_eq_some usable)
    have joined := kept.attach found free active (kept.numbered tun listed)
    dsimp only
    split
    · exact counted_startCall env joined ..
    · exact joined
  case h_2 =>
    have asked := kept.ask env
    dsimp only
    split
    · apply Counted.act
      refine asked.setLink link (fun _ => rfl) fun other here _ => ?_
      rw [show w.links[link]? = some other from here, Option.some.injEq] at found
      rw [found, free]
    · apply Counted.act
      have added := asked.newTun (t := l2tpNewTun env (w.ask env).2 conf) rfl rfl
      exact added.attach found free active (Nat.lt_succ_self _)

theorem counted_open (link : Nat) : (l2tpOpen env w link).Counted := by
  unfold l2tpOpen
  split
  · exact kept
  case h_2 l found =>
  have opened := kept.setLink link (f := fun l => { l with opened := true }) (fun _ => rfl)
    fun l found down => kept.idle l (List.mem_of_getElem? found) down
  dsimp only
  split
  · exact counted_openIncoming env opened ..
  split
  · exact opened
  case isFalse down =>
    have free := kept.idle l (List.mem_of_getElem? found) (not_not.mp down)
    have connecting := opened.setLink link
      (f := fun l =>
        { l with
          state := .connecting,
          conf := l2tpResolve env (w.setLink link fun l => { l with opened := true }) l.conf })
      (fun _ => rfl) fun _ _ => nofun
    have resolved := opened.setLink link
      (f := fun other =>
        { other with
          state := .connecting,
          conf := l2tpResolve env (w.setLink link fun l => { l with opened := true }) l.conf })
      (fun _ => rfl) fun _ _ => nofun
    refine counted_openOutgoing env resolved
      (l2tpResolve env (w.setLink link fun l => { l with opened := true }) l.conf)
      (l := { l with
        opened := true, state := .connecting,
        conf := l2tpResolve env (w.setLink link fun l => { l with opened := true }) l.conf })
      ?_ free nofun
    rw [links_setLink, if_pos rfl, links_setLink, if_pos rfl, found]
    rfl

theorem counted_close (link : Nat) : (l2tpClose w link).Counted := by
  unfold l2tpClose
  split
  · exact kept
  case h_2 l found =>
  have closed := kept.setLink link
    (f := fun l => { l with opened := false, incoming := false, outcall := false })
    (fun _ => rfl) fun l found down => kept.idle l (List.mem_of_getElem? found) down
  dsimp only
  split
  · exact closed
  · split
    · exact counted_linkDropped (closed.act _) link
    · exact counted_linkDropped closed link

theorem counted_ctrlConnected {tun : Nat} (there : tun < w.nextTun) :
    (l2tpCtrlConnectedCb env w tun).Counted := by
  have noted : ({ w with completed := tun :: w.completed } : L2tpPhys).Counted := by
    refine ⟨kept.counted, kept.idle, kept.known, kept.numbered, fun id member => ?_⟩
    rcases List.mem_cons.mp member with rfl | old
    · exact there
    · exact kept.reported id old
  unfold l2tpCtrlConnectedCb
  refine List.foldlRecOn (motive := Counted) (List.range w.links.length)
    (l2tpCtrlConnectedLink env tun) noted ?_
  intro v counted link _
  unfold l2tpCtrlConnectedLink
  split
  · exact counted
  split
  · exact counted
  · have flagged := counted.setTun tun (f := fun t => { t with connected := true })
      fun _ => ⟨rfl, rfl⟩
    exact counted_startCall env flagged ..

theorem counted_ctrlTerminated (tun : Nat) : (l2tpCtrlTerminatedCb w tun).Counted := by
  unfold l2tpCtrlTerminatedCb
  refine Counted.setTun ?_ tun fun _ => ⟨rfl, rfl⟩
  refine List.foldlRecOn (motive := Counted) (List.range w.links.length)
    (l2tpCtrlTerminatedLink tun) kept ?_
  intro v counted link _
  unfold l2tpCtrlTerminatedLink
  split
  · exact counted
  split
  · exact counted
  · exact counted_linkDropped counted link

theorem counted_takeCall {link tun : Nat} {l : L2tpLink} (found : w.links[link]? = some l)
    (free : l.tun = none) (there : tun < w.nextTun) (out : Bool) :
    (l2tpTakeCall w link tun out).Counted := by
  have made : ({ w with nextSess := w.nextSess + 1 } : L2tpPhys).Counted :=
    kept.same rfl rfl rfl rfl
  have active : (if out then PhysState.ready else .connecting) ≠ .down := by
    split <;> exact nofun
  have taken := made.setLink link
    (f := fun l =>
      { l with
        state := if out then .ready else .connecting
        incoming := true, outcall := out, sess := some w.nextSess })
    (fun _ => rfl) fun _ _ down => absurd down active
  apply Counted.act
  refine taken.attach (l := { l with
    state := if out then .ready else .connecting
    incoming := true, outcall := out, sess := some w.nextSess }) ?_ free active there
  rw [links_setLink, if_pos rfl, show ({ w with nextSess := w.nextSess + 1 } :
    L2tpPhys).links[link]? = some l from found]
  rfl

omit kept in
theorem down_of_bestLink {links : List L2tpLink} {tun : L2tpTun} {indices : List Nat}
    {best : Option (Nat × Nat)} {link : Nat}
    (found : l2tpBestLink env links tun indices best = some link)
    (sofar : ∀ known, best = some known → ∃ l, links[known.1]? = some l ∧ l.state = .down) :
    ∃ l, links[link]? = some l ∧ l.state = .down := by
  induction indices generalizing best with
  | nil =>
      obtain ⟨known, is, rfl⟩ := Option.map_eq_some_iff.mp found
      exact sofar known is
  | cons index rest ih =>
      unfold l2tpBestLink at found
      cases there : links[index]? with
      | none =>
          rw [there] at found
          exact ih found sofar
      | some l =>
          rw [there] at found
          dsimp only at found
          split at found
          case isFalse => exact ih found sofar
          case isTrue accepted =>
            have down : l.state = .down := by
              unfold l2tpAccepts at accepted
              simp only [Bool.and_eq_true, decide_eq_true_eq] at accepted
              exact accepted.1.1.1.1.1.1.1.1.1
            split at found
            · cases found
              exact ⟨l, there, down⟩
            · refine ih found ?_
              rintro known ⟨⟩
              exact ⟨l, there, down⟩

theorem counted_initiated {tun : L2tpTun} (there : tun.id < w.nextTun) (out : Bool) :
    (l2tpInitiatedCb env w tun out).Counted := by
  have asked := kept.ask env
  unfold l2tpInitiatedCb
  dsimp only
  split
  · exact asked.act _
  split
  · exact asked.act _
  case h_2 link best =>
  split
  · exact asked
  case h_2 l found =>
  obtain ⟨other, here, down⟩ := down_of_bestLink env best nofun
  rw [found, Option.some.injEq] at here
  subst here
  have free := asked.idle l (List.mem_of_getElem? found) down
  split
  · exact counted_takeCall asked found free there out
  have again := asked.ask env
  split
  · exact again.act _
  · have grown : ({ ((w.ask env).2.ask env).2 with
        links := ((w.ask env).2.ask env).2.links ++ [{ l with tmpl := false }] } :
        L2tpPhys).Counted := by
      refine ⟨fun t member => ?_, fun other member => ?_, fun other member => ?_,
        again.numbered, again.reported⟩
      · have counted := again.counted t member
        unfold attached at counted ⊢
        rw [List.countP_append, List.countP_singleton, free]
        simpa using counted
      · rcases List.mem_append.mp member with old | new
        · exact again.idle other old
        · rw [List.mem_singleton.mp new]
          exact fun _ => free
      · rcases List.mem_append.mp member with old | new
        · exact again.known other old
        · rw [List.mem_singleton.mp new]
          intro id joined
          rw [show ({ l with tmpl := false } : L2tpLink).tun = none from free] at joined
          cases joined
    refine counted_takeCall grown (l := { l with tmpl := false }) ?_ free there out
    rw [List.getElem?_append_right (Nat.le_refl _), Nat.sub_self]
    rfl

theorem counted_connected (link : Nat) (framing : Option Bool) :
    (l2tpConnectedCb env w link framing).Counted := by
  unfold l2tpConnectedCb
  split
  · exact kept
  have framed := kept.setLink link
    (f := fun l => { l with sync := if l.incoming = l.outcall then l.sync else framing.getD l.sync })
    (fun _ => rfl) fun l found down => kept.idle l (List.mem_of_getElem? found) down
  dsimp only
  split
  · apply Counted.act
    apply counted_hookUp
    exact framed.setLink link (fun _ => rfl) fun _ _ => nofun
  · exact framed.setLink link (fun _ => rfl) fun _ _ => nofun

theorem counted_server (peer_addr peer_port self_addr self_port : Nat) :
    (l2tpServerEvent env w peer_addr peer_port self_addr self_port).Counted := by
  unfold l2tpServerEvent
  dsimp only
  split
  · exact kept.ask env
  · exact (kept.ask env).newTun rfl rfl

theorem counted_linkStep (event : L2tpLinkEvent) : (l2tpLinkStep env w event).Counted := by
  cases event with
  | «open» link => exact counted_open env kept link
  | close link => exact counted_close kept link
  | ctrlConnected tun =>
      unfold l2tpLinkStep
      dsimp only
      split
      case isTrue there =>
        obtain ⟨t, listed, its⟩ := List.any_eq_true.mp there
        have numbered := kept.numbered t listed
        rw [of_decide_eq_true its] at numbered
        exact counted_ctrlConnected env kept numbered
      case isFalse => exact kept
  | ctrlTerminated tun => exact counted_ctrlTerminated kept tun
  | ctrlDestroyed tun =>
      refine ⟨fun t member => ?_, kept.idle, kept.known, fun t member => ?_, kept.reported⟩
      · exact kept.counted t (List.mem_filter.mp member).1
      · exact kept.numbered t (List.mem_filter.mp member).1
  | initiated tun out =>
      unfold l2tpLinkStep
      dsimp only
      split
      · exact kept
      case h_2 t found =>
        exact counted_initiated env kept (kept.numbered t (List.mem_of_find?_eq_some found)) out
  | connected link framing => exact counted_connected env kept link framing
  | terminated link => exact counted_linkDropped kept link
  | server => exact counted_server env kept ..

end Operations

def L2tpPhys.flags (w : L2tpPhys) : List (Nat × Bool) := w.tuns.map fun t => (t.id, t.connected)

/-- A tunnel is flagged when its control connection has completed, and only then. -/
def L2tpPhys.Flagged (w : L2tpPhys) : Prop :=
  ∀ t ∈ w.tuns, t.connected = true ↔ t.id ∈ w.completed

def L2tpPhys.SameFlags (w v : L2tpPhys) : Prop :=
  v.flags = w.flags ∧ v.completed = w.completed

theorem flagged_iff {w : L2tpPhys} :
    w.Flagged ↔ ∀ flag ∈ w.flags, flag.2 = true ↔ flag.1 ∈ w.completed := by
  unfold L2tpPhys.Flagged L2tpPhys.flags
  rw [List.forall_mem_map]

namespace L2tpPhys.SameFlags

variable {u w v : L2tpPhys}

theorem flagged (same : w.SameFlags v) (flagged : w.Flagged) : v.Flagged := by
  rw [flagged_iff] at flagged ⊢
  rw [same.1, same.2]
  exact flagged

theorem setLink (same : u.SameFlags w) (link : Nat) (f : L2tpLink → L2tpLink) :
    u.SameFlags (w.setLink link f) := same

theorem act (same : u.SameFlags w) (a : L2tpLinkAct) : u.SameFlags (w.act a) := same

theorem setTun (same : u.SameFlags w) (tun : Nat) {f : L2tpTun → L2tpTun}
    (flag : ∀ t, (f t).id = t.id ∧ (f t).connected = t.connected) :
    u.SameFlags (w.setTun tun f) := by
  refine ⟨?_, same.2⟩
  rw [← same.1]
  unfold L2tpPhys.flags L2tpPhys.setTun
  rw [List.map_map]
  apply List.map_congr_left
  intro t _
  rw [Function.comp_apply]
  split
  · rw [(flag t).1, (flag t).2]
  · rfl

theorem attach (same : u.SameFlags w) (link tun : Nat) : u.SameFlags (w.attach link tun) :=
  (same.setLink link _).setTun tun fun _ => ⟨rfl, rfl⟩

theorem detach (same : u.SameFlags w) (link : Nat) : u.SameFlags (w.detach link) := by
  unfold L2tpPhys.detach
  split
  · exact same
  · refine setLink (setTun same _ ?_) link _
    exact fun _ => ⟨rfl, rfl⟩

theorem linkDropped (same : u.SameFlags w) (link : Nat) : u.SameFlags (l2tpLinkDropped w link) :=
  (same.detach link).setLink link fun l => { l with sess := none, state := .down }

theorem hookUp (same : u.SameFlags w) (env : L2tpLinkEnv) (link : Nat) (sess : Option Nat) :
    u.SameFlags (l2tpHookUp env w link sess) := by
  unfold l2tpHookUp
  dsimp only
  split <;> exact same

theorem startCall (same : u.SameFlags w) (env : L2tpLinkEnv) (link tun : Nat)
    (conf : L2tpLinkConf) : u.SameFlags (l2tpStartCall env w link tun conf) := by
  unfold l2tpStartCall
  dsimp only
  split
  · exact linkDropped (w := (w.ask env).2) same link
  · split <;> exact same

theorem takeCall (same : u.SameFlags w) (link tun : Nat) (out : Bool) :
    u.SameFlags (l2tpTakeCall w link tun out) :=
  attach (w := ({ w with nextSess := w.nextSess + 1 } : L2tpPhys).setLink link fun l =>
    { l with
      state := if out then .ready else .connecting
      incoming := true, outcall := out, sess := some w.nextSess }) same link tun

theorem initiated (same : u.SameFlags w) (env : L2tpLinkEnv) (tun : L2tpTun) (out : Bool) :
    u.SameFlags (l2tpInitiatedCb env w tun out) := by
  unfold l2tpInitiatedCb
  dsimp only
  split
  · exact same
  split
  · exact same
  split
  · exact same
  split
  · exact takeCall (w := (w.ask env).2) same ..
  split
  · exact same
  · exact takeCall (w := { ((w.ask env).2.ask env).2 with links := _ }) same ..

theorem connected (same : u.SameFlags w) (env : L2tpLinkEnv) (link : Nat)
    (framing : Option Bool) : u.SameFlags (l2tpConnectedCb env w link framing) := by
  unfold l2tpConnectedCb
  split
  · exact same
  dsimp only
  split
  · exact hookUp (w := (w.setLink link _).setLink link _) same env link _
  · exact same

theorem close (same : u.SameFlags w) (link : Nat) : u.SameFlags (l2tpClose w link) := by
  unfold l2tpClose
  split
  · exact same
  dsimp only
  split
  · exact same
  · split
    · exact linkDropped (w := (w.setLink link _).act _) same link
    · exact linkDropped (w := w.setLink link _) same link

theorem ctrlTerminated (same : u.SameFlags w) (tun : Nat) :
    u.SameFlags (l2tpCtrlTerminatedCb w tun) := by
  unfold l2tpCtrlTerminatedCb
  refine setTun ?_ tun fun _ => ⟨rfl, rfl⟩
  refine List.foldlRecOn (motive := u.SameFlags) (List.range w.links.length)
    (l2tpCtrlTerminatedLink tun) same ?_
  intro v flags link _
  unfold l2tpCtrlTerminatedLink
  split
  · exact flags
  split
  · exact flags
  · exact flags.linkDropped link

theorem openIncoming (same : u.SameFlags w) (env : L2tpLinkEnv) (link : Nat) (l : L2tpLink) :
    u.SameFlags (l2tpOpenIncoming env w link l) := by
  unfold l2tpOpenIncoming
  split
  · exact same
  apply act
  apply hookUp
  split <;> exact same

end L2tpPhys.SameFlags

section Flags

variable (env : L2tpLinkEnv) {w : L2tpPhys}

/-- A new tunnel has no flag and nothing was reported of it. -/
theorem flagged_newTun (counted : w.Counted) (flagged : w.Flagged) {t : L2tpTun}
    (new : t.id = w.nextTun) (unflagged : t.connected = false) :
    ({ w with tuns := t :: w.tuns, nextTun := w.nextTun + 1 } : L2tpPhys).Flagged := by
  intro other member
  rcases List.mem_cons.mp member with rfl | old
  · rw [unflagged]
    refine ⟨fun connected => ?_, fun reported => ?_⟩
    · cases connected
    have below := counted.reported other.id reported
    rw [new] at below
    exact absurd below (Nat.lt_irrefl _)
  · exact flagged other old

theorem flagged_openOutgoing (counted : w.Counted) (flagged : w.Flagged) (link : Nat)
    (conf : L2tpLinkConf) : (l2tpOpenOutgoing env w link conf).Flagged := by
  have same : w.SameFlags w := ⟨rfl, rfl⟩
  unfold l2tpOpenOutgoing
  split
  · dsimp only
    split
    · exact ((same.attach link _).startCall env link _ conf).flagged flagged
    · exact (same.attach link _).flagged flagged
  · dsimp only
    split
    · exact same.flagged flagged
    · have added := flagged_newTun (t := l2tpNewTun env (w.ask env).2 conf) (counted.ask env)
        (w := (w.ask env).2) flagged rfl rfl
      have unchanged : ∀ v : L2tpPhys, v.SameFlags v := fun _ => ⟨rfl, rfl⟩
      exact ((unchanged _).attach link _).flagged added

theorem flagged_open (counted : w.Counted) (flagged : w.Flagged) (link : Nat) :
    (l2tpOpen env w link).Flagged := by
  have same : w.SameFlags w := ⟨rfl, rfl⟩
  unfold l2tpOpen
  split
  · exact flagged
  case h_2 l found =>
  have opened := counted.setLink link (f := fun l => { l with opened := true }) (fun _ => rfl)
    fun l found down => counted.idle l (List.mem_of_getElem? found) down
  dsimp only
  split
  · exact ((same.setLink link _).openIncoming env link l).flagged flagged
  split
  · exact flagged
  · have resolved := opened.setLink link
      (f := fun other =>
        { other with
          state := .connecting,
          conf := l2tpResolve env (w.setLink link fun l => { l with opened := true }) l.conf })
      (fun _ => rfl) fun _ _ => nofun
    exact flagged_openOutgoing env resolved flagged link _

def markTun (tun : Nat) (flags : List (Nat × Bool)) : List (Nat × Bool) :=
  flags.map fun flag => if flag.1 = tun then (flag.1, true) else flag

theorem markTun_markTun (tun : Nat) (flags : List (Nat × Bool)) :
    markTun tun (markTun tun flags) = markTun tun flags := by
  unfold markTun
  rw [List.map_map]
  apply List.map_congr_left
  intro flag _
  by_cases its : flag.1 = tun
  · simp [its]
  · simp [its]

theorem flags_setConnected (w : L2tpPhys) (tun : Nat) :
    (w.setTun tun fun t => { t with connected := true }).flags = markTun tun w.flags := by
  unfold L2tpPhys.flags L2tpPhys.setTun markTun
  rw [List.map_map, List.map_map]
  apply List.map_congr_left
  intro t _
  rw [Function.comp_apply, Function.comp_apply]
  split <;> rfl

/-- One link of the loop: if it is on the tunnel, the tunnel is flagged. -/
theorem flags_ctrlConnectedLink (tun link : Nat) :
    (l2tpCtrlConnectedLink env tun w link).completed = w.completed ∧
      ((l2tpCtrlConnectedLink env tun w link).flags = markTun tun w.flags ∨
        (l2tpCtrlConnectedLink env tun w link = w ∧
          ∀ l, w.links[link]? = some l → l.tun ≠ some tun)) := by
  unfold l2tpCtrlConnectedLink
  cases found : w.links[link]? with
  | none => exact ⟨rfl, .inr ⟨rfl, by simp⟩⟩
  | some l =>
      dsimp only
      split
      case isTrue away =>
        refine ⟨rfl, .inr ⟨rfl, fun other is => ?_⟩⟩
        rw [← Option.some.inj is]
        exact away
      case isFalse =>
        have same : (w.setTun tun fun t => { t with connected := true }).SameFlags
            (w.setTun tun fun t => { t with connected := true }) := ⟨rfl, rfl⟩
        have started := same.startCall env link tun l.conf
        exact ⟨started.2, .inl (started.1.trans (flags_setConnected w tun))⟩

theorem flags_ctrlConnectedLoop (tun : Nat) (indices : List Nat) :
    (indices.foldl (l2tpCtrlConnectedLink env tun) w).completed = w.completed ∧
      ((indices.foldl (l2tpCtrlConnectedLink env tun) w).flags = markTun tun w.flags ∨
        ((indices.foldl (l2tpCtrlConnectedLink env tun) w).flags = w.flags ∧
          ∀ link ∈ indices, ∀ l, w.links[link]? = some l → l.tun ≠ some tun)) := by
  induction indices generalizing w with
  | nil => exact ⟨rfl, .inr ⟨rfl, nofun⟩⟩
  | cons link rest ih =>
      obtain ⟨completed, first⟩ := flags_ctrlConnectedLink env (w := w) tun link
      obtain ⟨further, later⟩ := ih (w := l2tpCtrlConnectedLink env tun w link)
      rw [List.foldl_cons]
      refine ⟨further.trans completed, ?_⟩
      rcases first with marked | ⟨same, away⟩
      · left
        rcases later with again | ⟨unchanged, -⟩
        · rw [again, marked, markTun_markTun]
        · exact unchanged.trans marked
      · rw [same] at later ⊢
        rcases later with marked | ⟨unchanged, others⟩
        · exact .inl marked
        · refine .inr ⟨unchanged, fun other member => ?_⟩
          rcases List.mem_cons.mp member with rfl | old
          · exact away
          · exact others other old

/-- When the control connection of a tunnel comes up, some link is on the tunnel. -/
def TunAttended (w : L2tpPhys) : L2tpLinkEvent → Prop
  | .ctrlConnected tun => ∃ l ∈ w.links, l.tun = some tun
  | _ => True

theorem flagged_ctrlConnected (flagged : w.Flagged) {tun : Nat}
    (attended : ∃ l ∈ w.links, l.tun = some tun) : (l2tpCtrlConnectedCb env w tun).Flagged := by
  have loop := flags_ctrlConnectedLoop env (w := { w with completed := tun :: w.completed }) tun
    (List.range w.links.length)
  unfold l2tpCtrlConnectedCb
  generalize (List.range w.links.length).foldl (l2tpCtrlConnectedLink env tun)
    { w with completed := tun :: w.completed } = v at loop ⊢
  obtain ⟨completed, flags⟩ := loop
  have marked : v.flags = markTun tun w.flags := by
    rcases flags with marked | ⟨-, others⟩
    · exact marked
    · obtain ⟨l, member, joined⟩ := attended
      obtain ⟨index, below, rfl⟩ := List.mem_iff_getElem.mp member
      exact absurd joined (others index (List.mem_range.mpr below) _
        (List.getElem?_eq_getElem below))
  rw [flagged_iff] at flagged ⊢
  rw [marked, completed]
  unfold markTun
  rw [List.forall_mem_map]
  intro flag member
  have before := flagged flag member
  split
  case isTrue its => simp [its]
  case isFalse other => rw [before, List.mem_cons, or_iff_right other]

theorem flagged_linkStep (counted : w.Counted) (flagged : w.Flagged) {event : L2tpLinkEvent}
    (attended : TunAttended w event) : (l2tpLinkStep env w event).Flagged := by
  have same : w.SameFlags w := ⟨rfl, rfl⟩
  cases event with
  | «open» link => exact flagged_open env counted flagged link
  | close link => exact (same.close link).flagged flagged
  | ctrlConnected tun =>
      unfold l2tpLinkStep
      dsimp only
      split
      · exact flagged_ctrlConnected env flagged attended
      · exact flagged
  | ctrlTerminated tun => exact (same.ctrlTerminated tun).flagged flagged
  | ctrlDestroyed tun => exact fun t member => flagged t (List.mem_filter.mp member).1
  | initiated tun out =>
      unfold l2tpLinkStep
      dsimp only
      split
      · exact flagged
      · exact (same.initiated env _ out).flagged flagged
  | connected link framing => exact (same.connected env link framing).flagged flagged
  | terminated link => exact (same.linkDropped link).flagged flagged
  | server peer_addr peer_port self_addr self_port =>
      unfold l2tpLinkStep l2tpServerEvent
      dsimp only
      split
      · exact flagged
      · exact flagged_newTun (counted.ask env) (w := (w.ask env).2) flagged rfl rfl

/-- A link whose call was started has a session, or has given up its tunnel. -/
theorem sess_startCall {link tun : Nat} {conf : L2tpLinkConf} {after : L2tpLink}
    (found : (l2tpStartCall env w link tun conf).links[link]? = some after) :
    after.tun = none ∨ after.sess.isSome = true := by
  unfold l2tpStartCall at found
  dsimp only at found
  split at found
  · left
    change (((w.ask env).2.detach link).setLink link fun l =>
      { l with sess := none, state := .down }).links[link]? = some after at found
    rw [links_setLink, if_pos rfl] at found
    obtain ⟨before, there, rfl⟩ := Option.map_eq_some_iff.mp found
    have gone : before.tun = none := tun_detach there
    exact gone
  · right
    have stored : ∀ l, ((({ (w.ask env).2 with nextSess := (w.ask env).2.nextSess + 1 } :
        L2tpPhys).act (.initiate tun (w.ask env).2.nextSess conf.outcall)).setLink link fun l =>
          { l with sess := some (w.ask env).2.nextSess, outcall := conf.outcall }).links[link]? =
        some l → l.sess.isSome = true := by
      intro l there
      rw [links_setLink, if_pos rfl] at there
      obtain ⟨before, -, rfl⟩ := Option.map_eq_some_iff.mp there
      rfl
    split at found
    · exact stored after found
    · change (((({ (w.ask env).2 with nextSess := (w.ask env).2.nextSess + 1 } :
        L2tpPhys).act (.initiate tun (w.ask env).2.nextSess conf.outcall)).setLink link fun l =>
          { l with sess := some (w.ask env).2.nextSess, outcall := conf.outcall }).setLink link
            fun l => { l with sync := l.rep.getD true }).links[link]? = some after at found
      rw [links_setLink, if_pos rfl] at found
      obtain ⟨before, there, rfl⟩ := Option.map_eq_some_iff.mp found
      exact stored before there

theorem sess_openOutgoing (counted : w.Counted) (flagged : w.Flagged) {link : Nat}
    {l after : L2tpLink} (found : w.links[link]? = some l) (free : l.tun = none)
    (conf : L2tpLinkConf) (opened : (l2tpOpenOutgoing env w link conf).links[link]? = some after)
    {tun : Nat} (joined : after.tun = some tun) (completed : tun ∈ w.completed) :
    after.sess.isSome = true := by
  unfold l2tpOpenOutgoing at opened
  split at opened
  case h_1 t usable =>
    have listed : t ∈ w.tuns :=
      (env.order_perm w.tuns).mem_iff.mp (List.mem_of_find?_eq_some usable)
    dsimp only at opened
    split at opened
    · rcases sess_startCall env opened with none | some
      · rw [none] at joined
        cases joined
      · exact some
    case isFalse unflagged =>
      change (w.setLink link fun l => { l with tun := some t.id }).links[link]? = some after
        at opened
      rw [links_setLink, if_pos rfl] at opened
      obtain ⟨before, -, rfl⟩ := Option.map_eq_some_iff.mp opened
      cases joined
      exact absurd ((flagged t listed).mpr completed) unflagged
  case h_2 =>
    dsimp only at opened
    split at opened
    · change (w.setLink link fun l => { l with state := .down }).links[link]? = some after
        at opened
      rw [links_setLink, if_pos rfl, found, Option.map_some, Option.some.injEq] at opened
      rw [← opened, free] at joined
      cases joined
    · change (w.setLink link fun l => { l with tun := some w.nextTun }).links[link]? =
        some after at opened
      rw [links_setLink, if_pos rfl] at opened
      obtain ⟨before, -, rfl⟩ := Option.map_eq_some_iff.mp opened
      cases joined
      exact absurd (counted.reported _ completed) (Nat.lt_irrefl _)

theorem sess_open (counted : w.Counted) (flagged : w.Flagged) {link : Nat} {l after : L2tpLink}
    (found : w.links[link]? = some l) (down : l.state = .down) (own : l.incoming = false)
    (opened : (l2tpOpen env w link).links[link]? = some after) {tun : Nat}
    (joined : after.tun = some tun) (completed : tun ∈ w.completed) :
    after.sess.isSome = true := by
  have free := counted.idle l (List.mem_of_getElem? found) down
  have ready := counted.setLink link (f := fun l => { l with opened := true }) (fun _ => rfl)
    fun l found down => counted.idle l (List.mem_of_getElem? found) down
  unfold l2tpOpen at opened
  rw [found] at opened
  dsimp only at opened
  rw [own, if_neg Bool.false_ne_true, if_neg (not_not.mpr down)] at opened
  have resolved := ready.setLink link
    (f := fun other =>
      { other with
        state := .connecting,
        conf := l2tpResolve env (w.setLink link fun l => { l with opened := true }) l.conf })
    (fun _ => rfl) fun _ _ => nofun
  refine sess_openOutgoing env resolved flagged (l := { l with
    opened := true, state := .connecting,
    conf := l2tpResolve env (w.setLink link fun l => { l with opened := true }) l.conf })
    ?_ free _ opened joined completed
  rw [links_setLink, if_pos rfl, links_setLink, if_pos rfl, found]
  rfl

theorem counted_linksStart (confs : List (L2tpLinkConf × Bool)) :
    (l2tpLinksStart confs).Counted := by
  have links : ∀ l ∈ (l2tpLinksStart confs).links, l.tun = none := by
    intro l member
    obtain ⟨conf, -, rfl⟩ := List.mem_map.mp member
    rfl
  refine ⟨nofun, fun l member _ => links l member, fun l member tun joined => ?_, nofun, nofun⟩
  rw [links l member] at joined
  cases joined

/-- The counts and flags of the tunnels are right, and a link that `L2tpOpen` puts on a tunnel
whose control connection has completed gets a session. -/
structure L2tpPhys.Served (env : L2tpLinkEnv) (w : L2tpPhys) : Prop where
  flag : ∀ t ∈ w.tuns, t.connected = true ↔ t.id ∈ w.completed
  count : ∀ t ∈ w.tuns, t.active_sessions = w.attached t.id
  session : ∀ link l after tun, w.links[link]? = some l → l.state = .down → l.incoming = false →
    (l2tpOpen env w link).links[link]? = some after → after.tun = some tun →
      tun ∈ w.completed → after.sess.isSome = true

/-- In a run in which some link is on a tunnel when its control connection comes up, all is
right after every event. -/
theorem tunnels_run (confs : List (L2tpLinkConf × Bool)) {events : List L2tpLinkEvent}
    (attended : Transition.Meets (l2tpLinkStep env) TunAttended (l2tpLinksStart confs) events) :
    (l2tpLinkRun env confs events).Served env := by
  have kept : (l2tpLinkRun env confs events).Counted ∧ (l2tpLinkRun env confs events).Flagged := by
    have step : ∀ (w : L2tpPhys) event, w.Counted ∧ w.Flagged → TunAttended w event →
        (l2tpLinkStep env w event).Counted ∧ (l2tpLinkStep env w event).Flagged := by
      rintro w event ⟨counted, flagged⟩ allowed
      exact ⟨counted_linkStep env counted event, flagged_linkStep env counted flagged allowed⟩
    exact Transition.invariant_run (l2tpLinkStep env) step ⟨counted_linksStart confs, nofun⟩
      attended
  obtain ⟨counted, flagged⟩ := kept
  refine ⟨flagged, counted.counted, ?_⟩
  intro link l after tun found down own opened joined completed
  exact sess_open env counted flagged found down own opened joined completed

end Flags

def calmLinkEnv : L2tpLinkEnv where
  tunlimit := 100
  answer := fun _ => true
  order := id
  order_perm := fun _ => List.Perm.refl _
  ipAddrInRange := fun _ _ => true
  parseRange := fun _ => none
  getname := fun _ => none
  peer_mask := fun _ => true
  busy := fun _ => false

/-- One link waits for the connection and another comes after it. -/
theorem served_second :
    (l2tpLinkRun calmLinkEnv [({}, false), ({}, false)]
      [.open 0, .ctrlConnected 0, .open 1]).Served calmLinkEnv :=
  tunnels_run calmLinkEnv [({}, false), ({}, false)]
    ⟨trivial, ⟨{ state := .connecting, opened := true, tun := some 0 }, by decide, rfl⟩, trivial,
      trivial⟩

/-- A link that closes before the connection comes up leaves a tunnel without its flag, and the
next link on it waits for ever. -/
theorem not_served :
    ¬ ∀ (env : L2tpLinkEnv) (confs : List (L2tpLinkConf × Bool)) (events : List L2tpLinkEvent),
      (l2tpLinkRun env confs events).Served env := by
  intro always
  have served := always calmLinkEnv [({}, false), ({}, false)]
    [.open 0, .close 0, .ctrlConnected 0]
  have waits := served.session 1 { conf := {} }
    { conf := {}, state := .connecting, opened := true, tun := some 0 } 0 (by decide) rfl rfl
    (by decide) rfl (by decide)
  cases waits

end Mpd
