import Mpd.Pptp.Moves

/-! The pending replies of the PPTP connections, their counts and the call ids: what holds of
them in every run. -/

set_option autoImplicit false

namespace Mpd

theorem perm_cons_filter_ne {α β : Type} [DecidableEq β] (f : α → β) {xs : List α}
    (distinct : (xs.map f).Nodup) {x : α} (member : x ∈ xs) :
    xs.Perm (x :: xs.filter fun y => f y ≠ f x) := by
  induction xs with
  | nil => cases member
  | cons y ys ih =>
      rw [List.map_cons, List.nodup_cons] at distinct
      obtain ⟨away, rest⟩ := distinct
      rcases List.mem_cons.mp member with rfl | later
      · have all : ys.filter (fun z => f z ≠ f x) = ys := by
          refine List.filter_eq_self.mpr fun z listed => ?_
          have other : f z ≠ f x := fun same => away (List.mem_map.mpr ⟨z, listed, same⟩)
          simpa using other
        rw [List.filter_cons_of_neg (by simp), all]
      · have other : f y ≠ f x := fun same => away (same ▸ List.mem_map_of_mem later)
        rw [List.filter_cons_of_pos (by simpa using other)]
        exact ((ih rest later).cons y).trans (List.Perm.swap ..)

namespace PptpWorld

structure Recorded (w : PptpWorld) : Prop where
  cids : (w.chans.map (·.cid)).Nodup
  marked : ∀ ch ∈ w.chans, w.gCallIds ch.cid = true
  addrs : (w.chans.map (·.addr)).Nodup
  fresh : ∀ ch ∈ w.chans, ch.addr < w.nextChan
  placed : ∀ ch ∈ w.chans, ch.ctrl < w.nextCtrl
  numbered : ∀ c ∈ w.ctrls, c.addr < w.nextCtrl
  counts : ∀ c ∈ w.ctrls, c.active_sessions = w.chans.countP (·.ctrl = c.addr)
  live : ∀ prep ∈ w.reps, ∀ ch, prep.chan = some ch →
    ∃ chan ∈ w.chans, chan.addr = ch ∧ chan.ctrl = prep.ctrl
  named : ∀ prep ∈ w.reps, (gPptpMsgInfo prep.request).killCtrl = false → prep.chan ≠ none
  followed : w.nullChan = false

variable {w v : PptpWorld}

theorem Recorded.same (kept : w.Recorded) (chans : v.chans = w.chans) (ctrls : v.ctrls = w.ctrls)
    (reps : v.reps = w.reps) (ids : v.gCallIds = w.gCallIds) (nextChan : v.nextChan = w.nextChan)
    (nextCtrl : v.nextCtrl = w.nextCtrl) (null : v.nullChan = w.nullChan) : v.Recorded := by
  obtain ⟨cids, marked, addrs, fresh, placed, numbered, counts, live, named, followed⟩ := kept
  refine ⟨?_, ?_, ?_, ?_, ?_, ?_, ?_, ?_, ?_, ?_⟩
  · rwa [chans]
  · rwa [chans, ids]
  · rwa [chans]
  · rwa [chans, nextChan]
  · rwa [chans, nextCtrl]
  · rwa [ctrls, nextCtrl]
  · rwa [ctrls, chans]
  · rwa [reps, chans]
  · rwa [reps]
  · rwa [null]

theorem Recorded.tell (kept : w.Recorded) (ch : Nat) (note : PptpNote) :
    (w.tell ch note).Recorded :=
  kept.same rfl rfl rfl rfl rfl rfl rfl

theorem Recorded.setCtrl (kept : w.Recorded) (c : Nat) {f : PptpCtrl → PptpCtrl}
    (same : ∀ ctrl, (f ctrl).addr = ctrl.addr ∧
      (f ctrl).active_sessions = ctrl.active_sessions) : (w.setCtrl c f).Recorded := by
  have changed : ∀ ctrl ∈ (w.setCtrl c f).ctrls, ∃ before ∈ w.ctrls,
      ctrl.addr = before.addr ∧ ctrl.active_sessions = before.active_sessions := by
    intro ctrl member
    obtain ⟨before, listed, rfl⟩ := List.mem_map.mp member
    refine ⟨before, listed, ?_⟩
    split
    · exact same before
    · exact ⟨rfl, rfl⟩
  refine { kept with numbered := fun ctrl member => ?_, counts := fun ctrl member => ?_ }
  · obtain ⟨before, listed, addr, -⟩ := changed ctrl member
    rw [addr]
    exact kept.numbered before listed
  · obtain ⟨before, listed, addr, count⟩ := changed ctrl member
    rw [addr, count]
    exact kept.counts before listed

/-- A field that the change of a channel keeps is the same in the list. -/
theorem map_setChan (w : PptpWorld) (ch : Nat) {f : PptpChan → PptpChan} {α : Type}
    (g : PptpChan → α) (same : ∀ chan, g (f chan) = g chan) :
    (w.setChan ch f).chans.map g = w.chans.map g := by
  unfold PptpWorld.setChan
  rw [List.map_map]
  apply List.map_congr_left
  intro chan _
  dsimp only [Function.comp_apply]
  split
  · exact same chan
  · rfl

/-- A channel after a change comes from one before it with the same fields. -/
theorem mem_of_mem_setChan {ch : Nat} {f : PptpChan → PptpChan} {α : Type} {g : PptpChan → α}
    (same : ∀ chan, g (f chan) = g chan) {chan : PptpChan}
    (member : chan ∈ (w.setChan ch f).chans) : ∃ before ∈ w.chans, g chan = g before := by
  have listed := List.mem_map_of_mem (f := g) member
  rw [map_setChan w ch g same] at listed
  obtain ⟨before, there, equal⟩ := List.mem_map.mp listed
  exact ⟨before, there, equal.symm⟩

/-- A channel before a change is there after it with the same fields. -/
theorem exists_mem_setChan (ch : Nat) {f : PptpChan → PptpChan} {α : Type} {g : PptpChan → α}
    (same : ∀ chan, g (f chan) = g chan) {chan : PptpChan} (member : chan ∈ w.chans) :
    ∃ after ∈ (w.setChan ch f).chans, g after = g chan := by
  have listed := List.mem_map_of_mem (f := g) member
  rw [← map_setChan w ch g same] at listed
  exact List.mem_map.mp listed

theorem Recorded.setChan (kept : w.Recorded) (ch : Nat) {f : PptpChan → PptpChan}
    (same : ∀ chan, (f chan).addr = chan.addr ∧ (f chan).ctrl = chan.ctrl ∧
      (f chan).cid = chan.cid) : (w.setChan ch f).Recorded := by
  have addr : ∀ chan, (f chan).addr = chan.addr := fun chan => (same chan).1
  have ctrl : ∀ chan, (f chan).ctrl = chan.ctrl := fun chan => (same chan).2.1
  have cid : ∀ chan, (f chan).cid = chan.cid := fun chan => (same chan).2.2
  refine { kept with
    cids := ?_, marked := ?_, addrs := ?_, fresh := ?_, placed := ?_, counts := ?_, live := ?_ }
  · rw [map_setChan w ch _ cid]
    exact kept.cids
  · intro chan member
    obtain ⟨before, listed, same⟩ := mem_of_mem_setChan cid member
    rw [same]
    exact kept.marked before listed
  · rw [map_setChan w ch _ addr]
    exact kept.addrs
  · intro chan member
    obtain ⟨before, listed, same⟩ := mem_of_mem_setChan addr member
    rw [same]
    exact kept.fresh before listed
  · intro chan member
    obtain ⟨before, listed, same⟩ := mem_of_mem_setChan ctrl member
    rw [same]
    exact kept.placed before listed
  · intro c member
    have counts := kept.counts c member
    have each : ∀ chans : List PptpChan, chans.countP (·.ctrl = c.addr) =
        (chans.map (·.ctrl)).countP (· = c.addr) := by
      intro chans
      rw [List.countP_map, Function.comp_def]
    rw [each] at counts ⊢
    rw [map_setChan w ch _ ctrl]
    exact counts
  · intro prep member a named
    obtain ⟨chan, listed, rfl, home⟩ := kept.live prep member a named
    have both : ∀ chan, ((f chan).addr, (f chan).ctrl) = (chan.addr, chan.ctrl) :=
      fun chan => Prod.ext (addr chan) (ctrl chan)
    obtain ⟨after, there, equal⟩ :=
      exists_mem_setChan (g := fun chan => (chan.addr, chan.ctrl)) ch both listed
    obtain ⟨its, placed⟩ := Prod.mk.inj equal
    exact ⟨after, there, its, placed.trans home⟩

theorem Recorded.expect (kept : w.Recorded) {prep : PptpPendRep}
    (live : ∀ ch, prep.chan = some ch → ∃ chan ∈ w.chans, chan.addr = ch ∧
      chan.ctrl = prep.ctrl)
    (named : (gPptpMsgInfo prep.request).killCtrl = true ∨ prep.chan ≠ none) :
    ({ w with reps := prep :: w.reps } : PptpWorld).Recorded := by
  refine { kept with live := fun other member => ?_, named := fun other member => ?_ }
  · rcases List.mem_cons.mp member with rfl | old
    · exact live
    · exact kept.live other old
  · rcases List.mem_cons.mp member with rfl | old
    · intro closes
      rcases named with kills | named
      · rw [closes] at kills
        cases kills
      · exact named
    · exact kept.named other old

/-- Pending replies may go. -/
theorem Recorded.forget (kept : w.Recorded) {reps : List PptpPendRep}
    (fewer : ∀ prep ∈ reps, prep ∈ w.reps) : ({ w with reps := reps } : PptpWorld).Recorded :=
  { kept with
    live := fun prep member => kept.live prep (fewer prep member)
    named := fun prep member => kept.named prep (fewer prep member) }

theorem Recorded.dropCtrl (kept : w.Recorded) (c : Nat) :
    ({ w with ctrls := w.ctrls.filter (·.addr ≠ c), reps := w.reps.filter (·.ctrl ≠ c) } :
      PptpWorld).Recorded := by
  have forgot : ({ w with reps := w.reps.filter (·.ctrl ≠ c) } : PptpWorld).Recorded :=
    kept.forget fun prep member => (List.mem_filter.mp member).1
  exact { forgot with
    numbered := fun ctrl member => kept.numbered ctrl (List.mem_filter.mp member).1
    counts := fun ctrl member => kept.counts ctrl (List.mem_filter.mp member).1 }

theorem Recorded.kill (kept : w.Recorded) (ch : Nat) : (pptpCtrlKillChan w ch).Recorded := by
  unfold pptpCtrlKillChan
  cases found : w.chan? ch with
  | none => exact kept
  | some chan =>
      obtain ⟨member, its⟩ := chan?_mem found
      dsimp only
      have told : (if chan.cookie then w.tell ch (if chan.state = .waitAnswer then .cancel
          else .failed) else w).Recorded := by
        split
        · exact kept.tell ch _
        · exact kept
      have there : chan ∈ (if chan.cookie then w.tell ch (if chan.state = .waitAnswer then .cancel
          else .failed) else w).chans := by
        split <;> exact member
      generalize (if chan.cookie then w.tell ch (if chan.state = .waitAnswer then .cancel
        else .failed) else w) = t at told there ⊢
      have rest : t.chans.Perm (chan :: t.chans.filter (·.addr ≠ ch)) := by
        rw [← its]
        exact perm_cons_filter_ne _ told.addrs there
      have cids := (rest.map (·.cid)).nodup_iff.mp told.cids
      rw [List.map_cons, List.nodup_cons] at cids
      refine ⟨cids.2, fun other listed => ?_, ?_, fun other listed => ?_, fun other listed => ?_,
        fun c listed => ?_, fun c listed => ?_, fun prep listed a named => ?_,
        fun prep listed => ?_, told.followed⟩
      · have differs : other.cid ≠ chan.cid :=
          fun same => cids.1 (same ▸ List.mem_map_of_mem listed)
        change Function.update t.gCallIds chan.cid false other.cid = true
        rw [Function.update_of_ne differs]
        exact told.marked other (List.mem_filter.mp listed).1
      · exact told.addrs.sublist (List.filter_sublist.map _)
      · exact told.fresh other (List.mem_filter.mp listed).1
      · exact told.placed other (List.mem_filter.mp listed).1
      · obtain ⟨before, old, rfl⟩ := List.mem_map.mp listed
        have numbered := told.numbered before old
        split <;> exact numbered
      · obtain ⟨before, old, rfl⟩ := List.mem_map.mp listed
        have counts := told.counts before old
        rw [rest.countP_eq, List.countP_cons] at counts
        split
        · rename_i home
          rw [if_pos (decide_eq_true home.symm)] at counts
          change before.active_sessions - 1 =
            (((t.chans.filter (·.addr ≠ ch)).countP (·.ctrl = before.addr) : Nat) : Int)
          omega
        · rename_i away
          rw [if_neg (by simpa using fun same => away (Eq.symm same))] at counts
          exact counts
      · obtain ⟨old, others⟩ := List.mem_filter.mp listed
        obtain ⟨other, known, addr, ctrl⟩ := told.live prep old a named
        refine ⟨other, List.mem_filter.mpr ⟨known, ?_⟩, addr, ctrl⟩
        -- a record of the channel itself is gone with it
        have differs : other.addr ≠ ch := by
          intro same
          have both := List.inj_on_of_nodup_map told.addrs known there (same.trans its.symm)
          subst both
          simp [← ctrl, named, ← addr, same] at others
        simpa using differs
      · exact told.named prep (List.mem_filter.mp listed).1

theorem Recorded.newCtrl (kept : w.Recorded) (orig : Bool) (self_addr peer_addr peer_port : Nat) :
    (pptpNewCtrl w orig self_addr peer_addr peer_port).Recorded := by
  unfold pptpNewCtrl
  dsimp only
  generalize ((List.range w.ctrls.length).find? _).getD w.ctrls.length = id
  have listed : ∀ c ∈ w.ctrls.orderedInsert (·.id ≤ ·.id)
      { addr := w.nextCtrl, id := id, orig := orig, self_addr := self_addr,
        peer_addr := peer_addr, peer_port := peer_port : PptpCtrl },
      (c.addr = w.nextCtrl ∧ c.active_sessions = 0) ∨ c ∈ w.ctrls := by
    intro c member
    rcases List.mem_cons.mp ((List.perm_orderedInsert _ _ _).mem_iff.mp member) with rfl | old
    · exact .inl ⟨rfl, rfl⟩
    · exact .inr old
  refine { kept with
    placed := fun ch member => Nat.lt_succ_of_lt (kept.placed ch member)
    numbered := fun c member => ?_, counts := fun c member => ?_ }
  · rcases listed c member with ⟨new, -⟩ | old
    · rw [new]
      exact Nat.lt_succ_self _
    · exact Nat.lt_succ_of_lt (kept.numbered c old)
  · rcases listed c member with ⟨new, none⟩ | old
    · rw [new, none]
      symm
      rw [show (0 : Int) = ((0 : Nat) : Int) from rfl, Int.natCast_inj]
      refine List.countP_eq_zero.mpr fun ch there its => ?_
      have below := kept.placed ch there
      rw [of_decide_eq_true its] at below
      exact absurd below (Nat.lt_irrefl _)
    · exact kept.counts c old

theorem Recorded.getChan (kept : w.Recorded) {c : Nat} {ctrl : PptpCtrl}
    (known : w.ctrl? c = some ctrl) (state : PptpChanState) (orig incoming : Bool) :
    (pptpCtrlGetChan w c state orig incoming).2.Recorded := by
  obtain ⟨home, its⟩ := ctrl?_addr known
  rcases getChan_cases w c state orig incoming with
    hangs | ⟨new, ⟨newAddr, newCtrl, -, -⟩, unused, makes⟩
  · rw [hangs]
    exact kept.same rfl rfl rfl rfl rfl rfl rfl
  · rw [makes]
    have perm := List.perm_orderedInsert (fun a b : PptpChan => a.id ≤ b.id) new w.chans
    generalize w.chans.orderedInsert (fun a b : PptpChan => a.id ≤ b.id) new = chans at perm ⊢
    have either : ∀ ch ∈ chans, ch = new ∨ ch ∈ w.chans :=
      fun ch member => List.mem_cons.mp (perm.mem_iff.mp member)
    refine ⟨?_, fun ch member => ?_, ?_, fun ch member => ?_, fun ch member => ?_,
      fun other member => ?_, fun other member => ?_, fun prep member a named => ?_,
      kept.named, kept.followed⟩
    · refine (perm.map _).nodup_iff.mpr (List.nodup_cons.mpr ⟨fun taken => ?_, kept.cids⟩)
      obtain ⟨ch, there, same⟩ := List.mem_map.mp taken
      have marked := kept.marked ch there
      rw [same, unused] at marked
      cases marked
    · change Function.update w.gCallIds new.cid true ch.cid = true
      rcases either ch member with rfl | old
      · exact Function.update_self ..
      · by_cases same : ch.cid = new.cid
        · rw [same]
          exact Function.update_self ..
        · rw [Function.update_of_ne same]
          exact kept.marked ch old
    · refine (perm.map _).nodup_iff.mpr (List.nodup_cons.mpr ⟨fun taken => ?_, kept.addrs⟩)
      obtain ⟨ch, there, same⟩ := List.mem_map.mp taken
      have below := kept.fresh ch there
      rw [same] at below
      exact absurd below (Nat.not_lt.mpr (Nat.le_of_eq newAddr.symm))
    · rcases either ch member with rfl | old
      · rw [newAddr]
        exact Nat.lt_succ_self _
      · exact Nat.lt_succ_of_lt (kept.fresh ch old)
    · rcases either ch member with rfl | old
      · rw [newCtrl, ← its]
        exact kept.numbered ctrl home
      · exact kept.placed ch old
    · obtain ⟨before, old, rfl⟩ := List.mem_map.mp member
      have numbered := kept.numbered before old
      split <;> exact numbered
    · obtain ⟨before, old, rfl⟩ := List.mem_map.mp member
      have counts := kept.counts before old
      have grown := perm.countP_eq fun ch => decide (ch.ctrl = before.addr)
      rw [List.countP_cons] at grown
      split
      · rename_i here
        rw [if_pos (decide_eq_true (newCtrl.trans here.symm))] at grown
        change before.active_sessions + 1 =
          ((chans.countP fun ch => decide (ch.ctrl = before.addr) : Nat) : Int)
        omega
      · rename_i away
        have elsewhere : ¬decide (new.ctrl = before.addr) = true :=
          fun same => away ((of_decide_eq_true same).symm.trans newCtrl)
        rw [if_neg elsewhere] at grown
        change before.active_sessions =
          ((chans.countP fun ch => decide (ch.ctrl = before.addr) : Nat) : Int)
        omega
    · obtain ⟨chan, there, addr, its⟩ := kept.live prep member a named
      exact ⟨chan, perm.mem_iff.mpr (List.mem_cons_of_mem _ there), addr, its⟩

theorem Recorded.move {refusals : Prop} (kept : w.Recorded) (move : PptpMove refusals w v) :
    v.Recorded := by
  cases move with
  | kill ch => exact kept.kill ch
  | dropCtrl c => exact kept.dropCtrl c
  | setCtrl c f same => exact kept.setCtrl c same
  | setChan ch f same =>
      exact kept.setChan ch fun chan => ⟨(same chan).1, (same chan).2.1, (same chan).2.2.1⟩
  | expect prep live named => exact kept.expect live named
  | answered prep => exact kept.forget fun other member => List.mem_of_mem_erase member
  | asked => exact kept.same rfl rfl rfl rfl rfl rfl rfl
  | send => exact kept.same rfl rfl rfl rfl rfl rfl rfl
  | hang => exact kept.same rfl rfl rfl rfl rfl rfl rfl
  | newCtrl => exact kept.newCtrl ..
  | getChan state orig incoming known => exact kept.getChan known state orig incoming
  | take live free peerCid =>
      have linked : ∀ ch : Nat, ({ w with linked := ch :: w.linked } : PptpWorld).Recorded :=
        fun _ => kept.same rfl rfl rfl rfl rfl rfl rfl
      exact (linked _).setChan _ fun _ => ⟨rfl, rfl, rfl⟩
  | tell => exact kept.tell ..
  | refuse => exact kept.tell ..

theorem Recorded.moves {refusals : Prop} (kept : w.Recorded) (moves : PptpMoves refusals w v) :
    v.Recorded := by
  induction moves with
  | refl => exact kept
  | tail _ move ih => exact ih.move move

end PptpWorld

theorem recorded_run (env : PptpEnv) (events : List PptpEvent) :
    (pptpRun env events).Recorded := by
  have step : ∀ w event, w.Recorded → True → (pptpStep env w event).Recorded := by
    intro w event kept _
    have moves : PptpMoves True w (pptpStep env w event) :=
      moves_pptpStep env .refl event (fun _ => trivial) kept.named
    exact kept.moves moves
  have initial : (pptpCtrlInit env).Recorded :=
    ⟨List.nodup_nil, nofun, List.nodup_nil, nofun, nofun, nofun, nofun, nofun, nofun, rfl⟩
  exact Transition.invariant_run (pptpStep env) step initial
    (Transition.meets_of_forall (pptpStep env) (fun _ _ => trivial) _ events)

/-- A pending reply is about no channel or a live one of its connection, and has one where a
timeout would close it; no null pointer is followed; the counts are right; and the call ids of
the live channels are distinct and in use. -/
theorem pendingReplies_run (env : PptpEnv) (events : List PptpEvent) :
    (∀ prep ∈ (pptpRun env events).reps, ∀ ch, prep.chan = some ch →
      ∃ chan ∈ (pptpRun env events).channels prep.ctrl, chan.addr = ch) ∧
    (∀ prep ∈ (pptpRun env events).reps, (gPptpMsgInfo prep.request).killCtrl = false →
      prep.chan ≠ none) ∧
    (pptpRun env events).nullChan = false ∧
    (∀ c ∈ (pptpRun env events).ctrls,
      c.active_sessions = ((pptpRun env events).channels c.addr).length) ∧
    ((pptpRun env events).chans.map (·.cid)).Nodup ∧
    ∀ ch ∈ (pptpRun env events).chans, (pptpRun env events).gCallIds ch.cid = true := by
  have kept := recorded_run env events
  refine ⟨fun prep member ch named => ?_, kept.named, kept.followed, fun c member => ?_,
    kept.cids, kept.marked⟩
  · obtain ⟨chan, there, addr, ctrl⟩ := kept.live prep member ch named
    exact ⟨chan, List.mem_filter.mpr ⟨there, by simpa using ctrl⟩, addr⟩
  · rw [kept.counts c member, List.countP_eq_length_filter]
    rfl

end Mpd
