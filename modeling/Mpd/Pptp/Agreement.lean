import Mathlib.Data.List.Find
import Mpd.Pptp.Dying
import Mpd.Pptp.FindChan

/-! The two models of a control connection. As long as the dead stay dead, a connection whose killed
channels are kept in memory does what one does whose killed channels are gone. -/

set_option autoImplicit false

namespace Mpd.PptpDying

section Relation

def ofChan (chan : PptpChan) : Chan :=
  ⟨.live chan.state, chan.orig, chan.incoming, chan.cid, chan.peerCid, chan.cookie⟩

/-- The connection `k` of a world has the channels, the records and the writes of `c`, and `rest`
are the channels of the other connections. What is in memory and not in the world is dead. -/
structure SeesChans (rest : List PptpChan) (k : Nat) (w : PptpWorld) (c : Ctrl) : Prop where
  placed : w.Placed
  addrs : (w.chans.map (·.addr)).Nodup
  fresh : ∀ chan ∈ w.chans, chan.addr < w.nextChan
  others : w.chans.filter (·.ctrl ≠ k) = rest
  array : ∀ i ch, c.channels[i]? = some (some ch) ↔
    ∃ chan ∈ w.channels k, chan.id = i ∧ chan.addr = ch
  mem : ∀ chan ∈ w.channels k, c.mem chan.addr = ofChan chan
  gone : ∀ ch, (∀ chan ∈ w.channels k, chan.addr ≠ ch) → (c.mem ch).state = .dying
  reps : w.reps.filter (·.ctrl = k) = c.reps.map fun prep => ⟨k, prep.request, prep.chan⟩
  gCallIds : w.gCallIds = c.gCallIds
  gLastCallId : w.gLastCallId = c.gLastCallId
  next : w.nextChan = c.next
  asked : w.asked = c.asked
  sent : (w.sent.filter (·.1 = k)).map (·.2) = c.sent
  told : w.told = c.told

/-- The connection itself: one that was killed is gone. -/
def SeesCtrl (k : Nat) (w : PptpWorld) (c : Ctrl) : Prop :=
  match c.state with
  | .live state => ∃ ctrl, w.ctrl? k = some ctrl ∧ ctrl.state = state ∧ ctrl.echoId = c.echoId ∧
      ctrl.unused_timer = c.unused_timer ∧ ctrl.active_sessions = c.active_sessions
  | .dying => w.ctrl? k = none ∧ w.channels k = [] ∧ c.reps = []

theorem seesCtrl_live {k : Nat} {w : PptpWorld} {c : Ctrl} {state : PptpCtrlState}
    (live : c.state = .live state) : SeesCtrl k w c ↔
      ∃ ctrl, w.ctrl? k = some ctrl ∧ ctrl.state = state ∧ ctrl.echoId = c.echoId ∧
        ctrl.unused_timer = c.unused_timer ∧ ctrl.active_sessions = c.active_sessions := by
  unfold SeesCtrl
  rw [live]

theorem seesCtrl_dying {k : Nat} {w : PptpWorld} {c : Ctrl} (dying : c.state = .dying) :
    SeesCtrl k w c ↔ w.ctrl? k = none ∧ w.channels k = [] ∧ c.reps = [] := by
  unfold SeesCtrl
  rw [dying]

/-- The world has the connection as it is in memory. -/
structure Sees (rest : List PptpChan) (k : Nat) (w : PptpWorld) (c : Ctrl) : Prop
    extends SeesChans rest k w c where
  ctrl : SeesCtrl k w c

end Relation

/-- The values of an array in their order, where each stands at a place of its own. -/
theorem map_eq_reduceOption {α β : Type} {place : α → Nat} {value : α → β} {slots : List (Option β)}
    {xs : List α} {n : Nat} (sorted : xs.Pairwise fun x y => place x < place y)
    (above : ∀ x ∈ xs, n ≤ place x)
    (array : ∀ i b, slots[i]? = some (some b) ↔ ∃ x ∈ xs, place x = n + i ∧ value x = b) :
    xs.map value = slots.reduceOption := by
  induction slots generalizing xs n with
  | nil =>
      cases xs with
      | nil => rfl
      | cons x xs =>
          have below := above x List.mem_cons_self
          have slot := (array (place x - n) (value x)).mpr ⟨x, List.mem_cons_self, by omega, rfl⟩
          cases slot
  | cons slot slots ih =>
      cases slot with
      | none =>
          rw [List.reduceOption_cons_of_none]
          apply @ih xs (n + 1) sorted
          · intro x member
            have below := above x member
            by_contra first
            cases (array 0 (value x)).mpr ⟨x, member, by omega, rfl⟩
          · intro i b
            have later := array (i + 1) b
            rw [List.getElem?_cons_succ] at later
            rw [later, Nat.add_right_comm, Nat.add_assoc]
      | some b =>
          obtain ⟨x, member, place_eq, rfl⟩ := (array 0 b).mp rfl
          cases xs with
          | nil => cases member
          | cons y ys =>
              obtain ⟨least, sorted'⟩ := List.pairwise_cons.mp sorted
              have same : x = y := by
                cases List.mem_cons.mp member with
                | inl same => exact same
                | inr later =>
                    have less := least x later
                    have below := above y List.mem_cons_self
                    omega
              subst same
              rw [List.reduceOption_cons_of_some, List.map_cons]
              congr 1
              apply @ih ys (n + 1) sorted'
              · intro z later
                have less := least z later
                omega
              · intro i b
                have later := array (i + 1) b
                rw [List.getElem?_cons_succ] at later
                rw [later]
                constructor
                · rintro ⟨z, member, place_z, value_z⟩
                  cases List.mem_cons.mp member with
                  | inl first =>
                      subst first
                      omega
                  | inr behind => exact ⟨z, behind, by omega, value_z⟩
                · rintro ⟨z, behind, place_z, value_z⟩
                  exact ⟨z, List.mem_cons_of_mem _ behind, by omega, value_z⟩

section Channels

variable {rest : List PptpChan} {k : Nat} {w : PptpWorld} {c : Ctrl} {ch : Nat} {chan : PptpChan}

theorem mem_channels : chan ∈ w.channels k ↔ chan ∈ w.chans ∧ chan.ctrl = k := by
  unfold PptpWorld.channels
  rw [List.mem_filter, decide_eq_true_eq]

theorem SeesChans.mem_state (sees : SeesChans rest k w c) (member : chan ∈ w.channels k) :
    (c.mem chan.addr).state = .live chan.state := congrArg Chan.state (sees.mem chan member)

theorem SeesChans.mem_cookie (sees : SeesChans rest k w c) (member : chan ∈ w.channels k) :
    (c.mem chan.addr).cookie = chan.cookie := congrArg Chan.cookie (sees.mem chan member)

theorem SeesChans.mem_cid (sees : SeesChans rest k w c) (member : chan ∈ w.channels k) :
    (c.mem chan.addr).cid = chan.cid := congrArg Chan.cid (sees.mem chan member)

theorem SeesChans.mem_peerCid (sees : SeesChans rest k w c) (member : chan ∈ w.channels k) :
    (c.mem chan.addr).peerCid = chan.peerCid := congrArg Chan.peerCid (sees.mem chan member)

theorem SeesChans.mem_orig (sees : SeesChans rest k w c) (member : chan ∈ w.channels k) :
    (c.mem chan.addr).orig = chan.orig := congrArg Chan.orig (sees.mem chan member)

theorem SeesChans.mem_incoming (sees : SeesChans rest k w c) (member : chan ∈ w.channels k) :
    (c.mem chan.addr).incoming = chan.incoming := congrArg Chan.incoming (sees.mem chan member)

theorem SeesChans.mem_isPns (sees : SeesChans rest k w c) (member : chan ∈ w.channels k) :
    (c.mem chan.addr).isPns = chan.isPns := congrArg Chan.isPns (sees.mem chan member)

/-- A channel that is no other connection's is found if it is one of this. -/
theorem SeesChans.chan?_iff (sees : SeesChans rest k w c) (own : ∀ other ∈ rest, other.addr ≠ ch) :
    w.chan? ch = some chan ↔ chan ∈ w.channels k ∧ chan.addr = ch := by
  rw [mem_channels]
  constructor
  · intro found
    obtain ⟨member, addr⟩ := chan?_mem found
    refine ⟨⟨member, ?_⟩, addr⟩
    by_contra away
    have other : chan ∈ rest := by
      rw [← sees.others]
      exact List.mem_filter.mpr ⟨member, by simpa using away⟩
    exact own chan other addr
  · rintro ⟨⟨member, -⟩, addr⟩
    cases found : w.chan? ch with
    | none =>
        have absent := List.find?_eq_none.mp found chan member
        exact absurd addr (by simpa using absent)
    | some first =>
        obtain ⟨member', addr'⟩ := chan?_mem found
        rw [List.inj_on_of_nodup_map sees.addrs member' member (addr'.trans addr.symm)]

theorem SeesChans.chan?_none (sees : SeesChans rest k w c) (found : w.chan? ch = none) :
    (c.mem ch).state = .dying := by
  apply sees.gone
  intro chan member
  have absent := List.find?_eq_none.mp found chan (mem_channels.mp member).1
  simpa using absent

theorem mem_listed {c : Ctrl} : ch ∈ c.listed ↔ ∃ i : Nat, c.channels[i]? = some (some ch) := by
  unfold Ctrl.listed
  rw [List.reduceOption_mem_iff, List.mem_iff_getElem?]

theorem SeesChans.mem_listed_iff (sees : SeesChans rest k w c) :
    ch ∈ c.listed ↔ ∃ chan ∈ w.channels k, chan.addr = ch := by
  rw [mem_listed]
  constructor
  · rintro ⟨i, slot⟩
    obtain ⟨chan, member, -, addr⟩ := (sees.array i ch).mp slot
    exact ⟨chan, member, addr⟩
  · rintro ⟨chan, member, addr⟩
    exact ⟨chan.id, (sees.array chan.id ch).mpr ⟨chan, member, rfl, addr⟩⟩

/-- The channels stand in the order of the array. -/
theorem SeesChans.listed_eq (sees : SeesChans rest k w c) :
    (w.channels k).map (·.addr) = c.listed := by
  have sorted : (w.channels k).Pairwise fun one other => one.id < other.id := by
    have places := List.pairwise_map.mp (sees.placed.slots k)
    have order := sees.placed.sorted.sublist (List.filter_sublist (p := fun ch => ch.ctrl = k))
    exact (order.and places).imp fun both => Nat.lt_of_le_of_ne both.1 both.2
  refine @map_eq_reduceOption _ _ PptpChan.id PptpChan.addr _ _ 0 sorted
    (fun _ _ => Nat.zero_le _) ?_
  intro i ch
  rw [sees.array i ch, Nat.zero_add]

theorem tryCid_ofChan (how : PptpFind) (chan : PptpChan) :
    (ofChan chan).tryCid how = how.tryCid chan := by
  cases how <;> rfl

/-- The same channel is found. -/
theorem SeesChans.findChan_eq (sees : SeesChans rest k w c) (msg : PptpMsg) (incoming : Bool) :
    pptpCtrlFindChan c msg incoming = (Mpd.pptpCtrlFindChan w k msg incoming).map (·.addr) := by
  unfold pptpCtrlFindChan Mpd.pptpCtrlFindChan
  cases (if incoming then (gPptpMsgInfo msg.type).findIn
    else (gPptpMsgInfo msg.type).findOut) with
  | none => rfl
  | some how =>
      dsimp only
      rw [← sees.listed_eq, List.find?_map]
      congr 1
      apply List.find?_congr
      intro chan member
      rw [Function.comp_apply, sees.mem chan member, tryCid_ofChan]

end Channels

section Changes

variable {rest : List PptpChan} {k : Nat} {w : PptpWorld} {c : Ctrl} {ch : Nat} {chan : PptpChan}

/-- What does not touch the channels keeps them in sight. -/
theorem SeesChans.same {v : PptpWorld} {d : Ctrl} (sees : SeesChans rest k w c)
    (chans : v.chans = w.chans) (nextChan : v.nextChan = w.nextChan)
    (gCallIds : v.gCallIds = w.gCallIds) (gLastCallId : v.gLastCallId = w.gLastCallId)
    (channels : d.channels = c.channels) (mem : d.mem = c.mem) (next : d.next = c.next)
    (callIds : d.gCallIds = c.gCallIds) (lastCallId : d.gLastCallId = c.gLastCallId)
    (reps : v.reps.filter (·.ctrl = k) = d.reps.map fun prep => ⟨k, prep.request, prep.chan⟩)
    (asked : v.asked = d.asked) (sent : (v.sent.filter (·.1 = k)).map (·.2) = d.sent)
    (told : v.told = d.told) : SeesChans rest k v d := by
  have listed : v.channels k = w.channels k := by
    unfold PptpWorld.channels
    rw [chans]
  refine ⟨sees.placed.same chans, ?_, ?_, ?_, ?_, ?_, ?_, reps, ?_, ?_, ?_, asked, sent, told⟩
  · rw [chans]
    exact sees.addrs
  · rw [chans, nextChan]
    exact sees.fresh
  · rw [chans]
    exact sees.others
  · rw [channels, listed]
    exact sees.array
  · rw [mem, listed]
    exact sees.mem
  · rw [mem, listed]
    exact sees.gone
  · rw [gCallIds, callIds]
    exact sees.gCallIds
  · rw [gLastCallId, lastCallId]
    exact sees.gLastCallId
  · rw [nextChan, next]
    exact sees.next

theorem SeesCtrl.same {v : PptpWorld} {d : Ctrl} (ctrl : SeesCtrl k w c)
    (ctrls : v.ctrls = w.ctrls) (chans : v.chans = w.chans) (state : d.state = c.state)
    (echoId : d.echoId = c.echoId) (unused_timer : d.unused_timer = c.unused_timer)
    (active_sessions : d.active_sessions = c.active_sessions)
    (reps : c.reps = [] → d.reps = []) : SeesCtrl k v d := by
  unfold SeesCtrl PptpWorld.ctrl? PptpWorld.channels at ctrl ⊢
  rw [ctrls, chans, state, echoId, unused_timer, active_sessions]
  cases own : c.state with
  | live state =>
      rw [own] at ctrl
      exact ctrl
  | dying =>
      rw [own] at ctrl
      exact ⟨ctrl.1, ctrl.2.1, reps ctrl.2.2⟩

theorem Sees.ask (sees : Sees rest k w c) (env : PptpEnv) :
    (w.ask env).1 = env.answer c.asked ∧
      Sees rest k (w.ask env).2 { c with asked := c.asked + 1 } := by
  refine ⟨congrArg env.answer sees.asked, ?_, sees.ctrl.same rfl rfl rfl rfl rfl rfl fun none => none⟩
  exact sees.toSeesChans.same rfl rfl rfl rfl rfl rfl rfl rfl rfl sees.reps
    (congrArg (· + 1) sees.asked) sees.sent sees.told

theorem Sees.tell (sees : Sees rest k w c) (ch : Nat) (note : PptpNote) :
    Sees rest k (w.tell ch note) (c.tell ch note) := by
  refine ⟨?_, sees.ctrl.same rfl rfl rfl rfl rfl rfl fun none => none⟩
  exact sees.toSeesChans.same rfl rfl rfl rfl rfl rfl rfl rfl rfl sees.reps sees.asked sees.sent
    (congrArg (· ++ [(ch, note)]) sees.told)

structure Changes (f : PptpChan → PptpChan) (g : Chan → Chan) : Prop where
  same : ∀ chan, (f chan).addr = chan.addr ∧ (f chan).ctrl = chan.ctrl ∧ (f chan).id = chan.id
  alike : ∀ chan, ofChan (f chan) = g (ofChan chan)

theorem SeesChans.setChan {f : PptpChan → PptpChan} {g : Chan → Chan}
    (sees : SeesChans rest k w c) (changes : Changes f g) (member : chan ∈ w.channels k) :
    SeesChans rest k (w.setChan chan.addr f) (c.setChan chan.addr g) ∧
      f chan ∈ (w.setChan chan.addr f).channels k := by
  obtain ⟨there, home⟩ := mem_channels.mp member
  -- the channel is the only one at its address
  have only : ∀ other ∈ w.chans, other.addr = chan.addr → other = chan := fun other listed same =>
    List.inj_on_of_nodup_map sees.addrs listed there same
  have after (other : PptpChan) : other ∈ (w.setChan chan.addr f).channels k ↔
      other = f chan ∨ other ∈ w.channels k ∧ other.addr ≠ chan.addr := by
    rw [mem_channels, mem_channels]
    unfold PptpWorld.setChan
    rw [List.mem_map]
    constructor
    · rintro ⟨⟨before, listed, equal⟩, ctrl⟩
      split at equal
      · rename_i its
        rw [only before listed its] at equal
        exact .inl equal.symm
      · rename_i away
        subst equal
        exact .inr ⟨⟨listed, ctrl⟩, away⟩
    · rintro (rfl | ⟨⟨listed, ctrl⟩, away⟩)
      · exact ⟨⟨chan, there, if_pos rfl⟩, (changes.same chan).2.1.trans home⟩
      · exact ⟨⟨other, listed, if_neg away⟩, ctrl⟩
  refine ⟨⟨sees.placed.setChan _ fun other => ⟨(changes.same other).2.1, (changes.same other).2.2⟩,
    ?_, ?_, ?_, ?_, ?_, ?_, sees.reps, sees.gCallIds, sees.gLastCallId, sees.next, sees.asked,
    sees.sent, sees.told⟩, (after _).mpr (.inl rfl)⟩
  · rw [PptpWorld.map_setChan w _ _ fun other => (changes.same other).1]
    exact sees.addrs
  · intro other listed
    obtain ⟨before, listed, same⟩ :=
      PptpWorld.mem_of_mem_setChan (fun other => (changes.same other).1) listed
    rw [same]
    exact sees.fresh before listed
  · rw [← sees.others]
    unfold PptpWorld.setChan
    rw [List.filter_map]
    have unchanged : ∀ other ∈ w.chans.filter (·.ctrl ≠ k),
        (if other.addr = chan.addr then f other else other) = other := by
      intro other listed
      obtain ⟨listed, away⟩ := List.mem_filter.mp listed
      refine if_neg fun its => ?_
      rw [only other listed its, home] at away
      simp at away
    have same : (w.chans.filter fun other =>
        decide ((if other.addr = chan.addr then f other else other).ctrl ≠ k)) =
          w.chans.filter (·.ctrl ≠ k) := by
      refine List.filter_congr fun other _ => ?_
      split
      · rw [(changes.same other).2.1]
      · rfl
    change List.map _ (w.chans.filter fun other =>
      decide ((if other.addr = chan.addr then f other else other).ctrl ≠ k)) = _
    rw [same]
    exact (List.map_congr_left unchanged).trans (List.map_id _)
  · intro i ch
    rw [show (c.setChan chan.addr g).channels = c.channels from rfl, sees.array i ch]
    constructor
    · rintro ⟨other, listed, slot, addr⟩
      by_cases its : other.addr = chan.addr
      · rw [only other (mem_channels.mp listed).1 its] at slot addr
        exact ⟨f chan, (after _).mpr (.inl rfl), (changes.same chan).2.2.trans slot,
          (changes.same chan).1.trans addr⟩
      · exact ⟨other, (after _).mpr (.inr ⟨listed, its⟩), slot, addr⟩
    · rintro ⟨other, listed, slot, addr⟩
      rcases (after other).mp listed with rfl | ⟨listed, -⟩
      · exact ⟨chan, member, (changes.same chan).2.2.symm.trans slot,
          (changes.same chan).1.symm.trans addr⟩
      · exact ⟨other, listed, slot, addr⟩
  · intro other listed
    unfold Ctrl.setChan
    dsimp only
    rcases (after other).mp listed with rfl | ⟨listed, away⟩
    · rw [(changes.same chan).1, Function.update_self, changes.alike, sees.mem chan member]
    · rw [Function.update_of_ne away]
      exact sees.mem other listed
  · intro ch absent
    have away : ch ≠ chan.addr := by
      rintro rfl
      exact absent (f chan) ((after _).mpr (.inl rfl)) (changes.same chan).1
    unfold Ctrl.setChan
    dsimp only
    rw [Function.update_of_ne away]
    apply sees.gone
    rintro other listed rfl
    exact absent other ((after _).mpr (.inr ⟨listed, away⟩)) rfl

theorem Sees.live_of_mem (sees : Sees rest k w c) (member : chan ∈ w.channels k) :
    ∃ state, c.state = .live state := by
  cases own : c.state with
  | live state => exact ⟨state, rfl⟩
  | dying =>
      obtain ⟨-, empty, -⟩ := (seesCtrl_dying own).mp sees.ctrl
      rw [empty] at member
      cases member

theorem Sees.setChan {f : PptpChan → PptpChan} {g : Chan → Chan} (sees : Sees rest k w c)
    (changes : Changes f g) (member : chan ∈ w.channels k) :
    Sees rest k (w.setChan chan.addr f) (c.setChan chan.addr g) ∧
      f chan ∈ (w.setChan chan.addr f).channels k := by
  obtain ⟨chans, after⟩ := sees.toSeesChans.setChan changes member
  obtain ⟨state, live⟩ := sees.live_of_mem member
  have same : (c.setChan chan.addr g).state = .live state := live
  have ctrl := (seesCtrl_live live).mp sees.ctrl
  exact ⟨⟨chans, (seesCtrl_live same).mpr ctrl⟩, after⟩

/-- A new state of a channel. -/
theorem Sees.newChanState (sees : Sees rest k w c) (member : chan ∈ w.channels k)
    (new : PptpChanState) :
    Sees rest k (w.setChan chan.addr fun chan => { chan with state := new })
        (pptpCtrlNewChanState c chan.addr new) ∧
      { chan with state := new } ∈
        (w.setChan chan.addr fun chan => { chan with state := new }).channels k :=
  sees.setChan ⟨fun _ => ⟨rfl, rfl, rfl⟩, fun _ => rfl⟩ member

theorem ctrl?_setCtrl {f : PptpCtrl → PptpCtrl} (addr : ∀ ctrl, (f ctrl).addr = ctrl.addr) :
    (w.setCtrl k f).ctrl? k = (w.ctrl? k).map f := by
  unfold PptpWorld.setCtrl PptpWorld.ctrl?
  rw [List.find?_map]
  have alike : ((fun ctrl : PptpCtrl => decide (ctrl.addr = k)) ∘
      fun ctrl => if ctrl.addr = k then f ctrl else ctrl) = fun ctrl => decide (ctrl.addr = k) := by
    funext ctrl
    rw [Function.comp_apply]
    split
    · rw [addr]
    · rfl
  rw [alike]
  cases found : w.ctrls.find? fun ctrl => decide (ctrl.addr = k) with
  | none => rfl
  | some ctrl =>
      have its : ctrl.addr = k := by simpa using List.find?_some found
      rw [Option.map_some, Option.map_some, if_pos its]

/-- A new state of the connection. -/
theorem Sees.newCtrlState {state : PptpCtrlState} (sees : Sees rest k w c)
    (live : c.state = .live state) (new : PptpCtrlState) :
    Sees rest k (w.setCtrl k fun ctrl => { ctrl with state := new }) (pptpCtrlNewCtrlState c new) := by
  obtain ⟨ctrl, found, -, echoId, unused_timer, active_sessions⟩ :=
    (seesCtrl_live live).mp sees.ctrl
  refine ⟨?_, ?_⟩
  · exact sees.toSeesChans.same rfl rfl rfl rfl rfl rfl rfl rfl rfl sees.reps sees.asked sees.sent
      sees.told
  · refine ⟨{ ctrl with state := new }, ?_, rfl, echoId, unused_timer, active_sessions⟩
    refine (ctrl?_setCtrl ?_).trans (congrArg (Option.map _) found)
    exact fun _ => rfl

end Changes

section Killing

variable {rest : List PptpChan} {k : Nat} {w : PptpWorld} {c : Ctrl} {ch : Nat} {chan : PptpChan}

/-- What is left of a world without a channel, and of the memory where it is dead. -/
theorem SeesChans.strike {ctrls : List PptpCtrl} {timer : Bool} {active : Int}
    (sees : SeesChans rest k w c) (member : chan ∈ w.channels k) :
    SeesChans rest k
      { w with
        reps := w.reps.filter fun prep => ¬(prep.ctrl = k ∧ prep.chan = some chan.addr)
        gCallIds := Function.update w.gCallIds chan.cid false
        chans := w.chans.filter (·.addr ≠ chan.addr)
        ctrls := ctrls }
      { c.setChan chan.addr fun chan => { chan with state := .dying } with
        reps := c.reps.filter (·.chan ≠ some chan.addr)
        gCallIds := Function.update c.gCallIds chan.cid false
        channels := c.channels.map fun slot => if slot = some chan.addr then none else slot
        active_sessions := active
        unused_timer := timer } := by
  obtain ⟨there, home⟩ := mem_channels.mp member
  have after (other : PptpChan) :
      other ∈ (w.chans.filter (·.addr ≠ chan.addr)).filter (·.ctrl = k) ↔
        other ∈ w.channels k ∧ other.addr ≠ chan.addr := by
    rw [mem_channels, List.mem_filter, List.mem_filter, decide_eq_true_eq, decide_eq_true_eq]
    exact and_right_comm
  refine ⟨sees.placed.fewer List.filter_sublist, sees.addrs.sublist (List.filter_sublist.map _),
    fun other listed => sees.fresh other (List.mem_filter.mp listed).1, ?_, ?_, ?_, ?_, ?_, ?_,
    sees.gLastCallId, sees.next, sees.asked, sees.sent, sees.told⟩
  · rw [← sees.others, List.filter_filter]
    refine List.filter_congr fun other listed => ?_
    by_cases its : other.addr = chan.addr
    · have same := List.inj_on_of_nodup_map sees.addrs listed there its
      rw [same, home]
      simp
    · simp [its]
  · intro i ch
    rw [List.getElem?_map]
    constructor
    · intro slot
      obtain ⟨old, slot, kept⟩ := Option.map_eq_some_iff.mp slot
      split at kept
      · cases kept
      · rename_i other
        subst kept
        obtain ⟨found, listed, id, addr⟩ := (sees.array i ch).mp slot
        refine ⟨found, (after found).mpr ⟨listed, ?_⟩, id, addr⟩
        rw [addr]
        exact fun same => other (congrArg some same)
    · rintro ⟨found, listed, id, addr⟩
      obtain ⟨listed, away⟩ := (after found).mp listed
      rw [(sees.array i ch).mpr ⟨found, listed, id, addr⟩, Option.map_some, if_neg]
      rw [← addr]
      exact fun same => away (Option.some.inj same)
  · intro other listed
    obtain ⟨listed, away⟩ := (after other).mp listed
    unfold Ctrl.setChan
    dsimp only
    rw [Function.update_of_ne away]
    exact sees.mem other listed
  · intro ch absent
    unfold Ctrl.setChan
    dsimp only
    by_cases its : ch = chan.addr
    · rw [its, Function.update_self]
    · rw [Function.update_of_ne its]
      apply sees.gone
      rintro other listed rfl
      exact absent other ((after other).mpr ⟨listed, its⟩) rfl
  · dsimp only
    rw [List.filter_filter]
    have apart : w.reps.filter (fun prep => decide (prep.ctrl = k) &&
        decide ¬(prep.ctrl = k ∧ prep.chan = some chan.addr)) =
          (w.reps.filter (·.ctrl = k)).filter (·.chan ≠ some chan.addr) := by
      rw [List.filter_filter]
      refine List.filter_congr fun prep _ => ?_
      by_cases own : prep.ctrl = k
      · simp [own]
      · simp [own]
    rw [apart, sees.reps, List.filter_map]
    rfl
  · dsimp only
    rw [sees.gCallIds]

theorem SeesChans.tell (sees : SeesChans rest k w c) (ch : Nat) (note : PptpNote) :
    SeesChans rest k (w.tell ch note) (c.tell ch note) :=
  sees.same rfl rfl rfl rfl rfl rfl rfl rfl rfl sees.reps sees.asked sees.sent
    (congrArg (· ++ [(ch, note)]) sees.told)

/-- A channel that is killed is dead in memory and gone from the world. -/
theorem SeesChans.killChan (sees : SeesChans rest k w c) (own : ∀ other ∈ rest, other.addr ≠ ch) :
    SeesChans rest k (Mpd.pptpCtrlKillChan w ch) (pptpCtrlKillChan c ch) := by
  unfold Mpd.pptpCtrlKillChan pptpCtrlKillChan
  cases found : w.chan? ch with
  | none =>
      rw [sees.chan?_none found]
      exact sees
  | some chan =>
      obtain ⟨member, rfl⟩ := (sees.chan?_iff own).mp found
      have home := (mem_channels.mp member).2
      have state := sees.mem_state member
      have cookie := sees.mem_cookie member
      have cid := sees.mem_cid member
      rw [state]
      dsimp only
      rw [cookie, home]
      cases taken : chan.cookie with
      | true =>
          have told := sees.tell chan.addr (if chan.state = .waitAnswer then .cancel else .failed)
          simp only [if_true]
          have cid' : ((c.tell chan.addr (if chan.state = .waitAnswer then .cancel
            else .failed)).mem chan.addr).cid = chan.cid := cid
          rw [cid']
          exact told.strike member
      | false =>
          simp only [Bool.false_eq_true, if_false]
          rw [cid]
          exact sees.strike member

theorem Sees.killChan (sees : Sees rest k w c) (own : ∀ other ∈ rest, other.addr ≠ ch) :
    Sees rest k (Mpd.pptpCtrlKillChan w ch) (pptpCtrlKillChan c ch) := by
  refine ⟨sees.toSeesChans.killChan own, ?_⟩
  cases found : w.chan? ch with
  | none =>
      have dead := sees.chan?_none found
      unfold Mpd.pptpCtrlKillChan pptpCtrlKillChan
      rw [found, dead]
      exact sees.ctrl
  | some chan =>
      obtain ⟨member, rfl⟩ := (sees.chan?_iff own).mp found
      have home := (mem_channels.mp member).2
      obtain ⟨state, live⟩ := sees.live_of_mem member
      obtain ⟨ctrl, known, rfl, echoId, unused_timer, active_sessions⟩ :=
        (seesCtrl_live live).mp sees.ctrl
      have chanState := sees.mem_state member
      have cookie := sees.mem_cookie member
      have timer : (ctrl.unused_timer || decide (ctrl.active_sessions - 1 = 0)) =
          (c.unused_timer || decide (c.active_sessions - 1 = 0 ∧ c.state ≠ .dying)) := by
        rw [unused_timer, active_sessions, live]
        simp
      have active : ctrl.active_sessions - 1 = c.active_sessions - 1 :=
        congrArg (· - 1) active_sessions
      unfold Mpd.pptpCtrlKillChan pptpCtrlKillChan
      rw [found, chanState]
      dsimp only
      rw [cookie, home]
      cases chan.cookie with
      | true =>
          simp only [if_true]
          refine (seesCtrl_live ?_).mpr ⟨_, (ctrl?_setCtrl ?_).trans
            (congrArg (Option.map _) known), rfl, echoId, timer, active⟩
          · exact live
          · exact fun _ => rfl
      | false =>
          simp only [Bool.false_eq_true, if_false]
          refine (seesCtrl_live ?_).mpr ⟨_, (ctrl?_setCtrl ?_).trans
            (congrArg (Option.map _) known), rfl, echoId, timer, active⟩
          · exact live
          · exact fun _ => rfl

theorem SeesChans.own (sees : SeesChans rest k w c) (member : chan ∈ w.channels k) :
    ∀ other ∈ rest, other.addr ≠ chan.addr := by
  intro other away same
  rw [← sees.others] at away
  obtain ⟨listed, away⟩ := List.mem_filter.mp away
  obtain ⟨there, home⟩ := mem_channels.mp member
  rw [List.inj_on_of_nodup_map sees.addrs listed there same, home] at away
  simp at away

theorem SeesChans.foldl_killChan {chans : List Nat} (sees : SeesChans rest k w c)
    (own : ∀ ch ∈ chans, ∀ other ∈ rest, other.addr ≠ ch) :
    SeesChans rest k (chans.foldl Mpd.pptpCtrlKillChan w) (chans.foldl pptpCtrlKillChan c) := by
  induction chans generalizing w c with
  | nil => exact sees
  | cons ch chans ih =>
      exact ih (sees.killChan (own ch List.mem_cons_self)) fun later member =>
        own later (List.mem_cons_of_mem _ member)

/-- A connection that is killed is dead with its channels, and gone with them from the world. -/
theorem Sees.killCtrl (sees : Sees rest k w c) :
    Sees rest k (Mpd.pptpCtrlKillCtrl w k) (pptpCtrlKillCtrl c) := by
  unfold Mpd.pptpCtrlKillCtrl pptpCtrlKillCtrl
  cases own : c.state with
  | dying =>
      obtain ⟨gone, -, -⟩ := (seesCtrl_dying own).mp sees.ctrl
      rw [gone]
      exact sees
  | live state =>
      obtain ⟨ctrl, known, -⟩ := (seesCtrl_live own).mp sees.ctrl
      rw [known]
      dsimp only
      rw [sees.listed_eq]
      have unchanged : SeesChans rest k w { c with state := .dying } :=
        sees.toSeesChans.same rfl rfl rfl rfl rfl rfl rfl rfl rfl sees.reps sees.asked sees.sent
          sees.told
      have folded := @SeesChans.foldl_killChan _ _ _ _ c.listed unchanged fun ch listed => by
        obtain ⟨chan, member, rfl⟩ := sees.mem_listed_iff.mp listed
        exact sees.own member
      obtain ⟨dying, fewer, dead⟩ := foldl_killChan c.listed { c with state := .dying }
      have empty : (c.listed.foldl Mpd.pptpCtrlKillChan w).channels k = [] := by
        refine List.eq_nil_iff_forall_not_mem.mpr fun chan member => ?_
        have listed := fewer chan.addr (folded.mem_listed_iff.mpr ⟨chan, member, rfl⟩)
        have killed := dead chan.addr listed
        rw [folded.mem chan member] at killed
        cases killed
      have no_reps : ((c.listed.foldl Mpd.pptpCtrlKillChan w).reps.filter (·.ctrl ≠ k)).filter
          (·.ctrl = k) = [] := by
        rw [List.filter_filter, List.filter_eq_nil_iff]
        intro prep _
        simp
      refine ⟨folded.same rfl rfl rfl rfl rfl rfl rfl rfl rfl no_reps folded.asked folded.sent
        folded.told, (seesCtrl_dying ?_).mpr ⟨?_, empty, rfl⟩⟩
      · exact dying
      · refine List.find?_eq_none.mpr fun ctrl listed => ?_
        simpa using (List.mem_filter.mp listed).2

/-- A write has the same outcome. -/
theorem Sees.writeMsg (sees : Sees rest k w c) (env : PptpEnv) (msg : PptpMsg) :
    (Mpd.pptpCtrlWriteMsg env w k msg).1 = (pptpCtrlWriteMsg env.answer c msg).1 ∧
      Sees rest k (Mpd.pptpCtrlWriteMsg env w k msg).2 (pptpCtrlWriteMsg env.answer c msg).2 := by
  unfold Mpd.pptpCtrlWriteMsg pptpCtrlWriteMsg
  cases own : c.state with
  | dying =>
      obtain ⟨gone, -, -⟩ := (seesCtrl_dying own).mp sees.ctrl
      rw [gone]
      exact ⟨rfl, sees⟩
  | live state =>
      obtain ⟨ctrl, known, fields⟩ := (seesCtrl_live own).mp sees.ctrl
      obtain ⟨answered, asked⟩ := sees.ask env
      have found := sees.findChan_eq msg false
      rw [known]
      dsimp only
      rw [answered, ← own]
      cases env.answer c.asked with
      | false => exact ⟨rfl, asked.killCtrl⟩
      | true =>
          have sent : ((w.sent ++ [(k, msg)]).filter (·.1 = k)).map (·.2) = c.sent ++ [msg] := by
            rw [List.filter_append, List.map_append, sees.sent]
            simp
          cases reply : (gPptpMsgInfo msg.type).reply with
          | none =>
              refine ⟨rfl, ?_, ?_⟩
              · exact asked.toSeesChans.same rfl rfl rfl rfl rfl rfl rfl rfl rfl sees.reps
                  asked.asked sent sees.told
              · refine (seesCtrl_live ?_).mpr ⟨ctrl, known, fields⟩
                exact own
          | some expected =>
              refine ⟨rfl, ?_, ?_⟩
              · refine asked.toSeesChans.same rfl rfl rfl rfl rfl rfl rfl rfl rfl ?_ asked.asked sent
                  sees.told
                change (_ :: w.reps).filter (·.ctrl = k) = List.map _ (_ :: c.reps)
                rw [List.filter_cons_of_pos (by simp), sees.reps, List.map_cons, found]
                rfl
              · refine (seesCtrl_live ?_).mpr ⟨ctrl, known, fields⟩
                exact own

end Killing

section Making

variable {rest : List PptpChan} {k : Nat} {w : PptpWorld} {c : Ctrl} {ch : Nat} {chan : PptpChan}

theorem SeesChans.nextCallId_eq (sees : SeesChans rest k w c) :
    Mpd.pptpNextCallId w = pptpNextCallId c := by
  unfold Mpd.pptpNextCallId pptpNextCallId
  rw [sees.gCallIds, sees.gLastCallId]

/-- The places before the free one are taken. -/
theorem taken_of_lt_freeSlot {i : Nat} (less : i < pptpFreeSlot w k) :
    ∃ chan ∈ w.channels k, chan.id = i := by
  have used (unused : (w.channels k).all (·.id ≠ i) = false) :
      ∃ chan ∈ w.channels k, chan.id = i := by
    simpa using unused
  unfold pptpFreeSlot at less
  cases search : (List.range (w.channels k).length).find? fun place =>
      (w.channels k).all (·.id ≠ place) with
  | none =>
      rw [search] at less
      have full := List.find?_eq_none.mp search i (List.mem_range.mpr less)
      exact used (Bool.eq_false_iff.mpr full)
  | some place =>
      rw [search] at less
      obtain ⟨-, -, before⟩ := List.find?_range_eq_some.mp search
      exact used (by simpa using before i less)

/-- The array with a channel at its first free place. -/
theorem channels_getChan (c : Ctrl) (cid : UInt16) (state : PptpChanState)
    (orig incoming : Bool) : ∃ front back, c.channels = front ++ back ∧ none ∉ front ∧
      (∀ ch, back[0]? ≠ some (some ch)) ∧
      (pptpCtrlGetChan c cid state orig incoming).channels =
        front ++ some c.next :: back.drop 1 := by
  unfold pptpCtrlGetChan
  dsimp only
  by_cases free : none ∈ c.channels
  · obtain ⟨front, back, parts, absent⟩ := List.eq_append_cons_of_mem free
    refine ⟨front, none :: back, parts, absent, fun ch => by simp, ?_⟩
    rw [if_pos free, parts, List.idxOf_append, if_neg absent, List.idxOf_cons_self, Nat.zero_add,
      List.set_append_right _ _ (Nat.le_refl _), Nat.sub_self, List.set_cons_zero]
    rfl
  · refine ⟨c.channels, [], (List.append_nil _).symm, free, fun ch => by simp, ?_⟩
    rw [if_neg free]
    rfl

/-- It is the place that the world has free. -/
theorem SeesChans.slot_eq (sees : SeesChans rest k w c) {front back : List (Option Nat)}
    (parts : c.channels = front ++ back) (full : none ∉ front)
    (free : ∀ ch, back[0]? ≠ some (some ch)) : front.length = pptpFreeSlot w k := by
  rcases Nat.lt_trichotomy front.length (pptpFreeSlot w k) with less | same | more
  · obtain ⟨chan, member, id⟩ := taken_of_lt_freeSlot less
    have slot := (sees.array chan.id chan.addr).mpr ⟨chan, member, rfl, rfl⟩
    rw [id, parts, List.getElem?_append_right (Nat.le_refl _), Nat.sub_self] at slot
    exact absurd slot (free chan.addr)
  · exact same
  · obtain ⟨slot, there⟩ : ∃ slot, front[pptpFreeSlot w k]? = some slot :=
      ⟨_, List.getElem?_eq_getElem more⟩
    cases slot with
    | none => exact absurd (List.mem_of_getElem? there) full
    | some ch =>
        have whole : c.channels[pptpFreeSlot w k]? = some (some ch) := by
          rw [parts, List.getElem?_append_left more]
          exact there
        obtain ⟨chan, member, id, -⟩ := (sees.array _ ch).mp whole
        exact absurd id (PptpWorld.ne_freeSlot member)

theorem SeesChans.array_getChan (sees : SeesChans rest k w c) (cid : UInt16)
    (state : PptpChanState) (orig incoming : Bool) (i ch : Nat) :
    (pptpCtrlGetChan c cid state orig incoming).channels[i]? = some (some ch) ↔
      i = pptpFreeSlot w k ∧ ch = c.next ∨ c.channels[i]? = some (some ch) := by
  obtain ⟨front, back, parts, full, free, made⟩ := channels_getChan c cid state orig incoming
  have slot := sees.slot_eq parts full free
  rw [made, parts]
  rcases Nat.lt_trichotomy i front.length with less | same | more
  · rw [List.getElem?_append_left less, List.getElem?_append_left less, or_iff_right]
    omega
  · rw [same, List.getElem?_append_right (Nat.le_refl _), List.getElem?_append_right (Nat.le_refl _),
      Nat.sub_self, List.getElem?_cons_zero, or_iff_left (free ch), and_iff_right slot,
      Option.some_inj, Option.some_inj]
    exact eq_comm
  · obtain ⟨behind, rfl⟩ : ∃ behind, i = front.length + 1 + behind :=
      ⟨i - (front.length + 1), by omega⟩
    have place : front.length + 1 + behind - front.length = behind + 1 := by omega
    rw [List.getElem?_append_right (by omega), List.getElem?_append_right (by omega), place,
      List.getElem?_cons_succ, List.getElem?_drop, Nat.add_comm 1 behind, or_iff_right]
    omega

/-- A channel is made in the world and in memory, with the same call id and at the same address. -/
theorem Sees.getChan {live : PptpCtrlState} {cid : UInt16} (sees : Sees rest k w c)
    (alive : c.state = .live live) (free : pptpNextCallId c = some cid) (state : PptpChanState)
    (orig incoming : Bool) :
    ∃ chan v, Mpd.pptpCtrlGetChan w k state orig incoming = (some chan, v) ∧
      chan.addr = c.next ∧ chan.cid = cid ∧ chan ∈ v.channels k ∧
      Sees rest k v (pptpCtrlGetChan c cid state orig incoming) := by
  obtain ⟨chan, made⟩ : ∃ chan : PptpChan,
      chan = ⟨w.nextChan, k, pptpFreeSlot w k, state, orig, incoming, cid, 0, false⟩ := ⟨_, rfl⟩
  obtain ⟨v, world⟩ : ∃ v : PptpWorld, v = ({ w with
      nextChan := w.nextChan + 1
      chans := w.chans.orderedInsert (·.id ≤ ·.id) chan
      gCallIds := Function.update w.gCallIds cid true
      gLastCallId := cid } : PptpWorld).setCtrl k fun ctrl =>
        { ctrl with unused_timer := false, active_sessions := ctrl.active_sessions + 1 } := ⟨_, rfl⟩
  have got : Mpd.pptpCtrlGetChan w k state orig incoming = (some chan, v) := by
    unfold Mpd.pptpCtrlGetChan
    rw [sees.nextCallId_eq, free, world, made]
  have chans : v.chans = w.chans.orderedInsert (·.id ≤ ·.id) chan := by rw [world]; rfl
  have perm : v.chans.Perm (chan :: w.chans) := chans ▸ List.perm_orderedInsert _ _ _
  have addr : chan.addr = w.nextChan := by rw [made]
  have home : chan.ctrl = k := by rw [made]
  have after (other : PptpChan) :
      other ∈ v.channels k ↔ other = chan ∨ other ∈ w.channels k := by
    rw [mem_channels, mem_channels, perm.mem_iff, List.mem_cons, or_and_right]
    refine or_congr_left (and_iff_left_of_imp ?_)
    rintro rfl
    exact home
  have member : chan ∈ v.channels k := (after chan).mpr (.inl rfl)
  refine ⟨chan, v, got, addr.trans sees.next, by rw [made], member, ⟨?_, ?_, ?_, ?_, ?_, ?_, ?_, ?_,
    ?_, ?_, ?_, ?_, ?_, ?_⟩, ?_⟩
  · have placed := sees.placed.getChan k state orig incoming
    rw [got] at placed
    exact placed
  · rw [(perm.map _).nodup_iff, List.map_cons, List.nodup_cons]
    refine ⟨fun taken => ?_, sees.addrs⟩
    obtain ⟨other, listed, same⟩ := List.mem_map.mp taken
    have less := sees.fresh other listed
    omega
  · intro other listed
    have next : v.nextChan = w.nextChan + 1 := by rw [world]; rfl
    rw [next]
    cases List.mem_cons.mp (perm.mem_iff.mp listed) with
    | inl new =>
        rw [new, addr]
        exact Nat.lt_succ_self _
    | inr old => exact Nat.lt_succ_of_lt (sees.fresh other old)
  · rw [chans, List.orderedInsert_eq_take_drop, List.filter_append, List.filter_cons_of_neg,
      ← List.filter_append, List.takeWhile_append_dropWhile]
    · exact sees.others
    · simp [home]
  · intro i ch
    rw [sees.array_getChan, sees.array i ch]
    constructor
    · rintro (⟨slot, new⟩ | ⟨other, listed, slot, same⟩)
      · refine ⟨chan, member, ?_, ?_⟩
        · rw [made, slot]
        · rw [addr, new, sees.next]
      · exact ⟨other, (after other).mpr (.inr listed), slot, same⟩
    · rintro ⟨other, listed, slot, same⟩
      rcases (after other).mp listed with rfl | listed
      · refine .inl ⟨?_, ?_⟩
        · rw [← slot, made]
        · rw [← same, addr, sees.next]
      · exact .inr ⟨other, listed, slot, same⟩
  · intro other listed
    rcases (after other).mp listed with rfl | listed
    · rw [addr, sees.next, (mem_getChan c cid state orig incoming).1, made]
      rfl
    · have less := sees.fresh other (mem_channels.mp listed).1
      rw [(mem_getChan c cid state orig incoming).2 other.addr (by rw [← sees.next]; omega)]
      exact sees.mem other listed
  · intro ch absent
    have away : ch ≠ c.next := by
      rintro rfl
      exact absent chan member (addr.trans sees.next)
    rw [(mem_getChan c cid state orig incoming).2 ch away]
    exact sees.gone ch fun other listed => absent other ((after other).mpr (.inr listed))
  · rw [world]
    exact sees.reps
  · rw [world]
    exact congrArg (Function.update · cid true) sees.gCallIds
  · rw [world]
    rfl
  · rw [world]
    exact congrArg (· + 1) sees.next
  · rw [world]
    exact sees.asked
  · rw [world]
    exact sees.sent
  · rw [world]
    exact sees.told
  · obtain ⟨ctrl, known, own, echoId, -, active⟩ := (seesCtrl_live alive).mp sees.ctrl
    refine (seesCtrl_live ?_).mpr ⟨{ ctrl with
      unused_timer := false, active_sessions := ctrl.active_sessions + 1 }, ?_, own, echoId, rfl,
      congrArg (· + 1) active⟩
    · exact alive
    · rw [world]
      refine (ctrl?_setCtrl ?_).trans (congrArg (Option.map _) known)
      exact fun _ => rfl

/-- No channel is made where there is no call id. -/
theorem Sees.getChan_none (sees : Sees rest k w c) (none : pptpNextCallId c = .none)
    (state : PptpChanState) (orig incoming : Bool) :
    Mpd.pptpCtrlGetChan w k state orig incoming = (.none, { w with hung := true }) ∧
      Sees rest k { w with hung := true } c := by
  refine ⟨?_, ?_, sees.ctrl.same rfl rfl rfl rfl rfl rfl fun none => none⟩
  · unfold Mpd.pptpCtrlGetChan
    rw [sees.nextCallId_eq, none]
  · exact sees.toSeesChans.same rfl rfl rfl rfl rfl rfl rfl rfl rfl sees.reps sees.asked sees.sent
      sees.told

/-- The link side takes a channel. -/
theorem Sees.take (sees : Sees rest k w c) (member : chan ∈ w.channels k) (peerCid : UInt16) :
    Sees rest k (Mpd.pptpTake w chan.addr peerCid) (pptpTake c chan.addr peerCid) ∧
      { chan with peerCid := peerCid, cookie := true } ∈
        (Mpd.pptpTake w chan.addr peerCid).channels k := by
  have linked : Sees rest k { w with linked := chan.addr :: w.linked } c :=
    ⟨sees.toSeesChans.same rfl rfl rfl rfl rfl rfl rfl rfl rfl sees.reps sees.asked sees.sent
      sees.told, sees.ctrl.same rfl rfl rfl rfl rfl rfl fun none => none⟩
  exact linked.setChan ⟨fun _ => ⟨rfl, rfl, rfl⟩, fun _ => rfl⟩ member

end Making

section Channel

variable {rest : List PptpChan} {k : Nat} {w : PptpWorld} {c : Ctrl} {ch : Nat} {chan : PptpChan}
  (env : PptpEnv)

/-- A channel that lives in memory is one of the world. -/
theorem SeesChans.exists_of_lives (sees : SeesChans rest k w c) (lives : (c.mem ch).state ≠ .dying) :
    ∃ chan ∈ w.channels k, chan.addr = ch := by
  by_contra absent
  refine lives (sees.gone ch fun chan member same => absent ⟨chan, member, same⟩)

/-- A write that succeeds leaves the channels as they are. -/
theorem channels_writeMsg (written : env.answer w.asked = true) (msg : PptpMsg) :
    (Mpd.pptpCtrlWriteMsg env w k msg).2.channels k = w.channels k := by
  unfold Mpd.pptpCtrlWriteMsg PptpWorld.ask
  cases w.ctrl? k with
  | none => rfl
  | some ctrl =>
      dsimp only
      rw [written]
      cases (gPptpMsgInfo msg.type).reply with
      | none => rfl
      | some reply => rfl

theorem Sees.pacClear (sees : Sees rest k w c) (member : chan ∈ w.channels k) (result : UInt8) :
    Sees rest k (Mpd.pptpPacClear env w chan result) (pptpPacClear env.answer c chan.addr result) := by
  have cid := sees.mem_cid member
  unfold Mpd.pptpPacClear pptpPacClear
  rw [cid, (mem_channels.mp member).2]
  exact (sees.writeMsg env _).2.killChan (sees.own member)

theorem Sees.pnsClear (sees : Sees rest k w c) (member : chan ∈ w.channels k)
    (written : env.answer c.asked = true) :
    Sees rest k (Mpd.pptpPnsClear env w chan) (pptpPnsClear env.answer c chan.addr) := by
  have cid := sees.mem_cid member
  have asked : env.answer w.asked = true := sees.asked ▸ written
  unfold Mpd.pptpPnsClear pptpPnsClear
  rw [cid, (mem_channels.mp member).2]
  refine ((sees.writeMsg env _).2.newChanState ?_ .waitDisconnect).1
  rw [channels_writeMsg env asked]
  exact member

/-- Closing a channel agrees as long as the PNS does not fail to write that it clears it. -/
theorem Sees.closeChan (sees : Sees rest k w c) (own : ∀ other ∈ rest, other.addr ≠ ch)
    (fine : (c.mem ch).clears = true → env.answer c.asked = true) (result : UInt8) :
    Sees rest k (Mpd.pptpCtrlCloseChan env w ch result)
      (pptpCtrlCloseChan env.answer c ch result) := by
  unfold Mpd.pptpCtrlCloseChan pptpCtrlCloseChan
  cases found : w.chan? ch with
  | none =>
      rw [sees.chan?_none found]
      exact sees
  | some chan =>
      obtain ⟨member, rfl⟩ := (sees.chan?_iff own).mp found
      have state := sees.mem_state member
      have pns := sees.mem_isPns member
      have peerCid := sees.mem_peerCid member
      unfold Chan.clears at fine
      rw [state] at fine ⊢
      dsimp only
      cases is : chan.state with
      | established =>
          rw [is] at fine
          dsimp only
          rw [pns]
          cases clears : chan.isPns with
          | true => exact sees.pnsClear env member (fine (pns.trans clears))
          | false => exact sees.pacClear env member result
      | waitAnswer =>
          dsimp only
          rw [peerCid, (mem_channels.mp member).2]
          exact (sees.writeMsg env _).2.killChan own
      | waitInReply => exact sees.pacClear env member result
      | waitOutReply =>
          rw [is] at fine
          exact sees.pnsClear env member (fine rfl)
      | waitConnect =>
          rw [is] at fine
          exact sees.pnsClear env member (fine rfl)
      | waitDisconnect => exact sees
      | waitCtrl => exact sees.killChan own

/-- The link side is told alike, unless it closes the channel and that is not written. -/
theorem Sees.result (sees : Sees rest k w c) (member : chan ∈ w.channels k)
    (fine : chan.cookie = true → env.answer c.asked = true → env.answer (c.asked + 1) = false →
      (c.mem chan.addr).clears = true → env.answer (c.asked + 2) = true) :
    Sees rest k (Mpd.pptpResult env w chan) (pptpResult env.answer c chan.addr) := by
  have cookie := sees.mem_cookie member
  unfold Mpd.pptpResult pptpResult
  rw [cookie]
  cases taken : chan.cookie with
  | false => exact sees
  | true =>
      obtain ⟨first, asked⟩ := (sees.tell chan.addr .connected).ask env
      simp only [Bool.not_true, Bool.false_eq_true, if_false]
      rw [first]
      change Sees rest k _ (if !env.answer c.asked then _ else _)
      have once : (c.tell chan.addr .connected).asked = c.asked := rfl
      rw [once]
      cases connecting : env.answer c.asked with
      | false => exact asked
      | true =>
          obtain ⟨second, asked⟩ := asked.ask env
          simp only [Bool.not_true, Bool.false_eq_true, if_false]
          rw [second]
          change Sees rest k (if !env.answer (c.asked + 1) then _ else _)
            (if !env.answer (c.asked + 1) then _ else _)
          cases attached : env.answer (c.asked + 1) with
          | false =>
              refine asked.closeChan env (sees.own member) (fun clears => ?_) 3
              exact fine taken connecting attached clears
          | true =>
              have orig := sees.mem_orig member
              have incoming := sees.mem_incoming member
              have peerCid := sees.mem_peerCid member
              simp only [Bool.not_true, Bool.false_eq_true, if_false]
              change Sees rest k (if chan.orig && chan.incoming then _ else _)
                (if (c.mem chan.addr).orig && (c.mem chan.addr).incoming then _ else _)
              rw [orig, incoming]
              cases chan.orig && chan.incoming with
              | false => exact asked
              | true =>
                  rw [(mem_channels.mp member).2, ← peerCid]
                  exact (asked.writeMsg env _).2

theorem Sees.checkChan (sees : Sees rest k w c) (own : ∀ other ∈ rest, other.addr ≠ ch) :
    Sees rest k (Mpd.pptpCheckChan env w ch) (pptpCheckChan env.answer c ch) := by
  unfold Mpd.pptpCheckChan pptpCheckChan
  cases found : w.chan? ch with
  | none =>
      rw [sees.chan?_none found, if_pos nofun]
      exact sees
  | some chan =>
      obtain ⟨member, rfl⟩ := (sees.chan?_iff own).mp found
      have state := sees.mem_state member
      have incoming := sees.mem_incoming member
      have cid := sees.mem_cid member
      dsimp only
      rw [state, incoming, cid, (mem_channels.mp member).2]
      by_cases waits : chan.state = .waitCtrl
      · rw [if_neg (not_not_intro waits), if_neg (not_not_intro (congrArg Mortal.live waits))]
        cases chan.incoming with
        | true => exact ((sees.newChanState member .waitInReply).1.writeMsg env _).2
        | false => exact ((sees.newChanState member .waitOutReply).1.writeMsg env _).2
      · rw [if_pos waits, if_pos fun same => waits (Mortal.live.inj same)]
        exact sees

theorem Sees.foldl_checkChan {chans : List Nat} (sees : Sees rest k w c)
    (own : ∀ ch ∈ chans, ∀ other ∈ rest, other.addr ≠ ch) :
    Sees rest k (chans.foldl (Mpd.pptpCheckChan env) w)
      (chans.foldl (pptpCheckChan env.answer) c) := by
  induction chans generalizing w c with
  | nil => exact sees
  | cons ch chans ih =>
      exact ih (sees.checkChan env (own ch List.mem_cons_self)) fun later member =>
        own later (List.mem_cons_of_mem _ member)

theorem Sees.checkConn (sees : Sees rest k w c) :
    Sees rest k (Mpd.pptpCtrlCheckConn env w k) (pptpCtrlCheckConn env.answer c) := by
  unfold Mpd.pptpCtrlCheckConn pptpCtrlCheckConn
  cases own : c.state with
  | dying =>
      obtain ⟨gone, -, -⟩ := (seesCtrl_dying own).mp sees.ctrl
      rw [gone, if_pos nofun]
      exact sees
  | live state =>
      obtain ⟨ctrl, known, rfl, -⟩ := (seesCtrl_live own).mp sees.ctrl
      rw [known]
      dsimp only
      by_cases established : ctrl.state = .established
      · rw [if_neg (not_not_intro established),
          if_neg (not_not_intro (congrArg Mortal.live established)), sees.listed_eq]
        refine sees.foldl_checkChan env fun ch listed => ?_
        obtain ⟨chan, member, rfl⟩ := sees.mem_listed_iff.mp listed
        exact sees.own member
      · rw [if_pos established, if_pos fun same => established (Mortal.live.inj same)]
        exact sees

end Channel

section Handlers

variable {rest : List PptpChan} {k : Nat} {w : PptpWorld} {c : Ctrl} {ch : Nat} {chan : PptpChan}
  (env : PptpEnv)

/-- What follows on a write that succeeds. -/
theorem Sees.writeMsg_then {next : PptpWorld → PptpWorld} {next' : Ctrl → Ctrl}
    (sees : Sees rest k w c) (msg : PptpMsg)
    (follows : ∀ v d, Sees rest k v d → Sees rest k (next v) (next' d)) :
    Sees rest k
      (match Mpd.pptpCtrlWriteMsg env w k msg with
        | (false, w) => w
        | (true, w) => next w)
      (match pptpCtrlWriteMsg env.answer c msg with
        | (false, c) => c
        | (true, c) => next' c) := by
  obtain ⟨same, after⟩ := sees.writeMsg env msg
  rcases wrote : Mpd.pptpCtrlWriteMsg env w k msg with ⟨written, v⟩
  rcases stored : pptpCtrlWriteMsg env.answer c msg with ⟨written', d⟩
  rw [wrote, stored] at same after
  obtain rfl : written = written' := same
  cases written with
  | false => exact after
  | true => exact follows v d after

theorem Sees.startCtrlConnRequest {state : PptpCtrlState} (sees : Sees rest k w c)
    (live : c.state = .live state) (vers : UInt16) :
    Sees rest k (Mpd.pptpStartCtrlConnRequest env w k vers)
      (pptpStartCtrlConnRequest env.answer c vers) := by
  unfold Mpd.pptpStartCtrlConnRequest pptpStartCtrlConnRequest
  by_cases other : vers ≠ 0x0100
  · rw [if_pos other, if_pos other]
    exact sees.writeMsg_then env _ fun _ _ after => after.killCtrl
  · rw [if_neg other, if_neg other]
    exact ((sees.newCtrlState live .established).writeMsg env _).2

theorem Sees.startCtrlConnReply {state : PptpCtrlState} (sees : Sees rest k w c)
    (live : c.state = .live state) (vers : UInt16) (result : UInt8) :
    Sees rest k (Mpd.pptpStartCtrlConnReply env w k vers result)
      (pptpStartCtrlConnReply env.answer c vers result) := by
  unfold Mpd.pptpStartCtrlConnReply pptpStartCtrlConnReply
  by_cases refused : result ≠ 0 ∧ result ≠ 1
  · rw [if_pos refused, if_pos refused]
    exact sees.killCtrl
  · rw [if_neg refused, if_neg refused]
    by_cases other : vers ≠ 0x0100
    · rw [if_pos other, if_pos other]
      exact ((sees.newCtrlState live .waitStopReply).writeMsg env _).2
    · rw [if_neg other, if_neg other]
      exact (sees.newCtrlState live .established).checkConn env

theorem Sees.stopCtrlConnRequest {state : PptpCtrlState} (sees : Sees rest k w c)
    (live : c.state = .live state) :
    Sees rest k (Mpd.pptpStopCtrlConnRequest env w k) (pptpStopCtrlConnRequest env.answer c) :=
  (sees.newCtrlState live .idle).writeMsg_then env _ fun _ _ after => after.killCtrl

theorem Sees.echoReply {state : PptpCtrlState} (sees : Sees rest k w c)
    (live : c.state = .live state) (id : UInt32) (result : UInt8) :
    Sees rest k (Mpd.pptpEchoReply w k id result) (pptpEchoReply c id result) := by
  obtain ⟨ctrl, known, -, echoId, -⟩ := (seesCtrl_live live).mp sees.ctrl
  unfold Mpd.pptpEchoReply pptpEchoReply
  rw [known, ← echoId]
  dsimp only
  split
  · exact sees.killCtrl
  · exact sees

theorem Sees.outCallRequest {state : PptpCtrlState} (sees : Sees rest k w c)
    (live : c.state = .live state) (cid : UInt16) :
    Sees rest k (Mpd.pptpOutCallRequest env w k cid) (pptpOutCallRequest env.answer c cid) := by
  unfold Mpd.pptpOutCallRequest pptpOutCallRequest
  cases free : pptpNextCallId c with
  | none =>
      obtain ⟨hangs, same⟩ := sees.getChan_none free .waitAnswer false false
      rw [hangs]
      exact same
  | some new =>
      obtain ⟨chan, v, got, addr, -, member, made⟩ := sees.getChan live free .waitAnswer false false
      obtain ⟨answered, asked⟩ := made.ask env
      rw [got]
      dsimp only
      rw [answered, ← addr]
      cases env.answer (pptpCtrlGetChan c new .waitAnswer false false).asked with
      | true => exact (asked.take member cid).1
      | false => exact ((asked.killChan (made.own member)).writeMsg env _).2

theorem Sees.inCallRequest {state : PptpCtrlState} (sees : Sees rest k w c)
    (live : c.state = .live state) (cid : UInt16) :
    Sees rest k (Mpd.pptpInCallRequest env w k cid) (pptpInCallRequest env.answer c cid) := by
  unfold Mpd.pptpInCallRequest pptpInCallRequest
  cases free : pptpNextCallId c with
  | none =>
      obtain ⟨hangs, same⟩ := sees.getChan_none free .waitConnect false true
      rw [hangs]
      exact same
  | some new =>
      obtain ⟨chan, v, got, addr, rfl, member, made⟩ :=
        sees.getChan live free .waitConnect false true
      obtain ⟨answered, asked⟩ := made.ask env
      rw [got]
      dsimp only
      rw [answered, ← addr]
      cases env.answer (pptpCtrlGetChan c chan.cid .waitConnect false true).asked with
      | true => exact ((asked.take member cid).1.writeMsg env _).2
      | false => exact asked.writeMsg_then env _ fun _ _ after => after.killChan (made.own member)

theorem Sees.outCallReply (sees : Sees rest k w c) (member : chan ∈ w.channels k) (cid : UInt16)
    (result : UInt8)
    (fine : chan.cookie = true → env.answer c.asked = true → result = 1 →
      env.answer (c.asked + 1) = false → chan.isPns = true → env.answer (c.asked + 2) = true) :
    Sees rest k (Mpd.pptpOutCallReply env w chan cid result)
      (pptpOutCallReply env.answer c chan.addr cid result) := by
  have cookie := sees.mem_cookie member
  unfold Mpd.pptpOutCallReply pptpOutCallReply
  by_cases refused : result ≠ 1
  · rw [if_pos refused, if_pos refused, cookie]
    cases chan.cookie with
    | true => exact (sees.tell chan.addr .failed).killChan (sees.own member)
    | false => exact sees.killChan (sees.own member)
  · rw [if_neg refused, if_neg refused]
    have twice : pptpCtrlNewChanState (c.setChan chan.addr fun chan => { chan with peerCid := cid })
        chan.addr .established =
          c.setChan chan.addr fun chan =>
            { chan with peerCid := cid, state := .live .established } := by
      unfold pptpCtrlNewChanState Ctrl.setChan
      simp
    obtain ⟨established, after⟩ := sees.setChan
      (f := fun ch => { ch with peerCid := cid, state := .established })
      (g := fun chan => { chan with peerCid := cid, state := .live .established })
      ⟨fun _ => ⟨rfl, rfl, rfl⟩, fun _ => rfl⟩ member
    rw [twice]
    refine established.result env after fun taken connecting attached clears => ?_
    refine fine taken connecting (not_not.mp refused) attached ?_
    have mem := established.mem _ after
    dsimp only at mem
    rw [mem] at clears
    exact clears

theorem Sees.callClearRequest (sees : Sees rest k w c) (member : chan ∈ w.channels k) :
    Sees rest k (Mpd.pptpCallClearRequest env w chan)
      (pptpCallClearRequest env.answer c chan.addr) := by
  have pns := sees.mem_isPns member
  have cid := sees.mem_cid member
  unfold Mpd.pptpCallClearRequest pptpCallClearRequest
  rw [pns, cid, (mem_channels.mp member).2]
  split
  · exact sees.killCtrl
  · exact ((sees.killChan (sees.own member)).writeMsg env _).2

theorem Sees.linkInfo (sees : Sees rest k w c) (member : chan ∈ w.channels k) :
    Sees rest k (Mpd.pptpSetLinkInfo w chan) (pptpSetLinkInfo c chan.addr) := by
  have cookie := sees.mem_cookie member
  unfold Mpd.pptpSetLinkInfo pptpSetLinkInfo
  rw [cookie]
  split
  · exact sees.tell chan.addr .linkInfo
  · exact sees

/-- A channel that can be cleared lives where the connection survives its callback. -/
theorem result_lives {answer : Nat → Bool} (alive : c.state ≠ .dying)
    (clears : (c.mem ch).clears = true) (survives : (pptpResult answer c ch).state ≠ .dying) :
    ((pptpResult answer c ch).mem ch).state ≠ .dying := by
  have lives := lives_of_clears clears
  by_cases there : (c.mem ch).cookie = true ∧ answer c.asked = true
  · rw [result_attaches there.1 there.2] at survives ⊢
    cases attached : answer (c.asked + 1) with
    | false =>
        rw [if_neg Bool.false_ne_true, closeChan_clears (c := c.heard ch) clears, pnsClear_state]
        exact nofun
    | true =>
        rw [attached, if_pos rfl] at survives
        rw [if_pos rfl]
        split at survives
        · rename_i reports
          rw [if_pos reports]
          cases written : answer (c.asked + 2) with
          | false =>
              have dying := writeMsg_failed (c := c.heard ch) written (.inCallConn (c.mem ch).peerCid)
              exact absurd dying survives
          | true =>
              have heard_alive : (c.heard ch).state ≠ .dying := alive
              have same := (writeMsg_written heard_alive written
                (.inCallConn (c.mem ch).peerCid)).2.1
              unfold pptpCtrlConected
              intro dead
              exact lives ((congrFun same ch ▸ dead : ((c.heard ch).mem ch).state = .dying))
        · rename_i quiet
          rw [if_neg quiet]
          exact lives
  · unfold pptpResult
    cases cookie : (c.mem ch).cookie with
    | false => exact lives
    | true =>
        have closed : answer c.asked = false :=
          Bool.eq_false_iff.mpr fun connecting => there ⟨cookie, connecting⟩
        simp only [Bool.not_true, Bool.false_eq_true, if_false, Ctrl.tell, closed, Bool.not_false,
          if_true]
        exact lives

theorem Sees.inCallConn (sees : Sees rest k w c) (member : chan ∈ w.channels k)
    (waiting : chan.state = .waitConnect)
    (fine : ¬(chan.cookie = true ∧ env.answer c.asked = true ∧
      (env.answer (c.asked + 1) = false ∨ chan.orig = true ∧ chan.incoming = true) ∧
      env.answer (c.asked + 2) = false)) :
    Sees rest k (Mpd.pptpInCallConn env w chan) (pptpInCallConn env.answer c chan.addr) := by
  have mem := sees.mem chan member
  obtain ⟨state, live⟩ := sees.live_of_mem member
  have alive : c.state ≠ .dying := by
    rw [live]
    exact nofun
  have clears : (c.mem chan.addr).clears = true := by
    rw [mem]
    unfold Chan.clears ofChan
    rw [waiting]
  have survives : (pptpResult env.answer c chan.addr).state ≠ .dying := by
    rw [Ne, result_dying_iff alive clears, mem]
    exact fine
  have told := sees.result env member fun taken connecting attached _ =>
    Bool.eq_true_of_not_eq_false fun failed => fine ⟨taken, connecting, .inl attached, failed⟩
  obtain ⟨now, there, addr⟩ := told.exists_of_lives (result_lives alive clears survives)
  unfold Mpd.pptpInCallConn pptpInCallConn
  rw [← addr] at told ⊢
  exact (told.newChanState there .established).1

end Handlers

section Messages

variable {rest : List PptpChan} {k : Nat} {w : PptpWorld} {c : Ctrl} {ch : Nat} {chan : PptpChan}
  (env : PptpEnv)

theorem Sees.ctrlHandler {state : PptpCtrlState} (sees : Sees rest k w c)
    (live : c.state = .live state) (msg : PptpMsg) :
    Sees rest k (Mpd.pptpCtrlHandler env w k msg) (pptpCtrlHandler env.answer c msg) := by
  cases msg with
  | startCtrlConnRequest vers => exact sees.startCtrlConnRequest env live vers
  | startCtrlConnReply vers result => exact sees.startCtrlConnReply env live vers result
  | stopCtrlConnRequest => exact sees.stopCtrlConnRequest env live
  | stopCtrlConnReply => exact sees.killCtrl
  | echoRequest id => exact (sees.writeMsg env (.echoReply id 1)).2
  | echoReply id result => exact sees.echoReply live id result
  | outCallRequest cid => exact sees.outCallRequest env live cid
  | inCallRequest cid => exact sees.inCallRequest env live cid
  | _ => exact sees

theorem Sees.chanHandler (sees : Sees rest k w c) (member : chan ∈ w.channels k) (msg : PptpMsg)
    (taken : chan.state ∈ (gPptpMsgInfo msg.type).chanStates)
    (fine : ¬ CallbackRevives env.answer c chan.addr msg) :
    Sees rest k (Mpd.pptpChanHandler env w chan msg)
      (pptpChanHandler env.answer c chan.addr msg) := by
  obtain ⟨state, live⟩ := sees.live_of_mem member
  have alive : c.state ≠ .dying := by
    rw [live]
    exact nofun
  have mem := sees.mem chan member
  have replied (cid : UInt16) (result : UInt8)
      (fine : ¬(c.state ≠ .dying ∧ (c.mem chan.addr).cookie = true ∧ env.answer c.asked = true ∧
        result = 1 ∧ env.answer (c.asked + 1) = false ∧ (c.mem chan.addr).isPns = true ∧
        env.answer (c.asked + 2) = false)) :
      Sees rest k (Mpd.pptpOutCallReply env w chan cid result)
        (pptpOutCallReply env.answer c chan.addr cid result) := by
    refine sees.outCallReply env member cid result fun taken connecting accepted attached pns => ?_
    refine Bool.eq_true_of_not_eq_false fun failed => fine ?_
    rw [mem]
    exact ⟨alive, taken, connecting, accepted, attached, pns, failed⟩
  cases msg with
  | outCallReply cid peerCid result => exact replied cid result fine
  | inCallReply cid peerCid result => exact replied cid result fine
  | inCallConn peerCid =>
      refine sees.inCallConn env member (List.mem_singleton.mp taken) fun revives => fine ?_
      unfold CallbackRevives
      rw [mem]
      exact ⟨alive, revives⟩
  | callClearRequest cid => exact sees.callClearRequest env member
  | callDiscNotify cid result => exact sees.killChan (sees.own member)
  | setLinkInfo cid => exact sees.linkInfo member
  | _ => exact sees

/-- The same record is answered. -/
theorem SeesChans.answered_eq (sees : SeesChans rest k w c) (msg : PptpMsg) (ch : Option Nat) :
    Mpd.pptpAnswered w k msg ch =
      (pptpAnswered c msg ch).map fun prep => ⟨k, prep.request, prep.chan⟩ := by
  unfold Mpd.pptpAnswered pptpAnswered
  have own : (w.reps.find? fun prep => decide (prep.ctrl = k ∧
      (gPptpMsgInfo prep.request).reply = some msg.type ∧ prep.chan = ch)) =
        (w.reps.filter (·.ctrl = k)).find? fun prep =>
          decide ((gPptpMsgInfo prep.request).reply = some msg.type ∧ prep.chan = ch) := by
    rw [List.find?_filter]
    refine List.find?_congr fun prep _ => ?_
    simp
  rw [own, sees.reps, List.find?_map]
  rfl

theorem Sees.cancel (sees : Sees rest k w c) (answered : Option PendRep) :
    Sees rest k
      { w with
        reps := (answered.map fun prep => (⟨k, prep.request, prep.chan⟩ : PptpPendRep)).elim w.reps
          fun prep => w.reps.erase prep }
      (c.cancel answered) := by
  cases answered with
  | none => exact sees
  | some prep =>
      refine ⟨?_, sees.ctrl.same rfl rfl rfl rfl rfl rfl fun none => ?_⟩
      · refine sees.toSeesChans.same rfl rfl rfl rfl rfl rfl rfl rfl rfl ?_ sees.asked sees.sent
          sees.told
        change (w.reps.erase ⟨k, prep.request, prep.chan⟩).filter (·.ctrl = k) =
          (c.reps.erase prep).map fun prep => ⟨k, prep.request, prep.chan⟩
        rw [← List.erase_filter, sees.reps]
        refine (List.map_erase ?_ c.reps).symm
        rintro ⟨request, chan⟩ ⟨request', chan'⟩ same
        cases same
        rfl
      · change c.reps.erase prep = []
        rw [none]
        rfl

theorem among_live {σ : Type} [DecidableEq σ] {states : List σ} {state : σ} :
    (Mortal.live state).among states = true ↔ state ∈ states :=
  decide_eq_true_iff

/-- Nothing comes of a message for a connection that is dead. -/
theorem ctrlMsg_dying {answer : Nat → Bool} (dying : c.state = .dying) (reps : c.reps = [])
    (listed : c.listed = []) (msg : PptpMsg) : pptpCtrlMsg answer c msg = c := by
  have none : pptpCtrlFindChan c msg true = none := by
    unfold pptpCtrlFindChan
    rw [listed]
    split <;> rfl
  have answered : pptpAnswered c msg .none = .none := by
    unfold pptpAnswered
    rw [reps]
    rfl
  have killed : pptpCtrlKillCtrl c = c := by
    unfold pptpCtrlKillCtrl
    rw [dying]
  unfold pptpCtrlMsg
  rw [none]
  split
  · unfold pptpCtrlMsgFor
    rw [answered]
    split
    · rfl
    · change (if c.state.among (gPptpMsgInfo msg.type).ctrlStates then _ else _) = c
      rw [dying]
      exact killed
  · rfl

theorem Sees.ctrlMsgFor {ctrl : PptpCtrl} (sees : Sees rest k w c) (known : w.ctrl? k = some ctrl)
    (live : c.state = .live ctrl.state) (msg : PptpMsg) :
    Sees rest k (Mpd.pptpCtrlMsgFor env w ctrl msg none) (pptpCtrlMsgFor env.answer c msg none) := by
  have addr : ctrl.addr = k := (ctrl?_addr known).2
  have answered := sees.answered_eq msg none
  unfold Mpd.pptpCtrlMsgFor pptpCtrlMsgFor pptpSpurious
  rw [addr, Option.map_none, answered]
  dsimp only
  rw [Option.isNone_map]
  split
  · exact sees
  · have cancelled := sees.cancel (pptpAnswered c msg none)
    have still : (c.cancel (pptpAnswered c msg none)).state = .live ctrl.state := live
    rw [still]
    by_cases taken : ctrl.state ∈ (gPptpMsgInfo msg.type).ctrlStates
    · rw [if_neg (not_not_intro taken), if_pos (among_live.mpr taken)]
      exact cancelled.ctrlHandler env still msg
    · rw [if_pos taken, if_neg (mt among_live.mp taken)]
      exact cancelled.killCtrl

theorem Sees.chanMsgFor {ctrl : PptpCtrl} (sees : Sees rest k w c) (known : w.ctrl? k = some ctrl)
    (member : chan ∈ w.channels k) (msg : PptpMsg)
    (fine : pptpSpurious c msg (some chan.addr) = false →
      chan.state ∈ (gPptpMsgInfo msg.type).chanStates →
      ¬ CallbackRevives env.answer c chan.addr msg) :
    Sees rest k (Mpd.pptpCtrlMsgFor env w ctrl msg (some chan))
      (pptpCtrlMsgFor env.answer c msg (some chan.addr)) := by
  have addr : ctrl.addr = k := (ctrl?_addr known).2
  have answered := sees.answered_eq msg (some chan.addr)
  unfold Mpd.pptpCtrlMsgFor pptpCtrlMsgFor
  unfold pptpSpurious at fine ⊢
  rw [addr, Option.map_some, answered]
  dsimp only
  rw [Option.isNone_map]
  split
  · exact sees
  · rename_i genuine
    have cancelled := sees.cancel (pptpAnswered c msg (some chan.addr))
    have state : ((c.cancel (pptpAnswered c msg (some chan.addr))).mem chan.addr).state =
        .live chan.state := congrArg Chan.state (sees.mem chan member)
    rw [state]
    by_cases taken : chan.state ∈ (gPptpMsgInfo msg.type).chanStates
    · rw [if_neg (not_not_intro taken), if_pos (among_live.mpr taken)]
      refine cancelled.chanHandler env member msg taken fun revives => ?_
      refine fine (Bool.eq_false_iff.mpr genuine) taken ?_
      cases msg <;> exact revives
    · rw [if_pos taken, if_neg (mt among_live.mp taken)]
      exact cancelled.killCtrl

theorem Sees.ctrlMsg (sees : Sees rest k w c) (msg : PptpMsg)
    (fine : ¬ ∃ ch, Handled c msg ch ∧ CallbackRevives env.answer c ch msg) :
    Sees rest k (Mpd.pptpCtrlMsg env w k msg) (pptpCtrlMsg env.answer c msg) := by
  cases own : c.state with
  | dying =>
      obtain ⟨gone, empty, reps⟩ := (seesCtrl_dying own).mp sees.ctrl
      have listed : c.listed = [] := by rw [← sees.listed_eq, empty]; rfl
      rw [ctrlMsg_dying own reps listed]
      unfold Mpd.pptpCtrlMsg
      rw [gone]
      exact sees
  | live state =>
      obtain ⟨ctrl, known, rfl, -⟩ := (seesCtrl_live own).mp sees.ctrl
      have found := sees.findChan_eq msg true
      unfold Mpd.pptpCtrlMsg pptpCtrlMsg
      rw [known, found]
      dsimp only
      split
      · exact sees.ctrlMsgFor env known own msg
      · cases search : Mpd.pptpCtrlFindChan w k msg true with
        | none => exact sees
        | some chan =>
            have member : chan ∈ w.channels k := mem_channels.mpr (findChan_mem search)
            refine sees.chanMsgFor env known member msg fun genuine taken revives => fine ?_
            refine ⟨chan.addr, ⟨?_, genuine, ?_⟩, revives⟩
            · rw [found, search]
              rfl
            · rw [sees.mem chan member]
              exact among_live.mpr taken

end Messages

section Calls

variable {rest : List PptpChan} {k : Nat} {w : PptpWorld} {c : Ctrl} (env : PptpEnv)

/-- What a call does to the world with the connection `k`. -/
def callWorld (w : PptpWorld) (k : Nat) : Call → PptpWorld
  | .closeChan ch result => Mpd.pptpCtrlCloseChan env w ch result
  | .origCall incoming =>
      match Mpd.pptpCtrlGetChan w k .waitCtrl true incoming with
      | (none, w) => w
      | (some ch, w) => Mpd.pptpCtrlCheckConn env (Mpd.pptpTake w ch.addr 0) k
  | .received msg => Mpd.pptpCtrlMsg env w k msg

/-- A call of ours is made on the connection that is found or made for it. -/
theorem origCall_eq {self_addr peer_addr peer_port : Nat} {v : PptpWorld}
    (got : pptpCtrlGetCtrl env w self_addr peer_addr peer_port = (some k, v)) (incoming : Bool) :
    Mpd.pptpCtrlOrigCall env w incoming self_addr peer_addr peer_port =
      callWorld env v k (.origCall incoming) := by
  obtain ⟨⟨made, v'⟩, taken⟩ :
      ∃ made, Mpd.pptpCtrlGetChan v k .waitCtrl true incoming = made := ⟨_, rfl⟩
  unfold Mpd.pptpCtrlOrigCall callWorld
  cases made with
  | none => simp only [got, taken]
  | some ch => simp only [got, taken]

/-- The call is about a channel of the connection or one that is gone, and a call of ours is made on
a connection that lives. -/
def Call.Concerns (c : Ctrl) (rest : List PptpChan) : Call → Prop
  | .closeChan ch _ => ∀ other ∈ rest, other.addr ≠ ch
  | .origCall _ => c.state ≠ .dying
  | .received _ => True

/-- As long as the dead stay dead, a connection does the same whether its killed channels are kept in
memory or are gone, and leaves the channels of the other connections as they are. -/
theorem sees_call (sees : Sees rest k w c) {e : Call} (concerns : e.Concerns c rest)
    (dead : DeadStaysDead c (call env.answer c e)) :
    Sees rest k (callWorld env w k e) (call env.answer c e).2 := by
  have right := (call_dead_iff env.answer c e).mp dead
  cases e with
  | closeChan ch result =>
      refine sees.closeChan env concerns (fun clears => ?_) result
      refine Bool.eq_true_of_not_eq_false fun failed => right ?_
      obtain ⟨chan, member, rfl⟩ := sees.exists_of_lives (lives_of_clears clears)
      obtain ⟨state, live⟩ := sees.live_of_mem member
      refine ⟨?_, sees.mem_listed_iff.mpr ⟨chan, member, rfl⟩, clears, failed⟩
      rw [live]
      exact nofun
  | origCall incoming =>
      cases own : c.state with
      | dying => exact absurd own concerns
      | live state =>
          unfold callWorld call pptpCtrlOrigCall
          dsimp only
          cases free : pptpNextCallId c with
          | none =>
              obtain ⟨hangs, same⟩ := sees.getChan_none free .waitCtrl true incoming
              rw [hangs]
              exact same
          | some cid =>
              obtain ⟨chan, v, got, addr, -, member, made⟩ :=
                sees.getChan own free .waitCtrl true incoming
              rw [got]
              dsimp only
              rw [← addr]
              exact (made.take member 0).1.checkConn env
  | received msg => exact sees.ctrlMsg env msg right

end Calls

section Runs

variable {w : PptpWorld} {k : Nat}

/-- A number of places that has one for each of the channels. -/
def places (chans : List PptpChan) : Nat := chans.foldr (fun chan n => max (chan.id + 1) n) 0

theorem id_lt_places {chans : List PptpChan} {chan : PptpChan} (member : chan ∈ chans) :
    chan.id < places chans := by
  induction chans with
  | nil => cases member
  | cons first chans ih =>
      change chan.id < max (first.id + 1) (places chans)
      cases List.mem_cons.mp member with
      | inl same =>
          subst same
          omega
      | inr later =>
          have less := ih later
          omega

/-- A connection of a world in memory, with none of its channels dead. -/
def inMemory (w : PptpWorld) (ctrl : PptpCtrl) : Ctrl where
  state := .live ctrl.state
  channels := (List.range (places (w.channels ctrl.addr))).map fun i =>
    ((w.channels ctrl.addr).find? (·.id = i)).map (·.addr)
  reps := (w.reps.filter (·.ctrl = ctrl.addr)).map fun prep => ⟨prep.request, prep.chan⟩
  echoId := ctrl.echoId
  unused_timer := ctrl.unused_timer
  active_sessions := ctrl.active_sessions
  mem := fun ch => (((w.channels ctrl.addr).find? (·.addr = ch)).map ofChan).getD
    ⟨.dying, false, false, 0, 0, false⟩
  next := w.nextChan
  gCallIds := w.gCallIds
  gLastCallId := w.gLastCallId
  asked := w.asked
  sent := (w.sent.filter (·.1 = ctrl.addr)).map (·.2)
  told := w.told

/-- Where a key is of one element only, it is found by its key. -/
theorem find?_eq_of_nodup {α β : Type} [DecidableEq β] {key : α → β} {xs : List α}
    (distinct : (xs.map key).Nodup) {x : α} (member : x ∈ xs) :
    xs.find? (key · = key x) = some x := by
  cases found : xs.find? (key · = key x) with
  | none =>
      have absent := List.find?_eq_none.mp found x member
      simp at absent
  | some y =>
      have same : key y = key x := by simpa using List.find?_some found
      rw [List.inj_on_of_nodup_map distinct (List.mem_of_find?_eq_some found) member same]

theorem sees_inMemory {ctrl : PptpCtrl} (placed : w.Placed) (recorded : w.Recorded)
    (known : w.ctrl? k = some ctrl) :
    Sees (w.chans.filter (·.ctrl ≠ k)) k w (inMemory w ctrl) := by
  obtain rfl : ctrl.addr = k := (ctrl?_addr known).2
  have ids := placed.slots ctrl.addr
  have addrs : ((w.channels ctrl.addr).map (·.addr)).Nodup :=
    recorded.addrs.sublist (List.filter_sublist.map _)
  refine ⟨⟨placed, recorded.addrs, recorded.fresh, rfl, ?_, ?_, ?_, ?_, rfl, rfl, rfl, rfl, rfl, rfl⟩,
    (seesCtrl_live rfl).mpr ⟨ctrl, known, rfl, rfl, rfl, rfl⟩⟩
  · intro i ch
    change ((List.range (places (w.channels ctrl.addr))).map fun i =>
      ((w.channels ctrl.addr).find? (·.id = i)).map (·.addr))[i]? = _ ↔ _
    rw [List.getElem?_map]
    constructor
    · intro slot
      obtain ⟨place, there, found⟩ := Option.map_eq_some_iff.mp slot
      obtain ⟨chan, search, addr⟩ := Option.map_eq_some_iff.mp found
      obtain ⟨below, rfl⟩ := List.getElem?_eq_some_iff.mp there
      rw [List.getElem_range] at search
      exact ⟨chan, List.mem_of_find?_eq_some search, by simpa using List.find?_some search, addr⟩
    · rintro ⟨chan, member, rfl, rfl⟩
      rw [List.getElem?_range (id_lt_places member), Option.map_some,
        find?_eq_of_nodup ids member]
      rfl
  · intro chan member
    change ((((w.channels ctrl.addr).find? (·.addr = chan.addr)).map ofChan).getD _) = _
    rw [find?_eq_of_nodup addrs member]
    rfl
  · intro ch absent
    change ((((w.channels ctrl.addr).find? (·.addr = ch)).map ofChan).getD _).state = _
    have none : (w.channels ctrl.addr).find? (·.addr = ch) = .none :=
      List.find?_eq_none.mpr fun chan member => by simpa using absent chan member
    rw [none]
    rfl
  · change _ = List.map _ ((w.reps.filter (·.ctrl = ctrl.addr)).map _)
    rw [List.map_map]
    refine ((List.map_congr_left fun prep member => ?_).trans (List.map_id _)).symm
    have own : prep.ctrl = ctrl.addr := by simpa using (List.mem_filter.mp member).2
    rw [Function.comp_apply, ← own]
    rfl

/-- Every connection of every run: a call that lets the dead stay dead does the same to the world as
to the connection in memory. -/
theorem agrees_run (env : PptpEnv) (events : List PptpEvent) {ctrl : PptpCtrl}
    (known : (pptpRun env events).ctrl? k = some ctrl) {e : Call}
    (concerns : e.Concerns (inMemory (pptpRun env events) ctrl)
      ((pptpRun env events).chans.filter (·.ctrl ≠ k)))
    (dead : DeadStaysDead (inMemory (pptpRun env events) ctrl)
      (call env.answer (inMemory (pptpRun env events) ctrl) e)) :
    Sees ((pptpRun env events).chans.filter (·.ctrl ≠ k)) k
      (callWorld env (pptpRun env events) k e)
      (call env.answer (inMemory (pptpRun env events) ctrl) e).2 := by
  obtain ⟨placed, recorded⟩ := placed_run env events
  exact sees_call env (sees_inMemory placed recorded known) concerns dead

end Runs

end Mpd.PptpDying
