import Mpd.Pptp.Conversation

/-! Which channel `PptpCtrlFindChan` selects for a message that the peer sent about one call. -/

set_option autoImplicit false

namespace Mpd

theorem find?_eq_some_iff_first {α : Type} {p : α → Bool} (f : α → Nat) {xs : List α}
    (sorted : xs.Pairwise fun x y => f x < f y) {x : α} (member : x ∈ xs) :
    xs.find? p = some x ↔ p x = true ∧ ∀ y ∈ xs, f y < f x → p y = false := by
  induction xs with
  | nil => cases member
  | cons y ys ih =>
      obtain ⟨below, rest⟩ := List.pairwise_cons.mp sorted
      rcases List.mem_cons.mp member with rfl | later
      · have first : ∀ z ∈ x :: ys, f z < f x → p z = false := by
          intro z listed less
          rcases List.mem_cons.mp listed with rfl | after
          · exact absurd less (Nat.lt_irrefl _)
          · exact absurd less (Nat.lt_asymm (below z after))
        constructor
        · intro found
          exact ⟨List.find?_some found, first⟩
        · rintro ⟨holds, -⟩
          exact List.find?_cons_of_pos holds
      · cases holds : p y with
        | true =>
            rw [List.find?_cons_of_pos holds]
            constructor
            · intro same
              rw [Option.some.inj same] at below
              exact absurd (below x later) (Nat.lt_irrefl _)
            · rintro ⟨-, others⟩
              rw [others y (List.mem_cons_self ..) (below x later)] at holds
              cases holds
        | false =>
            rw [List.find?_cons_of_neg (by simp [holds]), ih rest later]
            refine and_congr_right fun _ => ⟨fun others z listed less => ?_, fun others z listed =>
              others z (List.mem_cons_of_mem _ listed)⟩
            rcases List.mem_cons.mp listed with rfl | after
            · exact holds
            · exact others z after less

namespace PptpWorld

structure Placed (w : PptpWorld) : Prop where
  sorted : w.chans.Pairwise fun one other => one.id ≤ other.id
  places : (w.chans.map fun ch => (ch.ctrl, ch.id)).Nodup

variable {w v : PptpWorld}

theorem Placed.same (kept : w.Placed) (chans : v.chans = w.chans) : v.Placed := by
  obtain ⟨sorted, places⟩ := kept
  constructor
  · rwa [chans]
  · rwa [chans]

/-- Channels may go. -/
theorem Placed.fewer (kept : w.Placed) (sub : v.chans.Sublist w.chans) : v.Placed :=
  ⟨kept.sorted.sublist sub, kept.places.sublist (sub.map _)⟩

theorem Placed.setChan (kept : w.Placed) (ch : Nat) {f : PptpChan → PptpChan}
    (same : ∀ chan, (f chan).ctrl = chan.ctrl ∧ (f chan).id = chan.id) :
    (w.setChan ch f).Placed := by
  constructor
  · have sorted := List.pairwise_map.mpr kept.sorted
    rw [← map_setChan w ch _ fun chan => (same chan).2] at sorted
    exact List.pairwise_map.mp sorted
  · rw [map_setChan w ch _ fun chan => Prod.ext (same chan).1 (same chan).2]
    exact kept.places

theorem Placed.kill (kept : w.Placed) (ch : Nat) : (pptpCtrlKillChan w ch).Placed := by
  refine kept.fewer ?_
  unfold pptpCtrlKillChan
  cases w.chan? ch with
  | none => exact List.Sublist.refl _
  | some chan =>
      dsimp only
      split <;> exact List.filter_sublist

/-- The places of one connection. -/
theorem Placed.slots (kept : w.Placed) (c : Nat) : ((w.channels c).map (·.id)).Nodup := by
  have own := kept.places.sublist (List.filter_sublist (p := fun ch => ch.ctrl = c).map _)
  refine List.Nodup.of_map (fun id => (c, id)) ?_
  rw [List.map_map]
  refine (List.map_congr_left fun ch member => ?_) ▸ own
  have its : ch.ctrl = c := by simpa using (List.mem_filter.mp member).2
  rw [Function.comp_apply, its]

/-- The place that `PptpCtrlGetChan` finds is free. -/
theorem ne_freeSlot {c : Nat} {ch : PptpChan} (listed : ch ∈ w.channels c) :
    ch.id ≠ pptpFreeSlot w c := by
  unfold pptpFreeSlot
  cases search : (List.range (w.channels c).length).find? fun k =>
      (w.channels c).all (·.id ≠ k) with
  | some k =>
      have unused : (w.channels c).all (·.id ≠ k) = true :=
        List.find?_some (p := fun k => (w.channels c).all (·.id ≠ k)) search
      simpa using List.all_eq_true.mp unused ch listed
  | none =>
      -- all the places below are taken, and there are no more channels
      have taken : List.range (w.channels c).length ⊆ (w.channels c).map (·.id) := by
        intro k below
        have full := List.find?_eq_none.mp search k below
        simpa using full
      have all := (List.subperm_of_subset List.nodup_range taken).perm_of_length_le (by simp)
      have below : ch.id ∈ List.range (w.channels c).length :=
        all.mem_iff.mpr (List.mem_map_of_mem listed)
      exact Nat.ne_of_lt (List.mem_range.mp below)

theorem Placed.getChan (kept : w.Placed) (c : Nat) (state : PptpChanState)
    (orig incoming : Bool) : (pptpCtrlGetChan w c state orig incoming).2.Placed := by
  rcases getChan_cases w c state orig incoming with
    hangs | ⟨new, ⟨-, newCtrl, newSlot, -⟩, -, makes⟩
  · rw [hangs]
    exact kept.same rfl
  · rw [makes]
    constructor
    · exact kept.sorted.orderedInsert _ _
    · refine ((List.perm_orderedInsert _ _ _).map _).nodup_iff.mpr
        (List.nodup_cons.mpr ⟨fun taken => ?_, kept.places⟩)
      obtain ⟨ch, there, same⟩ := List.mem_map.mp taken
      obtain ⟨home, place⟩ := Prod.mk.inj same
      have listed : ch ∈ w.channels c :=
        List.mem_filter.mpr ⟨there, by simpa using home.trans newCtrl⟩
      exact ne_freeSlot listed (place.trans newSlot)

theorem Placed.move {refusals : Prop} (kept : w.Placed) (move : PptpMove refusals w v) :
    v.Placed := by
  cases move with
  | kill ch => exact kept.kill ch
  | setChan ch f same => exact kept.setChan ch fun chan => ⟨(same chan).2.1, (same chan).2.2.2.2⟩
  | getChan state orig incoming known => exact kept.getChan _ state orig incoming
  | take live free peerCid =>
      have linked : ∀ ch : Nat, ({ w with linked := ch :: w.linked } : PptpWorld).Placed :=
        fun _ => kept.same rfl
      exact (linked _).setChan _ fun _ => ⟨rfl, rfl⟩
  | _ => exact kept.same rfl

theorem Placed.moves {refusals : Prop} (kept : w.Placed) (moves : PptpMoves refusals w v) :
    v.Placed := by
  induction moves with
  | refl => exact kept
  | tail _ move ih => exact ih.move move

end PptpWorld

theorem placed_run (env : PptpEnv) (events : List PptpEvent) :
    (pptpRun env events).Placed ∧ (pptpRun env events).Recorded := by
  have kept : ∀ w event, w.Placed ∧ w.Recorded → True →
      (pptpStep env w event).Placed ∧ (pptpStep env w event).Recorded := by
    rintro w event ⟨placed, recorded⟩ -
    have moves : PptpMoves True w (pptpStep env w event) :=
      moves_pptpStep env .refl event (fun _ => trivial) recorded.named
    exact ⟨placed.moves moves, recorded.moves moves⟩
  have initial : (pptpCtrlInit env).Placed := ⟨List.Pairwise.nil, List.nodup_nil⟩
  exact Transition.invariant_run (pptpStep env) kept ⟨initial, recorded_run env []⟩
    (Transition.meets_of_forall (pptpStep env) (fun _ _ => trivial) _ events)

/-- The peer sends the message about the call of `ch`, to which it has given the number
`peerId`. Its sender is the PNS of a call it clears or sets the link of, and the PAC of a call
it disconnects. -/
def PptpMsg.About (ch : PptpChan) (peerId : UInt16) : PptpMsg → Prop
  | .callClearRequest cid => ch.isPns = false ∧ cid = peerId
  | .callDiscNotify cid _ => ch.isPns = true ∧ cid = peerId
  | .setLinkInfo cid => ch.isPns = false ∧ cid = ch.cid
  | .outCallReply _ peerCid _ | .inCallReply _ peerCid _ | .inCallConn peerCid => peerCid = ch.cid
  | _ => False

/-- The number by which the message names the call is known, and no channel at an earlier
place has the same number in the other numbering, or has learnt it too. -/
def PptpWorld.Unmistaken (w : PptpWorld) (c : Nat) (ch : PptpChan) (peerId : UInt16) :
    PptpMsg → Prop
  | .callClearRequest _ | .callDiscNotify .. =>
      ch.peerCid = peerId ∧ ∀ other ∈ w.channels c, other.id < ch.id →
        if other.isPns = ch.isPns then other.peerCid ≠ peerId else other.cid ≠ peerId
  | .setLinkInfo _ =>
      ∀ other ∈ w.channels c, other.id < ch.id → other.isPns ≠ ch.isPns → other.peerCid ≠ ch.cid
  | _ => True

/-- `PptpCtrlFindChan` finds the call of a reply always, and the call of another message when
no earlier channel is mistaken for it. -/
theorem findChan_run (env : PptpEnv) (events : List PptpEvent) {c : Nat} {ch : PptpChan}
    (live : ch ∈ (pptpRun env events).channels c) {peerId : UInt16} {msg : PptpMsg}
    (about : msg.About ch peerId) :
    pptpCtrlFindChan (pptpRun env events) c msg true = some ch ↔
      (pptpRun env events).Unmistaken c ch peerId msg := by
  obtain ⟨placed, recorded⟩ := placed_run env events
  generalize pptpRun env events = w at live placed recorded ⊢
  have sorted : (w.channels c).Pairwise fun one other => one.id < other.id := by
    have weak := placed.sorted.sublist (List.filter_sublist (p := fun ch => ch.ctrl = c))
    have apart := List.pairwise_map.mp (placed.slots c)
    exact weak.imp₂ (fun _ _ le ne => Nat.lt_of_le_of_ne le ne) apart
  have alone : ∀ other ∈ w.channels c, other.id < ch.id → other.cid ≠ ch.cid := by
    intro other listed less same
    have both := List.inj_on_of_nodup_map recorded.cids (List.mem_filter.mp listed).1
      (List.mem_filter.mp live).1 same
    rw [both] at less
    exact absurd less (Nat.lt_irrefl _)
  have search : ∀ (cid : UInt16) (how : PptpFind),
      ((w.channels c).find? fun other => cid = how.tryCid other) = some ch ↔
        cid = how.tryCid ch ∧ ∀ other ∈ w.channels c, other.id < ch.id →
          cid ≠ how.tryCid other := by
    intro cid how
    rw [find?_eq_some_iff_first (·.id) sorted live]
    simp
  cases msg with
  | callClearRequest cid =>
      obtain ⟨role, rfl⟩ := about
      refine (search cid .pnsCid).trans (and_congr ?_ (forall₃_congr fun other _ _ => ?_))
      · simp [PptpFind.tryCid, role, eq_comm]
      · cases its : other.isPns <;> simp [PptpFind.tryCid, its, role, eq_comm]
  | callDiscNotify cid result =>
      obtain ⟨role, rfl⟩ := about
      refine (search cid .pacCid).trans (and_congr ?_ (forall₃_congr fun other _ _ => ?_))
      · simp [PptpFind.tryCid, role, eq_comm]
      · cases its : other.isPns <;> simp [PptpFind.tryCid, its, role, eq_comm]
  | setLinkInfo cid =>
      obtain ⟨role, rfl⟩ := about
      have own : ch.cid = PptpFind.tryCid ch .pacCid := by simp [PptpFind.tryCid, role]
      refine (search ch.cid .pacCid).trans ((and_iff_right own).trans
        (forall₃_congr fun other listed less => ?_))
      cases its : other.isPns with
      | false => simp [PptpFind.tryCid, its, role, (alone other listed less).symm]
      | true => simp [PptpFind.tryCid, its, role, eq_comm]
  | outCallReply _ peerCid _ | inCallReply _ peerCid _ | inCallConn peerCid =>
      obtain rfl := about
      refine (search ch.cid .myCid).trans ?_
      exact iff_of_true ⟨rfl, fun other listed less => (alone other listed less).symm⟩ trivial
  | _ => exact about.elim

namespace PptpWorld

def dialledTwice : PptpWorld :=
  { ctrls := [{ addr := 0, id := 0, orig := true, self_addr := 0, peer_addr := 1,
                peer_port := 1723, active_sessions := 2 }]
    chans := [⟨0, 0, 0, .waitCtrl, true, false, 0, 0, true⟩,
      ⟨1, 0, 1, .waitCtrl, true, true, 1, 0, true⟩]
    gCallIds := Function.update (Function.update (fun _ => false) 0 true) 1 true
    gLastCallId := 1
    nextCtrl := 1
    nextChan := 2
    asked := 1
    linked := [1, 0] }

end PptpWorld

theorem nextCallId_of_next {w : PptpWorld} (used : w.gCallIds w.gLastCallId = true)
    (free : w.gCallIds (w.gLastCallId + 1) = false) :
    pptpNextCallId w = some (w.gLastCallId + 1) := by
  unfold pptpNextCallId
  rw [List.range_succ_eq_map, List.map_cons, List.range_succ_eq_map, List.map_cons,
    List.map_cons, List.find?_cons_of_neg (by simpa using used)]
  refine List.find?_cons_of_pos ?_ |>.trans ?_
  · simpa using free
  · rfl

theorem willing_dialsTwice :
    pptpStep .willing .dialled (.origCall true 0 1 1723) = .dialledTwice := by
  have found : pptpCtrlGetCtrl .willing .dialled 0 1 1723 = (some 0, .dialled) := rfl
  unfold pptpStep
  rw [if_neg (by simp [PptpWorld.dialled])]
  dsimp only
  unfold pptpCtrlOrigCall
  rw [found]
  dsimp only
  unfold pptpCtrlGetChan
  rw [nextCallId_of_next (by rfl) (by rfl)]
  rfl

/-- The calls are accepted. The peer gives the number 9 to the first and 0, which is our own
number of the first, to the second. -/
def twoCalls : List PptpEvent :=
  [.origCall false 0 1 1723, .origCall true 0 1 1723, .connEvent 0,
    .received 0 (.startCtrlConnReply 0x0100 1), .received 0 (.outCallReply 9 0 1),
    .received 0 (.inCallReply 0 1 1)]

def firstCall : PptpChan := ⟨0, 0, 0, .established, true, false, 0, 9, true⟩

def secondCall : PptpChan := ⟨1, 0, 1, .established, true, true, 1, 0, true⟩

theorem channels_twoCalls : (pptpRun .willing twoCalls).channels 0 = [firstCall, secondCall] := by
  unfold pptpRun twoCalls
  rw [Transition.run_cons, willing_dials, Transition.run_cons, willing_dialsTwice]
  rfl

/-- A peer that clears the second call has the first found, since the number it gave to the
one is our number of the other. -/
theorem not_findChan :
    ¬∀ (env : PptpEnv) (events : List PptpEvent) (c : Nat) (ch : PptpChan) (peerId : UInt16)
      (msg : PptpMsg), ch ∈ (pptpRun env events).channels c → msg.About ch peerId →
        pptpCtrlFindChan (pptpRun env events) c msg true = some ch := by
  intro all
  have found := all .willing twoCalls 0 secondCall 0 (.callClearRequest 0)
    (by rw [channels_twoCalls]; exact .tail _ (.head _)) ⟨rfl, rfl⟩
  have search : ∀ w : PptpWorld, pptpCtrlFindChan w 0 (.callClearRequest 0) true =
      (w.channels 0).find? fun other => 0 = PptpFind.tryCid other .pnsCid := fun _ => rfl
  rw [search, channels_twoCalls] at found
  cases found

/-- The first call is disconnected by its number of the peer. -/
theorem findChan_twoCalls :
    pptpCtrlFindChan (pptpRun .willing twoCalls) 0 (.callDiscNotify 9 1) true = some firstCall := by
  have live : firstCall ∈ (pptpRun .willing twoCalls).channels 0 := by
    rw [channels_twoCalls]
    exact .head _
  have about : (PptpMsg.callDiscNotify 9 1).About firstCall 9 := ⟨rfl, rfl⟩
  refine (findChan_run .willing twoCalls live about).mpr ⟨rfl, fun other _ less => ?_⟩
  exact absurd less (Nat.not_lt_zero _)

end Mpd
