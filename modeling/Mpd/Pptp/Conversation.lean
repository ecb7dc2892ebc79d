import Mpd.Pptp.Records

/-! What the link side is told of a channel: one conversation, that ends once, unless a reply
refuses the call. -/

set_option autoImplicit false

namespace Mpd

/-- The notes after which the link side has lost the channel. -/
def PptpNote.terminal : PptpNote → Bool
  | .failed | .cancel => true
  | .connected | .linkInfo => false

/-- Nothing is told of a channel after a terminal note. -/
def Conversation (told : List (Nat × PptpNote)) : Prop :=
  told.Pairwise fun earlier later => earlier.1 = later.1 → earlier.2.terminal = false

theorem Conversation.concat {told : List (Nat × PptpNote)} (one : Conversation told) {ch : Nat}
    (unended : ∀ entry ∈ told, entry.2.terminal = true → entry.1 ≠ ch) (note : PptpNote) :
    Conversation (told ++ [(ch, note)]) := by
  refine List.pairwise_append.mpr ⟨one, List.pairwise_singleton _ _, ?_⟩
  intro entry member last is same
  rw [List.mem_singleton.mp is] at same
  cases ends : entry.2.terminal with
  | false => rfl
  | true => exact absurd same (unended entry member ends)

/-- A conversation ends at most once. -/
theorem Conversation.ends_once {told : List (Nat × PptpNote)} (one : Conversation told)
    {ch : Nat} {entry : Nat × PptpNote} (member : entry ∈ told) (its : entry.1 = ch)
    (ends : entry.2.terminal = true) :
    (told.countP fun entry => entry.1 = ch ∧ entry.2.terminal = true) = 1 := by
  induction told with
  | nil => cases member
  | cons first rest ih =>
      obtain ⟨after, others⟩ := List.pairwise_cons.mp one
      rcases List.mem_cons.mp member with rfl | later
      · have none : (rest.countP fun other => other.1 = ch ∧ other.2.terminal = true) = 0 := by
          refine List.countP_eq_zero.mpr fun other listed said => ?_
          have same := (of_decide_eq_true said).1
          have goes := after other listed (its.trans same.symm)
          rw [ends] at goes
          cases goes
        rw [List.countP_cons, none, if_pos (decide_eq_true ⟨its, ends⟩)]
      · have away : ¬(first.1 = ch ∧ first.2.terminal = true) := by
          rintro ⟨same, ended⟩
          have goes := after entry later (same.trans its.symm)
          rw [ended] at goes
          cases goes
        rw [List.countP_cons, ih others later, if_neg (by simpa using away)]

namespace PptpWorld

/-- The conversations so far: the ended ones are about channels that are gone, and every
channel that the link side has taken is there or its conversation has ended. -/
structure Conversed (w : PptpWorld) : Prop where
  one : Conversation w.told
  ended : ∀ entry ∈ w.told, entry.2.terminal = true →
    entry.1 < w.nextChan ∧ ∀ chan ∈ w.chans, chan.addr ≠ entry.1
  taken : ∀ ch ∈ w.linked, (∃ chan ∈ w.chans, chan.addr = ch ∧ chan.cookie = true) ∨
    ∃ entry ∈ w.told, entry.1 = ch ∧ entry.2.terminal = true

variable {w v : PptpWorld}

theorem Conversed.same (kept : w.Conversed) (chans : v.chans = w.chans) (told : v.told = w.told)
    (linked : v.linked = w.linked) (nextChan : v.nextChan = w.nextChan) : v.Conversed := by
  obtain ⟨one, ended, taken⟩ := kept
  refine ⟨?_, ?_, ?_⟩
  · rwa [told]
  · rwa [told, nextChan, chans]
  · rwa [linked, chans, told]

theorem Conversed.unended (kept : w.Conversed) {chan : PptpChan} (live : chan ∈ w.chans) :
    ∀ entry ∈ w.told, entry.2.terminal = true → entry.1 ≠ chan.addr :=
  fun entry member ends same => (kept.ended entry member ends).2 chan live same.symm

/-- A live channel may be told of, as long as that does not end its conversation. -/
theorem Conversed.tell (kept : w.Conversed) {chan : PptpChan} (live : chan ∈ w.chans)
    {note : PptpNote} (goes : note.terminal = false) : (w.tell chan.addr note).Conversed := by
  refine ⟨kept.one.concat (kept.unended live) note, ?_, ?_⟩
  · intro entry member ends
    rcases List.mem_append.mp member with old | new
    · exact kept.ended entry old ends
    · rw [List.mem_singleton.mp new, goes] at ends
      cases ends
  · intro ch member
    rcases kept.taken ch member with there | ⟨entry, old, its, ends⟩
    · exact .inl there
    · exact .inr ⟨entry, List.mem_append_left _ old, its, ends⟩

theorem Conversed.setChan (kept : w.Conversed) (ch : Nat) {f : PptpChan → PptpChan}
    (same : ∀ chan, (f chan).addr = chan.addr ∧ (chan.cookie = true → (f chan).cookie = true)) :
    (w.setChan ch f).Conversed := by
  refine ⟨kept.one, fun entry member ends => ⟨(kept.ended entry member ends).1, ?_⟩, ?_⟩
  · intro chan listed
    obtain ⟨before, there, its⟩ := mem_of_mem_setChan (fun chan => (same chan).1) listed
    rw [its]
    exact (kept.ended entry member ends).2 before there
  · intro a member
    rcases kept.taken a member with ⟨chan, there, its, cookie⟩ | settled
    · refine .inl ⟨_, List.mem_map.mpr ⟨chan, there, rfl⟩, ?_⟩
      split
      · exact ⟨(same chan).1.trans its, (same chan).2 cookie⟩
      · exact ⟨its, cookie⟩
    · exact .inr settled

/-- The link side takes a live channel. -/
theorem Conversed.take (kept : w.Conversed) {chan : PptpChan} (live : chan ∈ w.chans)
    (peerCid : UInt16) : (pptpTake w chan.addr peerCid).Conversed := by
  have set := kept.setChan (f := fun chan => { chan with peerCid := peerCid, cookie := true })
    chan.addr fun _ => ⟨rfl, fun _ => rfl⟩
  refine ⟨set.one, set.ended, fun ch member => ?_⟩
  rcases List.mem_cons.mp member with rfl | old
  · exact .inl ⟨{ chan with peerCid := peerCid, cookie := true },
      mem_setChan (w := w) (f := fun chan => { chan with peerCid := peerCid, cookie := true })
        live rfl, rfl, rfl⟩
  · exact set.taken ch old

/-- The end of a channel that the link side has taken ends its conversation. -/
theorem Conversed.kill (kept : w.Conversed) (recorded : w.Recorded) (ch : Nat) :
    (pptpCtrlKillChan w ch).Conversed := by
  unfold pptpCtrlKillChan
  cases found : w.chan? ch with
  | none => exact kept
  | some chan =>
      obtain ⟨live, its⟩ := chan?_mem found
      have fewer : ∀ other ∈ w.chans.filter (·.addr ≠ ch), other ∈ w.chans ∧ other.addr ≠ ch := by
        intro other listed
        obtain ⟨there, away⟩ := List.mem_filter.mp listed
        exact ⟨there, by simpa using away⟩
      have others : ∀ a ∈ w.linked,
          (∃ other ∈ w.chans.filter (·.addr ≠ ch), other.addr = a ∧ other.cookie = true) ∨
          (a = ch ∧ chan.cookie = true) ∨
          ∃ entry ∈ w.told, entry.1 = a ∧ entry.2.terminal = true := by
        intro a member
        rcases kept.taken a member with ⟨other, there, rfl, cookie⟩ | settled
        · by_cases same : other.addr = ch
          · right; left
            have both := List.inj_on_of_nodup_map recorded.addrs there live (same.trans its.symm)
            rw [← both]
            exact ⟨same, cookie⟩
          · exact .inl ⟨other, List.mem_filter.mpr ⟨there, by simpa using same⟩, rfl, cookie⟩
        · exact .inr (.inr settled)
      dsimp only
      cases cookie : chan.cookie with
      | false =>
          rw [if_neg (by simp)]
          refine ⟨kept.one, fun entry member ends => ?_, fun a member => ?_⟩
          · obtain ⟨below, gone⟩ := kept.ended entry member ends
            exact ⟨below, fun other listed => gone other (fewer other listed).1⟩
          · rcases others a member with there | ⟨-, has⟩ | settled
            · exact .inl there
            · rw [cookie] at has
              cases has
            · exact .inr settled
      | true =>
          rw [if_pos rfl]
          have last : (if chan.state = .waitAnswer then PptpNote.cancel else .failed).terminal =
              true := by
            split <;> rfl
          generalize (if chan.state = .waitAnswer then PptpNote.cancel else .failed) = note at last ⊢
          refine ⟨?_, fun entry member ends => ?_, fun a member => ?_⟩
          · rw [← its]
            exact kept.one.concat (kept.unended live) note
          · rcases List.mem_append.mp member with old | new
            · obtain ⟨below, gone⟩ := kept.ended entry old ends
              exact ⟨below, fun other listed => gone other (fewer other listed).1⟩
            · rw [List.mem_singleton.mp new]
              refine ⟨?_, fun other listed => (fewer other listed).2⟩
              rw [← its]
              exact recorded.fresh chan live
          · rcases others a member with there | ⟨same, -⟩ | ⟨entry, old, its, ends⟩
            · exact .inl there
            · exact .inr ⟨(ch, note), List.mem_append_right _ (List.mem_singleton_self _),
                same.symm, last⟩
            · exact .inr ⟨entry, List.mem_append_left _ old, its, ends⟩

/-- A new channel has an address that no conversation is about. -/
theorem Conversed.getChan (kept : w.Conversed) (c : Nat) (state : PptpChanState)
    (orig incoming : Bool) : (pptpCtrlGetChan w c state orig incoming).2.Conversed := by
  rcases getChan_cases w c state orig incoming with hangs | ⟨new, ⟨newAddr, -⟩, -, makes⟩
  · rw [hangs]
    exact kept.same rfl rfl rfl rfl
  · rw [makes]
    have perm := List.perm_orderedInsert (fun a b : PptpChan => a.id ≤ b.id) new w.chans
    refine ⟨kept.one, fun entry member ends => ?_, fun ch member => ?_⟩
    · obtain ⟨below, gone⟩ := kept.ended entry member ends
      refine ⟨Nat.lt_succ_of_lt below, fun chan listed => ?_⟩
      rcases List.mem_cons.mp (perm.mem_iff.mp listed) with rfl | old
      · rw [newAddr]
        exact (Nat.ne_of_lt below).symm
      · exact gone chan old
    · rcases kept.taken ch member with ⟨chan, there, its, cookie⟩ | settled
      · exact .inl ⟨chan, perm.mem_iff.mpr (List.mem_cons_of_mem _ there), its, cookie⟩
      · exact .inr settled

theorem Conversed.move (kept : w.Conversed) (recorded : w.Recorded) (move : PptpMove False w v) :
    v.Conversed := by
  cases move with
  | kill ch => exact kept.kill recorded ch
  | dropCtrl => exact kept.same rfl rfl rfl rfl
  | setCtrl => exact kept.same rfl rfl rfl rfl
  | setChan ch f same =>
      refine kept.setChan ch fun chan => ⟨(same chan).1, fun cookie => ?_⟩
      rw [(same chan).2.2.2.1]
      exact cookie
  | expect => exact kept.same rfl rfl rfl rfl
  | answered => exact kept.same rfl rfl rfl rfl
  | asked => exact kept.same rfl rfl rfl rfl
  | send => exact kept.same rfl rfl rfl rfl
  | hang => exact kept.same rfl rfl rfl rfl
  | newCtrl => exact kept.same rfl rfl rfl rfl
  | getChan state orig incoming known => exact kept.getChan _ state orig incoming
  | take live free peerCid => exact kept.take live peerCid
  | tell live taken goes =>
      refine kept.tell live ?_
      rcases goes with rfl | rfl <;> rfl
  | refuse ch allowed => exact allowed.elim

theorem Conversed.moves (kept : w.Conversed) (recorded : w.Recorded)
    (moves : PptpMoves False w v) : v.Conversed ∧ v.Recorded := by
  induction moves with
  | refl => exact ⟨kept, recorded⟩
  | tail _ move ih => exact ⟨ih.1.move ih.2 move, ih.2.move move⟩

end PptpWorld

theorem conversed_run (env : PptpEnv) (events : List PptpEvent)
    (unrefused : Transition.Meets (pptpStep env) PptpUnrefused (pptpCtrlInit env) events) :
    (pptpRun env events).Conversed ∧ (pptpRun env events).Recorded := by
  have kept : ∀ w event, w.Conversed ∧ w.Recorded → PptpUnrefused w event →
      (pptpStep env w event).Conversed ∧ (pptpStep env w event).Recorded := by
    rintro w event ⟨conversed, recorded⟩ fair
    have moves : PptpMoves False w (pptpStep env w event) :=
      moves_pptpStep env .refl event (fun refused => refused fair) recorded.named
    exact conversed.moves recorded moves
  refine Transition.invariant_run (pptpStep env) kept ?_ unrefused
  exact ⟨⟨List.Pairwise.nil, nofun, nofun⟩, recorded_run env []⟩

/-- Unless a call is refused, the link side is told nothing of a channel after its end, and of
a channel it has taken it is told the end once, when the channel is gone. -/
theorem conversation_run (env : PptpEnv) (events : List PptpEvent)
    (unrefused : Transition.Meets (pptpStep env) PptpUnrefused (pptpCtrlInit env) events) :
    Conversation (pptpRun env events).told ∧
    ∀ ch ∈ (pptpRun env events).linked,
      ((pptpRun env events).told.countP fun entry => entry.1 = ch ∧ entry.2.terminal = true) =
        if ((pptpRun env events).chan? ch).isSome then 0 else 1 := by
  obtain ⟨kept, recorded⟩ := conversed_run env events unrefused
  refine ⟨kept.one, fun ch member => ?_⟩
  cases there : (pptpRun env events).chan? ch with
  | some chan =>
      obtain ⟨live, its⟩ := chan?_mem there
      rw [if_pos Option.isSome_some]
      refine List.countP_eq_zero.mpr fun entry told said => ?_
      obtain ⟨about, ends⟩ := of_decide_eq_true said
      exact kept.unended live entry told ends (about.trans its.symm)
  | none =>
      rw [if_neg (by simp)]
      rcases kept.taken ch member with ⟨chan, live, its, -⟩ | ⟨entry, told, its, ends⟩
      · have gone := List.find?_eq_none.mp there chan live
        exact absurd (decide_eq_true its) gone
      · exact kept.one.ends_once told its ends

theorem nextCallId_of_free {w : PptpWorld} (free : w.gCallIds w.gLastCallId = false) :
    pptpNextCallId w = some w.gLastCallId := by
  unfold pptpNextCallId
  rw [List.range_succ_eq_map, List.map_cons]
  refine List.find?_cons_of_pos ?_ |>.trans ?_
  · simpa using free
  · simp

/-- Surroundings where nothing fails. -/
def PptpEnv.willing : PptpEnv := ⟨2, fun _ => true, 0⟩

def PptpWorld.dialled : PptpWorld :=
  { ctrls := [{ addr := 0, id := 0, orig := true, self_addr := 0, peer_addr := 1,
                peer_port := 1723, active_sessions := 1 }]
    chans := [⟨0, 0, 0, .waitCtrl, true, false, 0, 0, true⟩]
    gCallIds := Function.update (fun _ => false) 0 true
    nextCtrl := 1
    nextChan := 1
    asked := 1
    linked := [0] }

theorem willing_dials :
    pptpStep .willing (pptpCtrlInit .willing) (.origCall false 0 1 1723) = .dialled := by
  have found : pptpCtrlGetCtrl .willing (pptpCtrlInit .willing) 0 1 1723 =
      (some 0, pptpNewCtrl (PptpWorld.ask .willing (pptpCtrlInit .willing)).2 true 0 1 1723) := rfl
  unfold pptpStep
  rw [if_neg (by simp [pptpCtrlInit])]
  dsimp only
  unfold pptpCtrlOrigCall
  rw [found]
  dsimp only
  unfold pptpCtrlGetChan
  rw [nextCallId_of_free (by rfl)]
  rfl

/-- A peer that refuses our call by its reply has the link side told of it twice: by the
handler of the reply and by the end of the channel. -/
theorem not_conversation :
    ¬∀ (env : PptpEnv) (events : List PptpEvent), Conversation (pptpRun env events).told := by
  intro all
  have one := all .willing
    [.origCall false 0 1 1723, .connEvent 0, .received 0 (.startCtrlConnReply 0x0100 1),
      .received 0 (.outCallReply 5 0 7)]
  unfold pptpRun at one
  rw [Transition.run_cons, willing_dials] at one
  have goes := List.rel_of_pairwise_cons one (List.mem_singleton_self (0, PptpNote.failed)) rfl
  cases goes

/-- The peer accepts our call and the connection breaks later. -/
theorem willing_conversation :
    Transition.Meets (pptpStep .willing) PptpUnrefused (pptpCtrlInit .willing)
      [.origCall false 0 1 1723, .connEvent 0, .received 0 (.startCtrlConnReply 0x0100 1),
        .received 0 (.outCallReply 5 0 1), .broken 0] ∧
    Conversation (pptpRun .willing
      [.origCall false 0 1 1723, .connEvent 0, .received 0 (.startCtrlConnReply 0x0100 1),
        .received 0 (.outCallReply 5 0 1), .broken 0]).told := by
  have unrefused : Transition.Meets (pptpStep .willing) PptpUnrefused (pptpCtrlInit .willing)
      [.origCall false 0 1 1723, .connEvent 0, .received 0 (.startCtrlConnReply 0x0100 1),
        .received 0 (.outCallReply 5 0 1), .broken 0] := by
    refine ⟨trivial, trivial, ?_, ?_, trivial, trivial⟩
    · rintro ⟨ch, cid, peerCid, result, found, is | is, -⟩ <;> cases is
    · rintro ⟨ch, cid, peerCid, result, found, is | is, failed, -⟩
      · cases is
        exact failed rfl
      · cases is
  exact ⟨unrefused, (conversation_run .willing _ unrefused).1⟩

end Mpd
