import Mpd.Auth.Start

/-! The calls that only go on with an authentication: they send packets, draw random
numbers and write to `struct auth`, but come to no verdict. -/

set_option autoImplicit false

namespace Mpd

def LinkAct.idle : LinkAct → Bool
  | .frame _ _ | .setAccm _ _ | .repeater _ | .physOpen | .physClose | .ncpFailure _ => true
  | .abort place => place ≠ .lcpNewState && place ≠ .lcpNewPhase
  | _ => false

/-- The call went on with the authentication of the link and did nothing else. -/
structure AuthWork (before after : FsmWorld Link) : Prop where
  layer : ∃ auth randoms trace, after = { before with layer := { before.layer with
    auth, randoms, trace } }
  peer_to_self : after.layer.auth.peer_to_self = before.layer.auth.peer_to_self
  self_to_peer : after.layer.auth.self_to_peer = before.layer.auth.self_to_peer
  thread : after.layer.auth.thread = before.layer.auth.thread
  acts : ∃ acts, after.layer.trace = before.layer.trace ++ acts ∧ ∀ act ∈ acts, act.idle = true

namespace AuthWork

theorem refl (w : FsmWorld Link) : AuthWork w w where
  layer := ⟨w.layer.auth, w.layer.randoms, w.layer.trace, rfl⟩
  peer_to_self := rfl
  self_to_peer := rfl
  thread := rfl
  acts := ⟨[], by simp, by simp⟩

theorem trans {first second third : FsmWorld Link} (left : AuthWork first second)
    (right : AuthWork second third) : AuthWork first third where
  layer := by
    obtain ⟨_, _, _, early⟩ := left.layer
    obtain ⟨auth, randoms, trace, late⟩ := right.layer
    exact ⟨auth, randoms, trace, by rw [late, early]⟩
  peer_to_self := right.peer_to_self.trans left.peer_to_self
  self_to_peer := right.self_to_peer.trans left.self_to_peer
  thread := right.thread.trans left.thread
  acts := by
    obtain ⟨early, earlyTrace, earlyIdle⟩ := left.acts
    obtain ⟨late, lateTrace, lateIdle⟩ := right.acts
    refine ⟨early ++ late, by rw [lateTrace, earlyTrace, List.append_assoc], ?_⟩
    intro act member
    rcases List.mem_append.mp member with member | member
    · exact earlyIdle act member
    · exact lateIdle act member

/-- A write to `struct auth` that leaves alone who has to authenticate and the thread. -/
theorem setAuth (w : FsmWorld Link) (auth : Auth)
    (peer_to_self : auth.peer_to_self = w.layer.auth.peer_to_self)
    (self_to_peer : auth.self_to_peer = w.layer.auth.self_to_peer)
    (thread : auth.thread = w.layer.auth.thread) : AuthWork w (w.setAuth auth) where
  layer := ⟨auth, w.layer.randoms, w.layer.trace, rfl⟩
  peer_to_self := peer_to_self
  self_to_peer := self_to_peer
  thread := thread
  acts := ⟨[], (List.append_nil _).symm, by simp⟩

/-- A call that begins with such a write. -/
theorem setAuthThen {w after : FsmWorld Link} {auth : Auth}
    (rest : AuthWork (w.setAuth auth) after)
    (peer_to_self : auth.peer_to_self = w.layer.auth.peer_to_self)
    (self_to_peer : auth.self_to_peer = w.layer.auth.self_to_peer)
    (thread : auth.thread = w.layer.auth.thread) : AuthWork w after :=
  trans (setAuth w auth peer_to_self self_to_peer thread) rest

theorem note {act : LinkAct} (idle : act.idle = true) (w : FsmWorld Link) :
    AuthWork w (w.note act) where
  layer := ⟨w.layer.auth, w.layer.randoms, w.layer.trace ++ [act], rfl⟩
  peer_to_self := rfl
  self_to_peer := rfl
  thread := rfl
  acts := ⟨[act], rfl, by simpa using idle⟩

theorem random (w : FsmWorld Link) (randoms : Nat) :
    AuthWork w { w with layer := { w.layer with randoms } } where
  layer := ⟨w.layer.auth, randoms, w.layer.trace, rfl⟩
  peer_to_self := rfl
  self_to_peer := rfl
  thread := rfl
  acts := ⟨[], (List.append_nil _).symm, by simp⟩

theorem authOutput (proto : UInt16) (code id : UInt8) (ptr : Bytes) (add_len : Bool)
    (eap_type : UInt8) (w : FsmWorld Link) :
    AuthWork w (authOutput proto code id ptr add_len eap_type w) :=
  note rfl w

theorem authCleanup (w : FsmWorld Link) : AuthWork w (authCleanup w) :=
  setAuth w _ rfl rfl rfl

theorem papSendRequest (w : FsmWorld Link) : AuthWork w (papSendRequest w) :=
  setAuthThen (authOutput _ _ _ _ _ _ _) rfl rfl rfl

theorem papStart (which : AuthSide) (w : FsmWorld Link) : AuthWork w (papStart which w) := by
  cases which with
  | peerToSelf => exact refl w
  | selfToPeer => exact setAuthThen (papSendRequest _) rfl rfl rfl

theorem chapGenRandom (w : FsmWorld Link) (len : Nat) :
    AuthWork w (chapGenRandom len w).2 :=
  random w _

theorem chapChallengeLength (alg : UInt8) (w : FsmWorld Link) :
    AuthWork w (chapChallengeLength alg w).2 := by
  unfold Mpd.chapChallengeLength
  split_ifs
  · exact refl w
  · exact refl w
  · exact random w _
  · exact refl w

theorem chapMakeChallenge (w : FsmWorld Link) : AuthWork w (chapMakeChallenge w) := by
  have counted := chapChallengeLength w.layer.auth.peer_to_self_alg w
  unfold Mpd.chapMakeChallenge
  dsimp only
  split_ifs
  · exact refl w
  · split <;> rename_i found
    · rw [found] at counted
      exact trans counted (note rfl _)
    · rename_i len _
      rw [found] at counted
      have drawn := trans counted (chapGenRandom _ len)
      exact trans drawn (setAuth _ _ drawn.peer_to_self.symm drawn.self_to_peer.symm
        drawn.thread.symm)

theorem chapSendChallenge (w : FsmWorld Link) : AuthWork w (chapSendChallenge w) := by
  have made := chapMakeChallenge w
  have counted := trans made (setAuth (Mpd.chapMakeChallenge w)
    { (Mpd.chapMakeChallenge w).layer.auth with
      chap := { (Mpd.chapMakeChallenge w).layer.auth.chap with
        next_id := (Mpd.chapMakeChallenge w).layer.auth.chap.next_id + 1 } } rfl rfl rfl)
  exact trans counted (authOutput _ _ _ _ _ _ _)

theorem chapFirstChallenge (proto : UInt16) (w : FsmWorld Link) :
    AuthWork w (chapFirstChallenge proto w) :=
  setAuthThen (chapSendChallenge _) rfl rfl rfl

theorem chapStart (which : AuthSide) (w : FsmWorld Link) : AuthWork w (chapStart which w) := by
  cases which with
  | selfToPeer => exact setAuth w _ rfl rfl rfl
  | peerToSelf => exact chapFirstChallenge protoChap w

theorem eapSendIdentRequest (w : FsmWorld Link) : AuthWork w (eapSendIdentRequest w) :=
  setAuthThen (authOutput _ _ _ _ _ _ _) rfl rfl rfl

theorem eapStart (which : AuthSide) (w : FsmWorld Link) : AuthWork w (eapStart which w) := by
  cases which with
  | selfToPeer => exact setAuth w _ rfl rfl rfl
  | peerToSelf => exact setAuthThen (eapSendIdentRequest _) rfl rfl rfl

theorem authStartSide (which : AuthSide) (proto : UInt16) (w : FsmWorld Link) :
    AuthWork w (authStartSide which proto w) := by
  unfold Mpd.authStartSide
  split_ifs
  · exact refl w
  · exact papStart which w
  · exact chapStart which w
  · exact eapStart which w
  · exact note rfl w

theorem authStartBoth (w : FsmWorld Link) : AuthWork w (authStartBoth w) := by
  have timed := setAuth w { w.layer.auth with timer := true } rfl rfl rfl
  exact trans (trans timed (authStartSide _ _ _)) (authStartSide _ _ _)

end AuthWork

end Mpd
