import Mpd.Fsm.Acknowledgement

/-! What a Configure-Nak suggests for the options of a request, and what comes of the
request in which the suggestions are taken up. -/

set_option autoImplicit false

namespace Mpd

variable {Layer : Type}

def presentBytes (options : List (Option FsmOption)) : Bytes :=
  options.flatMap fun option => (option.map FsmOption.bytes).getD []

def revise (request : List FsmOption) (nakd : List (Option FsmOption)) : List FsmOption :=
  List.zipWith (fun option other => other.getD option) request nakd

/-- How a protocol answers an option that it does not acknowledge: with a Nak that
suggests another, or with a Reject. -/
structure NaksOptions {decodeConfig : List FsmOption → FsmMode → FsmWorld Layer → FsmWorld Layer}
    (A : AnswersOptions decodeConfig) where
  suggests : Layer → FsmOption → Option FsmOption
  answered : ∀ option w, A.acks w.layer option = false →
    A.answer option w = match suggests w.layer option with
      | some other => fsmNak other w
      | none => fsmRej option w

namespace NaksOptions

variable {decodeConfig : List FsmOption → FsmMode → FsmWorld Layer → FsmWorld Layer}
  {A : AnswersOptions decodeConfig} (N : NaksOptions A)

/-- For each option of a request what the Nak has for it, where the buffer holds some
bytes already. A suggestion that does not fit is left out. -/
def nakd : Layer → Bytes → List FsmOption → List (Option FsmOption)
  | _, _, [] => []
  | l, buf, option :: options =>
      if A.acks l option then none :: nakd (A.record option l) buf options
      else
        match N.suggests l option with
        | none => none :: nakd l buf options
        | some other =>
            if buf.length + other.len > fsmBufferSize then none :: nakd l buf options
            else some other :: nakd l (buf ++ other.bytes) options

/-- The Nak is made of these suggestions. -/
theorem nak_answerAll (options : List FsmOption) (w : FsmWorld Layer) :
    (A.answerAll options w).nak = w.nak ++ presentBytes (N.nakd w.layer w.nak options) := by
  induction options generalizing w with
  | nil => exact (List.append_nil _).symm
  | cons option options ih =>
      have first : A.answerAll (option :: options) w = A.answerAll options (A.answer option w) := rfl
      rw [first, ih (A.answer option w)]
      cases verdict : A.acks w.layer option with
      | true =>
          rw [A.acked option w verdict, fsmAck_eq, nakd, if_pos verdict]
          rfl
      | false =>
          have refused : ¬ A.acks w.layer option = true := by simp [verdict]
          rw [N.answered option w verdict, nakd, if_neg refused]
          cases N.suggests w.layer option with
          | none =>
              dsimp only
              rw [fsmRej_eq]
              rfl
          | some other =>
              dsimp only
              rw [fsmNak_eq]
              unfold fsmAppend
              split_ifs
              · rfl
              · simp [presentBytes]

end NaksOptions

/-- A protocol whose suggestions pass its own test. `config` is what the test goes by, and
`offers` is what the suggestions rely on. -/
structure TakesSuggestions
    {decodeConfig : List FsmOption → FsmMode → FsmWorld Layer → FsmWorld Layer}
    {A : AnswersOptions decodeConfig} (N : NaksOptions A) (Config : Type) where
  config : Layer → Config
  offers : Layer → Prop
  config_record : ∀ option l, A.acks l option = true → config (A.record option l) = config l
  offers_record : ∀ option l, A.acks l option = true → offers l → offers (A.record option l)
  taken : ∀ {option other : FsmOption} {l l' : Layer}, offers l → A.acks l option = false →
    N.suggests l option = some other → config l' = config l → A.acks l' other = true

namespace TakesSuggestions

variable {decodeConfig : List FsmOption → FsmMode → FsmWorld Layer → FsmWorld Layer}
  {A : AnswersOptions decodeConfig} {N : NaksOptions A} {Config : Type}
  (C : TakesSuggestions N Config)
include C

/-- An option that was nak'd is not nak'd again when the suggestion is taken up. Along both
requests the acknowledged options leave the configuration as it was. -/
theorem not_nakd_again {l l' : Layer} (offers : C.offers l) (same : C.config l' = C.config l)
    (request : List FsmOption) (buf buf' : Bytes) (i : Nat) (other : FsmOption)
    (was : (N.nakd l buf request)[i]? = some (some other)) :
    (revise request (N.nakd l buf request))[i]? = some other ∧
      (N.nakd l' buf' (revise request (N.nakd l buf request)))[i]? = some none := by
  induction request generalizing l l' buf buf' i with
  | nil => cases was
  | cons option request ih =>
      -- The first place is settled by the option itself, the others by induction.
      have step (l₁ : Layer) (buf₁ : Bytes) (head : Option FsmOption)
          (nakd : N.nakd l buf (option :: request) = head :: N.nakd l₁ buf₁ request)
          (offers₁ : C.offers l₁) (config₁ : C.config l₁ = C.config l)
          (taken : ∀ other, head = some other → A.acks l' other = true) :
          (revise (option :: request) (N.nakd l buf (option :: request)))[i]? = some other ∧
            (N.nakd l' buf' (revise (option :: request)
              (N.nakd l buf (option :: request))))[i]? = some none := by
        rw [nakd] at was ⊢
        have revised : revise (option :: request) (head :: N.nakd l₁ buf₁ request) =
            head.getD option :: revise request (N.nakd l₁ buf₁ request) := rfl
        rw [revised]
        cases i with
        | zero =>
            obtain rfl : head = some other := Option.some.inj was
            have acks := taken other rfl
            refine ⟨rfl, ?_⟩
            rw [Option.getD_some, NaksOptions.nakd, if_pos acks]
            rfl
        | succ i =>
            have later {l₂ : Layer} (config₂ : C.config l₂ = C.config l') (buf₂ : Bytes) :=
              ih offers₁ ((config₂.trans same).trans config₁.symm) buf₁ buf₂ i was
            refine ⟨(later rfl buf').1, ?_⟩
            rw [NaksOptions.nakd]
            split_ifs with acks
            · exact (later (C.config_record _ _ acks) buf').2
            · split
              · exact (later rfl buf').2
              · split_ifs
                · exact (later rfl buf').2
                · exact (later rfl _).2
      cases verdict : A.acks l option with
      | true =>
          refine step (A.record option l) buf none ?_ (C.offers_record option l verdict offers)
            (C.config_record option l verdict) nofun
          rw [NaksOptions.nakd, if_pos verdict]
      | false =>
          have refused : ¬ A.acks l option = true := by simp [verdict]
          cases suggested : N.suggests l option with
          | none =>
              refine step l buf none ?_ offers rfl nofun
              rw [NaksOptions.nakd, if_neg refused, suggested]
          | some suggestion =>
              by_cases full : buf.length + suggestion.len > fsmBufferSize
              · refine step l buf none ?_ offers rfl nofun
                rw [NaksOptions.nakd, if_neg refused, suggested]
                exact if_pos full
              · refine step l (buf ++ suggestion.bytes) (some suggestion) ?_ offers rfl ?_
                · rw [NaksOptions.nakd, if_neg refused, suggested]
                  exact if_neg full
                · intro found same'
                  obtain rfl := Option.some.inj same'
                  exact C.taken offers verdict suggested same

end TakesSuggestions

end Mpd
