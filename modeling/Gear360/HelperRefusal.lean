import Gear360.AuthGate
import Gear360.WsmHelper

namespace Gear360

open Interaction ChildProcess
open Interaction.Prog (perform fromResult tryFinally)
open Session

section
variable {H : Type} (W : LibWsm H) (path : String) {cameraMac phoneMac : String} {handle : H}
  (capacity : ℕ) (sizes : List ℕ) {body : Bytes}

variable (hinit : W.clientInit cameraMac.toUTF8.toList phoneMac.toUTF8.toList = some handle)
  (hlen : 70 ≤ body.length)
  (hrefused : (W.checkAndGenerateServerChallenge handle (body.take 70)).1 ≤ 0)
include hinit hlen hrefused

/-- The helper writes the buffer and exits. -/
theorem helper_write_refused :
    (Process.spawn (wsmHelper W [path, "full_auth", cameraMac, phoneMac])).write capacity body =
      (!decide (capacity < body.length),
        ⟨.ret 1, body.drop 70, false,
          (W.checkAndGenerateServerChallenge handle (body.take 70)).2.1⟩) := by
  rw [write_spawn W path capacity hinit, wsmHelper_resume W path hinit hlen, if_pos hrefused]
  simp only [Process.status, Option.isSome_some, Bool.true_and]

/-- The buffer comes back as the response, valid or not. -/
theorem helper_returns_refused (hfits : body.length ≤ capacity) :
    ∃ s, (HelperWsmAuthenticator.processChallenge W capacity sizes body).run
      (.init cameraMac phoneMac path) =
        .ok (some (W.checkAndGenerateServerChallenge handle (body.take 70)).2.1) s := by
  have hwrite := helper_write_refused W path capacity hinit hlen hrefused
  rw [decide_eq_false (Nat.not_lt.mpr hfits)] at hwrite
  obtain ⟨rest, hrun⟩ := processChallenge_read hwrite
    (readResponse_full sizes (W.response_length handle (body.take 70)))
  exact ⟨_, hrun⟩

theorem helper_breaks_refused (hlarge : capacity < body.length) :
    ∃ s, (HelperWsmAuthenticator.processChallenge W capacity sizes body).run
      (.init cameraMac phoneMac path) = .error (.osError "Broken pipe") s := by
  have hwrite := helper_write_refused W path capacity hinit hlen hrefused
  rw [decide_eq_true hlarge] at hwrite
  exact processChallenge_broken sizes hwrite

end

def SessionOp.NoChallenge : SessionOp → Prop
  | .processChallenge _ => False
  | _ => True

theorem SessionOp.Serves.noChallenge {session : SapSession} {o : SessionOp}
    (h : o.Serves session) : o.NoChallenge := by
  cases o <;> first | exact h | exact trivial

theorem SessionOp.Plain.noChallenge {o : SessionOp} (h : o.Plain) : o.NoChallenge := by
  cases o <;> first | exact h | exact trivial

/-- A response that fits a frame is sent in one of type 17. -/
def Relays (t : List SessionEvent) : Prop :=
  ∀ challenge response, ⟨.processChallenge challenge, .ok (some response)⟩ ∈ t →
    response.length ≤ 65533 → ∃ session x, ⟨.sendFrame session ([17, 0] ++ response), x⟩ ∈ t

section
variable {α β : Type} {p : Session α}

theorem relays_of_noChallenge (h : Performs SessionOp.NoChallenge p) :
    Ensures p fun t _ => Relays t := by
  intro t r hr challenge response he _
  exact (h t r hr _ he).elim

theorem relays_bind {f : α → Session β} (hp : Ensures p fun t _ => Relays t)
    (hf : ∀ a, Ensures (f a) fun t _ => Relays t) : Ensures (p >>= f) fun t _ => Relays t := by
  apply ensures_bind
  · exact fun t e ht => hp t _ ht
  · intro t a ht t' r ht' challenge response he hlen
    rcases List.mem_append.mp he with he | he
    · obtain ⟨session, x, hx⟩ := hp t _ ht challenge response he hlen
      exact ⟨session, x, List.mem_append_left _ hx⟩
    · obtain ⟨session, x, hx⟩ := hf a t' r ht' challenge response he hlen
      exact ⟨session, x, List.mem_append_right _ hx⟩

theorem relays_attempt (hp : Ensures p fun t _ => Relays t) :
    Ensures p.attempt fun t _ => Relays t := by
  intro t r hr
  obtain ⟨x, -, hx⟩ := run_attempt_iff.mp hr
  exact hp t x hx

theorem relays_tryFinally {fin : Session Unit} (hp : Ensures p fun t _ => Relays t)
    (hfin : Ensures fin fun t _ => Relays t) : Ensures (tryFinally p fin) fun t _ => Relays t := by
  apply relays_bind (relays_attempt hp)
  intro r
  apply relays_bind hfin
  intro _
  exact relays_of_noChallenge (performs_fromResult _ r)

end

theorem noChallenge_exchange (session : SapSession) :
    Performs SessionOp.NoChallenge (exchangePeerDescription session) := by
  intro t r hr
  cases run_exchangePeerDescription hr with
  | ended hlines _ => rcases hlines with rfl | ⟨text, y, rfl⟩ <;> simp [SessionOp.NoChallenge]
  | answered _ _ _ _ => simp [SessionOp.NoChallenge]

theorem noChallenge_awaitAuthRequest : Performs SessionOp.NoChallenge awaitAuthRequest := by
  apply performs_bind (performs_perform (show SessionOp.NoChallenge .openConnection from trivial))
  intro opened
  match opened with
  | none => exact performs_ret _ _
  | some fd =>
    apply performs_bind (noChallenge_exchange _)
    intro session
    match session with
    | none => exact performs_ret _ _
    | some session =>
      apply performs_bind ((awaitChallenge_plain session).mono fun _ => SessionOp.Plain.noChallenge)
      intro challenge
      match challenge with
      | none => exact performs_ret _ _
      | some challenge => exact performs_ret _ _

theorem noChallenge_cleanup (authenticator : Bool) :
    Performs SessionOp.NoChallenge (cleanup authenticator) := by
  have hclose : Performs SessionOp.NoChallenge (perform SessionOp.closeConnection : Session Unit) :=
    performs_perform trivial
  cases authenticator with
  | false => exact hclose
  | true =>
    exact performs_bind
      (performs_perform (show SessionOp.NoChallenge .closeAuthenticator from trivial))
      fun _ => hclose

/-- The answer is looked at only to tell None, and everything else is sent. -/
theorem relays_authenticate (session : SapSession) (challenge : Bytes) :
    Ensures (authenticate session challenge) fun t _ => Relays t := by
  intro t r hr challenge' response he hlen
  obtain ⟨x, t', ht, hplain⟩ := authenticate_plain hr
  -- so the answer in question is the first one
  have hx : x = .ok (some response) := by
    rw [ht] at he
    rcases List.mem_cons.mp he with heq | he
    · cases heq
      rfl
    · exact (hplain _ he).elim
  rcases run_bind_cases hr with ⟨e, hp, -⟩ | ⟨t₁, answer, t₂, hp, hf, rfl⟩
  · rw [run_perform_iff.mp hp] at he
    cases List.mem_singleton.mp he
  · rw [run_perform_iff.mp hp] at ht ⊢
    cases ht
    cases hx
    have hsend {t : List SessionEvent} {x : Except PyErr Unit}
        (h : Run (sendFrame session ([17, 0] ++ response)) t x) :
        t = [⟨.sendFrame session ([17, 0] ++ response), x⟩] := by
      have hfits : be16 ([17, 0] ++ response).length =
          .ok (BigEndian.encode 2 ([17, 0] ++ response).length) :=
        be16_ok (by simp only [List.length_append, List.length_cons, List.length_nil]; omega)
      rw [sendFrame, hfits] at h
      exact run_perform_iff.mp h
    rcases run_bind_cases hf with ⟨e, hs, -⟩ | ⟨t₃, a, t₄, hs, -, rfl⟩
    · rw [hsend hs]
      exact ⟨session, .error e, by simp⟩
    · rw [hsend hs]
      exact ⟨session, .ok a, by simp⟩

/-- In every run, what `process_challenge` returned is sent to the camera. -/
theorem relays_runWifiSession (jsonLoads : Bytes → Option Json) :
    Ensures (runWifiSession jsonLoads) fun t _ => Relays t := by
  have hquiet {α : Type} {p : Session α} (h : Performs SessionOp.NoChallenge p) :
      Ensures p fun t _ => Relays t := relays_of_noChallenge h
  apply relays_bind (relays_attempt (hquiet noChallenge_awaitAuthRequest))
  intro awaited
  match awaited with
  | .error e =>
    exact relays_tryFinally (hquiet (performs_raise _ e)) (hquiet (noChallenge_cleanup false))
  | .ok none => exact hquiet (noChallenge_cleanup false)
  | .ok (some (session, challenge)) =>
    have hmake : Performs SessionOp.NoChallenge
        (perform (SessionOp.makeAuthenticator CAMERA_MAC PHONE_MAC) : Session Unit) :=
      performs_perform trivial
    apply relays_bind (relays_attempt (hquiet hmake))
    intro made
    match made with
    | .error e =>
      exact relays_tryFinally (hquiet (performs_raise _ e)) (hquiet (noChallenge_cleanup false))
    | .ok () =>
      -- only the authentication in the middle asks for an answer to a challenge
      apply relays_tryFinally _ (hquiet (noChallenge_cleanup true))
      apply relays_bind (relays_authenticate session challenge)
      intro verified
      split_ifs
      · exact hquiet ((runServices_serves jsonLoads).mono fun _ => SessionOp.Serves.noChallenge)
      · exact hquiet (performs_ret _ _)

/-- The run's challenges are answered by the authenticator. -/
def AnsweredBy {σ : Type} (answer : Bytes → EStateM.Result PyErr σ (Option Bytes))
    (t : List SessionEvent) : Prop :=
  ∀ challenge x, ⟨.processChallenge challenge, x⟩ ∈ t → ∃ s,
    answer challenge = match x with
      | .ok response => .ok response s
      | .error e => .error e s

/-- For no challenge that libwsm refuses does `process_challenge` return None: what is in the
response buffer is returned, and sent to the camera in a frame of type 17. -/
theorem helper_refusal_never_none {H : Type} (W : LibWsm H) (path : String)
    {cameraMac phoneMac : String} {handle : H}
    (hinit : W.clientInit cameraMac.toUTF8.toList phoneMac.toUTF8.toList = some handle)
    (capacity : ℕ) (sizes : List ℕ) {body : Bytes} (hlen : 70 ≤ body.length)
    (hrefused : (W.checkAndGenerateServerChallenge handle (body.take 70)).1 ≤ 0) :
    (∀ s, (HelperWsmAuthenticator.processChallenge W capacity sizes body).run
      (.init cameraMac phoneMac path) ≠ .ok none s) ∧
    ∀ (jsonLoads : Bytes → Option Json) (t : List SessionEvent) (r : Except PyErr Unit),
      Run (runWifiSession jsonLoads) t r → body.length ≤ capacity →
      AnsweredBy (fun challenge => (HelperWsmAuthenticator.processChallenge W capacity sizes
        challenge).run (.init cameraMac phoneMac path)) t →
      (∃ x, ⟨.processChallenge body, x⟩ ∈ t) →
        ∃ session x, ⟨.sendFrame session ([17, 0] ++
          (W.checkAndGenerateServerChallenge handle (body.take 70)).2.1), x⟩ ∈ t := by
  constructor
  · intro s h
    -- a body that the pipe does not hold breaks the write, and that raises
    rcases Nat.lt_or_ge capacity body.length with hlarge | hfits
    · obtain ⟨s', hrun⟩ := helper_breaks_refused W path capacity sizes hinit hlen hrefused hlarge
      rw [hrun] at h
      cases h
    · obtain ⟨s', hrun⟩ := helper_returns_refused W path capacity sizes hinit hlen hrefused hfits
      rw [hrun] at h
      cases h
  · rintro jsonLoads t r hr hfits hanswered ⟨x, hx⟩
    obtain ⟨s, hrun⟩ := helper_returns_refused W path capacity sizes hinit hlen hrefused hfits
    -- what the session was answered is what the helper returned
    obtain ⟨s', hsame⟩ := hanswered body x hx
    match x with
    | .error e => cases hrun.symm.trans hsame
    | .ok response =>
      cases hrun.symm.trans hsame
      apply relays_runWifiSession jsonLoads t r hr body _ hx
      rw [W.response_length]
      decide

/-- A libwsm that refuses every challenge and leaves the buffer as the helper filled it. -/
def refusingLibWsm : LibWsm Unit where
  clientInit _ _ := some ()
  checkAndGenerateServerChallenge _ _ := (0, List.replicate 102 0xAA, ())
  checkClientResponse _ _ := 0
  response_length _ _ := rfl

theorem helper_refusal_never_none_sample :
    ¬∃ s, (HelperWsmAuthenticator.processChallenge refusingLibWsm 65536 [9]
      (List.replicate 70 1)).run (.init CAMERA_MAC PHONE_MAC "wsm_helper") = .ok none s := by
  rintro ⟨s, h⟩
  exact (helper_refusal_never_none refusingLibWsm "wsm_helper" rfl 65536 [9] (by decide)
    (by decide)).1 s h

/-- A camera whose challenge is refused, and the helper's answer to it. -/
def refusedPlayback : Handler SessionAns PyErr Script
  | .processChallenge _, s => (.ok (some (List.replicate 102 0xAA)), s)
  | o, s => playback o s

/-- The untouched buffer is returned and goes out as the AUTH_RESPONSE. -/
theorem helper_refusal_is_sent :
    (refusingLibWsm.checkAndGenerateServerChallenge () (List.replicate 70 1)).1 ≤ 0 ∧
    (∃ s, (HelperWsmAuthenticator.processChallenge refusingLibWsm 65536 [9]
        (List.replicate 70 1)).run (.init CAMERA_MAC PHONE_MAC "wsm_helper") =
      .ok (some (List.replicate 102 0xAA)) s) ∧
    .plain ([17, 0] ++ List.replicate 102 0xAA) ∈
      (ledger (exec refusedPlayback (runWifiSession fun _ => none)
        ⟨[[5, 2, 1, 2, 1], [9], 16 :: 0 :: List.replicate 70 1], []⟩).trace).written := by
  refine ⟨by decide, ?_, by decide +kernel⟩
  exact helper_returns_refused refusingLibWsm "wsm_helper" 65536 [9] rfl (by decide) (by decide)
    (by decide)

end Gear360
