import Gear360.WsmAuth

namespace Gear360

namespace WsmClient

variable {Priv Pub : Type} {C : CryptoPackage Priv Pub}

/-- A call of one of the two methods; `os.urandom` returns two bytes. -/
inductive Call where
  | processChallenge (urandom challenge : Bytes) (hurandom : urandom.length = 2)
  | verifyConfirm (confirm : Bytes)

/-- The client that a method leaves, and whether it returned. -/
def finished {α : Type} : EStateM.Result PyErr (WsmClient C) α → WsmClient C × Bool
  | .ok _ self => (self, true)
  | .error _ self => (self, false)

def Call.outcome (self : WsmClient C) : Call → WsmClient C × Bool
  | processChallenge urandom challenge _ =>
    finished ((WsmClient.processChallenge urandom challenge).run self)
  | verifyConfirm confirm => finished ((WsmClient.verifyConfirm confirm).run self)

def afterCalls (self : WsmClient C) (calls : List Call) : WsmClient C :=
  calls.foldl (fun self call => (call.outcome self).1) self

/-- The calls that returned. -/
def completed (self : WsmClient C) : List Call → List Call
  | [] => []
  | call :: calls =>
    if (call.outcome self).2 then call :: completed (call.outcome self).1 calls
    else completed (call.outcome self).1 calls

/-- Whether `verify_confirm` returns. -/
def accepts (self : WsmClient C) (confirm : Bytes) : Bool :=
  (Call.outcome self (.verifyConfirm confirm)).2

/-- The challenge is malformed, or its key can be exchanged with, or it brings nonces that are
stored already. -/
def Harmless (self : WsmClient C) (urandom challenge : Bytes) : Prop :=
  ¬IsChallenge challenge ∨
    (∃ secret, ecdhSharedSecret C self.privateKey (slice challenge 3 68) = .ok secret) ∨
    self.challengeNonce = some (slice challenge 68 70) ∧ self.responseNonce = some urandom

theorem processChallenge_answers (self : WsmClient C) {urandom challenge secret : Bytes}
    (hurandom : urandom.length = 2) (h : IsChallenge challenge)
    (hsecret : ecdhSharedSecret C self.privateKey (slice challenge 3 68) = .ok secret) :
    ∃ response self', (processChallenge urandom challenge).run self = .ok response self' := by
  obtain ⟨hlen, hheader⟩ := h.guards
  obtain ⟨expandedChallenge, hec, -⟩ := expandNonce_ok (slice_length (n := 2) h.1.ge)
  obtain ⟨expandedResponse, her, -⟩ := expandNonce_ok hurandom
  unfold processChallenge
  rw [if_neg hlen, if_neg hheader]
  simp only [raising, hec, her, pure_bind]
  simp [EStateM.run, bind, EStateM.bind, modify, modifyGet, MonadStateOf.modifyGet,
    EStateM.modifyGet, get, getThe, MonadStateOf.get, EStateM.get, hsecret, pure, EStateM.pure]

theorem processChallenge_refuses (self : WsmClient C) {urandom challenge : Bytes} {e : PyErr}
    (h : IsChallenge challenge)
    (hsecret : ecdhSharedSecret C self.privateKey (slice challenge 3 68) = .error e) :
    (processChallenge urandom challenge).run self = .error e { self with
      challengeNonce := some (slice challenge 68 70), responseNonce := some urandom } := by
  obtain ⟨pubkey, nonce, hp, hn, rfl⟩ := h.eq_challengePacket
  obtain ⟨hkey, hnonce⟩ := challenge_fields hp hn
  rw [hkey] at hsecret
  rw [hnonce]
  exact self.processChallenge_error hp hn hsecret

/-- A challenge that raises changes nothing. -/
def Unchanged (self : WsmClient C) (urandom challenge : Bytes) : Prop :=
  ∀ e self', (processChallenge urandom challenge).run self = .error e self' →
    self'.challengeNonce = self.challengeNonce ∧ self'.responseNonce = self.responseNonce ∧
      self'.hmacKeyServer = self.hmacKeyServer

theorem Harmless.eq_of_error {self : WsmClient C} {urandom challenge : Bytes}
    (h : self.Harmless urandom challenge) (hurandom : urandom.length = 2) {e : PyErr}
    {self' : WsmClient C} (hrun : (processChallenge urandom challenge).run self = .error e self') :
    self' = self := by
  by_cases hform : IsChallenge challenge
  · cases hsecret : ecdhSharedSecret C self.privateKey (slice challenge 3 68) with
    | ok secret =>
      obtain ⟨response, answered, hok⟩ := self.processChallenge_answers hurandom hform hsecret
      rw [hrun] at hok
      cases hok
    | error e' =>
      rcases h with hbad | ⟨secret, hok⟩ | ⟨hc, hr⟩
      · exact absurd hform hbad
      · rw [hsecret] at hok
        cases hok
      · -- the nonces are stored again
        rw [self.processChallenge_refuses hform hsecret, ← hc, ← hr] at hrun
        cases hrun
        rfl
  · obtain ⟨e', hraise⟩ := self.processChallenge_malformed urandom hform
    rw [hraise] at hrun
    cases hrun
    rfl

theorem unchanged_iff_harmless (self : WsmClient C) {urandom : Bytes}
    (hurandom : urandom.length = 2) (challenge : Bytes) :
    self.Unchanged urandom challenge ↔ self.Harmless urandom challenge := by
  constructor
  · intro hsame
    by_cases hform : IsChallenge challenge
    · cases hsecret : ecdhSharedSecret C self.privateKey (slice challenge 3 68) with
      | ok secret => exact .inr (.inl ⟨secret, hsecret⟩)
      | error e =>
        obtain ⟨hc, hr, -⟩ := hsame _ _ (self.processChallenge_refuses hform hsecret)
        exact .inr (.inr ⟨hc.symm, hr.symm⟩)
    · exact .inl hform
  · intro h e self' hrun
    rw [h.eq_of_error hurandom hrun]
    exact ⟨rfl, rfl, rfl⟩

def Call.Harmless (self : WsmClient C) : Call → Prop
  | processChallenge urandom challenge _ => self.Harmless urandom challenge
  | verifyConfirm _ => True

/-- A harmless call that raises leaves it as it was. -/
theorem Call.outcome_eq_self {self : WsmClient C} {call : Call} (h : call.Harmless self)
    (hraises : (call.outcome self).2 = false) : (call.outcome self).1 = self := by
  cases call with
  | processChallenge urandom challenge hurandom =>
    change (finished ((WsmClient.processChallenge urandom challenge).run self)).2 = false at hraises
    change (finished ((WsmClient.processChallenge urandom challenge).run self)).1 = self
    cases hrun : (WsmClient.processChallenge urandom challenge).run self with
    | ok response self' =>
      rw [hrun] at hraises
      cases hraises
    | error e self' => exact Harmless.eq_of_error h hurandom hrun
  | verifyConfirm confirm =>
    change (finished ((WsmClient.verifyConfirm confirm).run self)).1 = self
    rcases verifyConfirm_run self confirm with ⟨-, hrun⟩ | ⟨-, e, hrun⟩ <;> rw [hrun] <;> rfl

/-- The calls that raised might as well not have been made. -/
theorem afterCalls_completed {self : WsmClient C} {calls : List Call}
    (h : ∀ before call after, calls = before ++ call :: after →
      call.Harmless (self.afterCalls before)) :
    self.afterCalls calls = self.afterCalls (self.completed calls) := by
  induction calls generalizing self with
  | nil => rfl
  | cons call calls ih =>
    have hrest : ∀ before call' after, calls = before ++ call' :: after →
        call'.Harmless ((call.outcome self).1.afterCalls before) := fun before call' after hcalls =>
      h (call :: before) call' after (by rw [hcalls, List.cons_append])
    have hfirst : call.Harmless self := h [] call calls rfl
    rw [completed]
    -- a call that raised changed nothing, so it can be left out
    split_ifs with hreturned
    · exact ih hrest
    · rw [Bool.not_eq_true] at hreturned
      have hself := Call.outcome_eq_self hfirst hreturned
      calc self.afterCalls (call :: calls)
        _ = (call.outcome self).1.afterCalls calls := rfl
        _ = (call.outcome self).1.afterCalls ((call.outcome self).1.completed calls) := ih hrest
        _ = self.afterCalls ((call.outcome self).1.completed calls) := by rw [hself]

end WsmClient

open WsmClient

/-- In every state that a client can reach, a challenge that raises leaves its three fields
unchanged exactly if it is malformed or brings the stored nonces; and where all failing challenges
do, the confirmations that are accepted are those of the calls that returned. -/
theorem failed_challenge_unchanged_iff {Priv Pub : Type} (C : CryptoPackage Priv Pub)
    (serverId clientId : WsmId) (privateKey : Priv) (calls : List Call) :
    (∀ urandom challenge, urandom.length = 2 →
      (((init C serverId clientId privateKey).afterCalls calls).Unchanged urandom challenge ↔
        ((init C serverId clientId privateKey).afterCalls calls).Harmless urandom challenge)) ∧
    ((∀ before call after, calls = before ++ call :: after →
        call.Harmless ((init C serverId clientId privateKey).afterCalls before)) →
      (∀ before call after, calls = before ++ call :: after →
        (call.outcome ((init C serverId clientId privateKey).afterCalls before)).2 = false →
        ∀ confirm,
          (call.outcome
            ((init C serverId clientId privateKey).afterCalls before)).1.accepts confirm =
            ((init C serverId clientId privateKey).afterCalls before).accepts confirm) ∧
      (init C serverId clientId privateKey).afterCalls calls =
        (init C serverId clientId privateKey).afterCalls
          ((init C serverId clientId privateKey).completed calls)) := by
  refine ⟨fun urandom challenge hurandom => unchanged_iff_harmless _ hurandom challenge, ?_⟩
  intro h
  refine ⟨fun before call after hcalls hraises confirm => ?_, afterCalls_completed h⟩
  rw [Call.outcome_eq_self (h before call after hcalls) hraises]

/-- An empty challenge is refused and changes nothing. -/
theorem failed_challenge_unchanged_iff_empty :
    sampleClient.Unchanged [0x56, 0x78] [] ∧
      sampleClient.afterCalls [.processChallenge [0x56, 0x78] [] rfl] = sampleClient := by
  have hempty : ¬IsChallenge [] := fun h => absurd h.1 (by decide)
  obtain ⟨hone, -⟩ := failed_challenge_unchanged_iff samplePackage (.str "C8:38:70:3F:97:75")
    (.str "A8:3B:76:BA:B2:FE") false []
  obtain ⟨-, hrun⟩ := failed_challenge_unchanged_iff samplePackage (.str "C8:38:70:3F:97:75")
    (.str "A8:3B:76:BA:B2:FE") false [.processChallenge [0x56, 0x78] [] rfl]
  refine ⟨(hone [0x56, 0x78] [] rfl).mpr (.inl hempty), (hrun ?_).2⟩
  intro before call after hcalls
  cases before with
  | nil =>
    cases hcalls
    exact .inl hempty
  | cons => simp at hcalls

def answeredCall : Call :=
  .processChallenge [0xab, 0xcd] (makeChallenge samplePackage true [0x12, 0x34])
    (Eq.refl 2)

/-- A challenge with the right length and header, and no point in it. -/
def pointlessChallenge : Bytes := challengePacket (List.replicate 65 0) [0x9a, 0xbc]

theorem pointlessChallenge_refused (self : WsmClient samplePackage) (urandom : Bytes) :
    (processChallenge urandom pointlessChallenge).run self =
      .error (.valueError "Invalid EC key.") { self with
        challengeNonce := some [0x9a, 0xbc], responseNonce := some urandom } := by
  have hsecret : ecdhSharedSecret samplePackage self.privateKey (List.replicate 65 0) =
      .error (.valueError "Invalid EC key.") := by
    have hpoint : samplePackage.fromEncodedPoint (List.replicate 65 0) =
        .error (.valueError "Invalid EC key.") := by decide +kernel
    rw [ecdhSharedSecret, hpoint]
    rfl
  exact self.processChallenge_error rfl rfl hsecret

/-- The handshake went well, a second challenge fails, and the confirmation that was accepted
before is not accepted any more. -/
theorem failed_challenge_changes_client :
    ∃ e self', (processChallenge [0x56, 0x78] pointlessChallenge).run
        (sampleClient.afterCalls [answeredCall]) = .error e self' ∧
      self'.challengeNonce ≠ (sampleClient.afterCalls [answeredCall]).challengeNonce ∧
      self'.responseNonce ≠ (sampleClient.afterCalls [answeredCall]).responseNonce ∧
      (sampleClient.afterCalls [answeredCall]).accepts (confirmPacket sampleServerMac) = true ∧
      self'.accepts (confirmPacket sampleServerMac) = false := by
  refine ⟨_, _, pointlessChallenge_refused _ _, ?_⟩
  decide +kernel

end Gear360
