import Gear360.WsmHelper

namespace Gear360

open Interaction ChildProcess WsmClient

variable {H : Type}

section
variable {Priv Pub : Type} (C : CryptoPackage Priv Pub)

/-- The challenge names a key that can be exchanged with. -/
def Answerable (privateKey : Priv) (challenge nonce secret : Bytes) : Prop :=
  nonce.length = 2 ∧ ∃ pubkey : Bytes, pubkey.length = 65 ∧
    challenge = challengePacket pubkey nonce ∧
    ecdhSharedSecret C privateKey pubkey = .ok secret

/-- The two packets that the documented handshake accepts. -/
def Handshake (privateKey : Priv) (serverId clientId responseNonce challenge confirm : Bytes) :
    Prop :=
  ∃ nonce secret expanded, Answerable C privateKey challenge nonce secret ∧
    expandNonce responseNonce = .ok expanded ∧
    confirm = confirmPacket (serverHmac C (deriveHmacKey C secret expanded serverId clientId)
      responseNonce nonce clientId serverId)

variable {C}

theorem Answerable.length {privateKey : Priv} {challenge nonce secret : Bytes}
    (h : Answerable C privateKey challenge nonce secret) : challenge.length = 70 := by
  obtain ⟨hn, pubkey, hp, rfl, -⟩ := h
  exact challengePacket_length hp hn

theorem Answerable.unique {privateKey : Priv} {challenge nonce secret nonce' secret' : Bytes}
    (h : Answerable C privateKey challenge nonce secret)
    (h' : Answerable C privateKey challenge nonce' secret') :
    nonce = nonce' ∧ secret = secret' := by
  obtain ⟨hn, pubkey, hp, rfl, hs⟩ := h
  obtain ⟨hn', pubkey', hp', heq, hs'⟩ := h'
  obtain ⟨hkey, hnonce⟩ := challenge_fields hp hn
  obtain ⟨hkey', hnonce'⟩ := challenge_fields hp' hn'
  rw [heq] at hkey hnonce
  obtain rfl : pubkey = pubkey' := hkey.symm.trans hkey'
  exact ⟨hnonce.symm.trans hnonce', Except.ok.inj (hs.symm.trans hs')⟩

theorem Handshake.lengths (hC : C.Lawful) {privateKey : Priv}
    {serverId clientId responseNonce challenge confirm : Bytes}
    (h : Handshake C privateKey serverId clientId responseNonce challenge confirm) :
    challenge.length = 70 ∧ confirm.length = 35 := by
  obtain ⟨nonce, secret, expanded, hchallenge, -, rfl⟩ := h
  exact ⟨hchallenge.length, by rw [confirmPacket, List.length_append, serverHmac_length hC]; rfl⟩

/-- `process_challenge` answers exactly the answerable challenges. -/
theorem processChallenge_cases (hC : C.Lawful) (self : WsmClient C) {urandom : Bytes}
    (hu : urandom.length = 2) (challenge : Bytes) :
    (∃ nonce secret expanded response, Answerable C self.privateKey challenge nonce secret ∧
      expandNonce urandom = .ok expanded ∧
      (processChallenge urandom challenge).run self = .ok response (self.afterChallenge
        (deriveHmacKey C secret expanded self.serverId self.clientId) nonce urandom)) ∨
    ((¬∃ nonce secret, Answerable C self.privateKey challenge nonce secret) ∧
      ∃ e self', (processChallenge urandom challenge).run self = .error e self') := by
  have hself : self.publicBytes.length = 65 := by
    rw [self.publicBytes_eq, hC.publicBytes_length]
  by_cases hc : IsChallenge challenge
  · obtain ⟨pubkey, nonce, hp, hn, rfl⟩ := hc.eq_challengePacket
    cases hsecret : ecdhSharedSecret C self.privateKey pubkey with
    | ok secret =>
      obtain ⟨expandedChallenge, hec, -⟩ := expandNonce_ok hn
      obtain ⟨expanded, her, -⟩ := expandNonce_ok hu
      exact .inl ⟨nonce, secret, expanded, _, ⟨hn, pubkey, hp, rfl, hsecret⟩, her,
        processChallenge_run self hself hp hn hu hsecret hec her⟩
    | error e =>
      -- an answerable challenge would have the same public key, whose exchange raised
      refine .inr ⟨?_, e, _, processChallenge_error self hp hn hsecret⟩
      rintro ⟨nonce', secret, hn', pubkey', hp', heq, hs⟩
      have hkey := (challenge_fields hp hn).1
      rw [heq, (challenge_fields hp' hn').1] at hkey
      rw [hkey, hsecret] at hs
      cases hs
  · obtain ⟨e, he⟩ := processChallenge_malformed self urandom hc
    refine .inr ⟨?_, e, self, he⟩
    rintro ⟨nonce, secret, hn, pubkey, hp, rfl, -⟩
    exact hc (challengePacket_isChallenge hp hn)

theorem python_processChallenge_run (urandom challenge : Bytes) (self : WsmClient C) :
    ((pythonWsmAuthenticator urandom).processChallenge challenge).run self =
      match (processChallenge urandom challenge).run self with
      | .ok response self' => .ok (some response) self'
      | .error _ self' => .ok none self' := by
  simp only [pythonWsmAuthenticator, EStateM.run, tryCatch, tryCatchThe, MonadExceptOf.tryCatch,
    EStateM.tryCatch, bind, EStateM.bind]
  cases processChallenge urandom challenge self <;> rfl

theorem python_verifyConfirm_run (urandom confirm : Bytes) (self : WsmClient C) :
    ((pythonWsmAuthenticator urandom).verifyConfirm confirm).run self =
      match (verifyConfirm confirm).run self with
      | .ok _ self' => .ok true self'
      | .error (.valueError _) self' => .ok false self'
      | .error e self' => .error e self' := by
  simp only [pythonWsmAuthenticator, EStateM.run, tryCatch, tryCatchThe, MonadExceptOf.tryCatch,
    EStateM.tryCatch, bind, EStateM.bind]
  cases verifyConfirm confirm self with
  | ok _ self' => rfl
  | error e self' => cases e <;> rfl

theorem python_authenticates_iff (hC : C.Lawful) (self : WsmClient C) {urandom : Bytes}
    (hu : urandom.length = 2) (body confirm : Bytes) :
    (pythonWsmAuthenticator urandom).authenticates body confirm self = true ↔
      Handshake C self.privateKey self.serverId self.clientId urandom body confirm := by
  rw [WsmAuthenticator.authenticates, python_processChallenge_run]
  rcases processChallenge_cases hC self hu body with
    ⟨nonce, secret, expanded, response, hanswer, hexpanded, hrun⟩ | ⟨hno, e, self', hrun⟩
  · rw [hrun]
    simp only [python_verifyConfirm_run]
    have hiff := afterChallenge_confirms_iff hC self
      (deriveHmacKey C secret expanded self.serverId self.clientId) nonce urandom confirm
    -- the challenge fixes the secret and the nonce, so one confirmation is right
    have hshake : confirm = confirmPacket (serverHmac C (deriveHmacKey C secret expanded
        self.serverId self.clientId) urandom nonce self.clientId self.serverId) ↔
        Handshake C self.privateKey self.serverId self.clientId urandom body confirm := by
      constructor
      · exact fun h => ⟨nonce, secret, expanded, hanswer, hexpanded, h⟩
      · rintro ⟨nonce', secret', expanded', hanswer', hexpanded', h⟩
        obtain ⟨rfl, rfl⟩ := hanswer.unique hanswer'
        obtain rfl : expanded = expanded' := Except.ok.inj (hexpanded.symm.trans hexpanded')
        exact h
    rcases verifyConfirm_run (self.afterChallenge
      (deriveHmacKey C secret expanded self.serverId self.clientId) nonce urandom) confirm with
      ⟨hyes, hconfirm⟩ | ⟨hno, e, hconfirm⟩
    · rw [hconfirm]
      exact iff_of_true rfl (hshake.mp (hiff.mp hyes))
    · rw [hconfirm]
      refine iff_of_false ?_ (fun h => hno (hiff.mpr (hshake.mpr h)))
      cases e <;> exact Bool.false_ne_true
  · rw [hrun]
    refine iff_of_false Bool.false_ne_true ?_
    rintro ⟨nonce, secret, -, hanswer, -⟩
    exact hno ⟨nonce, secret, hanswer⟩

end

/-- The packet checks and MACs that the protocol description gives for libwsm, with the client's
key and the response nonce it draws. -/
structure LibWsm.Documented {Priv Pub : Type} (W : LibWsm H) (C : CryptoPackage Priv Pub)
    (privateKey : Priv) (responseNonce : Bytes) : Prop where
  init : ∀ serverId clientId, ∃ handle, W.clientInit serverId clientId = some handle
  generates : ∀ {serverId clientId handle challenge nonce secret expanded},
    W.clientInit serverId clientId = some handle →
    Answerable C privateKey challenge nonce secret → expandNonce responseNonce = .ok expanded →
    0 < (W.checkAndGenerateServerChallenge handle challenge).1 ∧
      ∀ confirm, confirm.length = 35 →
        (0 < W.checkClientResponse (W.checkAndGenerateServerChallenge handle challenge).2.2
          confirm ↔ confirm = confirmPacket (serverHmac C
            (deriveHmacKey C secret expanded serverId clientId)
            responseNonce nonce clientId serverId))
  refuses : ∀ {serverId clientId handle challenge}, challenge.length = 70 →
    W.clientInit serverId clientId = some handle →
    (¬∃ nonce secret, Answerable C privateKey challenge nonce secret) →
    (W.checkAndGenerateServerChallenge handle challenge).1 ≤ 0

section
variable {Priv Pub : Type} {C : CryptoPackage Priv Pub}

/-- The helper takes the right packets, and it takes them wherever they are cut. -/
theorem helper_authenticates_iff_handshake (hC : C.Lawful) {W : LibWsm H} {privateKey : Priv}
    {responseNonce : Bytes} (hW : W.Documented C privateKey responseNonce)
    (hrn : responseNonce.length = 2) (cameraMac phoneMac path : String) {capacity : ℕ}
    (hcap : 105 ≤ capacity) (sizes : List ℕ) (body confirm : Bytes) :
    (helperWsmAuthenticator W capacity sizes).authenticates body confirm
        (.init cameraMac phoneMac path) = true ↔
      body.length ≤ capacity ∧ Handshake C privateKey cameraMac.toUTF8.toList
        phoneMac.toUTF8.toList responseNonce (body.take 70)
        ((body.drop 70 ++ confirm).take 35) := by
  obtain ⟨handle, hinit⟩ := hW.init cameraMac.toUTF8.toList phoneMac.toUTF8.toList
  rw [helper_authenticates_iff W path capacity hinit hcap]
  constructor
  · rintro ⟨hlen, hfits, hret, hmore, hcheck⟩
    have htake : (body.take 70).length = 70 := by rw [List.length_take]; omega
    have hconfirm : ((body.drop 70 ++ confirm).take 35).length = 35 := by
      rw [List.length_take]; omega
    by_cases hanswer : ∃ nonce secret, Answerable C privateKey (body.take 70) nonce secret
    · obtain ⟨nonce, secret, hanswer⟩ := hanswer
      obtain ⟨expanded, hexpanded, -⟩ := expandNonce_ok hrn
      have hmac := ((hW.generates hinit hanswer hexpanded).2 _ hconfirm).mp hcheck
      exact ⟨hfits, nonce, secret, expanded, hanswer, hexpanded, hmac⟩
    -- libwsm refuses such a challenge, but it was accepted
    · have hrefused := hW.refuses htake hinit hanswer
      omega
  · rintro ⟨hfits, hshake⟩
    obtain ⟨htake, hconfirm⟩ := hshake.lengths hC
    obtain ⟨nonce, secret, expanded, hanswer, hexpanded, hmac⟩ := hshake
    obtain ⟨hret, hcheck⟩ := hW.generates hinit hanswer hexpanded
    rw [List.length_take] at htake hconfirm
    exact ⟨by omega, hfits, hret, by omega,
      (hcheck _ (by rw [List.length_take]; omega)).mpr hmac⟩

/-- The two variants differ exactly on bodies of other lengths that the helper, which reads 70
bytes and then 35 from one stream, cuts into the right packets. -/
theorem authenticators_agree_iff (hC : C.Lawful) {W : LibWsm H} {privateKey : Priv}
    {responseNonce : Bytes} (hW : W.Documented C privateKey responseNonce)
    (hrn : responseNonce.length = 2) (cameraMac phoneMac path : String) {capacity : ℕ}
    (hcap : 105 ≤ capacity) (sizes : List ℕ) (body confirm : Bytes) :
    ((helperWsmAuthenticator W capacity sizes).authenticates body confirm
        (.init cameraMac phoneMac path) =
      (pythonWsmAuthenticator responseNonce).authenticates body confirm
        (WsmClient.init C (.str cameraMac) (.str phoneMac) privateKey)) ↔
      (body.length ≤ capacity → Handshake C privateKey cameraMac.toUTF8.toList
        phoneMac.toUTF8.toList responseNonce (body.take 70) ((body.drop 70 ++ confirm).take 35) →
        body.length = 70 ∧ confirm.length = 35) := by
  -- the Python side takes a handshake as it is, the helper one that is cut out of both inputs
  rw [Bool.eq_iff_iff, helper_authenticates_iff_handshake hC hW hrn _ _ _ hcap,
    python_authenticates_iff hC _ hrn]
  constructor
  · intro h hfits hshake
    exact (h.mp ⟨hfits, hshake⟩).lengths hC
  · intro h
    constructor
    · rintro ⟨hfits, hshake⟩
      obtain ⟨hbody, hconfirm⟩ := h hfits hshake
      rw [List.take_of_length_le (by omega), List.drop_of_length_le (by omega), List.nil_append,
        List.take_of_length_le (by omega)] at hshake
      exact hshake
    · intro hshake
      obtain ⟨hbody, hconfirm⟩ := hshake.lengths hC
      refine ⟨by omega, ?_⟩
      rw [List.take_of_length_le (by omega), List.drop_of_length_le (by omega), List.nil_append,
        List.take_of_length_le (by omega)]
      exact hshake

/-- A libwsm that does what `WSMClient` does. -/
def referenceLibWsm (C : CryptoPackage Priv Pub) (privateKey : Priv) (responseNonce : Bytes) :
    LibWsm (WsmClient C) where
  clientInit serverId clientId := some (.init C (.bytes serverId) (.bytes clientId) privateKey)
  checkAndGenerateServerChallenge handle challenge :=
    match (processChallenge responseNonce challenge).run handle with
    | .ok response handle => (1, (response ++ List.replicate 102 0xAA).take 102, handle)
    | .error _ handle => (-1, List.replicate 102 0xAA, handle)
  checkClientResponse handle confirm :=
    match (verifyConfirm confirm).run handle with
    | .ok _ _ => 1
    | .error _ _ => -1
  response_length handle challenge := by
    cases (processChallenge responseNonce challenge).run handle with
    | ok response handle =>
      simp only [List.length_take, List.length_append, List.length_replicate]
      omega
    | error _ _ => rfl

theorem referenceLibWsm_documented (hC : C.Lawful) (privateKey : Priv) {responseNonce : Bytes}
    (hrn : responseNonce.length = 2) :
    (referenceLibWsm C privateKey responseNonce).Documented C privateKey responseNonce where
  init _ _ := ⟨_, rfl⟩
  generates := by
    intro serverId clientId handle challenge nonce secret expanded hinit hanswer hexpanded
    cases hinit
    rcases processChallenge_cases hC (.init C (.bytes serverId) (.bytes clientId) privateKey) hrn
      challenge with ⟨nonce', secret', expanded', response, hanswer', hexpanded', hrun⟩ | ⟨hno, -⟩
    -- a challenge can be answered with one nonce and one secret only
    · obtain ⟨rfl, rfl⟩ := hanswer.unique hanswer'
      obtain rfl : expanded = expanded' := Except.ok.inj (hexpanded.symm.trans hexpanded')
      simp only [referenceLibWsm, hrun]
      refine ⟨one_pos, fun confirm _ => ?_⟩
      -- the return code is positive exactly if the client accepts
      refine Iff.trans ?_ (afterChallenge_confirms_iff hC
        (.init C (.bytes serverId) (.bytes clientId) privateKey)
        (deriveHmacKey C secret expanded serverId clientId) nonce responseNonce confirm)
      rcases verifyConfirm_run (afterChallenge
        (.init C (.bytes serverId) (.bytes clientId) privateKey)
        (deriveHmacKey C secret expanded serverId clientId) nonce responseNonce) confirm with
        ⟨hyes, hconfirm⟩ | ⟨hno, e, hconfirm⟩
      · refine iff_of_true ?_ hyes
        simp only [WsmClient.init, WsmId.encode] at hconfirm ⊢
        rw [hconfirm]
        exact one_pos
      · refine iff_of_false ?_ hno
        simp only [WsmClient.init, WsmId.encode] at hconfirm ⊢
        rw [hconfirm]
        exact not_lt.mpr (neg_nonpos.mpr zero_le_one)
    · exact absurd ⟨nonce, secret, hanswer⟩ hno
  refuses := by
    intro serverId clientId handle challenge _ hinit hno
    cases hinit
    rcases processChallenge_cases hC (.init C (.bytes serverId) (.bytes clientId) privateKey) hrn
      challenge with ⟨nonce, secret, -, -, hanswer, -⟩ | ⟨-, e, handle, hrun⟩
    · exact absurd ⟨nonce, secret, hanswer⟩ hno
    · simp only [referenceLibWsm, hrun]
      exact neg_nonpos.mpr zero_le_one

end

abbrev sampleLibWsm : LibWsm (WsmClient samplePackage) :=
  referenceLibWsm samplePackage false [0xab, 0xcd]

theorem sample_handshake : Handshake samplePackage false sampleServerId sampleClientId
    [0xab, 0xcd] (makeChallenge samplePackage true [0x12, 0x34])
    (confirmPacket sampleServerMac) :=
  ⟨[0x12, 0x34], sampleSecret false true, BigEndian.encode 16 0x0bc4464a8003670079904e56e4171cf0,
    ⟨rfl, samplePublicBytes true, by decide +kernel, by decide +kernel, by decide +kernel⟩,
    by decide +kernel, by decide +kernel⟩

theorem authenticators_agree_sample :
    (helperWsmAuthenticator sampleLibWsm 65536 [5, 40]).authenticates
        (makeChallenge samplePackage true [0x12, 0x34]) (confirmPacket sampleServerMac)
        (.init "C8:38:70:3F:97:75" "A8:3B:76:BA:B2:FE" "wsm_helper") =
      (pythonWsmAuthenticator [0xab, 0xcd]).authenticates
        (makeChallenge samplePackage true [0x12, 0x34]) (confirmPacket sampleServerMac)
        (WsmClient.init samplePackage
          (.str "C8:38:70:3F:97:75") (.str "A8:3B:76:BA:B2:FE") false) :=
  (authenticators_agree_iff samplePackage_lawful
    (referenceLibWsm_documented samplePackage_lawful false rfl) rfl _ _ _ (by decide) _ _ _).mpr
    fun _ _ => ⟨by decide +kernel, by decide +kernel⟩

/-- A byte after the right confirmation: the helper never reads it, the Python client counts
it. -/
theorem overlong_confirm_divides :
    (helperWsmAuthenticator sampleLibWsm 65536 [5, 40]).authenticates
        (makeChallenge samplePackage true [0x12, 0x34]) (confirmPacket sampleServerMac ++ [0])
        (.init "C8:38:70:3F:97:75" "A8:3B:76:BA:B2:FE" "wsm_helper") = true ∧
      (pythonWsmAuthenticator [0xab, 0xcd]).authenticates
        (makeChallenge samplePackage true [0x12, 0x34]) (confirmPacket sampleServerMac ++ [0])
        (WsmClient.init samplePackage (.str "C8:38:70:3F:97:75") (.str "A8:3B:76:BA:B2:FE") false) =
        false := by
  have hcut : (makeChallenge samplePackage true [0x12, 0x34]).take 70 =
      makeChallenge samplePackage true [0x12, 0x34] ∧
      ((makeChallenge samplePackage true [0x12, 0x34]).drop 70 ++
        (confirmPacket sampleServerMac ++ [0])).take 35 = confirmPacket sampleServerMac := by
    decide +kernel
  constructor
  · rw [helper_authenticates_iff_handshake samplePackage_lawful
      (referenceLibWsm_documented samplePackage_lawful false rfl) rfl _ _ _ (by decide), hcut.1,
      hcut.2]
    exact ⟨by decide +kernel, sample_handshake⟩
  · rw [← Bool.not_eq_true, python_authenticates_iff samplePackage_lawful _ rfl]
    intro h
    have hlong : (confirmPacket sampleServerMac ++ [0]).length ≠ 35 := by decide +kernel
    exact hlong (h.lengths samplePackage_lawful).2

end Gear360
