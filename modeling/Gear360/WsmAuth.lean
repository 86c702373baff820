import Gear360.WsmClient

namespace Gear360

namespace WsmClient

theorem setSlice_append (a b value : Bytes) {i j k : ℕ} (hi : a.length = i) (hj : i+k = j) :
    setSlice (a ++ b) i j value = a ++ (value ++ b.drop k) := by
  subst hi hj
  rw [setSlice, List.take_left, List.drop_length_add_append]

/-- The 70-byte challenge and the 102-byte response are their fields in order. -/
def challengePacket (pubkey nonce : Bytes) : Bytes := [0, 0, 70] ++ (pubkey ++ nonce)

def responsePacket (pubkey nonce mac : Bytes) : Bytes := [0, 1, 102] ++ (pubkey ++ (nonce ++ mac))

def confirmPacket (mac : Bytes) : Bytes := [0, 2, 35] ++ mac

theorem challenge_fields {pubkey nonce : Bytes} (hp : pubkey.length = 65) (hn : nonce.length = 2) :
    slice (challengePacket pubkey nonce) 3 68 = pubkey ∧
      slice (challengePacket pubkey nonce) 68 70 = nonce := by
  have hhead : ([0, 0, 70] ++ pubkey).length = 68 := by rw [List.length_append, hp]; rfl
  have hend : 68+nonce.length = 70 := by omega
  have hnonce := slice_append _ nonce [] hhead hend
  refine ⟨slice_append [0, 0, 70] pubkey nonce rfl (by omega), ?_⟩
  simpa only [challengePacket, List.append_assoc, List.append_nil] using hnonce

theorem response_fields {pubkey nonce mac : Bytes} (hp : pubkey.length = 65)
    (hn : nonce.length = 2) (hm : mac.length = 32) :
    slice (responsePacket pubkey nonce mac) 3 68 = pubkey ∧
      slice (responsePacket pubkey nonce mac) 68 70 = nonce ∧
      slice (responsePacket pubkey nonce mac) 70 102 = mac := by
  have hhead : ([0, 1, 102] ++ pubkey).length = 68 := by rw [List.length_append, hp]; rfl
  have hnonce : (([0, 1, 102] ++ pubkey) ++ nonce).length = 70 := by
    rw [List.length_append, hhead, hn]
  have hend : 68+nonce.length = 70 := by omega
  have hlast : 70+mac.length = 102 := by omega
  have hmiddle := slice_append _ nonce mac hhead hend
  have hmac := slice_append _ mac [] hnonce hlast
  refine ⟨slice_append [0, 1, 102] pubkey _ rfl (by omega), ?_, ?_⟩
  · simpa only [responsePacket, List.append_assoc] using hmiddle
  · simpa only [responsePacket, List.append_assoc, List.append_nil] using hmac

theorem response_assembled {pubkey nonce : Bytes} (mac : Bytes) (hp : pubkey.length = 65)
    (hn : nonce.length = 2) :
    setSlice (setSlice (setSlice ((((List.replicate 102 0).set 0 0).set 1 1).set 2 102)
      3 68 pubkey) 68 70 nonce) 70 102 mac = responsePacket pubkey nonce mac := by
  have hblank : (((List.replicate 102 (0:UInt8)).set 0 0).set 1 1).set 2 102 =
      [0, 1, 102] ++ List.replicate 99 0 := rfl
  have hhead : ([0, 1, 102] ++ pubkey).length = 68 := by rw [List.length_append, hp]; rfl
  have hmiddle : (([0, 1, 102] ++ pubkey) ++ nonce).length = 70 := by
    rw [List.length_append, hhead, hn]
  have h₁ := setSlice_append [0, 1, 102] (List.replicate 99 0) pubkey
    (show ([0, 1, 102] : Bytes).length = 3 from rfl) (show 3+65 = 68 from rfl)
  have h₂ := setSlice_append ([0, 1, 102] ++ pubkey) (List.replicate 34 0) nonce hhead
    (show 68+2 = 70 from rfl)
  have h₃ := setSlice_append (([0, 1, 102] ++ pubkey) ++ nonce) (List.replicate 32 0) mac hmiddle
    (show 70+32 = 102 from rfl)
  rw [List.drop_replicate] at h₁ h₂ h₃
  rw [hblank, h₁, ← List.append_assoc, h₂, ← List.append_assoc, h₃]
  simp [responsePacket]

theorem challenge_assembled {pubkey : Bytes} (nonce : Bytes) (hp : pubkey.length = 65) :
    setSlice (setSlice ((((List.replicate 70 0).set 0 0).set 1 0).set 2 70)
      3 68 pubkey) 68 70 nonce = challengePacket pubkey nonce := by
  have hblank : (((List.replicate 70 (0:UInt8)).set 0 0).set 1 0).set 2 70 =
      [0, 0, 70] ++ List.replicate 67 0 := rfl
  have hhead : ([0, 0, 70] ++ pubkey).length = 68 := by rw [List.length_append, hp]; rfl
  have h₁ := setSlice_append [0, 0, 70] (List.replicate 67 0) pubkey
    (show ([0, 0, 70] : Bytes).length = 3 from rfl) (show 3+65 = 68 from rfl)
  have h₂ := setSlice_append ([0, 0, 70] ++ pubkey) (List.replicate 2 0) nonce hhead
    (show 68+2 = 70 from rfl)
  rw [List.drop_replicate] at h₁ h₂
  rw [hblank, h₁, ← List.append_assoc, h₂]
  simp [challengePacket]

variable {Priv Pub : Type} {C : CryptoPackage Priv Pub}

theorem challengePacket_length {pubkey nonce : Bytes} (hp : pubkey.length = 65)
    (hn : nonce.length = 2) : (challengePacket pubkey nonce).length = 70 := by
  simp only [challengePacket, List.length_append, hp, hn]
  rfl

theorem responsePacket_length {pubkey nonce mac : Bytes} (hp : pubkey.length = 65)
    (hn : nonce.length = 2) (hm : mac.length = 32) :
    (responsePacket pubkey nonce mac).length = 102 := by
  simp only [responsePacket, List.length_append, hp, hn, hm]
  rfl

/-- The length and the header that `process_challenge` checks. -/
def IsChallenge (challenge : Bytes) : Prop :=
  challenge.length = 70 ∧
    challenge.getD 0 0 = 0 ∧ challenge.getD 1 0 = 0 ∧ challenge.getD 2 0 = 70

theorem IsChallenge.guards {challenge : Bytes} (h : IsChallenge challenge) :
    ¬challenge.length ≠ 70 ∧
      ¬(challenge.getD 0 0 ≠ 0 ∨ challenge.getD 1 0 ≠ 0 ∨ challenge.getD 2 0 ≠ 70) := by
  obtain ⟨hlen, h₀, h₁, h₂⟩ := h
  simp only [hlen, h₀, h₁, h₂, ne_eq, not_true, or_self, not_false_eq_true, and_self]

theorem challengePacket_isChallenge {pubkey nonce : Bytes} (hp : pubkey.length = 65)
    (hn : nonce.length = 2) : IsChallenge (challengePacket pubkey nonce) :=
  ⟨challengePacket_length hp hn, rfl, rfl, rfl⟩

/-- The client after a challenge that it answered. -/
def afterChallenge (self : WsmClient C) (key challengeNonce responseNonce : Bytes) : WsmClient C :=
  { self with
    challengeNonce := some challengeNonce
    responseNonce := some responseNonce
    hmacKeyServer := some key }

/-- A well-formed challenge whose key can be exchanged with is answered. -/
theorem processChallenge_run (self : WsmClient C) {pubkey challengeNonce responseNonce secret
    expandedChallenge expandedResponse : Bytes} (hself : self.publicBytes.length = 65)
    (hp : pubkey.length = 65) (hcn : challengeNonce.length = 2) (hrn : responseNonce.length = 2)
    (hsecret : ecdhSharedSecret C self.privateKey pubkey = .ok secret)
    (hec : expandNonce challengeNonce = .ok expandedChallenge)
    (her : expandNonce responseNonce = .ok expandedResponse) :
    (processChallenge responseNonce (challengePacket pubkey challengeNonce)).run self =
      .ok (responsePacket self.publicBytes responseNonce (clientHmac C
          (deriveHmacKey C secret expandedChallenge self.serverId self.clientId)
          challengeNonce responseNonce self.serverId self.clientId))
        (self.afterChallenge
          (deriveHmacKey C secret expandedResponse self.serverId self.clientId)
          challengeNonce responseNonce) := by
  obtain ⟨hkey, hnonce⟩ := challenge_fields hp hcn
  obtain ⟨hlen, hheader⟩ := (challengePacket_isChallenge hp hcn).guards
  unfold processChallenge
  rw [if_neg hlen, if_neg hheader, hkey, hnonce]
  simp only [raising, hec, her, pure_bind]
  rw [← response_assembled _ hself hrn]
  simp [EStateM.run, bind, EStateM.bind, modify, modifyGet, MonadStateOf.modifyGet,
    EStateM.modifyGet, get, getThe, MonadStateOf.get, EStateM.get, hsecret, pure, EStateM.pure,
    afterChallenge]

theorem IsChallenge.eq_challengePacket {challenge : Bytes} (h : IsChallenge challenge) :
    ∃ pubkey nonce : Bytes, pubkey.length = 65 ∧ nonce.length = 2 ∧
      challenge = challengePacket pubkey nonce := by
  obtain ⟨hlen, h₀, h₁, h₂⟩ := h
  match challenge, hlen with
  | a :: b :: c :: rest, hlen =>
    have hrest : rest.length = 67 := by simpa using hlen
    simp only [List.getD_cons_zero, List.getD_cons_succ] at h₀ h₁ h₂
    subst h₀ h₁ h₂
    refine ⟨rest.take 65, rest.drop 65, ?_, ?_, ?_⟩
    · rw [List.length_take, hrest]; rfl
    · rw [List.length_drop, hrest]
    · rw [challengePacket, List.take_append_drop]; rfl

/-- A key that cannot be exchanged with raises after the nonces are stored. -/
theorem processChallenge_error (self : WsmClient C) {pubkey challengeNonce responseNonce : Bytes}
    {e : PyErr} (hp : pubkey.length = 65) (hcn : challengeNonce.length = 2)
    (hsecret : ecdhSharedSecret C self.privateKey pubkey = .error e) :
    (processChallenge responseNonce (challengePacket pubkey challengeNonce)).run self =
      .error e { self with
        challengeNonce := some challengeNonce, responseNonce := some responseNonce } := by
  obtain ⟨hkey, hnonce⟩ := challenge_fields hp hcn
  obtain ⟨hlen, hheader⟩ := (challengePacket_isChallenge hp hcn).guards
  unfold processChallenge
  rw [if_neg hlen, if_neg hheader, hkey, hnonce]
  simp [EStateM.run, bind, EStateM.bind, modify, modifyGet, MonadStateOf.modifyGet,
    EStateM.modifyGet, get, getThe, MonadStateOf.get, EStateM.get, hsecret, raising, throw,
    throwThe, MonadExceptOf.throw, EStateM.throw]

theorem processChallenge_malformed (self : WsmClient C) (responseNonce : Bytes) {challenge : Bytes}
    (h : ¬IsChallenge challenge) :
    ∃ e, (processChallenge responseNonce challenge).run self = .error e self := by
  unfold processChallenge
  by_cases hlen : challenge.length ≠ 70
  · rw [if_pos hlen]
    exact ⟨_, rfl⟩
  by_cases hheader : challenge.getD 0 0 ≠ 0 ∨ challenge.getD 1 0 ≠ 0 ∨ challenge.getD 2 0 ≠ 70
  · rw [if_neg hlen, if_pos hheader]
    exact ⟨_, rfl⟩
  · simp only [not_or, not_not] at hlen hheader
    exact absurd ⟨hlen, hheader⟩ h

/-- The confirmation has the header, the length and the MAC that the client's state calls for. -/
def Confirms (self : WsmClient C) (confirm : Bytes) : Prop :=
  (confirm.length = 35 ∧ confirm.getD 0 0 = 0 ∧ confirm.getD 1 0 = 2 ∧ confirm.getD 2 0 = 35) ∧
    ∃ key responseNonce challengeNonce, self.hmacKeyServer = some key ∧
      self.responseNonce = some responseNonce ∧ self.challengeNonce = some challengeNonce ∧
      slice confirm 3 35 =
        serverHmac C key responseNonce challengeNonce self.clientId self.serverId

theorem confirm_header {confirm : Bytes} (hlen : ¬confirm.length ≠ 35)
    (hheader : ¬(confirm.getD 0 0 ≠ 0 ∨ confirm.getD 1 0 ≠ 2 ∨ confirm.getD 2 0 ≠ 35)) :
    confirm.length = 35 ∧ confirm.getD 0 0 = 0 ∧ confirm.getD 1 0 = 2 ∧ confirm.getD 2 0 = 35 := by
  simpa only [not_or, not_not] using And.intro hlen hheader

/-- `verify_confirm` never changes the client, and returns exactly on what it should. -/
theorem verifyConfirm_run (self : WsmClient C) (confirm : Bytes) :
    (self.Confirms confirm ∧ (verifyConfirm confirm).run self = .ok () self) ∨
      (¬self.Confirms confirm ∧ ∃ e, (verifyConfirm confirm).run self = .error e self) := by
  unfold verifyConfirm
  by_cases hlen : confirm.length ≠ 35
  · rw [if_pos hlen]
    exact .inr ⟨fun h => hlen h.1.1, _, rfl⟩
  rw [if_neg hlen]
  by_cases hheader : confirm.getD 0 0 ≠ 0 ∨ confirm.getD 1 0 ≠ 2 ∨ confirm.getD 2 0 ≠ 35
  · rw [if_pos hheader]
    refine .inr ⟨fun h => ?_, _, rfl⟩
    obtain ⟨⟨-, h₀, h₁, h₂⟩, -⟩ := h
    simp only [h₀, h₁, h₂, ne_eq, not_true, or_self] at hheader
  rw [if_neg hheader]
  have hform := confirm_header hlen hheader
  simp only [EStateM.run, bind, EStateM.bind, get, getThe, MonadStateOf.get, EStateM.get]
  -- the header is right, so what is stored decides
  cases hkey : self.hmacKeyServer with
  | none =>
    refine .inr ⟨fun h => ?_, _, rfl⟩
    obtain ⟨-, key, -, -, hk, -⟩ := h
    simp [hkey] at hk
  | some key =>
    cases hrn : self.responseNonce with
    | none =>
      refine .inr ⟨fun h => ?_, _, rfl⟩
      obtain ⟨-, -, rn, -, -, hr, -⟩ := h
      simp [hrn] at hr
    | some rn =>
      cases hcn : self.challengeNonce with
      | none =>
        refine .inr ⟨fun h => ?_, _, rfl⟩
        obtain ⟨-, -, -, cn, -, -, hc, -⟩ := h
        simp [hcn] at hc
      | some cn =>
        by_cases hmac : slice confirm 3 35 = serverHmac C key rn cn self.clientId self.serverId
        · refine .inl ⟨⟨hform, key, rn, cn, hkey, hrn, hcn, hmac⟩, ?_⟩
          simp only [hmac, ne_eq, not_true, if_false]
          rfl
        · simp only [ne_eq, hmac, not_false_eq_true, if_true]
          refine .inr ⟨fun h => hmac ?_, _, rfl⟩
          obtain ⟨-, key', rn', cn', hk, hr, hc, h⟩ := h
          rw [hkey] at hk
          rw [hrn] at hr
          rw [hcn] at hc
          cases hk
          cases hr
          cases hc
          exact h

theorem confirm_eq_iff {confirm mac : Bytes} (hmac : mac.length = 32) :
    ((confirm.length = 35 ∧ confirm.getD 0 0 = 0 ∧ confirm.getD 1 0 = 2 ∧ confirm.getD 2 0 = 35) ∧
      slice confirm 3 35 = mac) ↔ confirm = confirmPacket mac := by
  constructor
  · rintro ⟨⟨hlen, h₀, h₁, h₂⟩, rfl⟩
    match confirm, hlen with
    | a :: b :: c :: rest, hlen =>
      -- three header bytes, and the other 32 are the MAC
      have hrest : rest.length = 32 := by simpa using hlen
      simp only [List.getD_cons_zero, List.getD_cons_succ] at h₀ h₁ h₂
      subst h₀ h₁ h₂
      simp [confirmPacket, slice, ← hrest]
  · rintro rfl
    have hslice := slice_append [0, 2, 35] mac []
      (show ([0, 2, 35] : Bytes).length = 3 from rfl) (show 3+mac.length = 35 by omega)
    refine ⟨⟨by simp [confirmPacket, hmac], rfl, rfl, rfl⟩, ?_⟩
    simpa only [confirmPacket, List.append_nil] using hslice

/-- After a challenge exactly one confirmation is accepted. -/
theorem afterChallenge_confirms_iff (hC : C.Lawful) (self : WsmClient C)
    (key challengeNonce responseNonce confirm : Bytes) :
    (self.afterChallenge key challengeNonce responseNonce).Confirms confirm ↔
      confirm = confirmPacket
        (serverHmac C key responseNonce challengeNonce self.clientId self.serverId) := by
  rw [← confirm_eq_iff (serverHmac_length hC _ _ _ _ _)]
  refine and_congr_right fun _ =>
    ⟨?_, fun h => ⟨key, responseNonce, challengeNonce, rfl, rfl, rfl, h⟩⟩
  rintro ⟨key', rn, cn, hk, hr, hc, h⟩
  cases hk
  cases hr
  cases hc
  exact h

end WsmClient

open WsmClient

section
variable {Priv Pub : Type} {C : CryptoPackage Priv Pub}

theorem makeChallenge_eq (hC : C.Lawful) (serverKey : Priv) (nonce : Bytes) :
    makeChallenge C serverKey nonce =
      challengePacket (C.publicBytes (C.publicKey serverKey)) nonce :=
  challenge_assembled nonce (hC.publicBytes_length serverKey)

/-- Decoding the peer's public bytes gives the secret of the two keys. -/
theorem ecdhSharedSecret_publicBytes (hC : C.Lawful) (privateKey peer : Priv) :
    ecdhSharedSecret C privateKey (C.publicBytes (C.publicKey peer)) =
      C.exchange privateKey (C.publicKey peer) := by
  rw [ecdhSharedSecret, hC.decodes peer]
  rfl

/-- The server finds in the response the MAC that it computes from its own key. -/
theorem verifyResponseHmac_response (hC : C.Lawful) (serverId clientId : Bytes)
    (serverKey clientKey : Priv) {challengeNonce responseNonce secret expanded : Bytes}
    (hcn : challengeNonce.length = 2) (hrn : responseNonce.length = 2)
    (hsecret : C.exchange serverKey (C.publicKey clientKey) = .ok secret)
    (hexpanded : expandNonce challengeNonce = .ok expanded) :
    verifyResponseHmac C serverId clientId serverKey
      (challengePacket (C.publicBytes (C.publicKey serverKey)) challengeNonce)
      (responsePacket (C.publicBytes (C.publicKey clientKey)) responseNonce
        (clientHmac C (deriveHmacKey C secret expanded serverId clientId)
          challengeNonce responseNonce serverId clientId)) = .ok true := by
  obtain ⟨-, hchallenge⟩ := challenge_fields (hC.publicBytes_length serverKey) hcn
  obtain ⟨hkey, hresponse, hmac⟩ := response_fields (hC.publicBytes_length clientKey) hrn
    (clientHmac_length hC (deriveHmacKey C secret expanded serverId clientId)
      challengeNonce responseNonce serverId clientId)
  rw [verifyResponseHmac, hchallenge, hkey, hresponse, ecdhSharedSecret_publicBytes hC, hsecret,
    hexpanded]
  simp only [hmac, bind, Except.bind, pure, Except.pure, decide_true]

/-- Whatever the keys, the ids and the nonces: the client's response convinces the server, and
of all byte strings the client accepts the server's confirmation alone. -/
theorem wsm_mutual_authentication (hC : C.Lawful) (serverKey : Priv) (client : WsmClient C)
    {challengeNonce responseNonce : Bytes} (hcn : challengeNonce.length = 2)
    (hrn : responseNonce.length = 2) :
    ∃ response client' secret expanded,
      (makeChallenge C serverKey challengeNonce).length = 70 ∧
      (processChallenge responseNonce (makeChallenge C serverKey challengeNonce)).run client =
        .ok response client' ∧
      response.length = 102 ∧
      verifyResponseHmac C client.serverId client.clientId serverKey
        (makeChallenge C serverKey challengeNonce) response = .ok true ∧
      ecdhSharedSecret C serverKey (C.publicBytes (C.publicKey client.privateKey)) = .ok secret ∧
      expandNonce responseNonce = .ok expanded ∧
      ∀ confirm,
        ((verifyConfirm confirm).run client' = .ok () client' ↔
          confirm = [0x00, 0x02, 0x23] ++ serverHmac C
            (C.sha256 (secret ++ expanded ++ client.serverId ++ client.clientId))
            responseNonce challengeNonce client.clientId client.serverId) ∧
        ((verifyConfirm confirm).run client' ≠ .ok () client' →
          ∃ e, (verifyConfirm confirm).run client' = .error e client') := by
  have hp := hC.publicBytes_length serverKey
  have hself : client.publicBytes.length = 65 := by
    rw [client.publicBytes_eq, hC.publicBytes_length]
  -- both sides come to one secret, and so to one pair of keys
  obtain ⟨secret, hclient, hserver⟩ := hC.agrees client.privateKey serverKey
  obtain ⟨expandedChallenge, hec, -⟩ := expandNonce_ok hcn
  obtain ⟨expanded, her, -⟩ := expandNonce_ok hrn
  have hsecret := (ecdhSharedSecret_publicBytes hC client.privateKey serverKey).trans hclient
  rw [makeChallenge_eq hC]
  refine ⟨_, _, secret, expanded, challengePacket_length hp hcn,
    client.processChallenge_run hself hp hcn hrn hsecret hec her,
    responsePacket_length hself hrn (clientHmac_length hC _ _ _ _ _), ?_,
    (ecdhSharedSecret_publicBytes hC _ _).trans hserver, her, fun confirm => ?_⟩
  · rw [client.publicBytes_eq]
    exact verifyResponseHmac_response hC _ _ serverKey client.privateKey hcn hrn hserver hec
  · have hiff := afterChallenge_confirms_iff hC client
      (deriveHmacKey C secret expanded client.serverId client.clientId)
      challengeNonce responseNonce confirm
    rcases verifyConfirm_run (client.afterChallenge
      (deriveHmacKey C secret expanded client.serverId client.clientId)
      challengeNonce responseNonce) confirm with ⟨hyes, hrun⟩ | ⟨hno, e, hrun⟩
    · exact ⟨⟨fun _ => hiff.mp hyes, fun _ => hrun⟩, fun h => absurd hrun h⟩
    · refine ⟨⟨fun h => ?_, fun h => absurd (hiff.mpr h) hno⟩, fun _ => ⟨e, hrun⟩⟩
      rw [hrun] at h
      cases h

end

/-- Two P-256 key pairs, `false` the client's and `true` the server's. -/
def samplePublicBytes : Bool → Bytes
  | false => [0x04] ++
      BigEndian.encode 32 0xe98b3d72379034dfbc17a71d627d6b83a68c2df3fad43a63515676b52f6c6d3f ++
      BigEndian.encode 32 0xd63b92679f1742856da835eee4b093ad25eabbb3a15f775256d336587bc3a01e
  | true => [0x04] ++
      BigEndian.encode 32 0xba2fc299703b477a4e346234522d859f55ce54f14544bebbaabcb83e215c3cc1 ++
      BigEndian.encode 32 0x636e2fe2c3743e8860bb9aba82ab19b0f685ee25df84e839546ff03c9e48c4d4

def sampleSecret : Bool → Bool → Bytes
  | false, false => BigEndian.encode 32
      0x183a3682c0e1dd2ab6110c8ff9907e4479ebc4ac5363b692c4247b7bd82ea6ee
  | true, true => BigEndian.encode 32
      0xe0c99c30fa6f9eb48845e52230468f57426290eb6a97bd09d6a751afaa9bdd66
  | _, _ => BigEndian.encode 32
      0x96cdfee413459476192586c05e1ace0244b228edf044085aee910830d76ea348

def sampleServerId : Bytes := WsmId.encode (.str "C8:38:70:3F:97:75")

def sampleClientId : Bytes := WsmId.encode (.str "A8:3B:76:BA:B2:FE")

def sampleChallengeKey : Bytes := BigEndian.encode 32
  0x6d8ca695f09159e87e1849dd1edc906807a7a8c2f92dd2863f5c568c08e1e8c3

def sampleResponseKey : Bytes := BigEndian.encode 32
  0x87aa52f32cd510dd45e698e019dc0572e3830d35ae530075587125a2556d82ca

def sampleClientMac : Bytes := BigEndian.encode 32
  0x4632b15babab9a95bd0c57dfb4c09cd667bd82f58aa22ea035a2778fdaa44106

def sampleServerMac : Bytes := BigEndian.encode 32
  0xafbd729352b3d22cc02cff13a03e4c056a0c205e4ea7b04633c9ba20874204a2

def samplePackage : CryptoPackage Bool Bool where
  publicKey := id
  publicBytes := samplePublicBytes
  fromEncodedPoint data :=
    if data = samplePublicBytes false then .ok false
    else if data = samplePublicBytes true then .ok true
    else .error (.valueError "Invalid EC key.")
  exchange privateKey peer := .ok (sampleSecret privateKey peer)
  sha256 data :=
    if data = sampleSecret false true ++ BigEndian.encode 16 0x0cac11337b66e2872864995ce68a1591 ++
        sampleServerId ++ sampleClientId then sampleChallengeKey
    else if data = sampleSecret false true ++
        BigEndian.encode 16 0x0bc4464a8003670079904e56e4171cf0 ++
        sampleServerId ++ sampleClientId then sampleResponseKey
    else List.replicate 32 0
  hmacSha256 key data :=
    if key = sampleChallengeKey ∧
        data = [0x12, 0x34, 0xab, 0xcd] ++ sampleServerId ++ sampleClientId then sampleClientMac
    else if key = sampleResponseKey ∧
        data = [0xab, 0xcd, 0x12, 0x34] ++ sampleClientId ++ sampleServerId then sampleServerMac
    else List.replicate 32 0

theorem samplePackage_lawful : samplePackage.Lawful where
  publicBytes_length := by decide +kernel
  decodes := by decide +kernel
  agrees := by
    intro a b
    refine ⟨sampleSecret a b, rfl, ?_⟩
    cases a <;> cases b <;> rfl
  sha256_length data := by
    simp only [samplePackage]
    split_ifs <;> rfl
  hmacSha256_length key data := by
    simp only [samplePackage]
    split_ifs <;> rfl

def sampleClient : WsmClient samplePackage :=
  WsmClient.init samplePackage (.str "C8:38:70:3F:97:75") (.str "A8:3B:76:BA:B2:FE") false

theorem wsm_mutual_authentication_sample :
    ∃ response client',
      (processChallenge [0xab, 0xcd] (makeChallenge samplePackage true [0x12, 0x34])).run
        sampleClient = .ok response client' ∧
      verifyResponseHmac samplePackage sampleServerId sampleClientId true
        (makeChallenge samplePackage true [0x12, 0x34]) response = .ok true ∧
      (verifyConfirm (confirmPacket sampleServerMac)).run client' = .ok () client' ∧
      (verifyConfirm (confirmPacket sampleServerMac ++ [0])).run client' ≠ .ok () client' := by
  obtain ⟨response, client', secret, expanded, -, hrun, -, hverified, hsecret, hexpanded,
      haccepts⟩ :=
    wsm_mutual_authentication samplePackage_lawful true sampleClient
      (show ([0x12, 0x34] : Bytes).length = 2 from rfl)
      (show ([0xab, 0xcd] : Bytes).length = 2 from rfl)
  have hs : secret = sampleSecret false true := by
    have h : ecdhSharedSecret samplePackage true (samplePublicBytes false) =
        .ok (sampleSecret false true) := by decide +kernel
    exact Except.ok.inj (hsecret.symm.trans h)
  have he : expanded = BigEndian.encode 16 0x0bc4464a8003670079904e56e4171cf0 := by
    have h : expandNonce [0xab, 0xcd] =
        .ok (BigEndian.encode 16 0x0bc4464a8003670079904e56e4171cf0) := by decide +kernel
    exact Except.ok.inj (hexpanded.symm.trans h)
  rw [hs, he] at haccepts
  refine ⟨response, client', hrun, hverified, (haccepts _).1.mpr (by decide +kernel), ?_⟩
  rw [ne_eq, (haccepts _).1]
  decide +kernel

end Gear360
