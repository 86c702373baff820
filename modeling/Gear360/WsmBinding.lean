import Gear360.WsmAuth

namespace Gear360

open WsmClient

/-- What the two MACs of one handshake are computed from. -/
@[ext] structure Transcript where
  sharedSecret : Bytes
  challengeNonce : Bytes
  responseNonce : Bytes
  serverId : Bytes
  clientId : Bytes
  sharedSecret_length : sharedSecret.length = 32
  challengeNonce_length : challengeNonce.length = 2
  responseNonce_length : responseNonce.length = 2
  serverId_length : serverId.length = 17
  clientId_length : clientId.length = 17

/-- The digests are collision-free, and P-256 has its sizes. -/
structure CryptoPackage.Ideal {Priv Pub : Type} (C : CryptoPackage Priv Pub) : Prop where
  sha256_injective : Function.Injective C.sha256
  hmacSha256_injective : ∀ {key data key' data'},
    C.hmacSha256 key data = C.hmacSha256 key' data' → key = key' ∧ data = data'
  exchange_length : ∀ {privateKey peer secret}, C.exchange privateKey peer = .ok secret →
    secret.length = 32
  publicBytes_length : ∀ peer, (C.publicBytes peer).length = 65

section
variable {Priv Pub : Type} (C : CryptoPackage Priv Pub)

def Transcript.clientMac (t : Transcript) : Except PyErr Bytes := do
  let expanded ← expandNonce t.challengeNonce
  return clientHmac C (deriveHmacKey C t.sharedSecret expanded t.serverId t.clientId)
    t.challengeNonce t.responseNonce t.serverId t.clientId

def Transcript.serverMac (t : Transcript) : Except PyErr Bytes := do
  let expanded ← expandNonce t.responseNonce
  return serverHmac C (deriveHmacKey C t.sharedSecret expanded t.serverId t.clientId)
    t.responseNonce t.challengeNonce t.clientId t.serverId

end

/-- Fixed lengths make up for the missing separators. -/
theorem fields_inj {a b c d a' b' c' d' : Bytes} (ha : a.length = a'.length)
    (hb : b.length = b'.length) (hc : c.length = c'.length)
    (h : a ++ b ++ c ++ d = a' ++ b' ++ c' ++ d') : a = a' ∧ b = b' ∧ c = c' ∧ d = d' := by
  -- from the right: the last field goes first, and the prefixes are of one length
  have hab : (a ++ b).length = (a' ++ b').length := by
    rw [List.length_append, List.length_append, ha, hb]
  have habc : (a ++ b ++ c).length = (a' ++ b' ++ c').length := by
    rw [List.length_append, hab, hc, ← List.length_append]
  obtain ⟨h₃, hd⟩ := List.append_inj h habc
  obtain ⟨h₂, hc⟩ := List.append_inj h₃ hab
  obtain ⟨ha, hb⟩ := List.append_inj h₂ ha
  exact ⟨ha, hb, hc, hd⟩

section
variable {Priv Pub : Type} {C : CryptoPackage Priv Pub} (hC : C.Ideal)
include hC

theorem deriveHmacKey_inj {secret expanded serverId clientId secret' expanded' serverId'
    clientId' : Bytes} (hs : secret.length = secret'.length)
    (he : expanded.length = expanded'.length) (hid : serverId.length = serverId'.length)
    (h : deriveHmacKey C secret expanded serverId clientId =
      deriveHmacKey C secret' expanded' serverId' clientId') :
    secret = secret' ∧ expanded = expanded' ∧ serverId = serverId' ∧ clientId = clientId' :=
  fields_inj hs he hid (hC.sha256_injective h)

/-- The key equation names the ids in one order, the data equation in the other. -/
theorem clientHmac_eq_serverHmac {secret expanded secret' expanded' n₁ n₂ m₁ m₂ serverId clientId
    serverId' clientId' : Bytes} (hs : secret.length = secret'.length)
    (he : expanded.length = expanded'.length) (h₁ : n₁.length = m₁.length)
    (h₂ : n₂.length = m₂.length) (hid : serverId.length = serverId'.length)
    (hcross : serverId.length = clientId'.length)
    (h : clientHmac C (deriveHmacKey C secret expanded serverId clientId) n₁ n₂ serverId clientId =
      serverHmac C (deriveHmacKey C secret' expanded' serverId' clientId') m₁ m₂
        clientId' serverId') :
    serverId = clientId ∧ serverId' = clientId' := by
  obtain ⟨hkey, hdata⟩ := hC.hmacSha256_injective h
  -- the key gives server = server', the data server = client'
  obtain ⟨-, -, hserver, hclient⟩ := deriveHmacKey_inj hC hs he hid hkey
  obtain ⟨-, -, hswap, -⟩ := fields_inj h₁ h₂ hcross hdata
  exact ⟨hswap.trans hclient.symm, hserver.symm.trans hswap⟩

end

namespace Transcript

variable {Priv Pub : Type} {C : CryptoPackage Priv Pub}

theorem clientMac_ok (C : CryptoPackage Priv Pub) (t : Transcript) :
    ∃ expanded : Bytes, expanded.length = 16 ∧ t.clientMac C = .ok (clientHmac C
      (deriveHmacKey C t.sharedSecret expanded t.serverId t.clientId)
      t.challengeNonce t.responseNonce t.serverId t.clientId) := by
  obtain ⟨expanded, h, hlen⟩ := expandNonce_ok t.challengeNonce_length
  exact ⟨expanded, hlen, by rw [clientMac, h]; rfl⟩

theorem serverMac_ok (C : CryptoPackage Priv Pub) (t : Transcript) :
    ∃ expanded : Bytes, expanded.length = 16 ∧ t.serverMac C = .ok (serverHmac C
      (deriveHmacKey C t.sharedSecret expanded t.serverId t.clientId)
      t.responseNonce t.challengeNonce t.clientId t.serverId) := by
  obtain ⟨expanded, h, hlen⟩ := expandNonce_ok t.responseNonce_length
  exact ⟨expanded, hlen, by rw [serverMac, h]; rfl⟩

theorem clientMac_inj (hC : C.Ideal) {t t' : Transcript} (h : t.clientMac C = t'.clientMac C) :
    t = t' := by
  obtain ⟨expanded, hlen, hmac⟩ := t.clientMac_ok C
  obtain ⟨expanded', hlen', hmac'⟩ := t'.clientMac_ok C
  rw [hmac, hmac', Except.ok.injEq] at h
  obtain ⟨hkey, hdata⟩ := hC.hmacSha256_injective h
  obtain ⟨hs, -⟩ := deriveHmacKey_inj hC
    (t.sharedSecret_length.trans t'.sharedSecret_length.symm) (hlen.trans hlen'.symm)
    (t.serverId_length.trans t'.serverId_length.symm) hkey
  obtain ⟨hcn, hrn, hserver, hclient⟩ := fields_inj
    (t.challengeNonce_length.trans t'.challengeNonce_length.symm)
    (t.responseNonce_length.trans t'.responseNonce_length.symm)
    (t.serverId_length.trans t'.serverId_length.symm) hdata
  exact Transcript.ext hs hcn hrn hserver hclient

theorem serverMac_inj (hC : C.Ideal) {t t' : Transcript} (h : t.serverMac C = t'.serverMac C) :
    t = t' := by
  obtain ⟨expanded, hlen, hmac⟩ := t.serverMac_ok C
  obtain ⟨expanded', hlen', hmac'⟩ := t'.serverMac_ok C
  rw [hmac, hmac', Except.ok.injEq] at h
  obtain ⟨hkey, hdata⟩ := hC.hmacSha256_injective h
  obtain ⟨hs, -⟩ := deriveHmacKey_inj hC
    (t.sharedSecret_length.trans t'.sharedSecret_length.symm) (hlen.trans hlen'.symm)
    (t.serverId_length.trans t'.serverId_length.symm) hkey
  obtain ⟨hrn, hcn, hclient, hserver⟩ := fields_inj
    (t.responseNonce_length.trans t'.responseNonce_length.symm)
    (t.challengeNonce_length.trans t'.challengeNonce_length.symm)
    (t.clientId_length.trans t'.clientId_length.symm) hdata
  exact Transcript.ext hs hcn hrn hserver hclient

theorem clientMac_ne_serverMac (hC : C.Ideal) {t t' : Transcript}
    (hne : t.serverId ≠ t.clientId ∨ t'.serverId ≠ t'.clientId) :
    t.clientMac C ≠ t'.serverMac C := by
  obtain ⟨expanded, hlen, hmac⟩ := t.clientMac_ok C
  obtain ⟨expanded', hlen', hmac'⟩ := t'.serverMac_ok C
  intro h
  rw [hmac, hmac', Except.ok.injEq] at h
  obtain ⟨hsame, hsame'⟩ := clientHmac_eq_serverHmac hC
    (t.sharedSecret_length.trans t'.sharedSecret_length.symm) (hlen.trans hlen'.symm)
    (t.challengeNonce_length.trans t'.responseNonce_length.symm)
    (t.responseNonce_length.trans t'.challengeNonce_length.symm)
    (t.serverId_length.trans t'.serverId_length.symm)
    (t.serverId_length.trans t'.clientId_length.symm) h
  exact hne.elim (fun h => h hsame) (fun h => h hsame')

end Transcript

namespace WsmClient

variable {Priv Pub : Type} {C : CryptoPackage Priv Pub}

/-- The client that a method call leaves behind, whether it returned or raised. -/
def after {α : Type} (method : Method C α) (self : WsmClient C) : WsmClient C :=
  match method.run self with
  | .ok _ self' => self'
  | .error _ self' => self'

/-- A client with the given ids after any calls at all. -/
inductive Reachable (serverId clientId : WsmId) : WsmClient C → Prop
  | init (privateKey : Priv) : Reachable serverId clientId (init C serverId clientId privateKey)
  | processChallenge {self : WsmClient C} {urandom : Bytes} (challenge : Bytes) :
      Reachable serverId clientId self → urandom.length = 2 →
      Reachable serverId clientId (after (processChallenge urandom challenge) self)
  | verifyConfirm {self : WsmClient C} (confirm : Bytes) : Reachable serverId clientId self →
      Reachable serverId clientId (after (verifyConfirm confirm) self)

/-- What every call keeps: the stored key names both ids, and the nonces have two bytes. The
key may be older than the nonces, when a later challenge raised. -/
structure Keeps (serverId clientId : WsmId) (client : WsmClient C) : Prop where
  serverId_eq : client.serverId = serverId.encode
  clientId_eq : client.clientId = clientId.encode
  key : ∀ key, client.hmacKeyServer = some key → ∃ secret expanded : Bytes,
    secret.length = 32 ∧ expanded.length = 16 ∧
      key = deriveHmacKey C secret expanded client.serverId client.clientId
  challengeNonce : ∀ nonce, client.challengeNonce = some nonce → nonce.length = 2
  responseNonce : ∀ nonce, client.responseNonce = some nonce → nonce.length = 2

variable {serverId clientId : WsmId}

theorem init_keeps (privateKey : Priv) :
    (init C serverId clientId privateKey).Keeps serverId clientId where
  serverId_eq := rfl
  clientId_eq := rfl
  key _ h := nomatch h
  challengeNonce _ h := nomatch h
  responseNonce _ h := nomatch h

theorem ecdhSharedSecret_length (hC : C.Ideal) {privateKey : Priv} {pubkey secret : Bytes}
    (h : ecdhSharedSecret C privateKey pubkey = .ok secret) : secret.length = 32 := by
  unfold ecdhSharedSecret at h
  cases hpeer : C.fromEncodedPoint pubkey with
  | error e => rw [hpeer] at h; cases h
  | ok peer => rw [hpeer] at h; exact hC.exchange_length h

theorem processChallenge_keeps (hC : C.Ideal) {self : WsmClient C} {urandom : Bytes}
    (challenge : Bytes) (hu : urandom.length = 2) (h : self.Keeps serverId clientId) :
    (after (processChallenge urandom challenge) self).Keeps serverId clientId := by
  have hself : self.publicBytes.length = 65 := by
    rw [self.publicBytes_eq, hC.publicBytes_length]
  by_cases hc : IsChallenge challenge
  · obtain ⟨pubkey, nonce, hp, hn, rfl⟩ := hc.eq_challengePacket
    -- the nonces are set before the secret is derived, the key after it
    cases hsecret : ecdhSharedSecret C self.privateKey pubkey with
    | error e =>
      rw [after, processChallenge_error self hp hn hsecret]
      exact { h with
        challengeNonce := fun _ hn' => Option.some.inj hn' ▸ hn
        responseNonce := fun _ hn' => Option.some.inj hn' ▸ hu }
    | ok secret =>
      obtain ⟨expandedChallenge, hec, -⟩ := expandNonce_ok hn
      obtain ⟨expandedResponse, her, hlen⟩ := expandNonce_ok hu
      rw [after, processChallenge_run self hself hp hn hu hsecret hec her]
      exact { h with
        key := fun _ hk => ⟨secret, expandedResponse, ecdhSharedSecret_length hC hsecret, hlen,
          (Option.some.inj hk).symm⟩
        challengeNonce := fun _ hn' => Option.some.inj hn' ▸ hn
        responseNonce := fun _ hn' => Option.some.inj hn' ▸ hu }
  · obtain ⟨e, he⟩ := processChallenge_malformed self urandom hc
    rw [after, he]
    exact h

theorem Reachable.keeps (hC : C.Ideal) {self : WsmClient C}
    (h : self.Reachable serverId clientId) : self.Keeps serverId clientId := by
  induction h with
  | init privateKey => exact init_keeps privateKey
  | processChallenge challenge _ hu ih => exact processChallenge_keeps hC challenge hu ih
  | @verifyConfirm self confirm _ ih =>
    -- returned or raised, the client is what it was
    rcases verifyConfirm_run self confirm with ⟨-, hrun⟩ | ⟨-, e, hrun⟩ <;> rw [after, hrun]
      <;> exact ih

/-- A response carries the client MAC of a transcript. -/
theorem response_transcript (hC : C.Ideal) {self self' : WsmClient C} {urandom challenge response :
    Bytes} (hserver : self.serverId.length = 17) (hclient : self.clientId.length = 17)
    (hu : urandom.length = 2)
    (h : (processChallenge urandom challenge).run self = .ok response self') :
    ∃ t : Transcript, t.serverId = self.serverId ∧ t.clientId = self.clientId ∧
      t.clientMac C = .ok (response.drop 70) := by
  have hself : self.publicBytes.length = 65 := by
    rw [self.publicBytes_eq, hC.publicBytes_length]
  by_cases hc : IsChallenge challenge
  · obtain ⟨pubkey, nonce, hp, hn, rfl⟩ := hc.eq_challengePacket
    cases hsecret : ecdhSharedSecret C self.privateKey pubkey with
    | error e => rw [processChallenge_error self hp hn hsecret] at h; cases h
    | ok secret =>
      obtain ⟨expandedChallenge, hec, -⟩ := expandNonce_ok hn
      obtain ⟨expandedResponse, her, -⟩ := expandNonce_ok hu
      rw [processChallenge_run self hself hp hn hu hsecret hec her] at h
      cases h
      refine ⟨⟨secret, nonce, urandom, self.serverId, self.clientId,
        ecdhSharedSecret_length hC hsecret, hn, hu, hserver, hclient⟩, rfl, rfl, ?_⟩
      -- the MAC is what follows the first 70 bytes
      have hhead : ([0, 1, 102] ++ (self.publicBytes ++ urandom)).length = 70 := by
        rw [List.length_append, List.length_append, hself, hu]; rfl
      simp only [Transcript.clientMac, hec, responsePacket, ← List.append_assoc]
      rw [List.append_assoc [0, 1, 102], List.drop_left' hhead]
      rfl
  · obtain ⟨e, he⟩ := processChallenge_malformed self urandom hc
    rw [he] at h
    cases h

/-- Whatever happened to the client before, no client MAC confirms it. -/
theorem Reachable.rejects_clientMac (hC : C.Ideal) {self : WsmClient C}
    (h : self.Reachable serverId clientId) (hserver : serverId.encode.length = 17)
    (hclient : clientId.encode.length = 17) (hne : serverId.encode ≠ clientId.encode)
    {t : Transcript} {confirm : Bytes} (ht : t.clientMac C = .ok (slice confirm 3 35)) :
    ∃ e, (WsmClient.verifyConfirm confirm).run self = .error e self := by
  have hkeeps := h.keeps hC
  rcases verifyConfirm_run self confirm with ⟨hyes, -⟩ | ⟨-, hno⟩
  · obtain ⟨-, key, rn, cn, hk, hr, hc, hmac⟩ := hyes
    -- a stored key is derived from these two ids, whatever challenge it is from
    obtain ⟨secret, expanded, hs, he, rfl⟩ := hkeeps.key key hk
    obtain ⟨expanded', he', ht'⟩ := t.clientMac_ok C
    rw [ht, Except.ok.injEq, hmac, hkeeps.serverId_eq, hkeeps.clientId_eq] at ht'
    exact absurd (clientHmac_eq_serverHmac hC (t.sharedSecret_length.trans hs.symm)
      (he'.trans he.symm) (t.challengeNonce_length.trans (hkeeps.responseNonce rn hr).symm)
      (t.responseNonce_length.trans (hkeeps.challengeNonce cn hc).symm)
      (t.serverId_length.trans hserver.symm) (t.serverId_length.trans hclient.symm)
      ht'.symm).2 hne
  · exact hno

end WsmClient

section
variable {Priv Pub : Type} {C : CryptoPackage Priv Pub}

/-- Equal MACs come from equal transcripts, a client MAC is no server MAC, and so a client
never takes a response MAC, its own or another's, for the confirmation. -/
theorem wsm_macs_bind_and_separate (hC : C.Ideal) :
    (∀ t t' : Transcript, (∃ mac, t.clientMac C = .ok mac ∧ t'.clientMac C = .ok mac) → t = t') ∧
    (∀ t t' : Transcript, (∃ mac, t.serverMac C = .ok mac ∧ t'.serverMac C = .ok mac) → t = t') ∧
    (∀ t t' : Transcript, t.serverId ≠ t.clientId ∨ t'.serverId ≠ t'.clientId →
      ∃ mac mac', t.clientMac C = .ok mac ∧ t'.serverMac C = .ok mac' ∧ mac ≠ mac') ∧
    ∀ (serverId clientId : WsmId) (self : WsmClient C), serverId.encode.length = 17 →
      clientId.encode.length = 17 → serverId.encode ≠ clientId.encode →
      self.Reachable serverId clientId → ∀ confirm,
        (∀ t : Transcript, t.clientMac C = .ok (slice confirm 3 35) →
          ∃ e, (verifyConfirm confirm).run self = .error e self) ∧
        (∀ (other other' : WsmClient C) (urandom challenge response : Bytes),
          other.serverId.length = 17 → other.clientId.length = 17 → urandom.length = 2 →
          (processChallenge urandom challenge).run other = .ok response other' →
          slice confirm 3 35 = response.drop 70 →
          ∃ e, (verifyConfirm confirm).run self = .error e self) := by
  refine ⟨fun t t' h => ?_, fun t t' h => ?_, fun t t' hne => ?_, ?_⟩
  · obtain ⟨mac, hmac, hmac'⟩ := h
    exact Transcript.clientMac_inj hC (hmac.trans hmac'.symm)
  · obtain ⟨mac, hmac, hmac'⟩ := h
    exact Transcript.serverMac_inj hC (hmac.trans hmac'.symm)
  · obtain ⟨expanded, -, hmac⟩ := t.clientMac_ok C
    obtain ⟨expanded', -, hmac'⟩ := t'.serverMac_ok C
    refine ⟨_, _, hmac, hmac', fun h => Transcript.clientMac_ne_serverMac hC hne ?_⟩
    rw [hmac, hmac', h]
  · intro serverId clientId self hserver hclient hne hself confirm
    refine ⟨fun t ht => hself.rejects_clientMac hC hserver hclient hne ht, ?_⟩
    -- a response carries the MAC of the transcript that it was made from
    intro other other' urandom challenge response hs hc hu hrun hmac
    obtain ⟨t, -, -, ht⟩ := response_transcript hC hs hc hu hrun
    rw [← hmac] at ht
    exact hself.rejects_clientMac hC hserver hclient hne ht

end

/-- Lengths in unary keep two strings apart. -/
theorem replicate_cons_inj {n m : ℕ} {x y : Bytes}
    (h : List.replicate n 0 ++ 1 :: x = List.replicate m 0 ++ 1 :: y) : n = m ∧ x = y := by
  induction n generalizing m with
  | zero =>
    cases m with
    | zero => exact ⟨rfl, List.tail_eq_of_cons_eq h⟩
    | succ m => exact absurd (List.head_eq_of_cons_eq h) (by decide)
  | succ n ih =>
    cases m with
    | zero => exact absurd (List.head_eq_of_cons_eq h) (by decide)
    | succ m =>
      obtain ⟨hn, hx⟩ := ih (List.tail_eq_of_cons_eq h)
      exact ⟨congrArg Nat.succ hn, hx⟩

/-- A function with two short values is still injective when all others are long. -/
theorem ite_injective {α : Type} [DecidableEq α] {a b : α} {u v : Bytes} {f : α → Bytes}
    (huv : u ≠ v) (hu : u.length = 32) (hv : v.length = 32) (hf : Function.Injective f)
    (hlong : ∀ x, 32 < (f x).length) :
    Function.Injective fun x => if x = a then u else if x = b then v else f x := by
  have hu' (x : α) : u ≠ f x := fun h => by have := hlong x; rw [← h] at this; omega
  have hv' (x : α) : v ≠ f x := fun h => by have := hlong x; rw [← h] at this; omega
  intro x y h
  simp only at h
  split_ifs at h with h₁ h₂ h₃ h₄ h₅ h₆ h₇
  · exact h₁.trans h₂.symm
  · exact absurd h huv
  · exact absurd h (hu' y)
  · exact absurd h.symm huv
  · exact h₄.trans h₆.symm
  · exact absurd h (hv' y)
  · exact absurd h.symm (hu' x)
  · exact absurd h.symm (hv' x)
  · exact hf h

def samplePair (key data : Bytes) : Bytes :=
  List.replicate key.length 0 ++ 1 :: (key ++ (data ++ List.replicate 32 0))

/-- The package of the sample handshake, with injective digests away from it. -/
def idealPackage : CryptoPackage Bool Bool where
  __ := samplePackage
  sha256 data :=
    if data = sampleSecret false true ++ BigEndian.encode 16 0x0cac11337b66e2872864995ce68a1591 ++
        sampleServerId ++ sampleClientId then sampleChallengeKey
    else if data = sampleSecret false true ++
        BigEndian.encode 16 0x0bc4464a8003670079904e56e4171cf0 ++
        sampleServerId ++ sampleClientId then sampleResponseKey
    else data ++ List.replicate 33 0
  hmacSha256 key data :=
    if (key, data) = (sampleChallengeKey,
        [0x12, 0x34, 0xab, 0xcd] ++ sampleServerId ++ sampleClientId) then sampleClientMac
    else if (key, data) = (sampleResponseKey,
        [0xab, 0xcd, 0x12, 0x34] ++ sampleClientId ++ sampleServerId) then sampleServerMac
    else samplePair key data

theorem idealPackage_ideal : idealPackage.Ideal where
  sha256_injective := ite_injective (by decide +kernel) rfl rfl
    (List.append_left_injective _) (fun data => by rw [List.length_append]; simp)
  hmacSha256_injective := by
    intro key data key' data' h
    -- but for the one handshake the MAC is an encoding of its two arguments
    have hinj : Function.Injective fun p : Bytes × Bytes => samplePair p.1 p.2 := by
      rintro ⟨k, d⟩ ⟨k', d'⟩ h
      obtain ⟨hlen, h⟩ := replicate_cons_inj h
      obtain ⟨rfl, h⟩ := List.append_inj h hlen
      have hd : d = d' := List.append_left_injective _ h
      rw [hd]
    have hlong (p : Bytes × Bytes) : 32 < (samplePair p.1 p.2).length := by
      simp only [samplePair, List.length_append, List.length_cons, List.length_replicate]
      omega
    have hne : sampleClientMac ≠ sampleServerMac := by decide +kernel
    have hpair : (key, data) = (key', data') := ite_injective hne rfl rfl hinj hlong h
    exact Prod.ext_iff.mp hpair
  exchange_length := by
    intro privateKey peer secret h
    cases h
    cases privateKey <;> cases peer <;> rfl
  publicBytes_length := by decide +kernel

/-- The client of the sample handshake, after the challenge. -/
def sampleAnswered : WsmClient idealPackage :=
  after (processChallenge [0xab, 0xcd] (makeChallenge idealPackage true [0x12, 0x34]))
    (WsmClient.init idealPackage (.str "C8:38:70:3F:97:75") (.str "A8:3B:76:BA:B2:FE") false)

def sampleTranscript : Transcript :=
  ⟨sampleSecret false true, [0x12, 0x34], [0xab, 0xcd], sampleServerId, sampleClientId,
    rfl, rfl, rfl, by decide +kernel, by decide +kernel⟩

theorem wsm_macs_bind_and_separate_sample :
    (verifyConfirm (confirmPacket sampleServerMac)).run sampleAnswered = .ok () sampleAnswered ∧
    sampleTranscript.clientMac idealPackage = .ok sampleClientMac ∧
    ∃ e, (verifyConfirm (confirmPacket sampleClientMac)).run sampleAnswered =
      .error e sampleAnswered := by
  obtain ⟨-, -, -, hrejects⟩ := wsm_macs_bind_and_separate idealPackage_ideal
  have hclient : sampleTranscript.clientMac idealPackage = .ok sampleClientMac := by decide +kernel
  refine ⟨?_, hclient, ?_⟩
  · have haccepted : (match (verifyConfirm (confirmPacket sampleServerMac)).run sampleAnswered with
        | .ok _ _ => true
        | .error _ _ => false) = true := by decide +kernel
    rcases verifyConfirm_run sampleAnswered (confirmPacket sampleServerMac) with
      ⟨-, hrun⟩ | ⟨-, e, hrun⟩
    · exact hrun
    · rw [hrun] at haccepted
      exact Bool.noConfusion haccepted
  · have hreach : sampleAnswered.Reachable (.str "C8:38:70:3F:97:75") (.str "A8:3B:76:BA:B2:FE") :=
      .processChallenge _ (.init false) rfl
    have hmac : slice (confirmPacket sampleClientMac) 3 35 = sampleClientMac := by decide +kernel
    exact (hrejects _ _ _ (by decide +kernel) (by decide +kernel) (by decide +kernel) hreach _).1
      sampleTranscript (hclient.trans (congrArg _ hmac.symm))

end Gear360
