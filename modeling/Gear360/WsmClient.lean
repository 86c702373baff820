import Gear360.WsmCrypto

namespace Gear360

/-- An id is given as text or as bytes. -/
inductive WsmId where
  | str (text : String)
  | bytes (data : Bytes)

def WsmId.encode : WsmId → Bytes
  | .str text => text.toUTF8.toList
  | .bytes data => data

/-- The public bytes are always those of the client's own key. -/
structure WsmClient {Priv Pub : Type} (C : CryptoPackage Priv Pub) where
  serverId : Bytes
  clientId : Bytes
  privateKey : Priv
  publicBytes : Bytes
  publicBytes_eq : publicBytes = C.publicBytes (C.publicKey privateKey)
  hmacKeyServer : Option Bytes
  challengeNonce : Option Bytes
  responseNonce : Option Bytes

/-- `response[i:j] = value` on a byte array. -/
def setSlice (data : Bytes) (i j : ℕ) (value : Bytes) : Bytes :=
  data.take i ++ (value ++ data.drop j)

namespace WsmClient

variable {Priv Pub : Type} (C : CryptoPackage Priv Pub)

/-- `WSMClient(server_id, client_id)`, with the private key it generates. -/
def init (serverId clientId : WsmId) (privateKey : Priv) : WsmClient C where
  serverId := serverId.encode
  clientId := clientId.encode
  privateKey := privateKey
  publicBytes := C.publicBytes (C.publicKey privateKey)
  publicBytes_eq := rfl
  hmacKeyServer := none
  challengeNonce := none
  responseNonce := none

/-- Methods change the client, and what they changed stays when they raise. -/
abbrev Method (α : Type) : Type := EStateM PyErr (WsmClient C) α

variable {C}

def raising {α : Type} : Except PyErr α → Method C α
  | .ok a => pure a
  | .error e => throw e

/-- `process_challenge`, with the two bytes that `os.urandom` returns. -/
def processChallenge (urandom challenge : Bytes) : Method C Bytes := do
  if challenge.length ≠ 70 then
    throw (.valueError s!"Challenge must be 70 bytes, got {challenge.length}")
  if challenge.getD 0 0 ≠ 0 ∨ challenge.getD 1 0 ≠ 0 ∨ challenge.getD 2 0 ≠ 70 then
    throw (.valueError "Invalid challenge header")
  let serverPubkey := slice challenge 3 68
  let challengeNonce := slice challenge 68 70
  let responseNonce := urandom
  -- the nonces are stored before anything below can raise
  modify fun self => { self with challengeNonce := some challengeNonce }
  modify fun self => { self with responseNonce := some responseNonce }
  let self ← get
  let sharedSecret ← raising (ecdhSharedSecret C self.privateKey serverPubkey)
  let expandedChallenge ← raising (expandNonce challengeNonce)
  -- one key from each nonce: the response is made with the first, the second is kept
  let keyClient := deriveHmacKey C sharedSecret expandedChallenge self.serverId self.clientId
  let expandedResponse ← raising (expandNonce responseNonce)
  let keyServer := deriveHmacKey C sharedSecret expandedResponse self.serverId self.clientId
  modify fun self => { self with hmacKeyServer := some keyServer }
  let mac := clientHmac C keyClient challengeNonce responseNonce self.serverId self.clientId
  -- a zeroed buffer, filled in field by field
  let response := (List.replicate 102 0).set 0 0 |>.set 1 1 |>.set 2 102
  let response := setSlice response 3 68 self.publicBytes
  let response := setSlice response 68 70 responseNonce
  return setSlice response 70 102 mac

def verifyConfirm (confirm : Bytes) : Method C Unit := do
  if confirm.length ≠ 35 then
    throw (.valueError s!"Confirm must be 35 bytes, got {confirm.length}")
  if confirm.getD 0 0 ≠ 0 ∨ confirm.getD 1 0 ≠ 2 ∨ confirm.getD 2 0 ≠ 35 then
    throw (.valueError "Invalid confirm header")
  let self ← get
  match self.hmacKeyServer with
  | none => throw (.runtimeError "Must call process_challenge before verify_confirm")
  | some hmacKeyServer =>
    match self.responseNonce, self.challengeNonce with
    | some responseNonce, some challengeNonce =>
      let expected := serverHmac C hmacKeyServer responseNonce challengeNonce
        self.clientId self.serverId
      if slice confirm 3 35 ≠ expected then
        throw (.valueError "Server HMAC verification failed")
    -- a key without both nonces: the concatenation with `None` raises
    | _, _ => throw .typeError

end WsmClient

section
variable {Priv Pub : Type} (C : CryptoPackage Priv Pub)

/-- The challenge packet for a server key, with the two bytes that `os.urandom` returns. -/
def makeChallenge (serverPrivateKey : Priv) (urandom : Bytes) : Bytes :=
  let challenge := (List.replicate 70 0).set 0 0 |>.set 1 0 |>.set 2 70
  let challenge := setSlice challenge 3 68 (C.publicBytes (C.publicKey serverPrivateKey))
  setSlice challenge 68 70 urandom

/-- Recompute the response HMAC from the server's private key and compare. -/
def verifyResponseHmac (serverId clientId : Bytes) (serverPrivateKey : Priv)
    (challenge response : Bytes) : Except PyErr Bool := do
  let clientPubkey := slice response 3 68
  let challengeNonce := slice challenge 68 70
  let responseNonce := slice response 68 70
  let received := slice response 70 102
  let shared ← ecdhSharedSecret C serverPrivateKey clientPubkey
  let expanded ← expandNonce challengeNonce
  let key := deriveHmacKey C shared expanded serverId clientId
  let expected := clientHmac C key challengeNonce responseNonce serverId clientId
  return received = expected

end

end Gear360
