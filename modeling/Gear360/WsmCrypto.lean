import Gear360.Framing

/-! The cryptographic pieces of the WSM authentication. The `cryptography`, `hashlib` and
`hmac` packages are a parameter. -/
namespace Gear360

/-- The white-box nonce-expansion table, 32 bytes a row. -/
def nonceTableRows : List ℕ :=
  [ 0xf9999ab9615d119e435212c66a9224cd58a04ec8b35d25077a03a8126031e910,
    0x4736dd491fc12902485835fed17e0d4afebbe5aa99d684d9336430ac1cb2e720,
    0xd22c777c8de165329aafc30905b67b51b9d7c968ca2068c3cd8ed48ae9a25ba4,
    0x67aa0f4e31da47f5fa1877420b442579c8f811c89861d42518a95c8c835e0e18,
    0x13baff673508f650950b18d36395a84d0cac11337b66e2878bc7068252b89650,
    0x6d9cf8cc796231bdbc4b4978ebac7ca978d2a02981e61f183bffe88b42394c25,
    0xc9cfa5219e0ae19837742d41e751cae43631737efef80e366012ca8eb83850cd,
    0xb460b11edfa1e8d74651ce70ccbc77e22b23309f8596d784d9ebb401985d238c,
    0x03f04af46e11b9ce6ea3c0045a0827863cf8054265d793b24cc3d6d54f2da407,
    0x771ab6659b02767b33ce0be8bd2032f9c2931619c395c9a68411264bc19a5941,
    0x5bd929fbeebf12f18656596c6e29bd4f62ccc24815c0b18f52cd410411b5134e,
    0xa2fbaacc529774318e986bb990318ab696c70e1acd8a891e67a303d7d2af8dc1,
    0x7d117f46bb65891876380ead74fce0c55d1c4fe13b8b7a3673ccf6c1f7c44702,
    0x2864995ce68a1591e248efea52cf73f07e7e0a8c24aa454a18c5cb9ee91101fc,
    0x3e35b7373cd0bd5ff7c28e0baad3d89b40fab78de96821f53afe03a067f9c0fd,
    0xdae64b3b639806b7741b6bcb0a61b42ac978bd1ce04ba11dd8ba9ce1eb56994a,
    0x379110e8cf3050a25be30b56239fc917fde9f4ce2684aa346f78fbc70e12d73b,
    0xb91b8f88eeb73538d0e416b707d9d76246013cb98bc00405f3f9f14a3c5816ec,
    0x2e82ed8d730427a6d393a25f3b867fba72ca521757bbb41953d3c37b924d2d30,
    0x36452ea75504a34bee4a403312f155333f7e165bfe2d8cfbfc6bd9c4e4abe4f9,
    0x0187bcb077c2f752e2d0825d38cf4e7d3d8d6b81b0d7665b4df1773f82e3a58f,
    0x53eb923ab2225730681a175de3404f9dcbc022a44fc34a7f0116571e9cbb17f3,
    0x20b2b9ff019bf321cdfa63d91d271bfb17590448e362ed581a65cba1cc238508,
    0xbd15674eb81fd16cad1de64bf247c7b781a657cc18af92c7a847590ccfe2c54a,
    0x1c1e1c74b46dd24e99ae96e54e77eeada1f6c4961fbe1d5b0686b566c4f23c02,
    0x02e6f99f662641e1dccfcc0d0a258b572b5ad9bca11c77a32ad6038b5e8a3ef9,
    0xfa90f8b495096037f2c7f3d2435f7b25cad1c19157dcd55b1bc0f18f8f6a84f6,
    0xad43de34febfc24c52e95904744b9607cf6c3a0edb125ebf665b86aee4ea6a79,
    0xa1b9f0fd022e1cd2d65d663d7a31351d125e6d7310e9eeb7536af4702af87cb9,
    0x9fd4fcbe6a4844e470c97c330f68e2066fa88e7750dbe2f081dd09e77bbaa09d,
    0xd9c4b591cc3a2a5a6196919b3eb411aad7c29cff33e00d4fd2a9a827072ef3ff,
    0x01610bd573fce14d93e2773a515fb289b8cedb1c2a41fec761b07e50f2624a05,
    0xefc149db84dc5b28c9899ac131de782d5ce2e6a87be4774bef8c82d2b6a39881,
    0xc6cac409112f40a57963f56d3ef2bdc53e730b16c6b52aa386014e4fa6a59685,
    0x411645f0642d9a20d3cfb98ff7a8d41e1cfd1bdd78645aab8b89003db4fc6580,
    0xa82db0f0b8fb34eaed13af9b0dd2a540c9bfc249871ca661ca6186dafca703e6,
    0x3ba217e2b533dd6472d61b90195c79c6b6df3f7f3662f750e230c66b0ca79d61,
    0x35ddf110c2d6241485543b29c4ab1fb7e9229c02ffbbc56685fe429d4b5c9f09,
    0x64a6a1614349804297ffd4a5acf8b29f671955e84e674a1b18ea593c39d52b2d,
    0x619dc326797b5b48a1aedc0c8e7df70d60a69dc8b8b6f431880dff0a73b2cd52,
    0xfb180790d78db5a6d1e83e8a5f565fb2b63839d399258545ea707fdbda5a3044,
    0xe5b75517585d30fa04e4f6c9886c11af68df2609fe13aaa7159d4e499d0ba349,
    0x4db7f51b9126cdcc35287bb1a483e3cde7283fc12150b06f0bc4464a80036700,
    0xd1cf17dbf8320618095fb441e4648dff45a303d88ddedb73137a2b9881d4b9b6,
    0xad3571d19167f22d1daddfefa7505c7a0ce1cee12fcc58579a1f509d536d3888,
    0x6b8553f61123e29e5db22f9798fe6260ed648eb8dd0e1f38c27dbfc497178153,
    0x1a29b36a6b3a8fbbd8b46b9a6fdb3f04ce238391e43153fd3ddcf68ba052906c,
    0xc484f88fe5f51cb980e2535765c27027a4aa5eba09db571611843ca07b96ed03,
    0xabe0bd826ea7b780aff13c779c8a7616290d3c6b4143d1d282ebb12274e11f2d,
    0x574522a50c98affb2b01de518d1ec668a2ec79dcbd177c8138fe6fe93c56d650,
    0xb83afdfe7f75ce177a7194756a827a9862ca40faec56c06dd845710ffbb88ef7,
    0xe063c72ca58fed0479904e56e4171cf08afe2f56c1ea5947ebcae1bb9e63a05d,
    0xb9a34bd78cdd3bb02e43ebb0fbcfee9bf1fd76b30796ca7c982bd1a83bb07761,
    0x8bd8201adb18cd84c60ac19d5fb73c2a2578e4e521fec7ac899748818933e29d,
    0x560c5a160f776027e30d51fbfbce6c76cb1b02af92a9061251d9cd4e538b28f4,
    0xed8b1576833ac7ab96d8a04022af18bbda5ba2e04ef05b1136cdba7e08673528,
    0xd4d18ed615773c8bc16c70412436a6af18b13903fcc917ae6ff7b903e9371902,
    0x26d496486e001e13e18e98228f10c318d9e6bcd0aea23e9292cb29cf5a88c3f2,
    0xa1e5e06fc4a655670686f57a730bdebdd7df95d34c3e9a0c3a2e2e57e15cb66c,
    0x6880facb8c55199de15ef1d864cf2917a746fc77e227d4bf7205aed237643945,
    0x4db7c06d24bac50265b67b9c7b42f70f06113cad0181d25d4898464180c71da8,
    0xc67dbbf9fd89819b0032e190206983d8d6bc4b25f0929ecc1cde794dd176e5a9,
    0xdceb89e15ce4fb27abe73712f22ff05434230c8bd989bfc915585526e12c1e02,
    0x0b0ff114f7c6c2506d0a24e9285a913519514285de95d257b6619760720b7def ]

/-- 256 entries of 8 bytes. -/
def nonceTable : Bytes := nonceTableRows.flatMap (BigEndian.encode 32)

theorem nonceTable_length : nonceTable.length = 2048 := by
  simp only [nonceTable, List.length_flatMap, BigEndian.encode_length, List.map_const',
    List.sum_replicate]
  rfl

/-- The table entry of one nonce byte. -/
def nonceEntry (b : ℕ) : Bytes := slice nonceTable (b*8) (b*8+8)

theorem nonceEntry_length {b : ℕ} (h : b < 256) : (nonceEntry b).length = 8 := by
  rw [nonceEntry, slice, List.length_drop, List.length_take, nonceTable_length]
  omega

/-- Expand a 2-byte nonce to 16 bytes via the lookup table. -/
def expandNonce (nonce : Bytes) : Except PyErr Bytes := do
  let b₀ ← byteAt nonce 0
  let b₁ ← byteAt nonce 1
  return nonceEntry b₀ ++ nonceEntry b₁

theorem expandNonce_ok {nonce : Bytes} (h : nonce.length = 2) :
    ∃ expanded, expandNonce nonce = .ok expanded ∧ expanded.length = 16 := by
  obtain ⟨x, y, rfl⟩ := List.length_eq_two.mp h
  refine ⟨nonceEntry x.toNat ++ nonceEntry y.toNat, rfl, ?_⟩
  rw [List.length_append, nonceEntry_length x.toNat_lt, nonceEntry_length y.toNat_lt]

/-- What the client uses of the packages: X9.62 encodings of P-256 points, ECDH and the
two digests. A point that does not decode, or cannot be exchanged with, raises. -/
structure CryptoPackage (Priv Pub : Type) where
  publicKey : Priv → Pub
  publicBytes : Pub → Bytes
  fromEncodedPoint : Bytes → Except PyErr Pub
  exchange : Priv → Pub → Except PyErr Bytes
  sha256 : Bytes → Bytes
  hmacSha256 : Bytes → Bytes → Bytes

variable {Priv Pub : Type}

/-- The documented behaviour of the packages that mutual authentication rests on. -/
structure CryptoPackage.Lawful (C : CryptoPackage Priv Pub) : Prop where
  publicBytes_length : ∀ k, (C.publicBytes (C.publicKey k)).length = 65
  decodes : ∀ k, C.fromEncodedPoint (C.publicBytes (C.publicKey k)) = .ok (C.publicKey k)
  agrees : ∀ a b, ∃ secret, C.exchange a (C.publicKey b) = .ok secret ∧
    C.exchange b (C.publicKey a) = .ok secret
  sha256_length : ∀ data, (C.sha256 data).length = 32
  hmacSha256_length : ∀ key data, (C.hmacSha256 key data).length = 32

variable (C : CryptoPackage Priv Pub)

def ecdhSharedSecret (privateKey : Priv) (peerPublicBytes : Bytes) : Except PyErr Bytes := do
  let peer ← C.fromEncodedPoint peerPublicBytes
  C.exchange privateKey peer

def deriveHmacKey (sharedSecret expandedNonce serverId clientId : Bytes) : Bytes :=
  C.sha256 (sharedSecret ++ expandedNonce ++ serverId ++ clientId)

/-- HMAC carried in the response (bytes 70:102). -/
def clientHmac (key challengeNonce responseNonce serverId clientId : Bytes) : Bytes :=
  C.hmacSha256 key (challengeNonce ++ responseNonce ++ serverId ++ clientId)

/-- HMAC carried in the confirmation: nonce order and ID order are both reversed. -/
def serverHmac (key responseNonce challengeNonce clientId serverId : Bytes) : Bytes :=
  C.hmacSha256 key (responseNonce ++ challengeNonce ++ clientId ++ serverId)

variable {C}

theorem clientHmac_length (hC : C.Lawful)
    (key challengeNonce responseNonce serverId clientId : Bytes) :
    (clientHmac C key challengeNonce responseNonce serverId clientId).length = 32 :=
  hC.hmacSha256_length _ _

theorem serverHmac_length (hC : C.Lawful)
    (key responseNonce challengeNonce clientId serverId : Bytes) :
    (serverHmac C key responseNonce challengeNonce clientId serverId).length = 32 :=
  hC.hmacSha256_length _ _

end Gear360
