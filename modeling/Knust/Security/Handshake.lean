import Knust.Security.Reference
import Knust.Security.Wrapper

namespace Knust.Security

open Foundation SecureSession

variable (P : Primitives)

/-- The whole exchange between a client and a server: the messages of the
handshake carry only the values passed on here. -/
def handshake (clientConfig serverConfig : SessionConfig) (clientSecret serverSecret : Block 32)
    (sessionId : UInt16) : Result (SecureSession × SecureSession) := do
  let (clientKey, client) := (new P clientConfig).initializeSession P clientSecret
  let (serverKey, server) := (new P serverConfig).initializeSession P serverSecret
  let (response, server) := server.processSessionRequest P clientKey sessionId
  let deviceMac ← response
  let (authenticate, client) := client.processSessionResponse P sessionId serverKey deviceMac
  let userMac ← authenticate
  let (verified, server) := server.verifyAuthenticateMac P clientKey client.userId userMac
  let statusCode := if ← verified then 0x00 else 0x01
  let (completed, client) := client.completeAuthentication statusCode
  completed
  .ok (client, server)

structure Established (client server : SecureSession) : Prop where
  clientState : client.state = .authenticated
  serverState : server.state = .authenticated
  sessionId : client.sessionId = server.sessionId
  sessionKey : client.sessionKey = server.sessionKey
  initialized : server.sessionKey.initialized = true
  clientSent : client.sequenceNumber = 0
  serverSent : server.sequenceNumber = 0
  clientReceived : client.sequenceNumberReceived = 0
  serverReceived : server.sequenceNumberReceived = 0

theorem handshakeMacMatches_handshakeMac (password : Block 16) (additionalData : List UInt8) :
    ∃ mac, handshakeMac P password.val additionalData = .ok mac ∧
      handshakeMacMatches P password.val additionalData mac = .ok true := by
  have hmac := calculateMacCbc_blocks P password (Block.zero 16) additionalData []
  have henc := fun mac ↦ encryptCtr_blocks P password ⟨counter0Handshake, rfl⟩ mac []
  have hdec := fun mac ↦ decryptCtr_blocks P password ⟨counter0Handshake, rfl⟩ mac []
  simp only [handshakeMac, handshakeMacMatches, hmac, henc, hdec, Outcome.ok_bind]
  refine ⟨_, rfl, ?_⟩
  rw [applyKeystream_fst_cancel]
  simp

theorem handshakeMac_ok (password : Block 16) (additionalData : List UInt8) :
    ∃ mac, handshakeMac P password.val additionalData = .ok mac := by
  obtain ⟨mac, hmac, -⟩ := handshakeMacMatches_handshakeMac P password additionalData
  exact ⟨mac, hmac⟩

theorem verifyDevice_cases (s : SecureSession) (keyPair : EcdhKeyPair) (sessionId : UInt16)
    (key : Block 32) (mac : List UInt8) :
    verifyDevice P s keyPair sessionId key mac = .ok () ∨
      ∃ e, verifyDevice P s keyPair sessionId key mac = .err e := by
  unfold verifyDevice
  split
  · exact .inl rfl
  · rename_i deviceAuth _
    have hmac := calculateMacCbc_blocks P deviceAuth (Block.zero 16)
    have hdec := decryptCtr_blocks P deviceAuth ⟨counter0Handshake, rfl⟩
    simp only [bytesXor_blocks, Outcome.ok_bind, handshakeMacMatches, hmac, hdec]
    split
    · exact .inl rfl
    · exact .inr ⟨_, rfl⟩

theorem processSessionResponse_cases {s : SecureSession} {keyPair : EcdhKeyPair}
    (h : s.keyPair = some keyPair) (sessionId : UInt16) (key : Block 32) (mac : List UInt8) :
    (verifyDevice P s keyPair sessionId key mac = .ok () ∧
      ∃ answer, (s.processSessionResponse P sessionId key mac).1 = .ok answer) ∨
    verifyDevice P s keyPair sessionId key mac ≠ .ok () ∧
      ∃ e, (s.processSessionResponse P sessionId key mac).1 = .err e := by
  rcases verifyDevice_cases P s keyPair sessionId key mac with hv | ⟨e, hv⟩
  · left
    simp only [processSessionResponse, h, hv, generateAuthenticateMac, bytesXor_blocks,
      Outcome.ok_bind, true_and]
    exact handshakeMac_ok P s.userPassword _
  · right
    simp [processSessionResponse, h, hv]

section

variable (client server : SecureSession) (a b : EcdhKeyPair)

theorem verifyDevice_deviceMac (sessionId : UInt16)
    (h : client.deviceAuthCode = none ∨ client.deviceAuthCode = server.deviceAuthCode) :
    ∃ mac, deviceMac P server b (a.publicKey P) sessionId = .ok mac ∧
      verifyDevice P client a sessionId (b.publicKey P) mac = .ok () := by
  have hxor := xorBytes_comm (a.publicKey P).val (b.publicKey P).val
  unfold deviceMac verifyDevice
  cases hs : server.deviceAuthCode with
  | none =>
    have hc : client.deviceAuthCode = none := by rcases h with h | h <;> simp [h, hs]
    exact ⟨_, rfl, by rw [hc]⟩
  | some deviceAuth =>
    simp only [bytesXor_blocks, Outcome.ok_bind, ← hxor]
    obtain ⟨mac, hmac, hmatch⟩ := handshakeMacMatches_handshakeMac P deviceAuth
      (responseAdditionalData sessionId (xorBytes (a.publicKey P).val (b.publicKey P).val))
    refine ⟨mac, hmac, ?_⟩
    rcases h with hc | hc
    · rw [hc]
    · rw [hc, hs]
      simp [hmatch]

theorem checkAuthenticateMac_generateAuthenticateMac
    (hclient : client.keyPair = some a) (hserver : server.keyPair = some b)
    (hid : client.userId = server.userId) (hpw : client.userPassword = server.userPassword) :
    ∃ mac, generateAuthenticateMac P client (b.publicKey P) = .ok mac ∧
      checkAuthenticateMac P server (a.publicKey P) client.userId mac = .ok true := by
  have hxor := xorBytes_comm (a.publicKey P).val (b.publicKey P).val
  simp only [generateAuthenticateMac, checkAuthenticateMac, hclient, hserver, bytesXor_blocks,
    Outcome.ok_bind, ← hxor, hid, hpw, ne_eq, not_true_eq_false, if_false]
  exact handshakeMacMatches_handshakeMac P server.userPassword _

end

theorem sessionKeyOf_comm (a b : EcdhKeyPair)
    (h : a.exchange P (b.publicKey P) = b.exchange P (a.publicKey P)) :
    sessionKeyOf P a (b.publicKey P) = sessionKeyOf P b (a.publicKey P) := by
  simp only [sessionKeyOf, h]

theorem handshake_established {clientConfig serverConfig : SessionConfig}
    (clientSecret serverSecret : Block 32) (sessionId : UInt16)
    (hid : clientConfig.userId = serverConfig.userId)
    (hpw : clientConfig.userPassword = serverConfig.userPassword)
    (hdev : clientConfig.deviceAuthPassword = none ∨
      clientConfig.deviceAuthPassword = serverConfig.deviceAuthPassword)
    (hcomm : P.x25519 clientSecret (P.x25519Public serverSecret) =
      P.x25519 serverSecret (P.x25519Public clientSecret)) :
    ∃ client server,
      handshake P clientConfig serverConfig clientSecret serverSecret sessionId =
        .ok (client, server) ∧
      Established client server ∧ client.sessionId = sessionId := by
  have hkey := sessionKeyOf_comm P ⟨clientSecret⟩ ⟨serverSecret⟩ hcomm
  obtain ⟨deviceMac, hmac, hdevice⟩ := verifyDevice_deviceMac P
    ((new P clientConfig).initializeSession P clientSecret).2
    { ((new P serverConfig).initializeSession P serverSecret).2 with
      sessionId := sessionId
      sessionKey := sessionKeyOf P ⟨serverSecret⟩ (P.x25519Public clientSecret) }
    ⟨clientSecret⟩ ⟨serverSecret⟩ sessionId
    (by rcases hdev with h | h <;> simp [initializeSession, new, h])
  obtain ⟨userMac, hgen, hcheck⟩ := checkAuthenticateMac_generateAuthenticateMac P
    { ((new P clientConfig).initializeSession P clientSecret).2 with
      sessionId := sessionId
      sessionKey := sessionKeyOf P ⟨clientSecret⟩ (P.x25519Public serverSecret) }
    { ((new P serverConfig).initializeSession P serverSecret).2 with
      sessionId := sessionId
      sessionKey := sessionKeyOf P ⟨serverSecret⟩ (P.x25519Public clientSecret) }
    ⟨clientSecret⟩ ⟨serverSecret⟩ rfl rfl (by simp [initializeSession, new, hid])
    (by simp [initializeSession, new, hpw])
  simp only [initializeSession, EcdhKeyPair.publicKey] at hmac hdevice hgen hcheck hkey
  simp only [handshake, initializeSession, EcdhKeyPair.publicKey, processSessionRequest, hmac,
    Outcome.ok_bind, processSessionResponse, hdevice, hgen, verifyAuthenticateMac, hcheck, if_true,
    completeAuthentication]
  refine ⟨_, _, rfl, ?_, rfl⟩
  exact ⟨rfl, rfl, rfl, hkey, rfl, rfl, rfl, rfl, rfl⟩

namespace Reference

def config : SessionConfig := ⟨1, "secret", some "gateway"⟩

def clientSecret : Block 32 := ⟨List.replicate 32 0x11, rfl⟩

def serverSecret : Block 32 := ⟨List.replicate 32 0x22, rfl⟩

def session (secret : Block 32) : SecureSession :=
  { new primitives config with
    sessionId := 1
    sessionKey := ⟨⟨beEncode 16 0x87761D37D177F04E89F5BE840CF86164, rfl⟩, true⟩
    state := .authenticated
    keyPair := some ⟨secret⟩ }

def client : SecureSession := session clientSecret

def server : SecureSession := session serverSecret

example : handshake primitives config config clientSecret serverSecret 1 = .ok (client, server) := by
  decide +kernel

theorem established : Established client server := ⟨rfl, rfl, rfl, rfl, rfl, rfl, rfl, rfl, rfl⟩

end Reference

end Knust.Security
