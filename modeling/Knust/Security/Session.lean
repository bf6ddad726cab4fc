import Knust.Security.Primitives

namespace Knust.Security

open Foundation

def counter0Handshake : List UInt8 :=
  [0x00, 0x00, 0x00, 0x00, 0x00, 0x00, 0x00, 0x00, 0x00, 0x00, 0x00, 0x00, 0x00, 0x00, 0xFF, 0x00]

def messageTagTunnelling : List UInt8 := [0x00, 0x00]

def deviceSerialNumber : List UInt8 := [0x00, 0x00, 0x00, 0x00, 0x00, 0x00]

structure SessionConfig where
  userId : UInt8
  userPassword : String
  deviceAuthPassword : Option String
  deriving DecidableEq

inductive SecureSessionState
  | uninitialized
  | handshaking
  | authenticated
  | closed
  | error
  deriving Repr, DecidableEq

structure SessionKey where
  key : Block 16
  initialized : Bool
  deriving DecidableEq

def SessionKey.default : SessionKey := ⟨Block.zero 16, false⟩

structure SecureSession where
  sessionId : UInt16
  sessionKey : SessionKey
  sequenceNumber : UInt64
  sequenceNumberReceived : UInt64
  state : SecureSessionState
  keyPair : Option EcdhKeyPair
  deviceAuthCode : Option (Block 16)
  userPassword : Block 16
  userId : UInt8
  deriving DecidableEq

def wrapperHeader (totalLength : ℕ) : List UInt8 :=
  [0x06, 0x10, 0x09, 0x50] ++ u16Bytes (UInt16.ofNat totalLength)

def wrapperBlock0 (sequenceInfo serialNumber messageTag : List UInt8) (payloadLength : ℕ) :
    List UInt8 :=
  sequenceInfo ++ serialNumber ++ messageTag ++ u16Bytes (UInt16.ofNat payloadLength)

def wrapperCounter0 (sequenceInfo serialNumber messageTag : List UInt8) : List UInt8 :=
  sequenceInfo ++ serialNumber ++ messageTag ++ [0xFF, 0x00]

def responseAdditionalData (sessionId : UInt16) (pubKeysXor : List UInt8) : List UInt8 :=
  [0x06, 0x10, 0x09, 0x52, 0x00, 0x38] ++ u16Bytes sessionId ++ pubKeysXor

def authenticateAdditionalData (userId : UInt8) (pubKeysXor : List UInt8) : List UInt8 :=
  [0x06, 0x10, 0x09, 0x53, 0x00, 0x18] ++ [0x00, userId] ++ pubKeysXor

namespace SecureSession

def notInitialized {α : Type} : Result α :=
  .err (.security (.invalidConfiguration "Session not initialized"))

def keyNotInitialized {α : Type} : Result α :=
  .err (.security (.invalidConfiguration "Session key not initialized"))

def decryptError {α : Type} (reason : String) : Result α :=
  .err (.security (.cryptographicError "decrypt" reason))

variable (P : Primitives)

def new (config : SessionConfig) : SecureSession where
  sessionId := 0
  sessionKey := .default
  sequenceNumber := 0
  sequenceNumberReceived := 0
  state := .uninitialized
  keyPair := none
  deviceAuthCode := config.deviceAuthPassword.map (deriveDeviceAuthenticationPassword P)
  userPassword := deriveUserPassword P config.userPassword
  userId := config.userId

def initializeSession (secret : Block 32) (s : SecureSession) : Block 32 × SecureSession :=
  let keyPair : EcdhKeyPair := ⟨secret⟩
  (keyPair.publicKey P,
    { s with
      keyPair := some keyPair
      state := .handshaking
      sequenceNumber := 0
      sequenceNumberReceived := 0 })

def handshakeMac (password additionalData : List UInt8) : Result (List UInt8) := do
  let macCbc ← calculateMacCbc P password additionalData [] (Block.zero 16).val
  let (_, mac) ← encryptCtr P password counter0Handshake macCbc []
  .ok mac

def handshakeMacMatches (password additionalData mac : List UInt8) : Result Bool := do
  let macCbc ← calculateMacCbc P password additionalData [] (Block.zero 16).val
  let (_, macTr) ← decryptCtr P password counter0Handshake mac []
  .ok (macCbc = macTr)

def sessionKeyOf (keyPair : EcdhKeyPair) (peerPublicKey : Block 32) : SessionKey where
  key := ⟨(P.sha256 (keyPair.exchange P peerPublicKey).val).val.take 16, by simp⟩
  initialized := true

def generateAuthenticateMac (s : SecureSession) (serverPublicKey : Block 32) :
    Result (List UInt8) :=
  match s.keyPair with
  | none => notInitialized
  | some keyPair => do
    let pubKeysXor ← bytesXor (keyPair.publicKey P).val serverPublicKey.val
    handshakeMac P s.userPassword.val (authenticateAdditionalData s.userId pubKeysXor)

/-- The device authentication of a SessionResponse, skipped without a device
password. -/
def verifyDevice (s : SecureSession) (keyPair : EcdhKeyPair) (sessionId : UInt16)
    (serverPublicKey : Block 32) (serverMac : List UInt8) : Result Unit :=
  match s.deviceAuthCode with
  | none => .ok ()
  | some deviceAuth => do
    let pubKeysXor ← bytesXor (keyPair.publicKey P).val serverPublicKey.val
    if ← handshakeMacMatches P deviceAuth.val (responseAdditionalData sessionId pubKeysXor)
      serverMac then .ok ()
    else .err (.security (.authenticationFailed "SessionResponse MAC verification failed"))

def processSessionResponse (s : SecureSession) (sessionId : UInt16) (serverPublicKey : Block 32)
    (serverMac : List UInt8) : Result (List UInt8) × SecureSession :=
  match s.keyPair with
  | none => (notInitialized, s)
  | some keyPair =>
    match verifyDevice P s keyPair sessionId serverPublicKey serverMac with
    | .err e => (.err e, s)
    | .panic => (.panic, s)
    | .ok () =>
      let s := { s with sessionId, sessionKey := sessionKeyOf P keyPair serverPublicKey }
      (generateAuthenticateMac P s serverPublicKey, s)

def deviceMac (s : SecureSession) (keyPair : EcdhKeyPair) (clientPublicKey : Block 32)
    (sessionId : UInt16) : Result (List UInt8) :=
  match s.deviceAuthCode with
  | none => .ok (Block.zero 16).val
  | some deviceAuth => do
    let pubKeysXor ← bytesXor (keyPair.publicKey P).val clientPublicKey.val
    handshakeMac P deviceAuth.val (responseAdditionalData sessionId pubKeysXor)

def processSessionRequest (s : SecureSession) (clientPublicKey : Block 32) (sessionId : UInt16) :
    Result (List UInt8) × SecureSession :=
  match s.keyPair with
  | none => (notInitialized, s)
  | some keyPair =>
    let s := { s with sessionId, sessionKey := sessionKeyOf P keyPair clientPublicKey }
    (deviceMac P s keyPair clientPublicKey sessionId, s)

def checkAuthenticateMac (s : SecureSession) (clientPublicKey : Block 32)
    (receivedUserId : UInt8) (receivedMac : List UInt8) : Result Bool :=
  if receivedUserId ≠ s.userId then .ok false
  else match s.keyPair with
    | none => notInitialized
    | some keyPair => do
      let pubKeysXor ← bytesXor (keyPair.publicKey P).val clientPublicKey.val
      handshakeMacMatches P s.userPassword.val
        (authenticateAdditionalData receivedUserId pubKeysXor) receivedMac

def verifyAuthenticateMac (s : SecureSession) (clientPublicKey : Block 32)
    (receivedUserId : UInt8) (receivedMac : List UInt8) : Result Bool × SecureSession :=
  let verified := checkAuthenticateMac P s clientPublicKey receivedUserId receivedMac
  (verified, if verified = .ok true then { s with state := .authenticated } else s)

def completeAuthentication (s : SecureSession) (statusCode : UInt8) :
    Result Unit × SecureSession :=
  if statusCode ≠ 0x00 then
    (.err (.security (.authenticationFailed
      s!"Authentication failed with status code: 0x{hex 2 statusCode.toNat}")),
      { s with state := .error })
  else (.ok (), { s with state := .authenticated })

def sequenceBytes (sequence : UInt64) : Block 6 :=
  ⟨beEncode 6 sequence.toNat, beEncode_length _ _⟩

def wrap (key : Block 16) (sessionId : UInt16) (sequenceInfo : Block 6)
    (plainFrame : List UInt8) : Result (List UInt8) := do
  let header := wrapperHeader (38 + plainFrame.length)
  let block0 :=
    wrapperBlock0 sequenceInfo.val deviceSerialNumber messageTagTunnelling plainFrame.length
  let additionalData := header ++ u16Bytes sessionId
  let macCbc ← calculateMacCbc P key.val additionalData plainFrame block0
  let counter0 := wrapperCounter0 sequenceInfo.val deviceSerialNumber messageTagTunnelling
  let (encryptedData, encryptedMac) ← encryptCtr P key.val counter0 macCbc plainFrame
  .ok (header ++ u16Bytes sessionId ++ sequenceInfo.val ++ deviceSerialNumber ++
    messageTagTunnelling ++ encryptedData ++ encryptedMac)

def encryptFrame (s : SecureSession) (plainFrame : List UInt8) :
    Result (List UInt8) × SecureSession :=
  if s.sessionKey.initialized then
    (wrap P s.sessionKey.key s.sessionId (sequenceBytes s.sequenceNumber) plainFrame,
      { s with sequenceNumber := s.sequenceNumber + 1 })
  else (keyNotInitialized, s)

def unwrap (key : Block 16) (sessionId : UInt16) (frame : List UInt8) : Result (List UInt8) := do
  let sequenceInfo ← slice frame 8 14
  let serialNumber ← slice frame 14 20
  let messageTag ← slice frame 20 22
  let encryptedData ← slice frame 22 (frame.length - 16)
  let mac ← sliceFrom frame (frame.length - 16)
  let counter0 := wrapperCounter0 sequenceInfo serialNumber messageTag
  let (decryptedData, macTr) ← decryptCtr P key.val counter0 mac encryptedData
  let header ← slice frame 0 6
  let additionalData := header ++ u16Bytes sessionId
  let block0 := wrapperBlock0 sequenceInfo serialNumber messageTag decryptedData.length
  let macCbc ← calculateMacCbc P key.val additionalData decryptedData block0
  if macCbc ≠ macTr then decryptError "MAC verification failed" else .ok decryptedData

def frameSession (frame : List UInt8) : Result UInt16 := do
  .ok (u16OfBytes (← index frame 6) (← index frame 7))

def receivedSequence (frame : List UInt8) : Result UInt64 := do
  .ok (UInt64.ofNat (beDecode (← slice frame 8 14)))

def openFrame (s : SecureSession) (frame : List UInt8) : Result (List UInt8 × UInt64) :=
  if s.sessionKey.initialized then
    if frame.length < 38 then decryptError "Frame too short for SecureWrapper"
    else do
      let frameSessionId ← frameSession frame
      if frameSessionId ≠ s.sessionId then
        decryptError s!"Session ID mismatch: expected {s.sessionId}, got {frameSessionId}"
      else do
        let receivedSeq ← receivedSequence frame
        let lastSeq := s.sequenceNumberReceived
        if receivedSeq ≤ lastSeq ∧ lastSeq ≠ 0 then
          decryptError s!"Invalid sequence number: {receivedSeq} <= {lastSeq}"
        else do
          let decryptedData ← unwrap P s.sessionKey.key s.sessionId frame
          .ok (decryptedData, receivedSeq)
  else keyNotInitialized

def decryptFrame (s : SecureSession) (frame : List UInt8) :
    Result (List UInt8) × SecureSession :=
  match openFrame P s frame with
  | .ok (decryptedData, receivedSeq) =>
    (.ok decryptedData, { s with sequenceNumberReceived := receivedSeq })
  | .err e => (.err e, s)
  | .panic => (.panic, s)

def isAuthenticated (s : SecureSession) : Bool := s.state = .authenticated

def close (s : SecureSession) : SecureSession :=
  { s with state := .closed, sessionKey := .default }

end SecureSession

end Knust.Security
