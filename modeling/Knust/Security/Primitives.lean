import Knust.Error
import Knust.Foundation.Keystream

namespace Knust.Security

open Foundation

/-- The functions provided by the cryptographic crates. Nothing is assumed about
them beyond their types. -/
structure Primitives where
  aes128 : Block 16 → Block 16 → Block 16
  sha256 : List UInt8 → Block 32
  pbkdf2HmacSha256 : List UInt8 → List UInt8 → ℕ → Block 16
  x25519Public : Block 32 → Block 32
  x25519 : Block 32 → Block 32 → Block 32

def asBytes (s : String) : List UInt8 := s.toUTF8.data.toList

def deviceAuthSalt : List UInt8 := asBytes "device-authentication-code.1.secure.ip.knx.org"

def userPasswordSalt : List UInt8 := asBytes "user-password.1.secure.ip.knx.org"

def pbkdf2Iterations : ℕ := 65536

def keyLength : ℕ := 16

def bytePad (data : List UInt8) (blockSize : ℕ) : List UInt8 :=
  let remainder := data.length % blockSize
  if remainder = 0 then data else data ++ List.replicate (blockSize - remainder) 0

def bytesXor (a b : List UInt8) : Result (List UInt8) :=
  if a.length ≠ b.length then
    .err (.security (.cryptographicError "XOR" s!"Length mismatch: {a.length} vs {b.length}"))
  else .ok (xorBytes a b)

theorem bytesXor_blocks {n : ℕ} (a b : Block n) :
    bytesXor a.val b.val = .ok (xorBytes a.val b.val) := by
  simp [bytesXor]

variable (P : Primitives)

/-- The checks on the key and on a 16-byte argument, made in this order by all
three block operations. -/
def withKeyAndBlock {α : Type} (operation blockName : String) (key block : List UInt8)
    (run : Block 16 → Block 16 → α) : Result α :=
  if hk : key.length = 16 then
    if hb : block.length = 16 then .ok (run ⟨key, hk⟩ ⟨block, hb⟩)
    else .err (.security (.cryptographicError operation
      s!"{blockName} must be 16 bytes, got {block.length}"))
  else .err (.security (.invalidCredentials s!"Key must be {keyLength} bytes, got {key.length}"))

theorem withKeyAndBlock_blocks {α : Type} (operation blockName : String) (key block : Block 16)
    (run : Block 16 → Block 16 → α) :
    withKeyAndBlock operation blockName key.val block.val run = .ok (run key block) := by
  simp [withKeyAndBlock]

def macInput (additionalData payload block0 : List UInt8) : List UInt8 :=
  bytePad (block0 ++ u16Bytes (UInt16.ofNat additionalData.length) ++ additionalData ++ payload) 16

def calculateMacCbc (key additionalData payload block0 : List UInt8) : Result (List UInt8) :=
  withKeyAndBlock "MAC calculation" "Block 0" key block0 fun key block0 ↦
    (cbcMac (P.aes128 key) (macInput additionalData payload block0.val)).val

def ctrBlock (key counter0 : Block 16) (i : ℕ) : Block 16 :=
  P.aes128 key (counterBlock counter0 i)

/-- The code is processed first, the payload continues the stream. The pair is
returned payload first. -/
def applyCtr (operation : String) (key counter0 mac payload : List UInt8) :
    Result (List UInt8 × List UInt8) :=
  withKeyAndBlock operation "Counter" key counter0 fun key counter0 ↦
    (applyKeystream (ctrBlock P key counter0) mac payload).swap

def decryptCtr : (key counter0 mac payload : List UInt8) → Result (List UInt8 × List UInt8) :=
  applyCtr P "CTR decryption"

def encryptCtr : (key counter0 macCbc payload : List UInt8) → Result (List UInt8 × List UInt8) :=
  applyCtr P "CTR encryption"

theorem calculateMacCbc_blocks (key block0 : Block 16) (additionalData payload : List UInt8) :
    calculateMacCbc P key.val additionalData payload block0.val =
      .ok (cbcMac (P.aes128 key) (macInput additionalData payload block0.val)).val :=
  withKeyAndBlock_blocks ..

theorem encryptCtr_blocks (key counter0 : Block 16) (mac payload : List UInt8) :
    encryptCtr P key.val counter0.val mac payload =
      .ok ((applyKeystream (ctrBlock P key counter0) mac payload).2,
        (applyKeystream (ctrBlock P key counter0) mac payload).1) := by
  rw [encryptCtr, applyCtr, withKeyAndBlock_blocks]
  rfl

theorem decryptCtr_blocks (key counter0 : Block 16) (mac payload : List UInt8) :
    decryptCtr P key.val counter0.val mac payload =
      .ok ((applyKeystream (ctrBlock P key counter0) mac payload).2,
        (applyKeystream (ctrBlock P key counter0) mac payload).1) := by
  rw [decryptCtr, applyCtr, withKeyAndBlock_blocks]
  rfl

def deriveDeviceAuthenticationPassword (password : String) : Block 16 :=
  P.pbkdf2HmacSha256 (asBytes password) deviceAuthSalt pbkdf2Iterations

def deriveUserPassword (password : String) : Block 16 :=
  P.pbkdf2HmacSha256 (asBytes password) userPasswordSalt pbkdf2Iterations

/-- A key pair is its secret: the public part is always computed from it. -/
structure EcdhKeyPair where
  privateKey : Block 32
  deriving DecidableEq

def EcdhKeyPair.publicKey (k : EcdhKeyPair) : Block 32 := P.x25519Public k.privateKey

def EcdhKeyPair.exchange (k : EcdhKeyPair) (peerPublicKey : Block 32) : Block 32 :=
  P.x25519 k.privateKey peerPublicKey

end Knust.Security
