import Knust.Protocol.Address
import Knust.Security.Reference

namespace Knust.Security

open Foundation Protocol

structure SecurityKey where
  key : List UInt8
  deriving DecidableEq

/-- The keys of the keyring that group telegrams are secured with. -/
structure KeyRing where
  groupKeys : GroupAddress → Option SecurityKey

namespace KeyRing

def new : KeyRing := ⟨fun _ ↦ none⟩

def addGroupKey (keyring : KeyRing) (address : GroupAddress) (key : SecurityKey) : KeyRing :=
  ⟨Function.update keyring.groupKeys address (some key)⟩

def getGroupKey (keyring : KeyRing) (address : GroupAddress) : Option SecurityKey :=
  keyring.groupKeys address

theorem getGroupKey_addGroupKey (keyring : KeyRing) (address : GroupAddress) (key : SecurityKey) :
    (keyring.addGroupKey address key).getGroupKey address = some key := by
  simp [getGroupKey, addGroupKey]

end KeyRing

def macLength : ℕ := 4

def seqLength : ℕ := 6

def buildCounter0 (seqBytes : Block 6) : Block 16 :=
  ⟨0x01 :: seqBytes.val ++ List.replicate 9 0, by simp⟩

def buildBlock0 (seqBytes : Block 6) (payloadLen : ℕ) : Block 16 :=
  ⟨0x49 :: seqBytes.val ++ List.replicate 7 0 ++ u16Bytes (UInt16.ofNat payloadLen), by simp⟩

def seqToBytes (sequenceNumber : UInt64) : Block 6 :=
  ⟨(beEncode 8 sequenceNumber.toNat).drop 2, by simp⟩

section

variable (P : Primitives) (keyring : KeyRing) (destination : GroupAddress)

def noGroupKey {α : Type} : Result α :=
  .err (.security (.invalidCredentials s!"No group key for {destination.toString}"))

def encryptGroupPayload (payload : List UInt8) (sequenceNumber : UInt64) : Result (List UInt8) :=
  match keyring.getGroupKey destination with
  | none => noGroupKey destination
  | some key => do
    let seqBytes := seqToBytes sequenceNumber
    let block0 := buildBlock0 seqBytes payload.length
    let counter0 := buildCounter0 seqBytes
    let macFull ← calculateMacCbc P key.key seqBytes.val payload block0.val
    let encrypted ← encryptCtr P key.key counter0.val macFull payload
    let mac ← slice encrypted.2 0 macLength
    .ok (seqBytes.val ++ encrypted.1 ++ mac)

def decryptGroupPayload (securedPayload : List UInt8) : Result (List UInt8) :=
  let minLen := seqLength + macLength
  if securedPayload.length < minLen then
    .err (.security (.cryptographicError "group decrypt"
      s!"Secured payload too short: {securedPayload.length} bytes (minimum {minLen})"))
  else match keyring.getGroupKey destination with
    | none => noGroupKey destination
    | some key => do
      let seqBytes ← toBlock 6 (← slice securedPayload 0 seqLength)
      let encryptedData ← slice securedPayload seqLength (securedPayload.length - macLength)
      let encryptedMac ← toBlock 4 (← sliceFrom securedPayload (securedPayload.length - macLength))
      let counter0 := buildCounter0 seqBytes
      let macPadded := encryptedMac.val ++ List.replicate 12 0
      let decrypted ← decryptCtr P key.key counter0.val macPadded encryptedData
      let block0 := buildBlock0 seqBytes decrypted.1.length
      let expectedMac ← calculateMacCbc P key.key seqBytes.val decrypted.1 block0.val
      if (← slice expectedMac 0 macLength) ≠ (← slice decrypted.2 0 macLength) then
        .err (.security (.cryptographicError "group decrypt" "MAC verification failed"))
      else .ok decrypted.1

end

section

variable (P : Primitives) (key : Block 16) (seqBytes : Block 6)

def groupMac (payload : List UInt8) : Block 16 :=
  cbcMac (P.aes128 key)
    (macInput seqBytes.val payload (buildBlock0 seqBytes payload.length).val)

def groupStream (mac payload : List UInt8) : List UInt8 × List UInt8 :=
  applyKeystream (ctrBlock P key (buildCounter0 seqBytes)) mac payload

def securedParts (payload : List UInt8) : List UInt8 :=
  seqBytes.val ++ (groupStream P key seqBytes (groupMac P key seqBytes payload).val payload).2 ++
    (groupStream P key seqBytes (groupMac P key seqBytes payload).val payload).1.take 4

variable {P key seqBytes} {keyring : KeyRing} {destination : GroupAddress}

theorem length_groupStream_fst (mac payload : List UInt8) :
    (groupStream P key seqBytes mac payload).1.length = mac.length :=
  applyKeystream_fst_length _ _ _

theorem length_groupStream_snd (mac payload : List UInt8) :
    (groupStream P key seqBytes mac payload).2.length = payload.length :=
  applyKeystream_snd_length _ _ _

theorem slice_macLength {l : List UInt8} (h : 4 ≤ l.length) :
    (slice l 0 macLength : Result (List UInt8)) = .ok (l.take 4) := by
  exact slice_of_le (Nat.zero_le _) h

theorem encryptGroupPayload_eq (hkey : keyring.getGroupKey destination = some ⟨key.val⟩)
    (payload : List UInt8) (sequenceNumber : UInt64) :
    encryptGroupPayload P keyring destination payload sequenceNumber =
      .ok (securedParts P key (seqToBytes sequenceNumber) payload) := by
  have hlength : 4 ≤ (groupStream P key (seqToBytes sequenceNumber)
      (groupMac P key (seqToBytes sequenceNumber) payload).val payload).1.length := by
    rw [length_groupStream_fst, Block.length]
    decide
  simp only [encryptGroupPayload, hkey, calculateMacCbc_blocks, Outcome.ok_bind, encryptCtr_blocks]
  rw [← groupMac, ← groupStream, slice_macLength hlength]
  rfl

theorem decryptGroupPayload_parts (hkey : keyring.getGroupKey destination = some ⟨key.val⟩)
    (data : List UInt8) (mac : Block 4) :
    decryptGroupPayload P keyring destination (seqBytes.val ++ data ++ mac.val) =
      let decrypted := groupStream P key seqBytes (mac.val ++ List.replicate 12 0) data
      if (groupMac P key seqBytes decrypted.2).val.take 4 ≠ decrypted.1.take 4 then
        .err (.security (.cryptographicError "group decrypt" "MAC verification failed"))
      else .ok decrypted.2 := by
  have hlength : (seqBytes.val ++ data ++ mac.val).length = 6 + data.length + 4 := by
    simp only [List.length_append, Block.length]
  have hseq : (slice (seqBytes.val ++ data ++ mac.val) 0 seqLength : Result (List UInt8)) =
      .ok seqBytes.val := by
    rw [slice_of_le (Nat.zero_le _) (by rw [hlength]; simp only [seqLength]; omega)]
    simp [seqLength]
  have hdata : (slice (seqBytes.val ++ data ++ mac.val) seqLength
      ((seqBytes.val ++ data ++ mac.val).length - macLength) : Result (List UInt8)) =
      .ok data := by
    rw [slice_of_le (by rw [hlength]; simp only [seqLength, macLength]; omega) (by omega), hlength]
    simp [seqLength, macLength]
  have hmac : (sliceFrom (seqBytes.val ++ data ++ mac.val)
      ((seqBytes.val ++ data ++ mac.val).length - macLength) : Result (List UInt8)) =
      .ok mac.val := by
    have hfront : (seqBytes.val ++ data ++ mac.val).length - macLength =
        (seqBytes.val ++ data).length := by
      rw [hlength, List.length_append, Block.length, macLength, Nat.add_sub_cancel]
    rw [sliceFrom_of_le (by omega), hfront, List.drop_left]
  have hfull : 4 ≤ (groupStream P key seqBytes (mac.val ++ List.replicate 12 0) data).1.length := by
    rw [length_groupStream_fst]
    simp
  rw [decryptGroupPayload, if_neg (by rw [hlength]; simp only [seqLength, macLength]; omega)]
  simp only [hkey, hseq, hdata, hmac, Outcome.ok_bind, toBlock_val, decryptCtr_blocks,
    calculateMacCbc_blocks]
  rw [← groupStream, ← groupMac, slice_macLength hfull, slice_macLength (by simp)]
  rfl

theorem groupStream_groupStream (mac : Block 4) (full : Block 16) (payload : List UInt8) :
    let encrypted := groupStream P key seqBytes full.val payload
    let decrypted := groupStream P key seqBytes (mac.val ++ List.replicate 12 0) encrypted.2
    decrypted.2 = payload ∧
      (full.val.take 4 = decrypted.1.take 4 ↔ mac.val = encrypted.1.take 4) := by
  intro encrypted decrypted
  have hback : groupStream P key seqBytes encrypted.1 encrypted.2 = (full.val, payload) :=
    applyKeystream_applyKeystream _ _ _
  have hfst : encrypted.1.length = 16 := (length_groupStream_fst _ _).trans full.length
  have hlength : (mac.val ++ List.replicate 12 0).length = encrypted.1.length := by
    rw [hfst, List.length_append, Block.length, List.length_replicate]
  constructor
  · have hsnd : (groupStream P key seqBytes encrypted.1 encrypted.2).2 = payload := by rw [hback]
    rw [← hsnd]
    exact applyKeystream_snd_congr _ _ _ hlength
  -- Both codes are masked with the same bytes.
  · have hfull : full.val = (groupStream P key seqBytes encrypted.1 encrypted.2).1 := by rw [hback]
    have hmac : (mac.val ++ List.replicate 12 0).take 4 = mac.val := by simp
    have hstream := le_keystream_length (ctrBlock P key (buildCounter0 seqBytes))
      (encrypted.1.length + encrypted.2.length)
    rw [hfull, groupStream, take_applyKeystream_fst]
    change _ = (applyKeystream _ _ _).1.take 4 ↔ _
    rw [take_applyKeystream_fst, hlength, hmac, xorBytes_right_inj, eq_comm]
    · rw [List.length_take, List.length_take]
      omega
    · rw [List.length_take, Block.length]
      omega

theorem length_securedParts (payload : List UInt8) :
    (securedParts P key seqBytes payload).length = payload.length + 10 := by
  simp only [securedParts, List.length_append, Block.length, List.length_take,
    length_groupStream_fst, length_groupStream_snd]
  omega

theorem decryptGroupPayload_secured (hkey : keyring.getGroupKey destination = some ⟨key.val⟩)
    (payload : List UInt8) (mac : Block 4) :
    let encrypted := groupStream P key seqBytes (groupMac P key seqBytes payload).val payload
    decryptGroupPayload P keyring destination (seqBytes.val ++ encrypted.2 ++ mac.val) =
      if mac.val = encrypted.1.take 4 then .ok payload
      else .err (.security (.cryptographicError "group decrypt" "MAC verification failed")) := by
  intro encrypted
  obtain ⟨hpayload, hcode⟩ := @groupStream_groupStream P key seqBytes mac
    (groupMac P key seqBytes payload) payload
  rw [decryptGroupPayload_parts hkey]
  simp only [hpayload, hcode, ne_eq, ite_not, encrypted]

theorem decryptGroupPayload_short {securedPayload : List UInt8} (h : securedPayload.length < 10) :
    ∃ e, decryptGroupPayload P keyring destination securedPayload = .err e :=
  ⟨_, if_pos h⟩

theorem decryptGroupPayload_no_key (hkey : keyring.getGroupKey destination = none)
    (securedPayload : List UInt8) :
    ∃ e, decryptGroupPayload P keyring destination securedPayload = .err e := by
  rw [decryptGroupPayload, hkey]
  split
  · exact ⟨_, rfl⟩
  · exact ⟨_, rfl⟩

end

/-- A secured payload gives back the payload, and no other end of it is accepted. -/
theorem group_payload_protected (P : Primitives) (keyring : KeyRing) (destination : GroupAddress)
    (key : Block 16) (hkey : keyring.getGroupKey destination = some ⟨key.val⟩)
    (payload : List UInt8) (sequenceNumber : UInt64) :
    (∃ secured,
      encryptGroupPayload P keyring destination payload sequenceNumber = .ok secured ∧
      secured.length = payload.length + 10 ∧
      decryptGroupPayload P keyring destination secured = .ok payload ∧
      ∀ changed : List UInt8, changed.length = secured.length →
        changed.take (secured.length - 4) = secured.take (secured.length - 4) →
        changed ≠ secured →
        ∃ e, decryptGroupPayload P keyring destination changed = .err e) ∧
    (∀ short : List UInt8, short.length < 10 →
      ∃ e, decryptGroupPayload P keyring destination short = .err e) ∧
    ∀ unknown, keyring.getGroupKey unknown = none → ∀ securedPayload,
      ∃ e, decryptGroupPayload P keyring unknown securedPayload = .err e := by
  refine ⟨⟨_, encryptGroupPayload_eq hkey payload sequenceNumber, length_securedParts payload,
    ?_, ?_⟩, fun _ ↦ decryptGroupPayload_short, fun _ ↦ decryptGroupPayload_no_key⟩
  · have hcode : ((groupStream P key (seqToBytes sequenceNumber)
        (groupMac P key (seqToBytes sequenceNumber) payload).val payload).1.take 4).length = 4 := by
      rw [List.length_take, length_groupStream_fst, Block.length]
      rfl
    exact (decryptGroupPayload_secured hkey payload ⟨_, hcode⟩).trans (if_pos rfl)
  · intro changed hlength htake hne
    rw [length_securedParts] at hlength htake
    have hfront : (securedParts P key (seqToBytes sequenceNumber) payload).take
        (payload.length + 10 - 4) = (seqToBytes sequenceNumber).val ++
          (groupStream P key (seqToBytes sequenceNumber)
            (groupMac P key (seqToBytes sequenceNumber) payload).val payload).2 := by
      apply List.take_left'
      rw [List.length_append, Block.length, length_groupStream_snd]
      omega
    have hback : (changed.drop (payload.length + 10 - 4)).length = 4 := by
      rw [List.length_drop, hlength]
      omega
    have hparts : changed = (seqToBytes sequenceNumber).val ++
          (groupStream P key (seqToBytes sequenceNumber)
            (groupMac P key (seqToBytes sequenceNumber) payload).val payload).2 ++
        changed.drop (payload.length + 10 - 4) := by
      rw [← hfront, ← htake, List.take_append_drop]
    refine ⟨.security (.cryptographicError "group decrypt" "MAC verification failed"), ?_⟩
    rw [hparts]
    refine (decryptGroupPayload_secured hkey payload ⟨_, hback⟩).trans (if_neg ?_)
    intro hcode
    exact hne (hparts.trans (congrArg _ hcode))

theorem group_payload_protected_switch :
    let keyring := KeyRing.new.addGroupKey .temperature ⟨List.replicate 16 0x2B⟩
    ∃ secured,
      encryptGroupPayload Reference.primitives keyring .temperature [0x81] 7 = .ok secured ∧
      secured.length = 11 ∧
      decryptGroupPayload Reference.primitives keyring .temperature secured = .ok [0x81] := by
  intro keyring
  have hkey : keyring.getGroupKey .temperature = some ⟨List.replicate 16 0x2B⟩ :=
    KeyRing.getGroupKey_addGroupKey _ _ _
  obtain ⟨⟨secured, hencrypt, hlength, hdecrypt, -⟩, -⟩ :=
    group_payload_protected Reference.primitives keyring .temperature
      ⟨List.replicate 16 0x2B, rfl⟩ hkey [0x81] 7
  exact ⟨secured, hencrypt, hlength, hdecrypt⟩

end Knust.Security
