import Knust.Security.Group
import Knust.Security.Session

namespace Knust.Security

open Foundation SecureSession

theorem flatten_chunks {n : ℕ} (hn : 0 < n) (l : List UInt8) : (chunks n l).flatten = l := by
  have hfirst (k : ℕ) :
      ((List.range k).map fun i ↦ (l.drop (n * i)).take n).flatten = l.take (n * k) := by
    induction k with
    | zero => simp
    | succ k ih =>
      rw [List.range_succ, List.map_append, List.flatten_append, ih, Nat.mul_succ, List.take_add]
      simp
  have hlength : l.length ≤ n * ((l.length + n - 1) / n) := by
    have hdiv := Nat.div_add_mod (l.length + n - 1) n
    have hmod := Nat.mod_lt (l.length + n - 1) hn
    omega
  rw [chunks, hfirst, List.take_of_length_le hlength]

variable {additionalData additionalData' payload payload' block0 block0' : List UInt8}

theorem macInput_eq_append (additionalData payload block0 : List UInt8) :
    ∃ padding, macInput additionalData payload block0 =
      block0 ++ (u16Bytes (UInt16.ofNat additionalData.length) ++
        (additionalData ++ (payload ++ padding))) := by
  unfold macInput bytePad
  simp only [List.append_assoc]
  split
  · exact ⟨[], by simp⟩
  · exact ⟨_, rfl⟩

theorem u16Bytes_ofNat_inj {m n : ℕ} (hm : m < 65536) (hn : n < 65536)
    (h : u16Bytes (UInt16.ofNat m) = u16Bytes (UInt16.ofNat n)) : m = n := by
  have hmod := beEncode_inj h
  rw [UInt16.toNat_ofNat_of_lt' hm, UInt16.toNat_ofNat_of_lt' hn] at hmod
  omega

/-- The first block and the additional data can be told from the input, and so can the payload if
the first block tells its length. -/
theorem macInput_inj
    (h : macInput additionalData payload block0 = macInput additionalData' payload' block0')
    (hblock : block0.length = block0'.length) (hdata : additionalData.length < 65536)
    (hdata' : additionalData'.length < 65536)
    (hpayload : block0 = block0' → payload.length = payload'.length) :
    block0 = block0' ∧ additionalData = additionalData' ∧ payload = payload' := by
  obtain ⟨padding, hinput⟩ := macInput_eq_append additionalData payload block0
  obtain ⟨padding', hinput'⟩ := macInput_eq_append additionalData' payload' block0'
  rw [hinput, hinput'] at h
  obtain ⟨hfirst, h⟩ := List.append_inj h hblock
  obtain ⟨hcount, h⟩ := List.append_inj h (by simp)
  obtain ⟨hadditional, h⟩ := List.append_inj h (u16Bytes_ofNat_inj hdata hdata' hcount)
  exact ⟨hfirst, hadditional, (List.append_inj h (hpayload hfirst)).1⟩

theorem seqToBytes_eq (sequence : UInt64) : seqToBytes sequence = sequenceBytes sequence := rfl

def sessionBlocks (sequence : UInt64) (additionalData payload : List UInt8) : List (List UInt8) :=
  chunks 16 (macInput additionalData payload (wrapperBlock0 (sequenceBytes sequence).val
    deviceSerialNumber messageTagTunnelling payload.length))

def groupBlocks (sequence : UInt64) (additionalData payload : List UInt8) : List (List UInt8) :=
  chunks 16 (macInput additionalData payload
    (buildBlock0 (seqToBytes sequence) payload.length).val)

theorem macInput_tells (front middle : List UInt8) {sequence sequence' : UInt64}
    (h : chunks 16 (macInput additionalData payload (front ++ ((sequenceBytes sequence).val ++
        (middle ++ u16Bytes (UInt16.ofNat payload.length))))) =
      chunks 16 (macInput additionalData' payload' (front ++ ((sequenceBytes sequence').val ++
        (middle ++ u16Bytes (UInt16.ofNat payload'.length))))))
    (hdata : additionalData.length < 65536) (hdata' : additionalData'.length < 65536)
    (hpayload : payload.length < 65536) (hpayload' : payload'.length < 65536) :
    sequence.toNat % 2 ^ 48 = sequence'.toNat % 2 ^ 48 ∧ additionalData = additionalData' ∧
      payload = payload' := by
  have hinput := congrArg List.flatten h
  rw [flatten_chunks (by decide), flatten_chunks (by decide)] at hinput
  have hsplit {n n' : ℕ} (hblock : front ++ ((sequenceBytes sequence).val ++
        (middle ++ u16Bytes (UInt16.ofNat n))) = front ++ ((sequenceBytes sequence').val ++
        (middle ++ u16Bytes (UInt16.ofNat n')))) :
      (sequenceBytes sequence).val = (sequenceBytes sequence').val ∧
        u16Bytes (UInt16.ofNat n) = u16Bytes (UInt16.ofNat n') := by
    obtain ⟨hsequence, hblock⟩ := List.append_inj (List.append_cancel_left hblock) (by simp)
    exact ⟨hsequence, List.append_cancel_left hblock⟩
  obtain ⟨hblock, hadditional, hsame⟩ := macInput_inj hinput (by simp) hdata hdata'
    fun hblock ↦ u16Bytes_ofNat_inj hpayload hpayload' (hsplit hblock).2
  exact ⟨beEncode_inj (hsplit hblock).1, hadditional, hsame⟩

/-- What is authenticated tells the sequence number, the additional data and the payload. -/
theorem mac_input_unambiguous (sequence sequence' : UInt64)
    (additionalData additionalData' payload payload' : List UInt8)
    (hdata : additionalData.length < 65536) (hdata' : additionalData'.length < 65536)
    (hpayload : payload.length < 65536) (hpayload' : payload'.length < 65536) :
    (sessionBlocks sequence additionalData payload =
        sessionBlocks sequence' additionalData' payload' →
      sequence.toNat % 2 ^ 48 = sequence'.toNat % 2 ^ 48 ∧ additionalData = additionalData' ∧
        payload = payload') ∧
    (groupBlocks sequence additionalData payload = groupBlocks sequence' additionalData' payload' →
      sequence.toNat % 2 ^ 48 = sequence'.toNat % 2 ^ 48 ∧ additionalData = additionalData' ∧
        payload = payload') := by
  refine ⟨fun h ↦ ?_, fun h ↦ ?_⟩
  · refine macInput_tells [] (deviceSerialNumber ++ messageTagTunnelling) ?_
      hdata hdata' hpayload hpayload'
    simpa only [sessionBlocks, wrapperBlock0, List.append_assoc, List.nil_append] using h
  · refine macInput_tells [0x49] (List.replicate 7 0) ?_ hdata hdata' hpayload hpayload'
    simpa only [groupBlocks, buildBlock0, seqToBytes_eq, List.append_assoc, List.cons_append,
      List.nil_append] using h

/-- A zero byte at the end of the payload is not lost in the padding. -/
theorem mac_input_trailing_zero :
    sessionBlocks 5 [] [1] ≠ sessionBlocks 5 [] [1, 0] ∧
      groupBlocks 5 [] [1] ≠ groupBlocks 5 [] [1, 0] := by
  have h := mac_input_unambiguous 5 5 [] [] [1] [1, 0] (by decide) (by decide) (by decide)
    (by decide)
  refine ⟨fun heq ↦ ?_, fun heq ↦ ?_⟩
  · have hpayload := (h.1 heq).2.2
    simp at hpayload
  · have hpayload := (h.2 heq).2.2
    simp at hpayload

end Knust.Security
