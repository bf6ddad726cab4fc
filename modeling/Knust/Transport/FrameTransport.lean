import Knust.Error
import Knust.Foundation.BigEndian

namespace Knust.Transport

open Foundation

def declaredLength (buf : List UInt8) : Result ℕ := do
  .ok (u16OfBytes (← index buf 4) (← index buf 5)).toNat

def tryExtractFrame (buf : List UInt8) : Result (Option (List UInt8)) × List UInt8 :=
  if buf.length < 6 then (.ok none, buf)
  else
    match declaredLength buf with
    | .ok totalLength =>
      if totalLength < 6 then
        (.err (.transport (.invalidConfiguration
          s!"Invalid KNX/IP frame length: {totalLength}")), buf)
      else if buf.length < totalLength then (.ok none, buf)
      else (.ok (some (buf.take totalLength)), buf.drop totalLength)
    | .err e => (.err e, buf)
    | .panic => (.panic, buf)

namespace TcpFrameTransport

inductive Read
  | chunk (bytes : List UInt8)
  | failed (e : IoError)
  deriving DecidableEq

/-- The bytes buffered so far, and what the following reads will yield. -/
structure TcpReader where
  buf : List UInt8
  half : List Read
  deriving DecidableEq

def recvFrame (buf : List UInt8) (half : List Read) : Option (Result (List UInt8) × TcpReader) :=
  match tryExtractFrame buf with
  | (.ok (some frame), buf) => some (.ok frame, ⟨buf, half⟩)
  | (.err e, buf) => some (.err e, ⟨buf, half⟩)
  | (.panic, buf) => some (.panic, ⟨buf, half⟩)
  | (.ok none, buf) =>
    match half with
    | [] => none
    | .failed e :: half => some (.err (.transport (.socketError "tcp_read" e)), ⟨buf, half⟩)
    | .chunk bytes :: half =>
      if bytes = [] then some (.err (.transport .connectionClosed), ⟨buf, half⟩)
      else recvFrame (buf ++ bytes) half

def recvFrames : ℕ → TcpReader → Option (List (List UInt8) × TcpReader)
  | 0, reader => some ([], reader)
  | n + 1, reader =>
    match recvFrame reader.buf reader.half with
    | some (.ok frame, reader) => (recvFrames n reader).map fun r ↦ (frame :: r.1, r.2)
    | _ => none

end TcpFrameTransport

structure Sized (frame : List UInt8) : Prop where
  header : 6 ≤ frame.length
  bound : frame.length ≤ 65535
  declared : declaredLength frame = .ok frame.length

variable {buf frame rest : List UInt8}

theorem declaredLength_ne_panic (h : 6 ≤ buf.length) : declaredLength buf ≠ .panic := by
  refine Outcome.bind_ne_panic (index_ne_panic (by omega)) fun hi _ ↦ ?_
  refine Outcome.bind_ne_panic (index_ne_panic (by omega)) fun lo _ ↦ ?_
  exact Outcome.ok_ne_panic _

theorem declaredLength_append (h : 6 ≤ buf.length) (rest : List UInt8) :
    declaredLength (buf ++ rest) = declaredLength buf := by
  have hindex {i : ℕ} (hi : i < 6) : (index (buf ++ rest) i : Result UInt8) = index buf i := by
    rw [index, index, List.getElem?_append_left (by omega)]
  rw [declaredLength, declaredLength, hindex (by omega), hindex (by omega)]

theorem tryExtractFrame_append (hframe : Sized frame) (rest : List UInt8) :
    tryExtractFrame (frame ++ rest) = (.ok (some frame), rest) := by
  have hheader := hframe.header
  have hdeclared : declaredLength (frame ++ rest) = .ok frame.length := by
    rw [declaredLength_append hheader, hframe.declared]
  rw [tryExtractFrame, if_neg (by rw [List.length_append]; omega), hdeclared]
  dsimp only
  rw [if_neg (by omega), if_neg (by rw [List.length_append]; omega), List.take_left, List.drop_left]

theorem tryExtractFrame_partial (hframe : Sized frame) (hbuf : buf <+: frame)
    (hlength : buf.length < frame.length) : tryExtractFrame buf = (.ok none, buf) := by
  by_cases hshort : buf.length < 6
  · rw [tryExtractFrame, if_pos hshort]
  · obtain ⟨rest, rfl⟩ := hbuf
    have hdeclared := hframe.declared
    have hheader := hframe.header
    rw [declaredLength_append (by omega)] at hdeclared
    rw [tryExtractFrame, if_neg hshort, hdeclared]
    dsimp only
    rw [if_neg (by omega), if_pos hlength]

theorem tryExtractFrame_ne_panic (buf : List UInt8) : (tryExtractFrame buf).1 ≠ .panic := by
  unfold tryExtractFrame
  split
  · simp
  · rename_i hlength
    split
    · split
      · simp
      · split <;> simp
    · simp
    · rename_i hpanic
      exact absurd hpanic (declaredLength_ne_panic (by omega))

theorem tryExtractFrame_unchanged (h : ∀ frame, (tryExtractFrame buf).1 ≠ .ok (some frame)) :
    (tryExtractFrame buf).2 = buf := by
  unfold tryExtractFrame at h ⊢
  split
  · rfl
  · rename_i hlength
    rw [if_neg hlength] at h
    split
    · rename_i totalLength hdeclared
      rw [hdeclared] at h
      dsimp only at h
      split
      · rfl
      · rename_i hsize
        rw [if_neg hsize] at h
        split
        · rfl
        · rename_i hwhole
          rw [if_neg hwhole] at h
          exact absurd rfl (h _)
    · rfl
    · rfl

namespace TcpFrameTransport

variable {chunks : List (List UInt8)}

theorem recvFrame_whole (hframe : Sized frame) (rest : List UInt8) (half : List Read) :
    recvFrame (frame ++ rest) half = some (.ok frame, ⟨rest, half⟩) := by
  rw [recvFrame.eq_def, tryExtractFrame_append hframe]

/-- Whatever part of the stream is in the buffer, the next call returns its next frame
and leaves the bytes behind it, buffered or still to come. -/
theorem recvFrame_next (hframe : Sized frame) (hchunks : ∀ c ∈ chunks, c ≠ [])
    (hstream : buf ++ chunks.flatten = frame ++ rest) :
    ∃ (buf' : List UInt8) (chunks' : List (List UInt8)),
      recvFrame buf (chunks.map .chunk) = some (.ok frame, ⟨buf', chunks'.map .chunk⟩) ∧
      (∀ c ∈ chunks', c ≠ []) ∧ buf' ++ chunks'.flatten = rest := by
  induction chunks generalizing buf with
  | nil =>
    rw [List.flatten_nil, List.append_nil] at hstream
    rw [hstream]
    exact ⟨rest, [], recvFrame_whole hframe rest _, hchunks, List.append_nil rest⟩
  | cons chunk chunks ih =>
    by_cases hlength : frame.length ≤ buf.length
    · obtain ⟨more, rfl⟩ : frame <+: buf :=
        List.prefix_of_prefix_length_le ⟨rest, hstream.symm⟩ (List.prefix_append _ _) hlength
      refine ⟨more, chunk :: chunks, recvFrame_whole hframe more _, hchunks, ?_⟩
      rw [List.append_assoc] at hstream
      exact List.append_cancel_left hstream
    -- What is missing of the frame has to come from the following reads.
    · have hbuf : buf <+: frame :=
        List.prefix_of_prefix_length_le ⟨_, hstream⟩ (List.prefix_append _ _) (by omega)
      have hread : recvFrame buf ((chunk :: chunks).map .chunk) =
          recvFrame (buf ++ chunk) (chunks.map .chunk) := by
        rw [recvFrame.eq_def, tryExtractFrame_partial hframe hbuf (by omega)]
        exact if_neg (hchunks chunk List.mem_cons_self)
      rw [hread]
      apply ih
      · exact fun c hc ↦ hchunks c (List.mem_cons_of_mem _ hc)
      · rw [← hstream, List.flatten_cons, List.append_assoc]

theorem recvFrames_stream {frames : List (List UInt8)} (hframes : ∀ f ∈ frames, Sized f)
    (hchunks : ∀ c ∈ chunks, c ≠ []) (hstream : buf ++ chunks.flatten = frames.flatten) :
    recvFrames frames.length ⟨buf, chunks.map .chunk⟩ = some (frames, ⟨[], []⟩) := by
  induction frames generalizing buf chunks with
  | nil =>
    obtain ⟨rfl, hempty⟩ := List.append_eq_nil_iff.mp hstream
    cases chunks with
    | nil => rfl
    | cons chunk chunks =>
      have hchunk : chunk = [] := List.flatten_eq_nil_iff.mp hempty chunk List.mem_cons_self
      exact absurd hchunk (hchunks chunk List.mem_cons_self)
  | cons frame frames ih =>
    rw [List.flatten_cons] at hstream
    obtain ⟨buf', chunks', hnext, hchunks', hrest⟩ :=
      recvFrame_next (hframes frame List.mem_cons_self) hchunks hstream
    have htail := ih (fun f hf ↦ hframes f (List.mem_cons_of_mem _ hf)) hchunks' hrest
    rw [List.length_cons, recvFrames, hnext]
    simp only [htail, Option.map_some]

/-- However the stream is cut into reads, its frames are received in order and nothing is
left over. A call that does not return a frame keeps the buffer as it was. -/
theorem frames_received_in_order (frames chunks : List (List UInt8))
    (hframes : ∀ f ∈ frames, Sized f) (hchunks : ∀ c ∈ chunks, c ≠ [])
    (hcut : chunks.flatten = frames.flatten) (buf : List UInt8) :
    (recvFrames frames.length ⟨[], chunks.map .chunk⟩ = some (frames, ⟨[], []⟩) ∧
      recvFrame [] [] = none) ∧
    (tryExtractFrame buf).1 ≠ .panic ∧
    ((tryExtractFrame buf).1 = .ok none → (tryExtractFrame buf).2 = buf) ∧
    ∀ e, (tryExtractFrame buf).1 = .err e → (tryExtractFrame buf).2 = buf := by
  refine ⟨⟨recvFrames_stream hframes hchunks hcut, rfl⟩, tryExtractFrame_ne_panic buf, ?_, ?_⟩
  · intro hnone
    exact tryExtractFrame_unchanged fun frame ↦ by simp [hnone]
  · intro e herr
    exact tryExtractFrame_unchanged fun frame ↦ by simp [herr]

/-- Two frames in three reads, the first of which ends within a header. -/
theorem two_frames_received :
    recvFrames 2 ⟨[], [[6, 16, 4], [33, 0, 10, 4, 1, 0, 0, 6, 16], [2, 8, 0, 8, 1, 0]].map .chunk⟩ =
      some ([[6, 16, 4, 33, 0, 10, 4, 1, 0, 0], [6, 16, 2, 8, 0, 8, 1, 0]], ⟨[], []⟩) :=
  (frames_received_in_order [[6, 16, 4, 33, 0, 10, 4, 1, 0, 0], [6, 16, 2, 8, 0, 8, 1, 0]]
    [[6, 16, 4], [33, 0, 10, 4, 1, 0, 0, 6, 16], [2, 8, 0, 8, 1, 0]]
    (by
      intro f hf
      rcases List.mem_cons.mp hf with rfl | hf
      · exact ⟨by decide, by decide, rfl⟩
      · obtain rfl := List.mem_singleton.mp hf
        exact ⟨by decide, by decide, rfl⟩)
    (by decide) rfl []).1.1

end TcpFrameTransport

end Knust.Transport
