/-
Limits of MessageFramer::Feed against a hostile peer.

Whatever the peer sends, Feed reads and subtracts inside its bounds, its loops
end, and what it keeps for the next call is less than one frame.
-/
import RanOnline.Net.FramerWire

namespace RanOnline.Net

open Memory StreamCut

/-! ### Safety of one call -/

/-- Two libraries that decompress alike whatever a complete envelope can hold, into
the buffer that Feed hands over. -/
def DecompressAlike (lzo other : LzoApi) : Prop :=
  ∀ carried : Bytes, 0 < carried.length →
    carried.length ≤ kMaxMessageSize - envelopeHeaderSize →
    other.decompressSafe carried decompBufSize = lzo.decompressSafe carried decompBufSize

theorem DecompressAlike.frameVerdict {lzo other : LzoApi} (alike : DecompressAlike lzo other)
    {frame : Bytes} (limit : frame.length ≤ kMaxMessageSize) :
    frameVerdict other frame = frameVerdict lzo frame := by
  have carried : (frame.drop envelopeHeaderSize).length ≤ kMaxMessageSize - envelopeHeaderSize := by
    rw [List.length_drop]
    omega
  have decompressed : lzoDeCompress other (frame.drop envelopeHeaderSize) decompBufSize =
      lzoDeCompress lzo (frame.drop envelopeHeaderSize) decompBufSize := by
    unfold lzoDeCompress
    by_cases empty : (frame.drop envelopeHeaderSize).length = 0
    · rw [if_pos empty, if_pos empty]
    · rw [if_neg empty, if_neg empty, alike _ (Nat.pos_of_ne_zero empty) carried]
  have payload : envelopePayload other frame = envelopePayload lzo frame := by
    unfold envelopePayload
    rw [decompressed]
  unfold RanOnline.Net.frameVerdict
  rw [payload]

theorem DecompressAlike.frameCut {lzo other : LzoApi} (alike : DecompressAlike lzo other)
    (stream : Bytes) : frameCut other stream = frameCut lzo stream := by
  unfold RanOnline.Net.frameCut
  by_cases short : stream.length < kHeaderSize
  · rw [if_pos short, if_pos short]
  · rw [if_neg short, if_neg short]
    by_cases malformed : (wordAt stream 0).toNat < kHeaderSize ∨
        kMaxMessageSize < (wordAt stream 0).toNat
    · simp only [if_pos malformed]
    · have limit : (stream.take (wordAt stream 0).toNat).length ≤ kMaxMessageSize := by
        rw [List.length_take]
        omega
      simp only [if_neg malformed, alike.frameVerdict limit]

theorem DecompressAlike.feed {lzo other : LzoApi} (alike : DecompressAlike lzo other)
    (mBuf data : Bytes) : feed other mBuf data = feed lzo mBuf data := by
  have cut : RanOnline.Net.frameCut other = RanOnline.Net.frameCut lzo :=
    funext alike.frameCut
  have same : frameCutter other = frameCutter lzo := by
    unfold frameCutter
    simp only [cut]
  rw [feed_eq, feed_eq, same]

/-- The loop over inner frames reads nothing at or behind its end position. -/
theorem innerLoop_within (block : Block) {fuel pos endPos : Nat} (out : List Message)
    (ordered : pos ≤ endPos) (inside : endPos ≤ block.size) (enough : endPos - pos < fuel) :
    ∃ result, innerLoop block fuel pos endPos out = .ok result ∧
      innerLoop (block.upTo endPos) fuel pos endPos out = .ok result := by
  have shown := block.shows_range (show pos + (endPos - pos) ≤ block.size by omega)
  have length : ((List.range (endPos - pos)).map fun index =>
      block.byteAt (pos + index)).length = endPos - pos := by
    rw [List.length_map, List.length_range]
  generalize (List.range (endPos - pos)).map (fun index => block.byteAt (pos + index)) =
    payload at shown length
  have position : endPos = pos + payload.length := by omega
  subst position
  have loop := innerLoop_eq block fuel pos payload out shown (by omega)
  have cutOff := innerLoop_eq (block.upTo (pos + payload.length)) fuel pos payload out
    (shown.upTo (Nat.le_refl _)) (by omega)
  exact ⟨_, loop, cutOff⟩

theorem feedChunks_total {lzo : LzoApi} (bounded : lzo.DecompressBounded) (chunks : List Bytes)
    (mBuf : Bytes) : ∃ result, feedChunks lzo mBuf chunks = .ok result := by
  induction chunks generalizing mBuf with
  | nil => exact ⟨_, rfl⟩
  | cons chunk chunks ih =>
      obtain ⟨first, fed⟩ := feed_total bounded mBuf chunk
      obtain ⟨later, others⟩ := ih first.buf
      simp only [feedChunks, fed, others, ok_bind]
      split
      · exact ⟨_, rfl⟩
      · exact ⟨_, rfl⟩

/-- Over a library that reports no more than the capacity it was given, no call of
Feed commits a fault, whatever the buffer and the data; the loops over inner frames
stay in front of their end position; and the library is only asked about the
nonempty rest of a complete envelope. -/
theorem feed_safe (lzo : LzoApi) (bounded : lzo.DecompressBounded) :
    (∀ mBuf data : Bytes, ∃ result, feed lzo mBuf data = .ok result) ∧
    (∀ chunks : List Bytes, ∃ result, feedChunks lzo [] chunks = .ok result) ∧
    (∀ (block : Block) (fuel pos endPos : Nat) (out : List Message),
      pos ≤ endPos → endPos ≤ block.size → endPos - pos < fuel →
      ∃ result, innerLoop block fuel pos endPos out = .ok result ∧
        innerLoop (block.upTo endPos) fuel pos endPos out = .ok result) ∧
    (∀ other : LzoApi, DecompressAlike lzo other →
      ∀ mBuf data : Bytes, feed other mBuf data = feed lzo mBuf data) := by
  refine ⟨feed_total bounded, ?_, ?_, ?_⟩
  · intro chunks
    exact feedChunks_total bounded chunks []
  · intro block fuel pos endPos out ordered inside enough
    exact innerLoop_within block out ordered inside enough
  · intro other alike mBuf data
    exact alike.feed mBuf data

/-- A compressed envelope that carries nothing, in two pieces. -/
theorem feed_safe_hostile :
    ∃ result, feed literalLzo.toLzoApi [12, 0, 0, 0] [170, 0, 0, 0, 1, 0, 0, 0] = .ok result :=
  (feed_safe literalLzo.toLzoApi literalLzo.decompressBounded).1 _ _

/-! ### What is kept between calls -/

/-- Less than a header, or less than the frame that its header announces. -/
def Incomplete (mBuf : Bytes) : Prop :=
  mBuf.length < kHeaderSize ∨
    (kHeaderSize ≤ (wordAt mBuf 0).toNat ∧ (wordAt mBuf 0).toNat ≤ kMaxMessageSize ∧
      mBuf.length < (wordAt mBuf 0).toNat)

theorem frameCut_wait {lzo : LzoApi} {stream : Bytes} (waiting : frameCut lzo stream = .wait) :
    Incomplete stream := by
  unfold frameCut at waiting
  by_cases short : stream.length < kHeaderSize
  · exact Or.inl short
  · simp only [if_neg short] at waiting
    by_cases malformed : (wordAt stream 0).toNat < kHeaderSize ∨
        kMaxMessageSize < (wordAt stream 0).toNat
    · rw [if_pos malformed] at waiting
      cases waiting
    · rw [if_neg malformed] at waiting
      by_cases incomplete : stream.length < (wordAt stream 0).toNat
      · exact Or.inr ⟨by omega, by omega, incomplete⟩
      · rw [if_neg incomplete] at waiting
        exact absurd waiting (frameVerdict_ne_wait lzo _)

theorem Incomplete.length_lt {mBuf : Bytes} (incomplete : Incomplete mBuf) :
    mBuf.length < kMaxMessageSize := by
  rcases incomplete with short | ⟨_header, limit, missing⟩
  · exact Nat.lt_trans short (by decide)
  · exact Nat.lt_of_lt_of_le missing limit

/-- With a whole header it is a proper prefix of a frame. -/
theorem Incomplete.completes {mBuf : Bytes} (incomplete : Incomplete mBuf)
    (header : kHeaderSize ≤ mBuf.length) :
    ∃ missing, missing ≠ [] ∧ WireFrame (mBuf ++ missing) := by
  rcases incomplete with short | ⟨announced, limit, missing⟩
  · exact absurd header (Nat.not_le.mpr short)
  · refine ⟨List.replicate ((wordAt mBuf 0).toNat - mBuf.length) 0, ?_, ?_⟩
    · intro nothing
      have none := congrArg List.length nothing
      rw [List.length_replicate, List.length_nil] at none
      omega
    · have length : (mBuf ++ List.replicate ((wordAt mBuf 0).toNat - mBuf.length) 0).length =
          (wordAt mBuf 0).toNat := by
        rw [List.length_append, List.length_replicate]
        omega
      have enough : 0 + 4 ≤ mBuf.length := by
        unfold kHeaderSize at header
        omega
      constructor
      · constructor
        · rw [length]
          exact announced
        · rw [wordAt_append_left enough, length]
      · rw [length]
        exact limit

theorem feedChunks_accepted {lzo : LzoApi} {chunks : List Bytes} {result : FeedResult}
    (fed : feedChunks lzo [] chunks = .ok result) (accepted : result.ok = true) :
    ((frameCutter lzo).run chunks.flatten).stopped = none ∧
      result.out = ((frameCutter lzo).run chunks.flatten).messages ∧
      result.buf = ((frameCutter lzo).run chunks.flatten).rest := by
  have observed := feedChunks_eq_feed lzo [] chunks (fun _none => rfl)
  rw [fed] at observed
  cases whole : feed lzo [] chunks.flatten with
  | error fault =>
      rw [whole] at observed
      cases observed
  | ok other =>
      rw [whole] at observed
      have same := Except.ok.inj observed
      simp only [FeedResult.observed, Prod.mk.injEq] at same
      obtain ⟨ok, out, buf⟩ := same
      rw [← ok, accepted] at buf
      obtain ⟨running, messages, rest⟩ := feed_accepted whole (ok.symm.trans accepted)
      rw [List.nil_append] at running messages rest
      exact ⟨running, out.trans messages, (Option.some.inj buf).trans rest⟩

/-- After any number of calls that all returned true the framer holds less than one
frame, however much it was fed. -/
theorem buffered_bounded (lzo : LzoApi) (chunks : List Bytes) (result : FeedResult)
    (fed : feedChunks lzo [] chunks = .ok result) (accepted : result.ok = true) :
    Incomplete result.buf ∧
      (kHeaderSize ≤ result.buf.length →
        ∃ missing, missing ≠ [] ∧ WireFrame (result.buf ++ missing)) ∧
      result.buf.length < kMaxMessageSize := by
  obtain ⟨running, _out, rest⟩ := feedChunks_accepted fed accepted
  have incomplete : Incomplete result.buf := by
    rw [rest]
    exact frameCut_wait ((frameCutter lzo).run_rest_waits chunks.flatten running)
  exact ⟨incomplete, incomplete.completes, incomplete.length_lt⟩

theorem buffered_bounded_split :
    Incomplete [9, 0, 0, 0, 7, 0, 0, 0] ∧
      (kHeaderSize ≤ [9, 0, 0, 0, 7, 0, 0, 0].length →
        ∃ missing : Bytes, missing ≠ [] ∧ WireFrame ([9, 0, 0, 0, 7, 0, 0, 0] ++ missing)) ∧
      [9, 0, 0, 0, 7, 0, 0, 0].length < kMaxMessageSize :=
  buffered_bounded literalLzo.toLzoApi [[8, 0, 0], [0, 7, 0, 0, 0, 9, 0, 0, 0, 7, 0], [0, 0]]
    { ok := true
      out := [Message.ofFrame (encodeMessage 7 [])]
      buf := [9, 0, 0, 0, 7, 0, 0, 0] } rfl rfl

end RanOnline.Net
