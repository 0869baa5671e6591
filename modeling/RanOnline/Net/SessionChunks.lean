/-
Session::doRead (net/session.cpp) under arbitrary cuts of the stream it reads.

The completion handler hands every message of a read to m_onMsg, unless Feed
reports a protocol error: then the messages that Feed produced in the same read
are dropped with the link.
-/
import RanOnline.Net.Inbound

namespace RanOnline.Net

open Memory StreamCut

namespace Session

/-- The loop over the messages of a finished read. -/
def deliverLoop : Nat → Session → List Message × Session
  | 0, s => ([], s)
  | fuel + 1, s =>
      match s.deliver with
      | none => ([], s)
      | some (msg, later) =>
          let rest := deliverLoop fuel later
          (msg :: rest.1, rest.2)

/-- One completed read with the calls of m_onMsg that it makes. -/
def doRead (lzo : Lzo) (s : Session) (chunk : Bytes) : List Message × Session :=
  deliverLoop (s.read lzo chunk).delivering.length (s.read lzo chunk)

/-- What m_onMsg is called with while the reads complete one after another. -/
def onMsgs (lzo : Lzo) : Session → List Bytes → List Message
  | _, [] => []
  | s, chunk :: chunks =>
      let first := s.doRead lzo chunk
      first.1 ++ first.2.onMsgs lzo chunks

end Session

/-- A stream as the socket hands it over: in reads of at least one byte, and of
no more than the buffer of the session holds. -/
structure SocketReads (stream : Bytes) where
  chunks : List Bytes
  whole : chunks.flatten = stream
  sized : ∀ chunk ∈ chunks, 1 ≤ chunk.length ∧ chunk.length ≤ kMaxMessageSize

/-- The messages of the complete well-formed frames in front of the first
malformed one, as a session passes them on. -/
def wellFormedMessages (lzo : Lzo) (clientId : UInt32) (stream : Bytes) : List Message :=
  ((frameCutter lzo.toLzoApi).wellFormed stream).map (stamp clientId)

/-- Two cuts of a stream give the same calls of m_onMsg, and these begin with all
messages in front of the first malformed frame. -/
def DeliveredAlike (lzo : Lzo) (clientId : UInt32) (remote : Option Bytes) {stream : Bytes}
    (first second : SocketReads stream) : Prop :=
  (Session.start clientId remote).onMsgs lzo first.chunks =
      (Session.start clientId remote).onMsgs lzo second.chunks ∧
    wellFormedMessages lzo clientId stream <+:
      (Session.start clientId remote).onMsgs lzo first.chunks

/-- Some read ends behind the last message of a well-formed frame and in front of
the byte that shows the first malformed one. -/
def SocketReads.Separates (lzo : Lzo) {stream : Bytes} (reads : SocketReads stream) : Prop :=
  ∃ before after, reads.chunks = before ++ after ∧
    ((frameCutter lzo.toLzoApi).run before.flatten).stopped = none ∧
      (frameCutter lzo.toLzoApi).carried stream ≤ before.flatten.length

/-! ### The reads of a session follow the cutter -/

namespace Session

/-- Between two reads of an open link. -/
structure Ready (s : Session) : Prop where
  reading : s.reading = true
  delivered : s.delivering = []

theorem ready_start (clientId : UInt32) (remote : Option Bytes) :
    (start clientId remote).Ready :=
  { reading := rfl
    delivered := rfl }

theorem deliverLoop_eq (s : Session) :
    deliverLoop s.delivering.length s =
      (s.delivering, { s with delivering := [], reading := s.reading || !s.delivering.isEmpty }) := by
  obtain ⟨clientId, mBuf, delivering, reading, out, writer, remote, received, sent⟩ := s
  induction delivering generalizing reading with
  | nil => cases reading <;> rfl
  | cons msg rest ih =>
      have later := ih rest.isEmpty
      change (msg :: (deliverLoop rest.length _).1, (deliverLoop rest.length _).2) = _
      simp only at later
      rw [later]
      cases rest <;> cases reading <;> rfl

theorem doRead_running {lzo : Lzo} {s : Session} {chunk : Bytes} (ready : s.Ready)
    (running : ((frameCutter lzo.toLzoApi).run (s.mBuf ++ chunk)).stopped = none) :
    (s.doRead lzo chunk).1 =
        ((frameCutter lzo.toLzoApi).run (s.mBuf ++ chunk)).messages.map (stamp s.clientId) ∧
      (s.doRead lzo chunk).2.mBuf = ((frameCutter lzo.toLzoApi).run (s.mBuf ++ chunk)).rest ∧
      (s.doRead lzo chunk).2.clientId = s.clientId ∧ (s.doRead lzo chunk).2.Ready := by
  rw [doRead, deliverLoop_eq, Session.read_running ready.reading running]
  refine ⟨rfl, rfl, rfl, ?_, rfl⟩
  simp only [List.isEmpty_map, Bool.or_not_self]

theorem doRead_stopped {lzo : Lzo} {s : Session} {chunk : Bytes} (ready : s.Ready)
    {reason : FeedStop}
    (stopped : ((frameCutter lzo.toLzoApi).run (s.mBuf ++ chunk)).stopped = some reason) :
    (s.doRead lzo chunk).1 = [] ∧ (s.doRead lzo chunk).2.reading = false ∧
      (s.doRead lzo chunk).2.delivering = [] := by
  have refused := framerFeed_stopped lzo stopped
  have shut : s.read lzo chunk =
      { s with
        mBuf := (framerFeed lzo s.mBuf chunk).buf
        reading := false
        writer := s.writer.closeTest
        received := s.received ++ chunk } := by
    simp only [Session.read, if_pos ready.reading, refused, Bool.false_eq_true, if_false]
  rw [doRead, deliverLoop_eq, shut]
  simp only [ready.delivered, List.isEmpty_nil, Bool.not_true, Bool.or_self, and_self]

/-- A closed session has no read outstanding, so no completion reaches it. -/
theorem onMsgs_closed (lzo : Lzo) (chunks : List Bytes) {s : Session} (closed : s.reading = false)
    (delivered : s.delivering = []) : s.onMsgs lzo chunks = [] := by
  induction chunks with
  | nil => rfl
  | cons chunk chunks ih =>
      have still : s.read lzo chunk = s := by
        simp only [Session.read, closed, Bool.false_eq_true, if_false]
      have nothing : s.doRead lzo chunk = ([], s) := by
        rw [doRead, still, delivered]
        rfl
      rw [onMsgs, nothing]
      exact ih

theorem onMsgs_eq (lzo : Lzo) (chunks : List Bytes) {s : Session} (ready : s.Ready) :
    s.onMsgs lzo chunks =
      ((frameCutter lzo.toLzoApi).keptAll s.mBuf chunks).map (stamp s.clientId) := by
  induction chunks generalizing s with
  | nil => rfl
  | cons chunk chunks ih =>
      simp only [onMsgs, Cutter.keptAll]
      cases stop : ((frameCutter lzo.toLzoApi).run (s.mBuf ++ chunk)).stopped with
      | none =>
          obtain ⟨messages, mBuf, clientId, later⟩ := doRead_running ready stop
          rw [messages, ih later, mBuf, clientId]
          exact List.map_append.symm
      | some reason =>
          obtain ⟨messages, closed, delivered⟩ := doRead_stopped ready stop
          rw [messages, onMsgs_closed lzo chunks closed delivered]
          rfl

end Session

/-- What m_onMsg sees is the beginning of the well-formed messages, and all of
them exactly where the reads separate them from what is malformed. -/
theorem onMsgs_wellFormed (lzo : Lzo) (clientId : UInt32) (remote : Option Bytes)
    {stream : Bytes} (reads : SocketReads stream) :
    (Session.start clientId remote).onMsgs lzo reads.chunks <+:
        wellFormedMessages lzo clientId stream ∧
      ((Session.start clientId remote).onMsgs lzo reads.chunks =
          wellFormedMessages lzo clientId stream ↔ reads.Separates lzo) := by
  obtain ⟨chunks, rfl, sized⟩ := reads
  have nothing : (frameCutter lzo.toLzoApi).run [] =
      { messages := [], stopped := none, rest := [] } := Cutter.run_of_wait _ rfl
  have kept := Cutter.keptAll_wellFormed (frameCutter_stable lzo.toLzoApi)
    (frameCutter_prompt lzo.toLzoApi) chunks [] (by rw [nothing])
  rw [nothing] at kept
  rw [Session.onMsgs_eq lzo chunks (Session.ready_start clientId remote)]
  refine ⟨kept.1.map _, Iff.trans ?_ kept.2⟩
  constructor
  · -- stamping forgets the old client id, but a prefix of full length is the whole
    intro same
    have length := congrArg List.length same
    rw [wellFormedMessages, List.length_map, List.length_map] at length
    exact kept.1.eq_of_length length
  · intro same
    exact congrArg (List.map (stamp clientId)) same

/-- Two cuts of a stream give m_onMsg the same messages, with all of those in
front of the first malformed frame, exactly where each of the cuts has a read that
ends between the last of these messages and what shows the frame to be malformed. -/
theorem deliveredAlike_iff (lzo : Lzo) (clientId : UInt32) (remote : Option Bytes)
    {stream : Bytes} (first second : SocketReads stream) :
    DeliveredAlike lzo clientId remote first second ↔
      first.Separates lzo ∧ second.Separates lzo := by
  obtain ⟨firstPrefix, firstWhole⟩ := onMsgs_wellFormed lzo clientId remote first
  obtain ⟨_secondPrefix, secondWhole⟩ := onMsgs_wellFormed lzo clientId remote second
  rw [← firstWhole, ← secondWhole]
  constructor
  · intro holds
    rcases holds with ⟨alike, begins⟩
    have whole := firstPrefix.eq_of_length
      (Nat.le_antisymm firstPrefix.length_le begins.length_le)
    exact ⟨whole, alike ▸ whole⟩
  · intro holds
    rcases holds with ⟨wholeFirst, wholeSecond⟩
    constructor
    · rw [wholeFirst, wholeSecond]
    · exact ⟨[], by rw [List.append_nil, wholeFirst]⟩

/-- A frame without a payload, and behind it a header that announces no bytes. -/
def goodThenMalformed : Bytes := [8, 0, 0, 0, 1, 0, 0, 0, 0, 0, 0, 0, 0, 0, 0, 0]

def atOnce : SocketReads goodThenMalformed where
  chunks := [goodThenMalformed]
  whole := rfl
  sized := by decide

def frameByFrame : SocketReads goodThenMalformed where
  chunks := [goodThenMalformed.take 8, goodThenMalformed.drop 8]
  whole := rfl
  sized := by decide

theorem goodThenMalformed_cuts_differ :
    ¬DeliveredAlike literalLzo 0 none atOnce frameByFrame := by
  intro alike
  have same := alike.1
  revert same
  decide +kernel

end RanOnline.Net
