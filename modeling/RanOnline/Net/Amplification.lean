/-
How much work a byte of input can make.

An envelope of at least thirteen bytes is unpacked into a buffer of 32768, so that what
a client makes the server queue is bounded by what it has sent, at every moment of
every run and whatever the library makes of its envelopes.
-/
import RanOnline.Net.Pipeline

namespace RanOnline.Net

open Memory StepRun StreamCut Threads

variable {α ω : Type}

/-! ### One frame -/

def size (messages : List Message) : Nat := (messages.map fun msg => msg.bytes.length).sum

theorem size_append (first second : List Message) :
    size (first ++ second) = size first + size second := by
  rw [size, List.map_append, List.sum_append]
  rfl

theorem size_stamp (clientId : UInt32) (messages : List Message) :
    size (messages.map (stamp clientId)) = size messages := by
  rw [size, List.map_map]
  rfl

/-- The frames in an envelope are no longer than its contents. -/
theorem innerRun_size {payload : Bytes} (running : (innerCutter.run payload).stopped = none) :
    size (innerCutter.run payload).messages ≤ payload.length := by
  have each {input : Bytes} {count : Nat} {messages : List Message}
      (taken : innerCutter.cut input = .take count messages) :
      1 * size messages ≤ 1 * count := by
    obtain ⟨_size, _header, _complete, rfl⟩ := innerCut_take_iff.mp taken
    change 1 * ((input.take count).length + 0) ≤ _
    have shorter := List.length_take_le count input
    omega
  have bound := Cutter.run_weight each payload running
  change 1 * size _ + _ ≤ _ at bound
  omega

theorem envelopePayload_length {lzo : LzoApi} {frame payload : Bytes}
    (unpacked : envelopePayload lzo frame = .ok payload) :
    13 * payload.length ≤ decompBufSize * frame.length := by
  unfold envelopePayload at unpacked
  split at unpacked
  · cases unpacked
  · rename_i room
    have header : 12 ≤ frame.length := Nat.not_lt.mp room
    unfold decompBufSize at unpacked ⊢
    split at unpacked
    · simp only at unpacked
      split at unpacked
      · cases unpacked
      · rename_i fits
        split at unpacked
        · rename_i success
          cases unpacked
          have contents : frame.length ≠ 12 := by
            intro short
            have empty : (frame.drop envelopeHeaderSize).length = 0 := by
              rw [List.length_drop, short]
              rfl
            rw [lzoDeCompress, if_pos empty] at success
            cases success
          omega
        · cases unpacked
    · cases unpacked
      rw [List.length_drop]
      omega

/-- What a frame is replaced by when it is taken. -/
theorem frameCut_size {lzo : LzoApi} {stream : Bytes} {count : Nat} {messages : List Message}
    (taken : frameCut lzo stream = .take count messages) :
    13 * size messages ≤ decompBufSize * count := by
  obtain ⟨_size, header, _limit, complete, verdict⟩ := frameCut_take_iff.mp taken
  have length : (stream.take count).length = count := by
    rw [List.length_take, Nat.min_eq_left complete]
  unfold frameVerdict at verdict
  split at verdict
  · cases unpacked : envelopePayload lzo (stream.take count) with
    | error reason =>
        rw [unpacked] at verdict
        cases verdict
    | ok payload =>
        simp only [unpacked] at verdict
        cases running : (innerCutter.run payload).stopped with
        | some reason =>
            rw [running] at verdict
            cases verdict
        | none =>
            rw [running] at verdict
            rw [← (Verdict.take.inj verdict).2]
            have inner := innerRun_size running
            have contents := envelopePayload_length unpacked
            rw [length] at contents
            omega
  · rw [← (Verdict.take.inj verdict).2]
    change 13 * ((stream.take count).length + 0) ≤ _
    rw [length]
    unfold decompBufSize
    omega

/-- What Feed hands on, and what it keeps for later. -/
theorem frameRun_size (lzo : LzoApi) {stream : Bytes}
    (running : ((frameCutter lzo).run stream).stopped = none) :
    13 * size ((frameCutter lzo).run stream).messages +
        decompBufSize * ((frameCutter lzo).run stream).rest.length ≤ decompBufSize * stream.length :=
  Cutter.run_weight (fun taken => frameCut_size taken) stream running

/-! ### One session -/

/-- What a session has handed to the queue and still has in hand is paid for by what it has
received, without the bytes that its framer keeps for later. -/
def Session.Backed (delivered : Nat) (s : Session) : Prop :=
  13 * (delivered + size s.delivering) + decompBufSize * s.mBuf.length ≤
    decompBufSize * s.received.length

namespace Session

theorem backed_start (clientId : UInt32) (remote : Option Bytes) :
    (start clientId remote).Backed 0 := Nat.le_refl _

theorem Backed.silent {delivered : Nat} {before after : Session} (backed : before.Backed delivered)
    (silent : before.Silent after) : after.Backed delivered := by
  rw [Backed, silent.delivering, silent.mBuf, silent.received]
  exact backed

theorem framerFeed_refused (lzo : Lzo) {mBuf data : Bytes} {reason : FeedStop}
    (stopped : ((frameCutter lzo.toLzoApi).run (mBuf ++ data)).stopped = some reason) :
    (framerFeed lzo mBuf data).buf = mBuf ++ data := by
  have fed := framerFeed_eq lzo mBuf data
  rw [feed_eq, feedOutcome, stopped] at fed
  cases reason with
  | protocolError => rw [← Except.ok.inj fed]
  | fault fault => cases fed

theorem Backed.read {delivered : Nat} {s : Session} (backed : s.Backed delivered)
    (waits : s.reading = true → s.delivering = []) (lzo : Lzo) (chunk : Bytes) :
    (s.read lzo chunk).Backed delivered := by
  by_cases reading : s.reading = true
  · unfold Backed decompBufSize at backed ⊢
    rw [waits reading] at backed
    cases running : ((frameCutter lzo.toLzoApi).run (s.mBuf ++ chunk)).stopped with
    | none =>
        have taken := frameRun_size lzo.toLzoApi running
        unfold decompBufSize at taken
        rw [List.length_append] at taken
        rw [read_running reading running]
        change 13 * (delivered + size (_ : List Message)) +
            32768 * ((frameCutter lzo.toLzoApi).run (s.mBuf ++ chunk)).rest.length ≤
          32768 * (s.received ++ chunk).length
        rw [size_stamp, List.length_append]
        change 13 * (delivered + 0) + _ ≤ _ at backed
        omega
    | some reason =>
        have refused := framerFeed_stopped lzo running
        have kept := framerFeed_refused lzo running
        have shut : s.read lzo chunk =
            { s with
              mBuf := s.mBuf ++ chunk
              reading := false
              writer := s.writer.closeTest
              received := s.received ++ chunk } := by
          simp only [Session.read, reading, if_true, refused, kept, Bool.false_eq_true, if_false]
        rw [shut]
        change 13 * (delivered + size s.delivering) + 32768 * (s.mBuf ++ chunk).length ≤
          32768 * (s.received ++ chunk).length
        rw [waits reading, List.length_append, List.length_append]
        omega
  · have still : s.read lzo chunk = s := by
      simp only [Session.read, if_neg reading]
    rw [still]
    exact backed

theorem Backed.deliver {delivered : Nat} {s later : Session} {msg : Message}
    (backed : s.Backed delivered) (passed : s.deliver = some (msg, later)) :
    later.Backed (delivered + msg.bytes.length) := by
  unfold Session.deliver at passed
  split at passed
  · cases passed
  · rename_i queue
    cases passed
    unfold Backed at backed ⊢
    rw [queue] at backed
    change 13 * (delivered + (msg.bytes.length + size _)) + _ ≤ _ at backed
    rw [Nat.add_assoc delivered]
    exact backed

end Session

/-! ### Every run -/

/-- What the session of one connection has put into the queue. -/
def ofConn (c : Nat) (inserted : List (Nat × Message)) : List Message :=
  (inserted.filter fun entry => entry.1 = c).map Prod.snd

theorem ofConn_append (c : Nat) (first second : List (Nat × Message)) :
    ofConn c (first ++ second) = ofConn c first ++ ofConn c second := by
  rw [ofConn, List.filter_append, List.map_append]
  rfl

def Paid (s : Shared α ω) (inserted : List (Nat × Message)) : Prop :=
  ∀ c, (s.conns c).Backed (size (ofConn c inserted))

theorem Paid.setConn {s : Shared α ω} {inserted : List (Nat × Message)} (paid : Paid s inserted)
    {c : Nat} {session : Session} (backed : session.Backed (size (ofConn c inserted))) :
    Paid (s.setConn c session) inserted := by
  intro other
  by_cases here : other = c
  · subst here
    rw [Shared.setConn_same]
    exact backed
  · rw [s.setConn_other here]
    exact paid other

theorem Paid.silent {s later : Shared α ω} {inserted : List (Nat × Message)}
    (paid : Paid s inserted) (silent : ∀ c, (s.conns c).Silent (later.conns c)) :
    Paid later inserted :=
  fun c => (paid c).silent (silent c)

variable {lzo : Lzo}

theorem Paid.io {sys : System α ω} {inserted : List (Nat × Message)}
    (paid : Paid sys.shared inserted) (flow : Flow lzo sys inserted) (onClose : UInt32 → α → α)
    (event : IoEvent) :
    Paid (sys.shared.io lzo onClose event) (inserted ++ sys.inserts (.io event)) := by
  have plain {later : Shared α ω} (kept : Paid later inserted) : Paid later (inserted ++ []) := by
    rw [List.append_nil]
    exact kept
  cases event with
  | accept remote =>
      apply plain
      have none : ofConn sys.shared.accepted inserted = [] := by
        rw [ofConn, List.map_eq_nil_iff, List.filter_eq_nil_iff]
        intro entry member
        have known := (flow.stamped entry member).2
        simp only [decide_eq_true_eq]
        omega
      have fresh : Paid (sys.shared.setConn sys.shared.accepted
          (.start (sys.shared.nextClientId + 1) remote)) inserted := by
        apply paid.setConn
        rw [none]
        exact Session.backed_start _ _
      exact fresh
  | read c chunk => exact plain (paid.setConn ((paid c).read (flow.inbound.waits c) lzo chunk))
  | readError c =>
      apply plain
      apply paid.setConn
      unfold Session.readError
      split
      · exact paid c
      · exact paid c
  | deliver c =>
      simp only [Shared.io, System.inserts]
      cases passed : (sys.shared.conns c).deliver with
      | none => exact plain paid
      | some delivered =>
          obtain ⟨msg, session⟩ := delivered
          intro other
          change ((sys.shared.setConn c session).conns other).Backed _
          rw [ofConn_append, size_append]
          by_cases here : other = c
          · subst here
            rw [Shared.setConn_same]
            have own : ofConn other [(other, msg)] = [msg] := by
              unfold ofConn
              rw [List.filter_cons_of_pos (by simp only [decide_true]), List.filter_nil]
              rfl
            rw [own]
            exact (paid other).deliver passed
          · rw [sys.shared.setConn_other here]
            have others : ofConn other [(c, msg)] = [] := by
              unfold ofConn
              rw [List.filter_cons_of_neg (by simpa using Ne.symm here), List.filter_nil]
              rfl
            rw [others]
            exact paid other
  | endpoint c remote => exact plain (paid.setConn (paid c))
  | write c event =>
      apply plain
      simp only [Shared.io]
      split
      · exact paid.setConn (paid c)
      · exact paid
  | notify c =>
      apply plain
      exact paid.silent fun c => ((Shared.Outward.notify onClose sys.shared _).conns c).1

theorem Paid.step {server : GameServer α ω} {sys : System α ω} {inserted : List (Nat × Message)}
    (paid : Paid sys.shared inserted) (flow : Flow lzo sys inserted) (event : Event) :
    Paid (sys.step lzo server.toNetServer event).shared (inserted ++ sys.inserts event) := by
  cases event with
  | io event => exact paid.io flow server.onClose event
  | update =>
      change Paid _ (inserted ++ [])
      rw [List.append_nil, System.step]
      split
      · exact paid
      · exact paid
  | next =>
      change Paid _ (inserted ++ [])
      have thread := flow.tick
      rw [List.append_nil, System.step, System.advance]
      split
      · exact paid
      · split
        · exact paid.silent fun c => ((Shared.Outward.finish lzo _ _).conns c).1
        · exact paid
      · exact paid
      · rename_i act next phase
        rw [phase] at thread
        exact paid.silent fun c => ((thread sys.shared).1.conns c).1

/-- At every moment of every run of a server the messages that it has queued for one connection
are paid for by the bytes that it has read there: thirteen of them for every 32768. -/
theorem queued_bytes_bounded (lzo : Lzo) (server : GameServer α ω) (app : α) (events : List Event)
    (c : Nat) :
    13 * size (deliveredBy lzo server app c events) ≤
      decompBufSize * ((reached lzo server app events).shared.conns c).received.length := by
  have paid : Paid (reached lzo server app events).shared (insertedBy lzo server app events) := by
    induction events using List.reverseRecOn with
    | nil =>
        intro conn
        exact Session.backed_start 0 none
    | append_singleton events event ih =>
        rw [reached, insertedBy, run_snoc, outputs_snoc]
        exact ih.step (reached_flow events) event
  have backed := paid c
  unfold Session.Backed at backed
  change 13 * size (ofConn c _) ≤ _
  omega

end RanOnline.Net
