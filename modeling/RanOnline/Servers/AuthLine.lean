/-
One connection of the AuthServer, watched through a run.

While its client sends a stream that the framer accepts and that asks for no
certification, dispatch sends every message of it back.  A reply that the send
buffer takes joins the batches of the session, the first one that it refuses closes
the connection.
-/
import RanOnline.Net.Closing
import RanOnline.Net.SessionDelivery
import RanOnline.Servers.AuthServer

namespace RanOnline.Servers

open Memory Net Db StreamCut StepRun Threads Discipline

variable {α : Type}

/-- A stream of messages that dispatch sends back. -/
structure EchoStream (lzo : Lzo) (stream : Bytes) : Prop where
  accepted : ((frameCutter lzo.toLzoApi).run stream).stopped = none
  types : ∀ msg ∈ ((frameCutter lzo.toLzoApi).run stream).messages,
    msg.type ≠ netMsgAuthCertificationRequest

theorem EchoStream.of_prefix {lzo : Lzo} {first whole : Bytes} (part : first <+: whole)
    (echoes : EchoStream lzo whole) : EchoStream lzo first := by
  obtain ⟨more, split⟩ := part
  subst split
  have extended := Cutter.run_append (frameCutter_stable lzo.toLzoApi) first more
  have accepted := echoes.accepted
  have types := echoes.types
  rw [extended] at accepted types
  cases stopped : ((frameCutter lzo.toLzoApi).run first).stopped with
  | none =>
      rw [stopped] at types
      exact
        { accepted := stopped
          types := fun msg member => types msg (List.mem_append_left _ member) }
  | some reason =>
      rw [stopped] at accepted
      cases stopped.symm.trans accepted

/-- The connection exists, its client id is its own, and its stream so far is one of
messages to send back. -/
structure Watched (lzo : Lzo) (c : Nat) (s : Shared α Empty) : Prop where
  present : c < s.accepted
  own : OwnId s c
  stream : EchoStream lzo (s.conns c).received

/-- The messages of the connection that dispatch has taken. -/
def takenFrom (c : Nat) (s : Shared α Empty) : List Message := ofClient (clientIdOf c) (takenOf s.log)

/-- The send buffer takes the reply. -/
def Fits (msg : Message) : Prop := msg.bytes.length ≤ netDataBufsize

instance : DecidablePred Fits := fun msg => inferInstanceAs (Decidable (msg.bytes.length ≤ _))

theorem takenFrom_pooled {onClose : UInt32 → α → α} {s later : Shared α Empty}
    (step : PoolStep onClose s later) (c : Nat) : takenFrom c later = takenFrom c s := by
  cases step with
  | accepted remote => rfl
  | inside other session recv quiet => rfl
  | notified other leaving =>
      rw [Shared.notify_of_leaving leaving]
      rfl

/-- What a step of the pool adds to the history. -/
theorem closed_of_pooled {onClose : UInt32 → α → α} {s later : Shared α Empty}
    (step : PoolStep onClose s later) {c : Nat} {clientId : UInt32}
    (gone : .closed c clientId ∈ later.log) :
    .closed c clientId ∈ s.log ∨ (c < s.accepted ∧ (s.conns c).writer.notifying ≠ 0) := by
  cases step with
  | inside other session recv quiet => exact Or.inl gone
  | accepted remote => exact Or.inl ((List.mem_cons.mp gone).resolve_left (by simp))
  | notified other leaving =>
      rw [Shared.notify_of_leaving leaving] at gone
      rcases List.mem_cons.mp gone with here | earlier
      · cases here
        exact Or.inr leaving
      · exact Or.inl earlier

/-- A state later in the run, with more connections and a longer stream, is watched
only if this one is. -/
theorem Watched.earlier {lzo : Lzo} {c : Nat} {s later : Shared α Empty}
    (watched : Watched lzo c later) (present : c < s.accepted)
    (accepted : s.accepted ≤ later.accepted)
    (received : (s.conns c).received <+: (later.conns c).received) : Watched lzo c s :=
  { present := present
    own := fun other bound => watched.own other (Nat.lt_of_lt_of_le bound accepted)
    stream := watched.stream.of_prefix received }

theorem Watched.io {lzo : Lzo} {onClose : UInt32 → α → α} {c : Nat} {s : Shared α Empty}
    {event : IoEvent} (watched : Watched lzo c (s.io lzo onClose event))
    (present : c < s.accepted) : Watched lzo c s := by
  apply watched.earlier present (s.io_accepted lzo onClose event)
  rcases s.io_pooled lzo onClose event c with pooled | ⟨remote, _accept, new⟩
  · exact pooled.received
  · exact absurd present (by omega)

/-- Before its accept, a connection has sent nothing. -/
theorem takenFrom_absent {lzo : Lzo} {onClose : UInt32 → α → α} {c : Nat} {s : Shared α Empty}
    {event : IoEvent} (inbound : Inbound lzo s)
    (watched : Watched lzo c (s.io lzo onClose event)) (absent : ¬c < s.accepted) :
    takenFrom c s = [] := by
  apply List.filter_eq_nil_iff.mpr
  intro msg member
  have passed : msg ∈ s.passed := by
    rw [Shared.passed, List.append_assoc]
    exact List.mem_append_left _ member
  obtain ⟨other, bound, known⟩ := inbound.known msg passed
  rw [decide_eq_true_eq, known]
  intro sameId
  have same := watched.own other (Nat.lt_of_lt_of_le bound (s.io_accepted lzo onClose event)) sameId
  exact absurd bound (same ▸ absent)

/-- The session of a watched connection that a step of the pool has just accepted. -/
theorem io_absent {lzo : Lzo} {onClose : UInt32 → α → α} {c : Nat} {s : Shared α Empty}
    {event : IoEvent} (present : c < (s.io lzo onClose event).accepted)
    (absent : ¬c < s.accepted) :
    ∃ clientId remote, (s.io lzo onClose event).conns c = .start clientId remote := by
  have step := s.io_poolStep lzo onClose event
  generalize s.io lzo onClose event = later at present step ⊢
  cases step with
  | inside other session recv quiet => exact absurd present absent
  | notified other leaving =>
      rw [Shared.notify_of_leaving leaving] at present
      exact absurd present absent
  | accepted remote =>
      have new : c = s.accepted := by
        change c < s.accepted + 1 at present
        omega
      subst new
      exact ⟨_, remote, Function.update_self ..⟩

/-! ### The invariant -/

section Invariant

variable (lzo : Lzo) (server : NetServer α Empty) (c : Nat)

structure LineInv (s : Shared α Empty) : Prop where
  recorded : (bare server).Recorded s
  inbound : Inbound lzo s
  traffic : Traffic s
  leaving : (s.conns c).writer.Leaving
  gone : ∀ clientId, .closed c clientId ∈ s.log → (s.conns c).writer.closed = true
  opened : Watched lzo c s → (∀ msg ∈ takenFrom c s, Fits msg) → (s.conns c).writer.Open

/-- The messages of the connection that are answered, and the one in dispatch. -/
structure Echoed (done owed : List Message) (s : Shared α Empty) : Prop where
  split : takenFrom c s = done ++ owed
  carries : Watched lzo c s → (∀ msg ∈ done, Fits msg) →
    Carries lzo.toLzoApi (s.conns c) (done.map Message.bytes)
  refused : Watched lzo c s → (∃ msg ∈ done, ¬Fits msg) → (s.conns c).writer.closed = true

/-- All messages that were taken are answered. -/
def AllAnswered (s : Shared α Empty) : Prop := Echoed lzo c (takenFrom c s) [] s

/-- Between two ticks, nothing waits in the send buffer either. -/
structure Delivered (s : Shared α Empty) : Prop where
  answered : AllAnswered lzo c s
  flushed : Watched lzo c s → (∀ msg ∈ takenFrom c s, Fits msg) → (s.conns c).out.pending = []

end Invariant

/-- The events that leave the connection open: neither a read nor a write on it fails. -/
def KeepsOpen (c : Nat) (event : IoEvent) : Prop :=
  event ≠ .readError c ∧ ∀ index, event ≠ .write c (.fail index)

theorem closing_keepsOpen (c other : Nat) : Closing (KeepsOpen c) other :=
  { mark := ⟨nofun, nofun⟩
    clear := ⟨nofun, nofun⟩
    notify := ⟨nofun, nofun⟩ }

section Kept

variable {lzo : Lzo} {server : NetServer α Empty} {c : Nat}

/-- The session of an open connection is in m_sessions. -/
theorem LineInv.found {s : Shared α Empty} (inv : LineInv lzo server c s)
    (watched : Watched lzo c s) (closed : (s.conns c).writer.closed = false) :
    s.sessions.lookup (clientIdOf c) = some c := by
  rw [inv.recorded.sessions]
  have count := inv.recorded.count
  apply open_of_not_closed inv.recorded.order
  · rw [count]
    exact watched.present
  · rw [count]
    exact watched.own
  · intro clientId gone
    rw [inv.gone clientId gone] at closed
    cases closed

/-- What dispatch has taken came out of the stream. -/
theorem LineInv.taken {s : Shared α Empty} (inv : LineInv lzo server c s)
    (watched : Watched lzo c s) {msg : Message} (member : msg ∈ takenFrom c s) :
    msg.Framed ∧ msg.type ≠ netMsgAuthCertificationRequest := by
  have lane := inv.inbound.lanes c watched.present watched.own watched.stream.accepted
  have emitted : msg ∈ ((s.conns c).parse lzo).messages.map (stamp (clientIdOf c)) := by
    rw [← lane.flow, Shared.passed, List.append_assoc, ofClient_append]
    exact List.mem_append_left _ (List.mem_append_left _ member)
  obtain ⟨original, present, same⟩ := List.mem_map.mp emitted
  subst same
  have admitted := frameRun_admitted lzo _ watched.stream.accepted original present
  exact ⟨{ admitted.framed with }, watched.stream.types original present⟩

/-- A step of the pool that fails neither a read nor a write does not start to close
a connection with a stream that the framer accepts. -/
theorem LineInv.opened_io {s : Shared α Empty} (inv : LineInv lzo server c s)
    (onClose : UInt32 → α → α) {event : IoEvent} (keeps : KeepsOpen c event)
    (watched : Watched lzo c (s.io lzo onClose event)) (present : c < s.accepted)
    (opened : (s.conns c).writer.Open) :
    ((s.io lzo onClose event).conns c).writer.Open := by
  cases event with
  | accept remote =>
      have same : (s.accept remote).conns c = s.conns c :=
        Function.update_of_ne (Nat.ne_of_lt present) ..
      exact opened.congr (congrArg (fun session => session.writer.marks) same)
  | read other chunk =>
      change ((s.setConn other _).conns c).writer.Open
      by_cases here : c = other
      · subst here
        have stream := watched.stream.accepted
        have earlier := watched.io present
        change ((frameCutter lzo.toLzoApi).run ((s.setConn c _).conns c).received).stopped = none
          at stream
        rw [Shared.setConn_same] at stream ⊢
        by_cases reading : (s.conns c).reading = true
        · rw [Session.read_received lzo chunk reading] at stream
          have lane := inv.inbound.lanes c present earlier.own earlier.stream.accepted
          obtain ⟨_before, fed, _extended⟩ := Session.parse_read stream
          rw [← lane.buffered] at fed
          rw [Session.read_running reading fed]
          exact opened
        · rw [Session.read, if_neg reading]
          exact opened
      · rw [Shared.setConn_other s here]
        exact opened
  | readError other =>
      change ((s.setConn other _).conns c).writer.Open
      have different : c ≠ other := fun here => keeps.1 (here ▸ rfl)
      rw [Shared.setConn_other s different]
      exact opened
  | endpoint other remote =>
      change ((s.setConn other _).conns c).writer.Open
      by_cases here : c = other
      · subst here
        rw [Shared.setConn_same]
        exact opened
      · rw [Shared.setConn_other s here]
        exact opened
  | deliver other =>
      simp only [Shared.io]
      split
      · exact opened
      · rename_i msg session delivered
        change ((s.setConn other session).conns c).writer.Open
        by_cases here : c = other
        · subst here
          rw [Shared.setConn_same]
          unfold Session.deliver at delivered
          split at delivered
          · cases delivered
          · cases delivered
            exact opened
        · rw [Shared.setConn_other s here]
          exact opened
  | write other event =>
      simp only [Shared.io]
      split
      · rename_i pooled
        rw [Shared.onWriter]
        by_cases here : c = other
        · subst here
          rw [Shared.setConn_same]
          exact Writer.step_open opened pooled fun index same => keeps.2 index (same ▸ rfl)
        · rw [Shared.setConn_other s here]
          exact opened
      · exact opened
  | notify other =>
      simp only [Shared.io, Shared.notify]
      split
      · change ((s.setConn other _).conns c).writer.Open
        by_cases here : c = other
        · subst here
          rw [Shared.setConn_same]
          unfold Writer.closeNotify
          split
          · exact opened
          · exact { closed := opened.closed, testing := opened.testing }
        · rw [Shared.setConn_other s here]
          exact opened
      · exact opened

theorem lineInv_kept (lzo : Lzo) (server : NetServer α Empty) (c : Nat) ⦃s : Shared α Empty⦄
    (event : IoEvent) (keeps : KeepsOpen c event) (inv : LineInv lzo server c s) :
    LineInv lzo server c (s.io lzo server.onClose event) := by
  have step := s.io_poolStep lzo server.onClose event
  have pooled := s.io_pooled lzo server.onClose event c
  refine
    { recorded := inv.recorded.pool step
      inbound := inv.inbound.io server.onClose event
      traffic := inv.traffic.io lzo server.onClose event
      leaving := ?_
      gone := ?_
      opened := ?_ }
  · rcases pooled with pooled | ⟨remote, accept, new⟩
    · exact pooled.leaving inv.leaving
    · rw [accept, new]
      change ((s.accept remote).conns s.accepted).writer.Leaving
      have same : (s.accept remote).conns s.accepted = .start (s.nextClientId + 1) remote :=
        Function.update_self ..
      rw [same]
      exact Writer.leaving_new
  · intro clientId gone
    have before : c < s.accepted ∧ (s.conns c).writer.closed = true := by
      rcases closed_of_pooled step gone with earlier | ⟨present, notifying⟩
      · have present := closed_accepted inv.recorded.order earlier
        rw [inv.recorded.count] at present
        exact ⟨present, inv.gone clientId earlier⟩
      · exact ⟨present, inv.leaving (Or.inr notifying)⟩
    rcases pooled with pooled | ⟨remote, _accept, new⟩
    · exact pooled.closed before.2
    · exact absurd before.1 (by omega)
  · intro watched fits
    rw [takenFrom_pooled step] at fits
    by_cases present : c < s.accepted
    · exact inv.opened_io server.onClose keeps watched present
        (inv.opened (watched.io present) fits)
    · obtain ⟨clientId, remote, same⟩ := io_absent watched.present present
      rw [same]
      exact Writer.open_new

theorem Echoed.io {done owed : List Message} {s : Shared α Empty} (inv : LineInv lzo server c s)
    (echoed : Echoed lzo c done owed s) (event : IoEvent) :
    Echoed lzo c done owed (s.io lzo server.onClose event) := by
  have step := s.io_poolStep lzo server.onClose event
  have pooled := s.io_pooled lzo server.onClose event c
  have split := (takenFrom_pooled step c).trans echoed.split
  have nothing : Watched lzo c (s.io lzo server.onClose event) → ¬c < s.accepted → done = [] := by
    intro watched absent
    have empty := takenFrom_absent inv.inbound watched absent
    rw [echoed.split] at empty
    exact (List.append_eq_nil_iff.mp empty).1
  refine { split := split, carries := ?_, refused := ?_ }
  · intro watched fits
    by_cases present : c < s.accepted
    · rcases pooled with pooled | ⟨remote, _accept, new⟩
      · exact (echoed.carries (watched.io present) fits).congr
          (congrArg (List.map Packet.bytes) pooled.quiet.enqueued)
          (congrArg OutBuffer.pending pooled.quiet.out)
      · exact absurd present (by omega)
    · obtain ⟨clientId, remote, same⟩ := io_absent watched.present present
      rw [same, nothing watched present]
      exact carries_start lzo.toLzoApi clientId remote
  · rintro watched ⟨msg, member, large⟩
    by_cases present : c < s.accepted
    · rcases pooled with pooled | ⟨remote, _accept, new⟩
      · exact pooled.closed (echoed.refused (watched.io present) ⟨msg, member, large⟩)
      · exact absurd present (by omega)
    · rw [nothing watched present] at member
      cases member

theorem Echoed.answered {done : List Message} {s : Shared α Empty}
    (echoed : Echoed lzo c done [] s) : AllAnswered lzo c s := by
  have split := echoed.split
  rw [List.append_nil] at split
  rw [AllAnswered, split]
  exact echoed

theorem AllAnswered.io {s : Shared α Empty} (inv : LineInv lzo server c s)
    (answered : AllAnswered lzo c s) (event : IoEvent) :
    AllAnswered lzo c (s.io lzo server.onClose event) :=
  (Echoed.io inv answered event).answered

theorem Delivered.io {s : Shared α Empty} (inv : LineInv lzo server c s)
    (delivered : Delivered lzo c s) (event : IoEvent) :
    Delivered lzo c (s.io lzo server.onClose event) := by
  refine { answered := delivered.answered.io inv event, flushed := ?_ }
  intro watched fits
  rw [takenFrom_pooled (s.io_poolStep lzo server.onClose event)] at fits
  by_cases present : c < s.accepted
  · rcases s.io_pooled lzo server.onClose event c with pooled | ⟨remote, _accept, new⟩
    · rw [pooled.quiet.out]
      exact delivered.flushed (watched.io present) fits
    · exact absurd present (by omega)
  · obtain ⟨clientId, remote, same⟩ := io_absent watched.present present
    rw [same]
    exact OutBuffer.pending_new

end Kept

end RanOnline.Servers
