/-
Every answer reaches the socket in the end.

A fair schedule of the whole server is a fair schedule of the write queue of each of
its sessions.  As long as a session stays open, all that its client had sent by some
time has been answered at some later time, and the answers have been written.
-/
import RanOnline.Net.ClientView
import RanOnline.Net.ConversationLive

namespace RanOnline.Net

open Memory StepRun StreamCut Threads

/-! ### One session in one step of the server -/

namespace Writer

/-- A section that no thread of doWrite and no completion runs. -/
def Apart (event : Event) : Prop := Aside event ∨ event = .closeNotify

theorem closed_of_run {w : Writer} {events : List Event}
    (stays : (run step w events).closed = false) : w.closed = false := by
  induction events using List.reverseRecOn with
  | nil => exact stays
  | append_singleton events event ih =>
      rw [run_snoc] at stays
      exact ih (closed_of_step stays)

/-- While the session stays open, Close has nothing to clear. -/
theorem Linked.apart {w : Writer} (linked : w.Linked) {events : List Event}
    (apart : ∀ event ∈ events, Apart event) :
    (run step w events).closed = false →
      (run step w events).Linked ∧ ∃ kept : List Event, (∀ event ∈ kept, Offhand event) ∧
        run step w events = run step w kept := by
  induction events using List.reverseRecOn with
  | nil =>
      intro _opened
      exact ⟨linked, [], fun _event impossible => absurd impossible List.not_mem_nil, rfl⟩
  | append_singleton events event ih =>
      intro opened
      rw [run_snoc] at opened ⊢
      obtain ⟨before, kept, offhand, same⟩ :=
        ih (fun other member => apart other (List.mem_append_left _ member)) (closed_of_step opened)
      have last := apart event (List.mem_append_right _ List.mem_cons_self)
      refine ⟨before.stepped opened, ?_⟩
      by_cases clears : event = .closeClear
      · refine ⟨kept, offhand, ?_⟩
        rw [clears, ← same]
        simp only [step, closeClear, before.unmarked]
      · refine ⟨kept ++ [event], ?_, ?_⟩
        · intro other member
          rcases List.mem_append.mp member with earlier | here
          · exact offhand other earlier
          · rw [List.mem_singleton.mp here]
            rcases last with aside | notifies
            · cases event with
              | enqueue bytes => trivial
              | closeTest => trivial
              | closeMark => trivial
              | closeClear => exact absurd rfl clears
              | pick => cases aside
              | launch index => cases aside
              | succeed index => cases aside
              | fail index => cases aside
              | closeNotify => cases aside
            · rw [notifies]
              trivial
        · rw [run_snoc, same]

end Writer

variable {α ω : Type} {lzo : Lzo}

theorem Shared.Change.apart {onClose : UInt32 → α → α} {s later : Shared α ω}
    (change : s.Change onClose Writer.Aside later) {c : Nat} (present : c < s.accepted) :
    (s.conns c).Writes Writer.Apart (later.conns c) := by
  cases change with
  | accepted remote =>
      apply Session.Writes.none
      change ((Function.update s.conns s.accepted _) c).writer = _
      rw [Function.update_of_ne (Nat.ne_of_lt present)]
  | notified other leaving =>
      rw [notify_of_leaving leaving]
      by_cases here : c = other
      · rw [here]
        apply Session.Writes.one .closeNotify (Or.inr rfl)
        change ((s.setConn other _).conns other).writer = _
        rw [setConn_same]
        rfl
      · apply Session.Writes.none
        change ((s.setConn other _).conns c).writer = _
        rw [s.setConn_other here]
  | inside later sessions nextId accepted clientId writes =>
      exact (writes c).imp fun _event => Or.inl

/-- A connection that is not there before a change starts with a write side of its own. -/
theorem Shared.Change.newest {onClose : UInt32 → α → α} {allowed : Writer.Event → Prop}
    {s later : Shared α ω} (change : s.Change onClose allowed later) {c : Nat}
    (absent : ¬c < s.accepted) (present : c < later.accepted) : (later.conns c).writer = .new := by
  cases change with
  | accepted remote =>
      have newest : c = s.accepted :=
        Nat.le_antisymm (Nat.le_of_lt_succ present) (Nat.not_lt.mp absent)
      change ((Function.update s.conns s.accepted (.start _ remote)) c).writer = .new
      rw [newest, Function.update_self]
      rfl
  | notified other leaving =>
      rw [notify_of_leaving leaving] at present
      exact absurd present absent
  | inside later sessions nextId accepted clientId writes =>
      rw [accepted] at present
      exact absurd present absent

/-- The pool takes a step of its write side, or none of doWrite and the completions runs. -/
theorem NetServer.Moves.line {server : NetServer α ω} (moves : server.Moves lzo)
    (sys : System α ω) (event : Event) (tick : sys.tick.Moves lzo server.onClose) {c : Nat}
    (present : c < sys.shared.accepted) :
    (∃ step, event = .io (.write c step) ∧
      ((sys.step lzo server event).shared.conns c).writer = (sys.shared.conns c).writer.step step) ∨
    (sys.shared.conns c).Writes Writer.Apart ((sys.step lzo server event).shared.conns c) := by
  cases event with
  | io event =>
      rcases @Shared.io_changes _ _ server.onClose lzo sys.shared event with
        ⟨other, step, same, _pooled, stepped⟩ | change
      · change (∃ step, _ ∧ ((sys.shared.io lzo server.onClose event).conns c).writer = _) ∨
          (sys.shared.conns c).Writes _ ((sys.shared.io lzo server.onClose event).conns c)
        rw [stepped]
        by_cases here : c = other
        · left
          refine ⟨step, ?_, ?_⟩
          · rw [same, here]
          · rw [here]
            change ((sys.shared.setConn other _).conns other).writer = _
            rw [Shared.setConn_same]
        · right
          apply Session.Writes.none
          change ((sys.shared.setConn other _).conns c).writer = _
          rw [sys.shared.setConn_other here]
      · exact Or.inr (change.apart present)
  | update =>
      right
      apply Session.Writes.none
      rw [System.step]
      split <;> rfl
  | next => exact Or.inr ((moves.advance sys tick).1.changes.apart present)

/-! ### While the session stays open -/

section Runs

variable {server : GameServer α ω} (moves : server.toNetServer.Moves lzo) (app : α)
  (events : List Event) (event : Event) {c : Nat}

include moves

theorem line_reached (present : c < (reached lzo server app events).shared.accepted) :
    (∃ step, event = .io (.write c step) ∧
      ((reached lzo server app (events ++ [event])).shared.conns c).writer =
        ((reached lzo server app events).shared.conns c).writer.step step) ∨
    ((reached lzo server app events).shared.conns c).Writes Writer.Apart
      ((reached lzo server app (events ++ [event])).shared.conns c) := by
  rw [reached_snoc]
  exact moves.line _ event (moves.tick app events) present

theorem closed_before (present : c < (reached lzo server app events).shared.accepted)
    (stays : ((reached lzo server app (events ++ [event])).shared.conns c).writer.closed = false) :
    ((reached lzo server app events).shared.conns c).writer.closed = false := by
  rcases line_reached moves app events event present with
    ⟨step, _same, stepped⟩ | ⟨apart, _fine, ran⟩
  · rw [stepped] at stays
    exact Writer.closed_of_step stays
  · rw [ran] at stays
    exact Writer.closed_of_run stays

/-- Where no write fails, the write side goes through the steps of a link that is up. -/
theorem steps_reached (present : c < (reached lzo server app events).shared.accepted)
    (up : ∀ index, event ≠ .io (.write c (.fail index)))
    (stays : ((reached lzo server app (events ++ [event])).shared.conns c).writer.closed = false) :
    ((reached lzo server app events).shared.conns c).writer.Steps
      ((reached lzo server app (events ++ [event])).shared.conns c).writer := by
  have opened := closed_before moves app events event present stays
  have linked : ((reached lzo server app events).shared.conns c).writer.Linked := by
    obtain ⟨steps, queue⟩ : ∃ steps, ((reached lzo server app events).shared.conns c).writer =
        run Writer.step .new steps := moves.queued app events c
    rw [queue] at opened ⊢
    exact Writer.linked_run steps opened
  rcases line_reached moves app events event present with
    ⟨step, same, stepped⟩ | ⟨apart, fine, ran⟩
  · rw [stepped]
    cases step with
    | closeClear =>
        -- Close has not set m_closed, so there is nothing to clear.
        have still : ((reached lzo server app events).shared.conns c).writer.step .closeClear =
            ((reached lzo server app events).shared.conns c).writer := by
          simp only [Writer.step, Writer.closeClear, linked.unmarked]
        rw [still]
        exact .apart [] fun _event impossible => absurd impossible List.not_mem_nil
    | fail index => exact absurd same (up index)
    | enqueue bytes => exact .one _ trivial
    | pick => exact .one _ trivial
    | launch index => exact .one _ trivial
    | succeed index => exact .one _ trivial
    | closeTest => exact .one _ trivial
    | closeMark => exact .one _ trivial
    | closeNotify => exact .one _ trivial
  · rw [ran] at stays ⊢
    obtain ⟨_linked, kept, offhand, same⟩ := linked.apart fine stays
    rw [same]
    exact .apart kept offhand

/-- A session that is open and none of whose writes has failed. -/
theorem tidy_reached (up : ∀ event ∈ events, ∀ index, event ≠ .io (.write c (.fail index))) :
    c < (reached lzo server app events).shared.accepted →
      ((reached lzo server app events).shared.conns c).writer.closed = false →
      ((reached lzo server app events).shared.conns c).writer.Tidy := by
  induction events using List.reverseRecOn with
  | nil =>
      intro absent
      cases absent
  | append_singleton events event ih =>
      intro present opened
      have last := up event (List.mem_append_right _ List.mem_cons_self)
      have earlier := ih fun other member => up other (List.mem_append_left _ member)
      by_cases before : c < (reached lzo server app events).shared.accepted
      · exact (steps_reached moves app events event before last opened).tidy
          (earlier before (closed_before moves app events event before opened))
      · have change : (reached lzo server app events).shared.Change server.onClose Writer.Inward
            (reached lzo server app (events ++ [event])).shared := by
          rw [reached_snoc]
          exact (moves.step _ event (moves.tick app events)).1.changes
        rw [change.newest before present]
        exact Writer.tidy_new

end Runs

/-! ### What a session has sent -/

theorem Shared.onWriter_sent (s : Shared α ω) (c : Nat) (change : Writer → Writer) (other : Nat) :
    ((s.onWriter c change).conns other).sent = (s.conns other).sent := by
  by_cases here : other = c
  · rw [here, Shared.onWriter, Shared.setConn_same]
  · rw [Shared.onWriter, s.setConn_other here]

theorem Shared.Section.keeps_sent {onClose : UInt32 → α → α} {s later : Shared α ω}
    (does : s.Section lzo onClose later) (c : Nat) :
    (s.conns c).sent <+: (later.conns c).sent := by
  cases does with
  | told recv app events => exact List.prefix_rfl
  | tested other => exact prefix_of_same (s.onWriter_sent other _ c)
  | marked other => exact prefix_of_same (s.onWriter_sent other _ c)
  | cleared other => exact prefix_of_same (s.onWriter_sent other _ c)
  | notified other =>
      unfold Shared.notify
      split
      · exact prefix_of_same (s.onWriter_sent other _ c)
      · exact List.prefix_rfl
  | sent other framed =>
      by_cases here : c = other
      · rw [here, Shared.setConn_same, Session.send_sent]
        exact List.prefix_append _ _
      · exact prefix_of_same (congrArg Session.sent (s.setConn_other here _))
  | flushed => exact prefix_of_same ((Hushed.flushAll lzo s).sent c)

theorem sent_step {server : Talker lzo α ω} (moves : server.toNetServer.Moves lzo)
    {sys : System α ω} (spoken : Spoken server sys) (tick : sys.tick.Moves lzo server.onClose)
    (event : Event) (c : Nat) : (sys.shared.conns c).sent <+:
      ((sys.step lzo server.toNetServer event).shared.conns c).sent := by
  cases event with
  | io event =>
      have hushed := spoken.opened.hushed (sys.shared.io_poolStep lzo server.onClose event)
      exact prefix_of_same (hushed.sent c)
  | update =>
      rw [System.step]
      split <;> exact List.prefix_rfl
  | next => exact (moves.advance sys tick).1.keeps_sent c

/-! ### What has been written -/

/-- What a client has read once the packets that were on their way have arrived. -/
theorem reads_flushed {before after : Session} (roundTrip : lzo.RoundTrip)
    (carried : Carries lzo.toLzoApi before before.sent) (flushed : before.out.pending = [])
    (carries : Carries lzo.toLzoApi after after.sent)
    (first : after.writer.handed <+: after.writer.enqueued)
    (written : before.writer.enqueued <+: after.writer.completed.map Prod.fst)
    {chunks : List Bytes}
    (arrived : (after.writer.completed.map fun done => done.1.bytes).flatten <+: chunks.flatten)
    (handed : chunks.flatten <+: (after.writer.handed.map Packet.bytes).flatten) :
    ∃ read rest, feedChunks lzo.toLzoApi [] chunks = .ok { ok := true, out := read, buf := rest } ∧
      before.sent.map Message.ofFrame <+: read := by
  obtain ⟨running, _part⟩ := running_of_arrived roundTrip carries first handed
  obtain ⟨delivered, parsed, split, _whole⟩ := carried.decode roundTrip
  have bytes : before.enqueuedBytes.flatten <+: chunks.flatten := by
    obtain ⟨later, queue⟩ := written
    apply List.IsPrefix.trans _ arrived
    have same : after.writer.completed.map (fun done => done.1.bytes) =
        (after.writer.completed.map Prod.fst).map Packet.bytes := by
      rw [List.map_map]
      rfl
    rw [same, ← queue, List.map_append, List.flatten_append, Session.enqueuedBytes]
    exact List.prefix_append _ _
  obtain ⟨_goesOn, part⟩ := Cutter.run_front (frameCutter_stable lzo.toLzoApi) bytes running
  rw [parsed] at part
  refine ⟨_, _, feedChunks_of_running lzo.toLzoApi running, ?_⟩
  have nothing : innerCutter.run [] = { messages := [], stopped := none, rest := [] } :=
    Cutter.run_of_wait _ rfl
  rw [flushed, nothing, List.append_nil] at split
  rw [← split]
  exact part

/-- What a client has asked is answered when an OnUpdate returns, and at some later moment the
socket has taken the answers: a client that has got what was written by then, in any pieces,
and perhaps a part of what is under way, reads them in order. -/
structure Arrived (server : Talker lzo α ω) (c : Nat) (asked : List Message)
    (update sys : System α ω) (replies : List (List Bytes)) : Prop where
  asked : asked <+: (conversation c update.shared.log).map Exchange.msg
  answered : List.Forall₂ (Exchange.Answered server.answers) (conversation c update.shared.log)
    replies
  reads : ∀ chunks : List Bytes,
    ((sys.shared.conns c).writer.completed.map fun done => done.1.bytes).flatten <+:
      chunks.flatten →
    chunks.flatten <+: ((sys.shared.conns c).writer.handed.map Packet.bytes).flatten →
    ∃ read rest, feedChunks lzo.toLzoApi [] chunks = .ok { ok := true, out := read, buf := rest } ∧
      replies.flatten.map Message.ofFrame <+: read

/-! ### Under a fair schedule -/

/-- The session of a connection, the timer, the tick and the socket take their turns again
and again, and no write on this connection fails. -/
structure Fair (c : Nat) (schedule : Nat → Event) : Prop where
  delivers : Often (· = .io (.deliver c)) schedule
  ticks : Often (· = .update) schedule
  runs : Often (· = .next) schedule
  picks : Often (· = .io (.write c .pick)) schedule
  launches : Often (· = .io (.write c (.launch 0))) schedule
  succeeds : Often (· = .io (.write c (.succeed 0))) schedule
  up : ∀ time index, schedule time ≠ .io (.write c (.fail index))

theorem Fair.drives {c : Nat} {schedule : Nat → Event} (fair : Fair c schedule)
    {event : Writer.Event} (drives : Writer.Drives event) :
    Often (· = .io (.write c event)) schedule := by
  cases drives with
  | pick => exact fair.picks
  | launch => exact fair.launches
  | succeed => exact fair.succeeds

theorem write_drives {server : NetServer α ω} {event : Writer.Event} (drives : Writer.Drives event)
    {sys : System α ω} {c : Nat} :
    ((sys.step lzo server (.io (.write c event))).shared.conns c).writer =
      (sys.shared.conns c).writer.step event := by
  have pooled : event.pooled = true := by cases drives <;> rfl
  change ((if event.pooled then sys.shared.onWriter c (Writer.step · event)
    else sys.shared).conns c).writer = _
  rw [if_pos pooled, Shared.onWriter, Shared.setConn_same]

section Schedules

variable {server : Talker lzo α ω} (moves : server.toNetServer.Moves lzo) (app : α)
  {schedule : Nat → Event}

include moves

theorem sent_grows {time later : Nat} (after : time ≤ later) (c : Nat) :
    ((reached lzo server.toGameServer app (eventsBefore schedule time)).shared.conns c).sent <+:
      ((reached lzo server.toGameServer app
        (eventsBefore schedule later)).shared.conns c).sent := by
  induction later, after using Nat.le_induction with
  | base => exact List.prefix_rfl
  | succ later _after ih =>
      rw [eventsBefore_succ, reached_snoc]
      exact ih.trans (sent_step moves (reached_spoken server app _) (moves.tick app _) _ c)

theorem open_before {c time later : Nat} (after : time ≤ later)
    (present : c < (reached lzo server.toGameServer app
      (eventsBefore schedule time)).shared.accepted) :
    ((reached lzo server.toGameServer app
      (eventsBefore schedule later)).shared.conns c).writer.closed = false →
    ((reached lzo server.toGameServer app
      (eventsBefore schedule time)).shared.conns c).writer.closed = false := by
  induction later, after using Nat.le_induction with
  | base => exact id
  | succ later after ih =>
      intro stays
      rw [eventsBefore_succ] at stays
      exact ih (closed_before moves app _ _
        (Nat.lt_of_lt_of_le present (accepted_grows schedule after)) stays)

/-- All the packets that a session has enqueued by some time have been written at some later
time, or the session has been closed. -/
theorem eventually_out {c : Nat} (fair : Fair c schedule) (time : Nat)
    (present : c < (reached lzo server.toGameServer app
      (eventsBefore schedule time)).shared.accepted) :
    ∃ later, time ≤ later ∧
      (((reached lzo server.toGameServer app
          (eventsBefore schedule later)).shared.conns c).writer.closed = false →
        ((reached lzo server.toGameServer app
            (eventsBefore schedule time)).shared.conns c).writer.enqueued <+:
          ((reached lzo server.toGameServer app
            (eventsBefore schedule later)).shared.conns c).writer.completed.map Prod.fst) := by
  let stands : Nat → Writer := fun moment => ((reached lzo server.toGameServer app
    (eventsBefore schedule (time + moment))).shared.conns c).writer
  by_cases closes : ∃ moment, (stands moment).closed = true
  · obtain ⟨moment, closed⟩ := closes
    refine ⟨time + moment, Nat.le_add_right _ _, ?_⟩
    intro opened
    exact absurd (closed.symm.trans opened) (by decide)
  · have opened (moment : Nat) : (stands moment).closed = false := by
      rw [← Bool.not_eq_true]
      exact not_exists.mp closes moment
    have steps (moment : Nat) : (stands moment).Steps (stands (moment + 1)) := by
      have stays := opened (moment + 1)
      simp only [stands, ← Nat.add_assoc, eventsBefore_succ] at stays ⊢
      exact steps_reached moves app _ _
        (Nat.lt_of_lt_of_le present (accepted_grows schedule (Nat.le_add_right _ _)))
        (fair.up _) stays
    have tidy : (stands 0).Tidy := by
      refine tidy_reached moves app _ ?_ present (opened 0)
      intro event member
      obtain ⟨moment, _before, same⟩ := List.mem_map.mp member
      rw [← same]
      exact fair.up moment
    have driven (event : Writer.Event) (drives : Writer.Drives event) :
        Often (fun moment => stands (moment + 1) = (stands moment).step event) id := by
      intro moment
      obtain ⟨turn, after, here⟩ := fair.drives drives (time + moment)
      obtain ⟨more, rfl⟩ := Nat.exists_eq_add_of_le after
      refine ⟨moment + more, Nat.le_add_right _ _, ?_⟩
      simp only [id, stands, ← Nat.add_assoc, eventsBefore_succ, here]
      rw [reached_snoc, write_drives drives]
    obtain ⟨later, _after, written⟩ := Writer.written_along steps tidy driven 0
    exact ⟨time + later, Nat.le_add_right _ _, fun _opened => written⟩

/-- Under a fair schedule some OnUpdate returns with answers to all that a client had sent by
a given time, and some time after it the server has written them: unless the session has been
closed by then, the client reads them in order from what has been written since. -/
theorem eventually_read (roundTrip : lzo.RoundTrip) (flushes : server.flushes = true) {c : Nat}
    (fair : Fair c schedule) (time : Nat)
    (present : c < (reached lzo server.toGameServer app
      (eventsBefore schedule time)).shared.accepted)
    (accepted : (framerFeed lzo [] ((reached lzo server.toGameServer app
      (eventsBefore schedule time)).shared.conns c).received).ok = true) :
    ∃ returned later, time ≤ returned ∧ returned ≤ later ∧
      let update := reached lzo server.toGameServer app (eventsBefore schedule returned)
      let sys := reached lzo server.toGameServer app (eventsBefore schedule later)
      update.tick.isIdle = true ∧
        (OwnId sys.shared c → (sys.shared.conns c).writer.closed = false →
          (∀ frame ∈ (sys.shared.conns c).sent, Readable frame) →
          ∃ replies, Arrived server c
            ((framerFeed lzo [] ((reached lzo server.toGameServer app
              (eventsBefore schedule time)).shared.conns c).received).out.map
                (stamp (clientIdOf c))) update sys replies) := by
  obtain ⟨returned, since, idle, answered⟩ := eventually_answered lzo server app schedule c
    fair.delivers fair.ticks fair.runs time present accepted
  have still := Nat.lt_of_lt_of_le present (accepted_grows schedule since)
  obtain ⟨later, after, written⟩ := eventually_out moves app fair returned still
  refine ⟨returned, later, since, after, idle, ?_⟩
  intro own opened readable
  have alone : OwnId (reached lzo server.toGameServer app (eventsBefore schedule returned)).shared
      c := by
    intro other existing same
    exact own other (Nat.lt_of_lt_of_le existing (accepted_grows schedule after)) same
  have openedThen := open_before moves app after still opened
  have tabled : (reached lzo server.toGameServer app
      (eventsBefore schedule returned)).shared.Tabled := moves.tabled app _
  have listed := tabled.opened c still alone openedThen
  obtain ⟨asked, replies, answers, sent⟩ := answered alone listed
  have earlier : ((reached lzo server.toGameServer app
      (eventsBefore schedule returned)).shared.conns c).sent <+: ((reached lzo server.toGameServer
        app (eventsBefore schedule later)).shared.conns c).sent := sent_grows moves app after c
  have sending := reached_sending server app (eventsBefore schedule returned)
  have carried := sending.wired c fun frame member => readable frame (earlier.subset member)
  have flushed := sending.flushed flushes idle _ c listed
  have carries := (reached_sending server app (eventsBefore schedule later)).wired c readable
  have first := handed_first moves app (eventsBefore schedule later) opened
  refine ⟨replies, { asked := asked, answered := answers, reads := ?_ }⟩
  intro chunks arrived handed
  rw [← sent]
  exact reads_flushed roundTrip carried flushed carries first (written opened) arrived handed

end Schedules

end RanOnline.Net
