/-
What a client reads at any moment of a run.

As long as m_closed is not set, the packets that a session has handed to its socket
are the first ones of its queue.  Whatever part of their bytes has arrived, the client
has read a first part of the answers to its own messages, and nothing else.
-/
import RanOnline.Net.ConversationWire
import RanOnline.Net.Moves

namespace RanOnline.Net

open Memory StepRun StreamCut Threads

/-! ### What has been handed to the socket -/

namespace Writer

/-- No thread of Close is behind the mark, and what async_write was given are the packets
written and the one under way; or a write has failed, and no later one is started. -/
structure Linked (w : Writer) : Prop where
  unmarked : w.clearing = 0
  handing : w.Stalled ∧ w.handed <+: w.enqueued ∨
    w.Tidy ∧ w.handed = w.completed.map Prod.fst ++ w.inFlight.map Flight.packet

theorem linked_new : new.Linked :=
  { unmarked := rfl
    handing := Or.inr ⟨tidy_new, rfl⟩ }

/-- The packet under way is still at the front of the queue. -/
theorem Tidy.underway {w : Writer} (tidy : w.Tidy) :
    w.inFlight.map Flight.packet <+: w.writeQueue := by
  rcases inFlight : w.inFlight with _ | ⟨flight, more⟩
  · exact List.nil_prefix
  · have found : w.inFlight[0]? = some flight := by rw [inFlight, List.getElem?_cons_zero]
    obtain ⟨only, _zero, _noPicked, _starting⟩ := tidy.inv.of_inFlight found
    have clean : flight.cleared = false := by
      apply tidy.clean
      rw [flights, only]
      exact List.mem_append_right _ List.mem_cons_self
    have front := (tidy.inv.front_iff found).mpr clean
    rw [← inFlight, only, List.map_singleton]
    cases queue : w.writeQueue with
    | nil =>
        rw [queue] at front
        cases front
    | cons packet rest =>
        rw [queue] at front
        cases front
        exact List.prefix_append [flight.packet] rest

theorem Linked.handed_front {w : Writer} (linked : w.Linked) : w.handed <+: w.enqueued := by
  rcases linked.handing with ⟨_stalled, first⟩ | ⟨tidy, handed⟩
  · exact first
  · obtain ⟨waiting, queue⟩ := tidy.underway
    refine ⟨waiting, ?_⟩
    rw [handed, List.append_assoc, queue]
    exact tidy.accounts

/-- After a failed write only enqueueWrite changes what is counted here. -/
theorem Stalled.linked_step {w : Writer} (stalled : w.Stalled) (unmarked : w.clearing = 0)
    (first : w.handed <+: w.enqueued) (event : Event) (stays : (w.step event).closed = false) :
    (w.step event).Linked := by
  have same (still : w.step event = w) : (w.step event).Linked := by
    rw [still]
    exact ⟨unmarked, Or.inl ⟨stalled, first⟩⟩
  cases event with
  | enqueue bytes =>
      refine ⟨unmarked,
        Or.inl ⟨{ stalled with inProgress := rfl, starting := ?_, inOrder := ?_ }, ?_⟩⟩
      · change (if w.writeInProgress then w.starting else w.starting + 1) = 0
        rw [stalled.inProgress]
        exact stalled.starting
      · exact stalled.inOrder.trans (List.sublist_append_left _ _)
      · exact first.trans (List.prefix_append _ _)
  | pick => exact same (by simp only [step, pick, stalled.starting])
  | launch index => exact same (by simp only [step, launch, stalled.picked, List.getElem?_nil])
  | succeed index => exact same (by simp only [step, succeed, stalled.inFlight, List.getElem?_nil])
  | fail index => exact same (by simp only [step, fail, stalled.inFlight, List.getElem?_nil])
  | closeTest =>
      simp only [step, closeTest]
      split
      · exact ⟨unmarked, Or.inl ⟨stalled, first⟩⟩
      · exact ⟨unmarked, Or.inl ⟨{ stalled with }, first⟩⟩
  | closeMark =>
      simp only [step, closeMark] at stays ⊢
      split at stays
      · exact ⟨unmarked, Or.inl ⟨stalled, first⟩⟩
      · cases stays
  | closeClear => exact same (by simp only [step, closeClear, unmarked])
  | closeNotify =>
      simp only [step, closeNotify]
      split
      · exact ⟨unmarked, Or.inl ⟨stalled, first⟩⟩
      · exact ⟨unmarked, Or.inl ⟨{ stalled with }, first⟩⟩

/-- The failure of the write under way. -/
theorem Tidy.linked_fail {w : Writer} (tidy : w.Tidy) (linked : w.Linked) {index : Nat}
    {flight : Flight} (found : w.inFlight[index]? = some flight) :
    (w.step (.fail index)).Linked := by
  have inv := fail_inv tidy.inv index
  obtain ⟨only, zero, noPicked, starting⟩ := tidy.inv.of_inFlight found
  have busy : w.writeInProgress = true := by
    have single := tidy.inv.single
    rw [only] at single
    by_contra idle
    rw [if_neg idle, List.length_singleton] at single
    omega
  have first := linked.handed_front
  simp only [step, fail, found, closeTest]
  split
  · refine ⟨linked.unmarked, Or.inl ⟨⟨busy, starting, noPicked, ?_, first.sublist⟩, first⟩⟩
    change w.inFlight.eraseIdx index = []
    rw [only, zero]
    rfl
  · refine ⟨linked.unmarked, Or.inl ⟨⟨busy, starting, noPicked, ?_, first.sublist⟩, first⟩⟩
    change w.inFlight.eraseIdx index = []
    rw [only, zero]
    rfl

theorem Tidy.linked_step {w : Writer} (tidy : w.Tidy) (linked : w.Linked)
    (handed : w.handed = w.completed.map Prod.fst ++ w.inFlight.map Flight.packet) (event : Event)
    (stays : (w.step event).closed = false) : (w.step event).Linked := by
  have steady (kept : Steady event) (unmarked : (w.step event).clearing = 0)
      (handing : (w.step event).handed =
        (w.step event).completed.map Prod.fst ++ (w.step event).inFlight.map Flight.packet) :
      (w.step event).Linked := ⟨unmarked, Or.inr ⟨tidy_step tidy kept, handing⟩⟩
  cases event with
  | enqueue bytes => exact steady trivial linked.unmarked handed
  | pick =>
      apply steady trivial
      · simp only [step, pick]
        split
        · exact linked.unmarked
        · split <;> exact linked.unmarked
      · simp only [step, pick]
        split
        · exact handed
        · split <;> exact handed
  | launch index =>
      cases found : w.picked[index]? with
      | none =>
          have same : w.step (.launch index) = w := by simp only [step, launch, found]
          rw [same]
          exact linked
      | some flight =>
          obtain ⟨_only, _zero, noFlight, _starting⟩ := tidy.inv.of_picked found
          have launched := tidy.inv.launch_only found
          apply steady trivial
          · rw [launched]
            exact linked.unmarked
          · rw [launched]
            change w.handed ++ [flight.packet] = w.completed.map Prod.fst ++ [flight.packet]
            rw [handed, noFlight, List.map_nil, List.append_nil]
  | succeed index =>
      cases found : w.inFlight[index]? with
      | none =>
          have same : w.step (.succeed index) = w := by simp only [step, succeed, found]
          rw [same]
          exact linked
      | some flight =>
          obtain ⟨only, _zero, _noPicked, _starting⟩ := tidy.inv.of_inFlight found
          have succeeded := tidy.inv.succeed_only found
          apply steady trivial
          · rw [succeeded]
            exact linked.unmarked
          · rw [succeeded]
            change w.handed = (w.completed ++ [(flight.packet, _)]).map Prod.fst ++ []
            rw [handed, only, List.map_append, List.append_nil]
            rfl
  | fail index =>
      cases found : w.inFlight[index]? with
      | none =>
          have same : w.step (.fail index) = w := by simp only [step, fail, found]
          rw [same]
          exact linked
      | some flight => exact tidy.linked_fail linked found
  | closeTest =>
      apply steady trivial
      · simp only [step, closeTest]
        split <;> exact linked.unmarked
      · simp only [step, closeTest]
        split <;> exact handed
  | closeMark =>
      simp only [step, closeMark] at stays ⊢
      split at stays
      · exact linked
      · cases stays
  | closeClear =>
      have same : w.step .closeClear = w := by simp only [step, closeClear, linked.unmarked]
      rw [same]
      exact linked
  | closeNotify =>
      apply steady trivial
      · simp only [step, closeNotify]
        split <;> exact linked.unmarked
      · simp only [step, closeNotify]
        split <;> exact handed

theorem closed_of_step {w : Writer} {event : Event} (stays : (w.step event).closed = false) :
    w.closed = false := by
  cases marked : w.closed with
  | false => rfl
  | true =>
      rw [step_closed marked event] at stays
      cases stays

theorem Linked.stepped {w : Writer} (linked : w.Linked) {event : Event}
    (stays : (w.step event).closed = false) : (w.step event).Linked := by
  rcases linked.handing with ⟨stalled, first⟩ | ⟨tidy, handed⟩
  · exact stalled.linked_step linked.unmarked first event stays
  · exact tidy.linked_step linked handed event stays

theorem linked_run (events : List Event) :
    (run step new events).closed = false → (run step new events).Linked := by
  induction events using List.reverseRecOn with
  | nil => exact fun _opened => linked_new
  | append_singleton events event ih =>
      rw [run_snoc]
      intro opened
      exact (ih (closed_of_step opened)).stepped opened

end Writer

variable {α ω : Type} {lzo : Lzo}

theorem handed_first {server : NetServer α ω} (moves : server.Moves lzo) (app : α)
    (events : List Event) {c : Nat}
    (opened : ((run (System.step lzo server) (.start app) events).shared.conns c).writer.closed =
      false) :
    ((run (System.step lzo server) (.start app) events).shared.conns c).writer.handed <+:
      ((run (System.step lzo server) (.start app) events).shared.conns c).writer.enqueued := by
  obtain ⟨steps, ran⟩ := moves.queued app events c
  rw [ran] at opened ⊢
  exact (Writer.linked_run steps opened).handed_front

/-! ### What has arrived -/

/-- No part of the packets handed over stops the framer of the client. -/
theorem running_of_arrived {session : Session} {frames : List Bytes} (roundTrip : lzo.RoundTrip)
    (carries : Carries lzo.toLzoApi session frames)
    (first : session.writer.handed <+: session.writer.enqueued) {chunks : List Bytes}
    (arrived : chunks.flatten <+: (session.writer.handed.map Packet.bytes).flatten) :
    ((frameCutter lzo.toLzoApi).run chunks.flatten).stopped = none ∧
      ((frameCutter lzo.toLzoApi).run chunks.flatten).messages <+:
        frames.map Message.ofFrame := by
  obtain ⟨delivered, parsed, split, _whole⟩ := carries.decode roundTrip
  have bytes : chunks.flatten <+: session.enqueuedBytes.flatten := by
    obtain ⟨later, queue⟩ := first
    apply arrived.trans
    rw [Session.enqueuedBytes, ← queue, List.map_append, List.flatten_append]
    exact List.prefix_append _ _
  have running : ((frameCutter lzo.toLzoApi).run session.enqueuedBytes.flatten).stopped = none := by
    rw [parsed]
  obtain ⟨goesOn, part⟩ := Cutter.run_front (frameCutter_stable lzo.toLzoApi) bytes running
  rw [parsed] at part
  refine ⟨goesOn, part.trans ?_⟩
  rw [← split]
  exact List.prefix_append _ _

theorem Spoken.begins {server : Talker lzo α ω} {sys : System α ω} (spoken : Spoken server sys)
    {c : Nat} (present : c < sys.shared.accepted) (own : OwnId sys.shared c) :
    (conversation c sys.shared.log).map Exchange.msg <+:
      ofClient (clientIdOf c) (takenOf sys.shared.log) := by
  obtain ⟨shared, tick⟩ := sys
  cases spoken.tick with
  | idle between => exact between.heard.begins c present own
  | draining between => exact between.heard.begins c present own
  | called msg between => exact between.heard.begins c present own
  | missed between => exact between.heard.begins c present own
  | answering thread exchange earlier frames heard answers => exact heard.begins c present own

/-- Dispatch has begun with first messages of what the client has sent. -/
theorem Spoken.asks {server : Talker lzo α ω} {sys : System α ω} {inserted : List (Nat × Message)}
    (spoken : Spoken server sys) (flow : Flow lzo sys inserted) {c : Nat}
    (present : c < sys.shared.accepted) (own : OwnId sys.shared c)
    (accepted : (framerFeed lzo [] (sys.shared.conns c).received).ok = true) :
    (conversation c sys.shared.log).map Exchange.msg <+:
      (framerFeed lzo [] (sys.shared.conns c).received).out.map (stamp (clientIdOf c)) := by
  have running := framerFeed_ok accepted
  have lane := flow.inbound.lanes c present own running
  have fed := congrArg FeedResult.out (@framerFeed_running lzo [] _ running)
  change _ = (Session.parse lzo (sys.shared.conns c)).messages at fed
  rw [fed, ← lane.flow, Shared.passed, List.append_assoc, ofClient_append, List.append_assoc]
  exact (spoken.begins present own).trans (List.prefix_append _ _)

end RanOnline.Net
