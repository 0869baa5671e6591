/-
Every request is answered in the end.

A message that the framer of a session has decoded reaches its handler under every
fair schedule, as long as its session stays in m_sessions; what the handler sends
for it then stands in the conversation of its connection.
-/
import RanOnline.Net.ConversationWire
import RanOnline.Net.PipelineLive

namespace RanOnline.Net

open Memory StepRun StreamCut Threads

variable {α ω : Type} {lzo : Lzo}

/-- The number of accepts only grows. -/
theorem accepted_step {server : GameServer α ω} {sys : System α ω}
    {inserted : List (Nat × Message)} (flow : Flow lzo sys inserted) (event : Event) :
    sys.shared.accepted ≤ (sys.step lzo server.toNetServer event).shared.accepted := by
  cases event with
  | io event => exact sys.shared.io_accepted lzo server.onClose event
  | update =>
      simp only [System.step]
      split <;> exact Nat.le_refl _
  | next =>
      obtain ⟨shared, tick⟩ := sys
      cases tick with
      | idle => exact Nat.le_refl _
      | draining =>
          simp only [System.step, System.advance]
          split
          · exact Nat.le_of_eq (Shared.Outward.finish lzo server.toNetServer shared).accepted.symm
          · exact Nat.le_refl _
      | running thread =>
          cases thread with
          | ret value => exact Nat.le_refl _
          | step act next => exact Nat.le_of_eq (flow.tick shared).1.accepted.symm

theorem accepted_grows {server : GameServer α ω} {app : α} (schedule : Nat → Event)
    {time later : Nat} (after : time ≤ later) :
    (reached lzo server app (eventsBefore schedule time)).shared.accepted ≤
      (reached lzo server app (eventsBefore schedule later)).shared.accepted := by
  induction later, after using Nat.le_induction with
  | base => exact Nat.le_refl _
  | succ later _after ih =>
      rw [eventsBefore_succ, reached_snoc]
      exact Nat.le_trans ih (accepted_step (reached_flow _) (schedule later))

/-- What a connection has inserted and has still to insert is what its framer has
decoded. -/
theorem decoded_line {server : GameServer α ω} {app : α} (events : List Event) {c : Nat}
    (present : c < (reached lzo server app events).shared.accepted)
    (own : OwnId (reached lzo server app events).shared c)
    (accepted : (framerFeed lzo []
      ((reached lzo server app events).shared.conns c).received).ok = true) :
    deliveredBy lzo server app c events ++
        ((reached lzo server app events).shared.conns c).delivering =
      (framerFeed lzo [] ((reached lzo server app events).shared.conns c).received).out.map
        (stamp (clientIdOf c)) := by
  have running := framerFeed_ok accepted
  have flow : Flow lzo (reached lzo server app events) _ := reached_flow events
  have lane := flow.inbound.lanes c present own running
  have fed := congrArg FeedResult.out (@framerFeed_running lzo [] _ running)
  change _ = (Session.parse lzo _).messages at fed
  rw [fed, ← lane.flow, ← oneSession_of_flow events own, deliveredUnder, ← ofClient_inserted flow,
    flow.conserved]

/-- Under a fair schedule, when some later OnUpdate returns, all that a client had sent
by a given time is in its conversation, with an answer to every message. -/
theorem eventually_answered (lzo : Lzo) (server : Talker lzo α ω) (app : α)
    (schedule : Nat → Event) (c : Nat) (delivers : Often (· = .io (.deliver c)) schedule)
    (ticks : Often (· = .update) schedule) (runs : Often (· = .next) schedule) (time : Nat)
    (present : c < (reached lzo server.toGameServer app
      (eventsBefore schedule time)).shared.accepted)
    (accepted : (framerFeed lzo [] ((reached lzo server.toGameServer app
      (eventsBefore schedule time)).shared.conns c).received).ok = true) :
    ∃ later, time ≤ later ∧
      let sys := reached lzo server.toGameServer app (eventsBefore schedule later)
      sys.tick.isIdle = true ∧
        (OwnId sys.shared c → sys.shared.sessions.lookup (clientIdOf c) = some c →
          (framerFeed lzo [] ((reached lzo server.toGameServer app
              (eventsBefore schedule time)).shared.conns c).received).out.map
                (stamp (clientIdOf c)) <+:
            (conversation c sys.shared.log).map Exchange.msg ∧
          ∃ replies : List (List Bytes),
            List.Forall₂ (Exchange.Answered server.answers) (conversation c sys.shared.log)
              replies ∧ (sys.shared.conns c).sent = replies.flatten) := by
  obtain ⟨between, later, after, further, idle, inserted, done⟩ :=
    decoded_dispatched lzo server.toGameServer app delivers ticks runs time
  have since : time ≤ later := Nat.le_trans after further
  refine ⟨later, since, idle, ?_⟩
  intro own listed
  have conversed := (reached_spoken server app (eventsBefore schedule later)).conversed
  have quiet := Tick.isBetween_of_idle _ idle
  constructor
  · have ownEarlier : ∀ {moment}, moment ≤ later →
        OwnId (reached lzo server.toGameServer app (eventsBefore schedule moment)).shared c := by
      intro moment before other existing same
      exact own other (Nat.lt_of_lt_of_le existing (accepted_grows schedule before)) same
    rw [conversed.asked quiet c own listed, ← decoded_line _ present (ownEarlier since) accepted]
    apply inserted.trans
    rw [← oneSession_of_flow _ (ownEarlier further), deliveredUnder,
      ← ofClient_inserted (reached_flow (eventsBefore schedule between))]
    exact done.filter _
  · exact conversed.between quiet c

end RanOnline.Net
