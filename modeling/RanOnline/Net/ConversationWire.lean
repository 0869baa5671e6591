/-
The conversations of a running server on the wire.

What Send is given on a connection leaves in packets and in the bytes that still
wait; a client that reads the packets with a framer of its own finds the answers to
its own messages, in order, and nothing else.
-/
import RanOnline.Net.ConversationRuns
import RanOnline.Net.SessionDelivery

namespace RanOnline.Net

open Memory StepRun StreamCut Threads

variable {α ω : Type} {lzo : Lzo}

/-! ### What Send has been given is on its way -/

/-- A frame that the send buffer accepts and the framer of a client finds again. -/
def Readable (frame : Bytes) : Prop := Framed frame ∧ frame.length ≤ netDataBufsize

/-- As long as every frame was one of those, the session carries all of them. -/
def Session.Wired (lzo : Lzo) (session : Session) : Prop :=
  (∀ frame ∈ session.sent, Readable frame) → Carries lzo.toLzoApi session session.sent

namespace Session

theorem wired_start (clientId : UInt32) (remote : Option Bytes) :
    (start clientId remote).Wired lzo := by
  intro _readable
  exact carries_start lzo.toLzoApi clientId remote

theorem wired_absent : absent.Wired lzo := by
  intro _readable
  exact (carries_start lzo.toLzoApi 0 none).congr rfl rfl

theorem Wired.quiet {before after : Session} (quiet : before.Quiet after)
    (wired : before.Wired lzo) : after.Wired lzo := by
  intro readable
  rw [quiet.sent] at readable ⊢
  apply (wired readable).congr
  · rw [enqueuedBytes, quiet.enqueued]
    rfl
  · rw [quiet.out]

theorem Wired.flush (session : Session) (wired : session.Wired lzo) :
    (session.flush lzo).Wired lzo := by
  intro readable
  rw [Session.flush, drain_sent] at *
  exact (wired readable).flush

theorem Wired.sends {before after : Session} {frames : List Bytes}
    (sends : Session.Sends lzo before after frames) (wired : before.Wired lzo) :
    after.Wired lzo := by
  cases sends with
  | quiet after quiet => exact wired.quiet quiet
  | frame framed =>
      intro readable
      rw [send_sent] at readable ⊢
      have earlier := wired fun frame member => readable frame (List.mem_append_left _ member)
      obtain ⟨whole, small⟩ := readable framed (List.mem_append_right _ List.mem_cons_self)
      exact (earlier.send whole small).2

end Session

/-- An open session holds nothing back. -/
def Flushed (s : Shared α ω) : Prop :=
  ∀ clientId c, s.sessions.lookup clientId = some c → (s.conns c).out.pending = []

theorem Flushed.pool {onClose : UInt32 → α → α} {before after : Shared α ω}
    (flushed : Flushed before) (step : PoolStep onClose before after) : Flushed after := by
  intro clientId c found
  cases step with
  | accepted remote =>
      change (Function.update before.conns before.accepted _ c).out.pending = []
      change (before.sessions.insert (before.nextClientId + 1) before.accepted).lookup clientId = _
        at found
      by_cases fresh : c = before.accepted
      · rw [fresh, Function.update_self]
        exact OutBuffer.pending_new
      · rw [Function.update_of_ne fresh]
        by_cases newest : clientId = before.nextClientId + 1
        · rw [newest, AList.lookup_insert] at found
          cases found
          exact absurd rfl fresh
        · rw [AList.lookup_insert_ne newest] at found
          exact flushed clientId c found
  | notified other leaving =>
      have listed := before.notify_sessions onClose other found
      rw [Shared.notify_of_leaving leaving]
      change ((before.setConn other _).conns c).out.pending = []
      rw [(Shared.setConn_quiet (before.conns other).closeNotify_quiet c).out]
      exact flushed clientId c listed
  | inside other session recv quiet =>
      change ((before.setConn other session).conns c).out.pending = []
      rw [(Shared.setConn_quiet quiet c).out]
      exact flushed clientId c found

/-- The sending side of all sessions, and what the end of a tick leaves of it. -/
structure Sending (server : Talker lzo α ω) (sys : System α ω) : Prop where
  wired : ∀ c, (sys.shared.conns c).Wired lzo
  flushed : server.flushes = true → sys.tick.isIdle = true → Flushed sys.shared

theorem sending_start (server : Talker lzo α ω) (app : α) : Sending server (.start app) := by
  constructor
  · intro c
    exact Session.wired_absent
  · intro _flushes _idle clientId c found
    cases found

theorem Sending.io {server : Talker lzo α ω} {sys : System α ω} (sending : Sending server sys)
    (event : IoEvent) :
    Sending server { sys with shared := sys.shared.io lzo server.onClose event } := by
  have step := sys.shared.io_poolStep lzo server.onClose event
  constructor
  · exact step.conns Session.wired_start (fun quiet wired => wired.quiet quiet) sending.wired
  · intro flushes idle
    exact (sending.flushed flushes idle).pool step

theorem Sending.finish {server : Talker lzo α ω} {sys : System α ω} (sending : Sending server sys) :
    Sending server
      { shared := sys.shared.finish lzo server.toNetServer
        tick := .idle } := by
  constructor
  · intro c
    change ((sys.shared.finish lzo server.toNetServer).conns c).Wired lzo
    unfold Shared.finish
    split
    · exact sys.shared.flushAll_keeps Session.Wired.flush (sending.wired c)
    · exact sending.wired c
  · intro flushes _idle clientId c found
    change ((sys.shared.finish lzo server.toNetServer).conns c).out.pending = []
    change (sys.shared.finish lzo server.toNetServer).sessions.lookup clientId = some c at found
    rw [Shared.finish, if_pos flushes] at found ⊢
    exact Shared.flushAll_pending lzo found

/-- A section of dispatch, or none. -/
theorem Sending.busy {server : Talker lzo α ω} {sys : System α ω} (sending : Sending server sys)
    {later : Shared α ω} {tick : Tick α ω} (busy : tick.isIdle = false)
    (sends : ∀ c, (sys.shared.conns c).Wired lzo → (later.conns c).Wired lzo) :
    Sending server { shared := later, tick := tick } := by
  constructor
  · exact fun c => sends c (sending.wired c)
  · intro _flushes idle
    rw [busy] at idle
    cases idle

theorem Sending.next {server : Talker lzo α ω} {sys : System α ω} (sending : Sending server sys)
    (spoken : Spoken server sys) : Sending server (sys.advance lzo server.toNetServer) := by
  obtain ⟨shared, tick⟩ := sys
  cases spoken.tick with
  | idle between => exact sending
  | draining between =>
      simp only [System.advance]
      split
      · exact sending.finish
      · exact sending.busy rfl fun _c wired => wired
  | called msg between =>
      apply sending.busy rfl
      intro c wired
      change ((lookupSession msg shared).1.conns c).Wired lzo
      unfold lookupSession
      split
      · exact wired
      · exact wired
  | missed between => exact sending.busy rfl fun _c wired => wired
  | answering thread exchange earlier frames heard answers =>
      cases thread with
      | ret value => exact sending.busy rfl fun _c wired => wired
      | step act next =>
          obtain ⟨events, more, told, continues⟩ := answers.tells shared
          exact sending.busy rfl fun c wired => wired.sends (told.sends c)

theorem Sending.step {server : Talker lzo α ω} {sys : System α ω} (sending : Sending server sys)
    (spoken : Spoken server sys) (event : Event) :
    Sending server (sys.step lzo server.toNetServer event) := by
  cases event with
  | io event => exact sending.io event
  | next => exact sending.next spoken
  | update =>
      simp only [System.step]
      split
      · exact sending.busy rfl fun _c wired => wired
      · exact sending

theorem reached_sending (server : Talker lzo α ω) (app : α) (events : List Event) :
    Sending server (reached lzo server.toGameServer app events) := by
  induction events using List.reverseRecOn with
  | nil => exact sending_start server app
  | append_singleton events event ih =>
      have spoken := reached_spoken server app events
      rw [reached] at spoken ih ⊢
      rw [run_snoc]
      exact ih.step spoken event

/-! ### What a client reads -/

theorem forall₂_mem_right {β γ : Type} {relation : β → γ → Prop} {first : List β}
    {second : List γ} (related : List.Forall₂ relation first second) {item : γ}
    (member : item ∈ second) : ∃ other ∈ first, relation other item := by
  induction related with
  | nil => cases member
  | cons head rest ih =>
      rcases List.mem_cons.mp member with here | later
      · rw [here]
        exact ⟨_, List.mem_cons_self, head⟩
      · obtain ⟨other, listed, holds⟩ := ih later
        exact ⟨other, List.mem_cons_of_mem _ listed, holds⟩

/-- Between two ticks, with the session open under an id of its own and all that its
client has sent accepted by the framer and dispatched. -/
structure AtRest (lzo : Lzo) (sys : System α ω) (c : Nat) : Prop where
  idle : sys.tick.isIdle = true
  present : c < sys.shared.accepted
  own : OwnId sys.shared c
  listed : sys.shared.sessions.lookup (clientIdOf c) = some c
  accepted : (framerFeed lzo [] (sys.shared.conns c).received).ok = true
  delivered : (sys.shared.conns c).delivering = []
  drained : ofClient (clientIdOf c) sys.shared.recv.front = []

/-- The packets that are enqueued for the client of a connection, cut in any way, and the bytes
that wait in the send buffer hold these frames. -/
structure Reads (lzo : Lzo) (session : Session) (frames : List Bytes) : Prop where
  packets : ∀ chunks : List Bytes, chunks.flatten = session.enqueuedBytes.flatten →
    ∃ delivered, feedChunks lzo.toLzoApi [] chunks =
        .ok { ok := true, out := delivered, buf := [] } ∧
      delivered ++ (innerCutter.run session.out.pending).messages = frames.map Message.ofFrame
  waiting : (innerCutter.run session.out.pending).rest = []

/-- What is enqueued for the client of a connection at rest holds answers to all that it has
sent, in order; nothing waits in the send buffer where the server flushes. -/
structure Replied (server : Talker lzo α ω) (sys : System α ω) (c : Nat)
    (replies : List (List Bytes)) : Prop where
  asked : (conversation c sys.shared.log).map Exchange.msg =
    (framerFeed lzo [] (sys.shared.conns c).received).out.map (stamp (clientIdOf c))
  answered : List.Forall₂ (Exchange.Answered server.answers) (conversation c sys.shared.log)
    replies
  reads : Reads lzo (sys.shared.conns c) replies.flatten
  flushed : server.flushes = true → (sys.shared.conns c).out.pending = []

theorem Carries.reads {session : Session} {frames : List Bytes}
    (carries : Carries lzo.toLzoApi session frames) (roundTrip : lzo.RoundTrip) :
    Reads lzo session frames := by
  obtain ⟨delivered, parsed, split, whole⟩ := carries.decode roundTrip
  constructor
  · intro chunks cut
    rw [← cut] at parsed
    exact ⟨delivered, feedChunks_of_run lzo.toLzoApi parsed, split⟩
  · exact whole

theorem AtRest.between {sys : System α ω} {c : Nat} (rest : AtRest lzo sys c) :
    sys.tick.isBetween = true := sys.tick.isBetween_of_idle rest.idle

/-- All that the client has sent is in its conversation. -/
theorem AtRest.asked {server : Talker lzo α ω} {sys : System α ω} {c : Nat}
    {inserted : List (Nat × Message)} (rest : AtRest lzo sys c) (flow : Flow lzo sys inserted)
    (conversed : Conversed server sys) :
    (conversation c sys.shared.log).map Exchange.msg =
      (framerFeed lzo [] (sys.shared.conns c).received).out.map (stamp (clientIdOf c)) := by
  have running := framerFeed_ok rest.accepted
  have lane := flow.inbound.lanes c rest.present rest.own running
  have fed := congrArg FeedResult.out (@framerFeed_running lzo [] _ running)
  change _ = (Session.parse lzo (sys.shared.conns c)).messages at fed
  rw [fed, conversed.asked rest.between c rest.own rest.listed, ← lane.flow, rest.delivered,
    Shared.passed, flow.drained rest.idle, List.append_nil, List.append_nil, ofClient_append,
    rest.drained, List.append_nil]

theorem replied_of_rest (roundTrip : lzo.RoundTrip) (server : Talker lzo α ω) (app : α)
    (events : List Event) {c : Nat}
    (rest : AtRest lzo (reached lzo server.toGameServer app events) c)
    (readable : ∀ frame ∈
      ((reached lzo server.toGameServer app events).shared.conns c).sent, Readable frame) :
    ∃ replies, Replied server (reached lzo server.toGameServer app events) c replies := by
  have sending := reached_sending server app events
  have flow : Flow lzo (reached lzo server.toGameServer app events) _ := reached_flow events
  have conversed := (reached_spoken server app events).conversed
  obtain ⟨replies, answered, sent⟩ := conversed.between rest.between c
  have carries := sending.wired c readable
  rw [sent] at carries
  exact ⟨replies,
    { asked := rest.asked flow conversed
      answered := answered
      reads := carries.reads roundTrip
      flushed := fun flushes => sending.flushed flushes rest.idle _ c rest.listed }⟩

/-- The frames of a server that frames all its answers can be read as soon as the
send buffer takes them. -/
theorem readable_of_answers {server : Talker lzo α ω} {sys : System α ω}
    (spoken : Spoken server sys)
    (encodes : ∀ c msg events frames, server.answers c msg events frames →
      ∀ frame ∈ frames, ∃ type payload, frame = encodeMessage type payload)
    {c : Nat} (small : ∀ frame ∈ (sys.shared.conns c).sent, frame.length ≤ netDataBufsize) :
    ∀ frame ∈ (sys.shared.conns c).sent, Readable frame := by
  obtain ⟨replies, promised, sent⟩ := spoken.promised c
  intro frame member
  have fits := small frame member
  obtain ⟨reply, listed, said⟩ := List.mem_flatten.mp (sent.subset member)
  obtain ⟨exchange, _asked, later, answers⟩ := forall₂_mem_right promised listed
  obtain ⟨type, payload, same⟩ := encodes _ _ _ _ answers frame said
  subst same
  refine ⟨framed_encodeMessage type ?_, fits⟩
  rw [encodeMessage_length] at fits
  exact Nat.lt_of_le_of_lt fits (by decide)

end RanOnline.Net
