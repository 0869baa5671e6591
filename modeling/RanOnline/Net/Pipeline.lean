/-
The inbound pipeline of a running server: sessions insert into the MsgManager while
OnUpdate flips it, takes every message of the Back queue and dispatches it.

What dispatch does to the shared state never reaches back into the pipeline, so
that one accounting holds for the queues of all servers: what was inserted is what
was dispatched, and behind it what waits in Back and in Front.
-/
import RanOnline.Lib.Schedule
import RanOnline.Net.Closing

namespace RanOnline.Net

open Memory StepRun Threads

variable {α ω : Type}

/-- A step on the sending side: the queue, the accepts and the reading sides of the
sessions stay as they are. -/
structure Shared.Outward (before after : Shared α ω) : Prop where
  recv : after.recv = before.recv
  nextId : after.nextClientId = before.nextClientId
  accepted : after.accepted = before.accepted
  taken : takenOf after.log = takenOf before.log
  conns : ∀ c, (before.conns c).Silent (after.conns c) ∧
    (after.conns c).clientId = (before.conns c).clientId

/-- A server whose handlers work on the sending side only. -/
structure GameServer (α ω : Type) extends NetServer α ω where
  outward : ∀ c msg, (handle c msg).Guarantees Shared.Outward

/-! ### Sections that leave the pipeline alone -/

namespace Shared

theorem Outward.refl (s : Shared α ω) : s.Outward s :=
  { recv := rfl
    nextId := rfl
    accepted := rfl
    taken := rfl
    conns := fun _c => ⟨.refl _, rfl⟩ }

theorem Outward.setConn (s : Shared α ω) {c : Nat} {session : Session}
    (silent : (s.conns c).Silent session) (same : session.clientId = (s.conns c).clientId) :
    s.Outward (s.setConn c session) := by
  refine { Outward.refl s with conns := ?_ }
  intro other
  by_cases here : other = c
  · subst here
    rw [setConn_same]
    exact ⟨silent, same⟩
  · rw [setConn_other s here]
    exact ⟨.refl _, rfl⟩

theorem Outward.onWriter (s : Shared α ω) (c : Nat) (change : Writer → Writer) :
    s.Outward (s.onWriter c change) :=
  .setConn s ((s.conns c).silent_writer _) rfl

/-- A step on the state that one server adds, with what the history shows of it. -/
theorem Outward.app (s : Shared α ω) (app : α) (event : ω) :
    s.Outward { s with app := app, log := .app event :: s.log } :=
  { Outward.refl s with taken := rfl }

theorem Outward.notify (onClose : UInt32 → α → α) (s : Shared α ω) (c : Nat) :
    s.Outward (s.notify onClose c) := by
  unfold Shared.notify
  split
  · exact { Outward.onWriter s c Writer.closeNotify with taken := rfl }
  · exact .refl s

theorem outward_flushAll (lzo : Lzo) (s : Shared α ω) : s.Outward (s.flushAll lzo) :=
  { Outward.refl s with
    conns := fun c => ⟨s.flushAll_silent lzo c, s.flushAll_clientId lzo c⟩ }

theorem Outward.finish (lzo : Lzo) (server : NetServer α ω) (s : Shared α ω) :
    s.Outward (s.finish lzo server) := by
  unfold Shared.finish
  split
  · exact s.outward_flushAll lzo
  · exact .refl s

theorem Outward.inbound {before after : Shared α ω} (outward : before.Outward after) {lzo : Lzo}
    (inbound : Inbound lzo before) : Inbound lzo after := by
  refine inbound.silent outward.nextId outward.accepted ?_ outward.conns
  rw [passed, passed, outward.recv, outward.taken]

end Shared

theorem outward_closeSession (onClose : UInt32 → α → α) (c : Nat) :
    (closeSession onClose c : Thread (Shared α ω) Unit).Guarantees Shared.Outward :=
  guarantees_closeSession (fun s change => .onWriter s c change) fun s => .notify onClose s c

theorem outward_sendTo (lzo : Lzo) (onClose : UInt32 → α → α) (c : Nat) (framed : Bytes) :
    (sendTo lzo onClose c framed : Thread (Shared α ω) Unit).Guarantees Shared.Outward := by
  apply guarantees_sendTo
  · intro s
    exact .setConn s (Session.send_silent lzo _ framed) (Session.send_clientId lzo _ framed)
  · exact outward_closeSession onClose c

theorem outward_dispatch (server : GameServer α ω) (msg : Message) :
    (dispatch server.toNetServer msg).Guarantees Shared.Outward := by
  apply Thread.Guarantees.bind
  · apply Thread.guarantees_atomically
    intro s
    unfold lookupSession
    split
    · exact { Shared.Outward.refl s with taken := rfl }
    · exact .refl s
  · intro session
    cases session with
    | none => exact Thread.guarantees_pure _ _
    | some c => exact server.outward c msg

/-! ### The accounting -/

/-- What a step inserts, with the connection that it comes from. -/
def System.inserts (sys : System α ω) : Event → List (Nat × Message)
  | .io (.deliver c) =>
      match (sys.shared.conns c).deliver with
      | none => []
      | some (msg, _session) => [(c, msg)]
  | _ => []

/-- The thread of a tick, where there is one, works on the sending side only. -/
def Tick.Outward : Tick α ω → Prop
  | .idle | .draining => True
  | .running thread => thread.Guarantees Shared.Outward

structure Flow (lzo : Lzo) (sys : System α ω) (inserted : List (Nat × Message)) : Prop where
  inbound : Inbound lzo sys.shared
  tick : sys.tick.Outward
  drained : sys.tick.isIdle = true → sys.shared.recv.back = []
  conserved : inserted.map Prod.snd = sys.shared.passed
  stamped : ∀ entry ∈ inserted, entry.2.clientId = clientIdOf entry.1 ∧
    entry.1 < sys.shared.accepted

theorem flow_start (lzo : Lzo) (app : α) : Flow lzo (.start app : System α ω) [] :=
  { inbound := inbound_start lzo app
    tick := trivial
    drained := fun _idle => rfl
    conserved := rfl
    stamped := by
      intro entry impossible
      cases impossible }

/-- A step of OnUpdate itself. -/
theorem Flow.outward {lzo : Lzo} {sys : System α ω} {inserted : List (Nat × Message)}
    (flow : Flow lzo sys inserted) {later : Shared α ω} (outward : sys.shared.Outward later)
    {tick : Tick α ω} (thread : tick.Outward)
    (drained : tick.isIdle = true → sys.shared.recv.back = []) :
    Flow lzo { shared := later, tick := tick } inserted := by
  constructor
  · exact outward.inbound flow.inbound
  · exact thread
  · intro idle
    change later.recv.back = []
    rw [outward.recv]
    exact drained idle
  · change inserted.map Prod.snd = later.passed
    rw [flow.conserved, Shared.passed, Shared.passed, outward.recv, outward.taken]
  · intro entry member
    change _ ∧ entry.1 < later.accepted
    rw [outward.accepted]
    exact flow.stamped entry member

/-- The pool adds to the Front queue and to nothing else of the pipeline. -/
theorem Shared.io_queue (lzo : Lzo) (onClose : UInt32 → α → α) (sys : System α ω)
    (event : IoEvent) :
    (sys.shared.io lzo onClose event).recv.back = sys.shared.recv.back ∧
      (sys.shared.io lzo onClose event).recv.front =
        sys.shared.recv.front ++ (sys.inserts (.io event)).map Prod.snd ∧
      takenOf (sys.shared.io lzo onClose event).log = takenOf sys.shared.log := by
  cases event with
  | accept remote => exact ⟨rfl, (List.append_nil _).symm, rfl⟩
  | read c chunk => exact ⟨rfl, (List.append_nil _).symm, rfl⟩
  | readError c => exact ⟨rfl, (List.append_nil _).symm, rfl⟩
  | endpoint c remote => exact ⟨rfl, (List.append_nil _).symm, rfl⟩
  | deliver c =>
      simp only [Shared.io, System.inserts]
      cases (sys.shared.conns c).deliver with
      | none => exact ⟨rfl, (List.append_nil _).symm, rfl⟩
      | some delivered => exact ⟨rfl, rfl, rfl⟩
  | write c event =>
      simp only [Shared.io]
      split
      · exact ⟨rfl, (List.append_nil _).symm, rfl⟩
      · exact ⟨rfl, (List.append_nil _).symm, rfl⟩
  | notify c =>
      have same := Shared.Outward.notify onClose sys.shared c
      have front := congrArg MsgManager.front same.recv
      exact ⟨congrArg MsgManager.back same.recv, front.trans (List.append_nil _).symm, same.taken⟩

theorem Inbound.delivered_stamped {lzo : Lzo} {s : Shared α ω} (inbound : Inbound lzo s) {c : Nat}
    {msg : Message} {session : Session} (delivered : (s.conns c).deliver = some (msg, session)) :
    msg.clientId = clientIdOf c ∧ c < s.accepted := by
  have queue := Session.deliver_delivering delivered
  have present : c < s.accepted := by
    by_contra fresh
    rw [(inbound.absent c (Nat.not_lt.mp fresh)).2] at queue
    cases queue
  have stamped := inbound.stamped c msg (by rw [queue]; exact List.mem_cons_self)
  exact ⟨stamped.trans (inbound.clientIds c present), present⟩

theorem Flow.io {lzo : Lzo} {sys : System α ω} {inserted : List (Nat × Message)}
    (flow : Flow lzo sys inserted) (onClose : UInt32 → α → α) (event : IoEvent) :
    Flow lzo { sys with shared := sys.shared.io lzo onClose event }
      (inserted ++ sys.inserts (.io event)) := by
  obtain ⟨back, front, taken⟩ := Shared.io_queue lzo onClose sys event
  constructor
  · exact flow.inbound.io onClose event
  · exact flow.tick
  · intro idle
    change (sys.shared.io lzo onClose event).recv.back = []
    rw [back]
    exact flow.drained idle
  · change _ = (sys.shared.io lzo onClose event).passed
    rw [List.map_append, flow.conserved, Shared.passed, Shared.passed, back, front, taken,
      List.append_assoc _ sys.shared.recv.front]
  · intro entry member
    change _ ∧ entry.1 < (sys.shared.io lzo onClose event).accepted
    have more := sys.shared.io_accepted lzo onClose event
    rcases List.mem_append.mp member with earlier | new
    · obtain ⟨own, present⟩ := flow.stamped entry earlier
      exact ⟨own, Nat.lt_of_lt_of_le present more⟩
    · cases event with
      | deliver c =>
          simp only [System.inserts] at new
          split at new
          · cases new
          · rename_i msg session delivered
            rw [List.mem_singleton.mp new]
            obtain ⟨own, present⟩ := flow.inbound.delivered_stamped delivered
            exact ⟨own, Nat.lt_of_lt_of_le present more⟩
      | accept remote => cases new
      | read c chunk => cases new
      | readError c => cases new
      | endpoint c remote => cases new
      | write c event => cases new
      | notify c => cases new

theorem Flow.step {lzo : Lzo} {server : GameServer α ω} {sys : System α ω}
    {inserted : List (Nat × Message)} (flow : Flow lzo sys inserted) (event : Event) :
    Flow lzo (sys.step lzo server.toNetServer event) (inserted ++ sys.inserts event) := by
  cases event with
  | io event => exact flow.io server.onClose event
  | update =>
      change Flow lzo _ (inserted ++ [])
      rw [List.append_nil]
      simp only [System.step]
      split
      · constructor
        · exact flow.inbound.flip
        · trivial
        · intro impossible
          cases impossible
        · change _ = takenOf sys.shared.log ++ (sys.shared.recv.back ++ sys.shared.recv.front) ++ []
          rw [flow.conserved, Shared.passed, List.append_nil, List.append_assoc]
        · exact flow.stamped
      · exact flow
  | next =>
      change Flow lzo _ (inserted ++ [])
      rw [List.append_nil]
      have thread := flow.tick
      simp only [System.step, System.advance]
      split
      · exact flow
      · split
        · rename_i empty
          exact flow.outward (.finish lzo _ _) trivial fun _idle => MsgManager.getMsg_none empty
        · rename_i msg recv taken
          obtain ⟨back, front⟩ := MsgManager.getMsg_some taken
          constructor
          · exact flow.inbound.take taken
          · exact outward_dispatch server msg
          · intro impossible
            cases impossible
          · change _ = takenOf sys.shared.log ++ [msg] ++ recv.back ++ recv.front
            rw [flow.conserved, Shared.passed, back, front]
            simp only [List.append_assoc, List.cons_append, List.nil_append]
          · exact flow.stamped
      · exact flow.outward (.refl _) trivial fun impossible => by cases impossible
      · rename_i act next phase
        rw [phase] at thread
        obtain ⟨outward, rest⟩ := thread sys.shared
        exact flow.outward outward rest fun impossible => by cases impossible

/-! ### One OnUpdate -/

/-- OnUpdate begins with the next event and returns with the last of these. -/
structure OneUpdate (lzo : Lzo) (server : NetServer α ω) (sys : System α ω)
    (during : List Event) : Prop where
  starts : sys.tick.isIdle = true
  busy : ∀ first rest, during = first ++ rest → rest ≠ [] →
    (run (System.step lzo server) sys (.update :: first)).tick.isIdle = false
  returns : (run (System.step lzo server) sys (.update :: during)).tick.isIdle = true

/-- While OnUpdate runs, the messages that it has dispatched and those still in the
Back queue stay the same ones, whatever sessions insert. -/
theorem Flow.busy_step {lzo : Lzo} {server : GameServer α ω} {sys : System α ω}
    {inserted : List (Nat × Message)} (flow : Flow lzo sys inserted)
    (busy : sys.tick.isIdle = false) (event : Event) :
    takenOf (sys.step lzo server.toNetServer event).shared.log ++
        (sys.step lzo server.toNetServer event).shared.recv.back =
      takenOf sys.shared.log ++ sys.shared.recv.back := by
  cases event with
  | io event =>
      obtain ⟨back, _front, taken⟩ := Shared.io_queue lzo server.onClose sys event
      change takenOf (sys.shared.io lzo server.onClose event).log ++
        (sys.shared.io lzo server.onClose event).recv.back = _
      rw [back, taken]
  | update =>
      simp only [System.step]
      split
      · rename_i idle
        rw [idle] at busy
        cases busy
      · rfl
  | next =>
      have thread := flow.tick
      simp only [System.step, System.advance]
      split
      · rfl
      · split
        · have outward := Shared.Outward.finish lzo server.toNetServer sys.shared
          rw [outward.taken, outward.recv]
        · rename_i msg recv taken
          obtain ⟨back, _front⟩ := MsgManager.getMsg_some taken
          change takenOf sys.shared.log ++ [msg] ++ recv.back = _
          rw [back, List.append_assoc, List.singleton_append]
      · rfl
      · rename_i act next phase
        rw [phase] at thread
        have outward := (thread sys.shared).1
        change takenOf (act sys.shared).log ++ (act sys.shared).recv.back = _
        rw [outward.taken, outward.recv]

section Server

variable (lzo : Lzo) (server : GameServer α ω) (app : α)

/-- The state after a run from before the first accept. -/
def reached (events : List Event) : System α ω :=
  run (System.step lzo server.toNetServer) (.start app) events

/-- The MsgQueueInsert calls of a run, each with the connection that makes it. -/
def insertedBy (events : List Event) : List (Nat × Message) :=
  outputs (System.step lzo server.toNetServer) System.inserts (.start app) events

/-- What GetMsg has given to dispatch. -/
def dispatched (events : List Event) : List Message :=
  takenOf (reached lzo server app events).shared.log

/-- What the session of one connection has delivered. -/
def deliveredBy (c : Nat) (events : List Event) : List Message :=
  ((insertedBy lzo server app events).filter fun entry => entry.1 = c).map Prod.snd

/-- What the sessions under one client id have delivered. -/
def deliveredUnder (clientId : UInt32) (events : List Event) : List Message :=
  ((insertedBy lzo server app events).filter fun entry => clientIdOf entry.1 = clientId).map
    Prod.snd

/-- The order and the conservation of messages between the sessions and dispatch,
over every run.  In `conserved` every call of MsgQueueInsert has one place, so that
GetMsg has given out the first of these messages, each of them once. -/
structure InboundPipeline : Prop where
  conserved : ∀ events,
    (insertedBy lzo server app events).map Prod.snd =
      dispatched lzo server app events ++ (reached lzo server app events).shared.recv.back ++
        (reached lzo server app events).shared.recv.front
  ordered : ∀ events clientId,
    ofClient clientId (dispatched lzo server app events) <+:
      deliveredUnder lzo server app clientId events
  oneSession : ∀ events c, OwnId (reached lzo server app events).shared c →
    deliveredUnder lzo server app (clientIdOf c) events = deliveredBy lzo server app c events
  updates : ∀ before during,
    OneUpdate lzo server.toNetServer (reached lzo server app before) during →
      dispatched lzo server app (before ++ .update :: during) =
        (insertedBy lzo server app before).map Prod.snd
  finishes : ∀ schedule : Nat → Event, Often (· = .next) schedule → ∀ time, ∃ later, time ≤ later ∧
    (stateAt (System.step lzo server.toNetServer) (.start app) schedule later).tick.isIdle = true

variable {lzo server app}

theorem reached_flow (events : List Event) :
    Flow lzo (reached lzo server app events) (insertedBy lzo server app events) := by
  induction events using List.reverseRecOn with
  | nil => exact flow_start lzo app
  | append_singleton events event ih =>
      rw [reached, insertedBy, run_snoc, outputs_snoc]
      exact ih.step event

theorem ofClient_inserted {sys : System α ω} {inserted : List (Nat × Message)}
    (flow : Flow lzo sys inserted) (clientId : UInt32) :
    ofClient clientId (inserted.map Prod.snd) =
      (inserted.filter fun entry => clientIdOf entry.1 = clientId).map Prod.snd := by
  rw [ofClient, List.filter_map]
  congr 1
  apply List.filter_congr
  intro entry member
  simp only [Function.comp_apply, (flow.stamped entry member).1]

theorem ordered_of_flow (events : List Event) (clientId : UInt32) :
    ofClient clientId (dispatched lzo server app events) <+:
      deliveredUnder lzo server app clientId events := by
  have flow : Flow lzo (reached lzo server app events) _ := reached_flow events
  rw [deliveredUnder, ← ofClient_inserted flow, flow.conserved, Shared.passed, List.append_assoc,
    ofClient_append]
  exact List.prefix_append ..

theorem oneSession_of_flow (events : List Event) {c : Nat}
    (own : OwnId (reached lzo server app events).shared c) :
    deliveredUnder lzo server app (clientIdOf c) events = deliveredBy lzo server app c events := by
  have flow : Flow lzo (reached lzo server app events) _ := reached_flow events
  rw [deliveredUnder, deliveredBy]
  congr 1
  apply List.filter_congr
  intro entry member
  rw [decide_eq_decide]
  constructor
  · exact own entry.1 (flow.stamped entry member).2
  · intro same
    rw [same]

theorem flip_accounts {sys : System α ω} {inserted : List (Nat × Message)}
    (flow : Flow lzo sys inserted) (idle : sys.tick.isIdle = true) :
    takenOf (sys.step lzo server.toNetServer .update).shared.log ++
        (sys.step lzo server.toNetServer .update).shared.recv.back = inserted.map Prod.snd := by
  simp only [System.step]
  split
  · change takenOf sys.shared.log ++ (sys.shared.recv.back ++ sys.shared.recv.front) = _
    rw [flow.conserved, Shared.passed, List.append_assoc]
  · rename_i other
    cases phase : sys.tick with
    | idle => exact absurd phase other
    | draining =>
        rw [phase] at idle
        cases idle
    | running thread =>
        rw [phase] at idle
        cases idle

theorem busy_accounts {before during : List Event}
    (idle : (reached lzo server app before).tick.isIdle = true)
    (busy : ∀ first rest, during = first ++ rest → rest ≠ [] →
      (reached lzo server app (before ++ .update :: first)).tick.isIdle = false) :
    takenOf (reached lzo server app (before ++ .update :: during)).shared.log ++
        (reached lzo server app (before ++ .update :: during)).shared.recv.back =
      (insertedBy lzo server app before).map Prod.snd := by
  induction during using List.reverseRecOn with
  | nil =>
      rw [reached, run_snoc]
      exact flip_accounts (reached_flow before) idle
  | append_singleton during event ih =>
      have earlier : ∀ first rest, during = first ++ rest → rest ≠ [] →
          (reached lzo server app (before ++ .update :: first)).tick.isIdle = false := by
        intro first rest split nonempty
        apply busy first (rest ++ [event])
        · rw [split, List.append_assoc]
        · intro impossible
          exact nonempty (List.append_eq_nil_iff.mp impossible).1
      have now := busy during [event] rfl (by intro impossible; cases impossible)
      have flow : Flow lzo (reached lzo server app (before ++ .update :: during)) _ :=
        reached_flow _
      rw [← ih earlier, ← flow.busy_step now event]
      rw [← List.cons_append, ← List.append_assoc, reached, run_snoc]
      rfl

theorem updates_of_flow {before during : List Event}
    (update : OneUpdate lzo server.toNetServer (reached lzo server app before) during) :
    dispatched lzo server app (before ++ .update :: during) =
      (insertedBy lzo server app before).map Prod.snd := by
  have continues : ∀ events, reached lzo server app (before ++ events) =
      run (System.step lzo server.toNetServer) (reached lzo server app before) events :=
    fun events => run_append _ _ before events
  have busy : ∀ first rest, during = first ++ rest → rest ≠ [] →
      (reached lzo server app (before ++ .update :: first)).tick.isIdle = false := by
    intro first rest split nonempty
    rw [continues]
    exact update.busy first rest split nonempty
  have accounts := busy_accounts update.starts busy
  have flow : Flow lzo (reached lzo server app (before ++ .update :: during)) _ :=
    reached_flow _
  have returned := update.returns
  rw [← continues] at returned
  rw [flow.drained returned, List.append_nil] at accounts
  exact accounts

/-! ### Every OnUpdate returns -/

section Schedule

variable {sys : System α ω} {schedule : Nat → Event}

/-- The tick stands at this point, and the Back queue holds these messages. -/
def StandsAt (tick : Tick α ω) (back : List Message) (sys : System α ω) : Prop :=
  sys.tick = tick ∧ sys.shared.recv.back = back

/-- Events of other threads do not move the tick, and only add to Front. -/
theorem standsAt_kept {tick : Tick α ω} (busy : tick.isIdle = false) {back : List Message}
    (sys : System α ω) (event : Event) (other : event ≠ .next) (stands : StandsAt tick back sys) :
    StandsAt tick back (sys.step lzo server.toNetServer event) := by
  obtain ⟨phase, queue⟩ := stands
  cases event with
  | io event =>
      constructor
      · exact phase
      · exact (Shared.io_queue lzo server.onClose sys event).1.trans queue
  | update =>
      simp only [System.step]
      split
      · rename_i idle
        rw [← phase, idle] at busy
        cases busy
      · exact ⟨phase, queue⟩
  | next => exact absurd rfl other

/-- Dispatch of one message returns to the loop, which is still to take the same
messages. -/
theorem dispatch_returns (often : Often (· = .next) schedule) (back : List Message)
    (thread : Thread (Shared α ω) Unit) (outward : thread.Guarantees Shared.Outward) (time : Nat)
    (stands : StandsAt (.running thread) back
      (stateAt (System.step lzo server.toNetServer) sys schedule time)) :
    ∃ later, time ≤ later ∧ StandsAt .draining back
      (stateAt (System.step lzo server.toNetServer) sys schedule later) := by
  induction thread generalizing time with
  | ret value =>
      have driven : ∀ (state : System α ω) event, event = .next →
          StandsAt (.running (.ret value)) back state →
            StandsAt .draining back (state.step lzo server.toNetServer event) := by
        rintro state event rfl ⟨phase, queue⟩
        simp only [System.step, System.advance, phase]
        exact ⟨rfl, queue⟩
      obtain ⟨later, after, reached⟩ := often.leads (standsAt_kept rfl) driven stands
      exact ⟨later, Nat.le_of_lt after, reached⟩
  | step act next ih =>
      let continued : System α ω → Prop :=
        fun sys => ∃ found, StandsAt (.running (next found)) back sys
      have driven : ∀ (state : System α ω) event, event = .next →
          StandsAt (.running (.step act next)) back state →
            continued (state.step lzo server.toNetServer event) := by
        rintro state event rfl ⟨phase, queue⟩
        simp only [System.step, System.advance, phase]
        refine ⟨state.shared, rfl, ?_⟩
        change (act state.shared).recv.back = back
        rw [(outward state.shared).1.recv]
        exact queue
      obtain ⟨later, after, found, reached⟩ := often.leads (standsAt_kept rfl) driven stands
      obtain ⟨last, further, ended⟩ := ih found (outward found).2 later reached
      exact ⟨last, by omega, ended⟩

/-- The loop takes the messages of Back one by one and then returns. -/
theorem loop_returns (often : Often (· = .next) schedule) (back : List Message) (time : Nat)
    (stands : StandsAt .draining back
      (stateAt (System.step lzo server.toNetServer) sys schedule time)) :
    ∃ later, time ≤ later ∧
      (stateAt (System.step lzo server.toNetServer) sys schedule later).tick.isIdle = true := by
  induction back generalizing time with
  | nil =>
      let returned : System α ω → Prop := fun sys => sys.tick.isIdle = true
      have driven : ∀ (state : System α ω) event, event = .next → StandsAt .draining [] state →
          returned (state.step lzo server.toNetServer event) := by
        rintro state event rfl ⟨phase, queue⟩
        simp only [System.step, System.advance, phase, MsgManager.getMsg, queue]
        rfl
      obtain ⟨later, after, idle⟩ := often.leads (standsAt_kept rfl) driven stands
      exact ⟨later, Nat.le_of_lt after, idle⟩
  | cons msg back ih =>
      have driven : ∀ (state : System α ω) event, event = .next →
          StandsAt .draining (msg :: back) state →
            StandsAt (.running (dispatch server.toNetServer msg)) back
              (state.step lzo server.toNetServer event) := by
        rintro state event rfl ⟨phase, queue⟩
        simp only [System.step, System.advance, phase, MsgManager.getMsg, queue]
        exact ⟨rfl, rfl⟩
      obtain ⟨later, after, running⟩ := often.leads (standsAt_kept rfl) driven stands
      obtain ⟨looped, further, drains⟩ :=
        dispatch_returns often back _ (outward_dispatch server msg) later running
      obtain ⟨last, latest, idle⟩ := ih looped drains
      exact ⟨last, by omega, idle⟩

theorem update_returns (often : Often (· = .next) schedule) (time : Nat) :
    ∃ later, time ≤ later ∧
      (stateAt (System.step lzo server.toNetServer) (.start app) schedule later).tick.isIdle =
        true := by
  have flow : Flow lzo (reached lzo server app ((List.range time).map schedule)) _ :=
    reached_flow _
  rw [reached, ← stateAt_eq_run] at flow
  have outward := flow.tick
  cases phase : (stateAt (System.step lzo server.toNetServer) (.start app) schedule time).tick with
  | idle => exact ⟨time, Nat.le_refl _, by rw [phase]; rfl⟩
  | draining => exact loop_returns often _ time ⟨phase, rfl⟩
  | running thread =>
      rw [phase] at outward
      obtain ⟨looped, after, drains⟩ := dispatch_returns often _ thread outward time ⟨phase, rfl⟩
      obtain ⟨last, further, idle⟩ := loop_returns often _ looped drains
      exact ⟨last, by omega, idle⟩

end Schedule

end Server

/-- Between the sessions and dispatch no message is lost, doubled or overtaken, and
each OnUpdate dispatches what was inserted before its flip and then returns. -/
theorem inbound_pipeline (lzo : Lzo) (server : GameServer α ω) (app : α) :
    InboundPipeline lzo server app where
  conserved := by
    intro events
    exact (reached_flow events).conserved
  ordered := ordered_of_flow
  oneSession := fun events _c own => oneSession_of_flow events own
  updates := fun _before _during update => updates_of_flow update
  finishes := fun _schedule often time => update_returns often time

end RanOnline.Net
