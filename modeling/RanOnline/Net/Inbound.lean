/-
The way of a message from the framer of its session to dispatch.
-/
import RanOnline.Net.ServerHistory

namespace RanOnline.Net

open Memory StepRun StreamCut Threads

variable {α ω : Type}

/-- A step that leaves alone what the reading side of a session works on. -/
structure Session.Silent (before after : Session) : Prop where
  mBuf : after.mBuf = before.mBuf
  delivering : after.delivering = before.delivering
  reading : after.reading = before.reading
  received : after.received = before.received

namespace Session

theorem Silent.refl (s : Session) : s.Silent s :=
  { mBuf := rfl
    delivering := rfl
    reading := rfl
    received := rfl }

theorem Silent.trans {first second third : Session} (before : first.Silent second)
    (after : second.Silent third) : first.Silent third :=
  { mBuf := after.mBuf.trans before.mBuf
    delivering := after.delivering.trans before.delivering
    reading := after.reading.trans before.reading
    received := after.received.trans before.received }

theorem silent_writer (s : Session) (writer : Writer) : s.Silent { s with writer := writer } :=
  { mBuf := rfl
    delivering := rfl
    reading := rfl
    received := rfl }

theorem drain_silent (lzo : Lzo) (s : Session) : s.Silent (s.drain lzo) := by
  simp only [drain]
  split
  · exact { mBuf := rfl, delivering := rfl, reading := rfl, received := rfl }
  · exact { mBuf := rfl, delivering := rfl, reading := rfl, received := rfl }

theorem send_silent (lzo : Lzo) (s : Session) (framed : Bytes) :
    s.Silent (s.send lzo framed).1 := by
  simp only [send]
  split
  · exact { mBuf := rfl, delivering := rfl, reading := rfl, received := rfl }
  · exact { mBuf := rfl, delivering := rfl, reading := rfl, received := rfl }
  · have drained := drain_silent lzo { s with sent := s.sent ++ [framed], out := (s.out.addMsg framed).1 }
    exact { drained with }
  · have drained := drain_silent lzo { s with sent := s.sent ++ [framed], out := (s.out.addMsg framed).1 }
    exact { drained with }

end Session

theorem MsgManager.getMsg_some {queue rest : MsgManager} {msg : Message}
    (taken : queue.getMsg = some (msg, rest)) :
    queue.back = msg :: rest.back ∧ rest.front = queue.front := by
  unfold getMsg at taken
  split at taken
  · cases taken
  · rename_i back
    cases taken
    exact ⟨back, rfl⟩

theorem MsgManager.getMsg_none {queue : MsgManager} (drained : queue.getMsg = none) :
    queue.back = [] := by
  unfold getMsg at drained
  split at drained
  · assumption
  · cases drained

/-! ### What the framer admits -/

/-- Every message on its way to dispatch came out of a framer. -/
structure Traffic (s : Shared α ω) : Prop where
  delivering : ∀ c msg, msg ∈ (s.conns c).delivering → msg.Admitted
  queued : ∀ msg, msg ∈ s.recv.back ++ s.recv.front → msg.Admitted

theorem Traffic.setConn {s : Shared α ω} (traffic : Traffic s) {c : Nat} {session : Session}
    (admitted : ∀ msg ∈ session.delivering, msg.Admitted) : Traffic (s.setConn c session) := by
  refine { traffic with delivering := ?_ }
  intro other msg member
  by_cases here : other = c
  · subst here
    rw [Shared.setConn_same] at member
    exact admitted msg member
  · rw [Shared.setConn_other s here] at member
    exact traffic.delivering other msg member

theorem Traffic.silent {s : Shared α ω} (traffic : Traffic s) {c : Nat} {session : Session}
    (silent : (s.conns c).Silent session) : Traffic (s.setConn c session) := by
  apply traffic.setConn
  rw [silent.delivering]
  exact traffic.delivering c

theorem Traffic.io {s : Shared α ω} (traffic : Traffic s) (lzo : Lzo) (onClose : UInt32 → α → α)
    (event : IoEvent) : Traffic (s.io lzo onClose event) := by
  cases event with
  | accept remote =>
      have fresh : Traffic (s.setConn s.accepted (.start (s.nextClientId + 1) remote)) := by
        apply traffic.setConn
        intro msg impossible
        cases impossible
      exact { fresh with }
  | read c chunk =>
      apply traffic.setConn
      intro msg member
      rcases (s.conns c).read_delivering lzo chunk member with earlier | ⟨_own, admitted⟩
      · exact traffic.delivering c msg earlier
      · exact admitted
  | readError c =>
      apply traffic.setConn
      intro msg member
      apply traffic.delivering c msg
      unfold Session.readError at member
      split at member
      · exact member
      · exact member
  | deliver c =>
      simp only [Shared.io]
      split
      · exact traffic
      · rename_i msg session delivered
        have queue := Session.deliver_delivering delivered
        have rest : Traffic (s.setConn c session) := by
          apply traffic.setConn
          intro other member
          apply traffic.delivering c other
          rw [queue]
          exact List.mem_cons_of_mem _ member
        refine { rest with queued := ?_ }
        intro other member
        change other ∈ s.recv.back ++ (s.recv.front ++ [msg]) at member
        rw [← List.append_assoc] at member
        rcases List.mem_append.mp member with earlier | last
        · exact traffic.queued other earlier
        · rw [List.mem_singleton.mp last]
          apply traffic.delivering c
          rw [queue]
          exact List.mem_cons_self
  | endpoint c remote => exact traffic.setConn (traffic.delivering c)
  | write c event =>
      simp only [Shared.io]
      split
      · exact traffic.setConn (traffic.delivering c)
      · exact traffic
  | notify c =>
      simp only [Shared.io, Shared.notify]
      split
      · have quiet : Traffic (s.onWriter c Writer.closeNotify) :=
          traffic.setConn (traffic.delivering c)
        exact { quiet with }
      · exact traffic

theorem Traffic.flip {s : Shared α ω} (traffic : Traffic s) : Traffic s.flip := by
  refine { traffic with queued := ?_ }
  intro msg member
  change msg ∈ (s.recv.back ++ s.recv.front) ++ [] at member
  rw [List.append_nil] at member
  exact traffic.queued msg member

theorem Traffic.take {s : Shared α ω} (traffic : Traffic s) {msg : Message} {recv : MsgManager}
    (taken : s.recv.getMsg = some (msg, recv)) : msg.Admitted ∧ Traffic (s.take msg recv) := by
  obtain ⟨back, front⟩ := MsgManager.getMsg_some taken
  have queued := traffic.queued
  rw [back, ← front, List.cons_append] at queued
  refine ⟨queued msg List.mem_cons_self, { traffic with queued := ?_ }⟩
  intro other member
  exact queued other (List.mem_cons_of_mem _ member)

theorem Shared.flushAll_silent (lzo : Lzo) (s : Shared α ω) (c : Nat) :
    (s.conns c).Silent ((s.flushAll lzo).conns c) :=
  s.flushAll_keeps (fun session silent => silent.trans (Session.drain_silent lzo session)) (.refl _)

theorem Traffic.flushAll {s : Shared α ω} (traffic : Traffic s) (lzo : Lzo) :
    Traffic (s.flushAll lzo) := by
  refine { traffic with delivering := ?_ }
  intro c
  rw [(s.flushAll_silent lzo c).delivering]
  exact traffic.delivering c

/-! ### From the bytes of a connection to the queue -/

/-- What the framer makes of all that a session has received. -/
def Session.parse (lzo : Lzo) (s : Session) : Parse UInt8 Message FeedStop :=
  (frameCutter lzo.toLzoApi).run s.received

def stamp (clientId : UInt32) (msg : Message) : Message := { msg with clientId := clientId }

/-- The messages that dispatch has taken, oldest first. -/
def takenOf : List (Observation ω) → List Message
  | [] => []
  | .taken msg :: earlier => takenOf earlier ++ [msg]
  | _ :: earlier => takenOf earlier

/-- All messages that sessions have delivered, oldest first. -/
def Shared.passed (s : Shared α ω) : List Message := takenOf s.log ++ s.recv.back ++ s.recv.front

def ofClient (clientId : UInt32) (messages : List Message) : List Message :=
  messages.filter fun msg => msg.clientId = clientId

theorem ofClient_append (clientId : UInt32) (first second : List Message) :
    ofClient clientId (first ++ second) = ofClient clientId first ++ ofClient clientId second :=
  List.filter_append ..

theorem ofClient_own {clientId : UInt32} {msg : Message} (own : msg.clientId = clientId) :
    ofClient clientId [msg] = [msg] := by
  rw [ofClient, List.filter_cons_of_pos (by simpa using own), List.filter_nil]

theorem ofClient_other {clientId : UInt32} {msg : Message} (other : msg.clientId ≠ clientId) :
    ofClient clientId [msg] = [] := by
  rw [ofClient, List.filter_cons_of_neg (by simpa using other), List.filter_nil]

/-- No other accepted connection has been given the client id of this one. -/
def OwnId (s : Shared α ω) (c : Nat) : Prop :=
  ∀ other, other < s.accepted → clientIdOf other = clientIdOf c → other = c

/-- The messages of a connection whose stream is accepted, from its framer to
dispatch: none is lost, none is doubled, and their order stays. -/
structure Lane (lzo : Lzo) (passed : List Message) (c : Nat) (session : Session) : Prop where
  buffered : session.mBuf = (session.parse lzo).rest
  flow : ofClient (clientIdOf c) passed ++ session.delivering =
    (session.parse lzo).messages.map (stamp (clientIdOf c))

/-- The inbound side of a server with its connections. -/
structure Inbound (lzo : Lzo) (s : Shared α ω) : Prop where
  nextId : s.nextClientId = UInt32.ofNat s.accepted
  clientIds : ∀ c, c < s.accepted → (s.conns c).clientId = clientIdOf c
  absent : ∀ c, s.accepted ≤ c → (s.conns c).reading = false ∧ (s.conns c).delivering = []
  waits : ∀ c, (s.conns c).reading = true → (s.conns c).delivering = []
  stamped : ∀ c, ∀ msg ∈ (s.conns c).delivering, msg.clientId = (s.conns c).clientId
  known : ∀ msg ∈ s.passed, ∃ c, c < s.accepted ∧ msg.clientId = clientIdOf c
  lanes : ∀ c, c < s.accepted → OwnId s c → ((s.conns c).parse lzo).stopped = none →
    Lane lzo s.passed c (s.conns c)

theorem inbound_start (lzo : Lzo) (app : α) : Inbound lzo (.start app : Shared α ω) :=
  { nextId := rfl
    clientIds := by
      intro c present
      cases present
    absent := fun _c _fresh => ⟨rfl, rfl⟩
    waits := fun _c _reading => rfl
    stamped := by
      intro c msg impossible
      cases impossible
    known := by
      intro msg impossible
      cases impossible
    lanes := by
      intro c present
      cases present }

theorem Lane.of_silent {lzo : Lzo} {passed : List Message} {c : Nat} {session later : Session}
    (lane : Lane lzo passed c session) (silent : session.Silent later) :
    Lane lzo passed c later := by
  have parse : later.parse lzo = session.parse lzo := by
    rw [Session.parse, silent.received]
    rfl
  constructor
  · rw [parse, silent.mBuf]
    exact lane.buffered
  · rw [parse, silent.delivering]
    exact lane.flow

/-- A step that concerns neither the reading side nor the queue. -/
theorem Inbound.silent {lzo : Lzo} {s later : Shared α ω} (inbound : Inbound lzo s)
    (nextId : later.nextClientId = s.nextClientId) (accepted : later.accepted = s.accepted)
    (passed : later.passed = s.passed)
    (silent : ∀ c, (s.conns c).Silent (later.conns c) ∧
      (later.conns c).clientId = (s.conns c).clientId) : Inbound lzo later := by
  constructor
  · rw [nextId, accepted]
    exact inbound.nextId
  · intro c present
    rw [(silent c).2]
    exact inbound.clientIds c (accepted ▸ present)
  · intro c fresh
    rw [(silent c).1.reading, (silent c).1.delivering]
    exact inbound.absent c (accepted ▸ fresh)
  · intro c
    rw [(silent c).1.reading, (silent c).1.delivering]
    exact inbound.waits c
  · intro c
    rw [(silent c).1.delivering, (silent c).2]
    exact inbound.stamped c
  · rw [passed, accepted]
    exact inbound.known
  · intro c present own running
    rw [Session.parse, (silent c).1.received] at running
    rw [passed]
    rw [accepted] at present
    rw [OwnId, accepted] at own
    exact (inbound.lanes c present own running).of_silent (silent c).1

theorem Inbound.setConn {lzo : Lzo} {s : Shared α ω} (inbound : Inbound lzo s) {c : Nat}
    {session : Session} (silent : (s.conns c).Silent session)
    (same : session.clientId = (s.conns c).clientId) : Inbound lzo (s.setConn c session) := by
  refine inbound.silent rfl rfl rfl ?_
  intro other
  by_cases here : other = c
  · subst here
    rw [Shared.setConn_same]
    exact ⟨silent, same⟩
  · rw [Shared.setConn_other s here]
    exact ⟨.refl _, rfl⟩

/-- A step on the reading side of one connection, which may add messages of its own
to the queue. -/
theorem Inbound.reader {lzo : Lzo} {s : Shared α ω} (inbound : Inbound lzo s) {c : Nat}
    {session : Session} (recv : MsgManager) (more : List Message)
    (same : session.clientId = (s.conns c).clientId)
    (absent : s.accepted ≤ c → session.reading = false ∧ session.delivering = [])
    (waits : session.reading = true → session.delivering = [])
    (stamped : ∀ msg ∈ session.delivering, msg.clientId = session.clientId)
    (queued : recv.back ++ recv.front = s.recv.back ++ s.recv.front ++ more)
    (own : ∀ msg ∈ more, c < s.accepted ∧ msg.clientId = clientIdOf c)
    (lane : c < s.accepted → OwnId s c → (session.parse lzo).stopped = none →
      Lane lzo (s.passed ++ more) c session) :
    Inbound lzo { s.setConn c session with recv := recv } := by
  have passed : ({ s.setConn c session with recv := recv } : Shared α ω).passed =
      s.passed ++ more := by
    change takenOf s.log ++ recv.back ++ recv.front = _
    rw [List.append_assoc, queued, Shared.passed]
    simp only [List.append_assoc]
  constructor
  · exact inbound.nextId
  · intro other present
    by_cases here : other = c
    · subst here
      exact (congrArg Session.clientId (s.setConn_same other session)).trans
        (same.trans (inbound.clientIds other present))
    · exact (congrArg Session.clientId (s.setConn_other here session)).trans
        (inbound.clientIds other present)
  · intro other fresh
    change ((s.setConn c session).conns other).reading = false ∧
      ((s.setConn c session).conns other).delivering = []
    by_cases here : other = c
    · subst here
      rw [Shared.setConn_same]
      exact absent fresh
    · rw [Shared.setConn_other s here]
      exact inbound.absent other fresh
  · intro other
    change ((s.setConn c session).conns other).reading = true →
      ((s.setConn c session).conns other).delivering = []
    by_cases here : other = c
    · subst here
      rw [Shared.setConn_same]
      exact waits
    · rw [Shared.setConn_other s here]
      exact inbound.waits other
  · intro other
    change ∀ msg ∈ ((s.setConn c session).conns other).delivering,
      msg.clientId = ((s.setConn c session).conns other).clientId
    by_cases here : other = c
    · subst here
      rw [Shared.setConn_same]
      exact stamped
    · rw [Shared.setConn_other s here]
      exact inbound.stamped other
  · rw [passed]
    intro msg member
    rcases List.mem_append.mp member with earlier | new
    · exact inbound.known msg earlier
    · exact ⟨c, own msg new⟩
  · intro other present unshared
    rw [passed]
    change (((s.setConn c session).conns other).parse lzo).stopped = none →
      Lane lzo (s.passed ++ more) other ((s.setConn c session).conns other)
    by_cases here : other = c
    · subst here
      rw [Shared.setConn_same]
      exact lane present unshared
    · rw [Shared.setConn_other s here]
      intro running
      have earlier := inbound.lanes other present unshared running
      have none : ofClient (clientIdOf other) more = [] := by
        apply List.filter_eq_nil_iff.mpr
        intro msg member
        obtain ⟨presentHere, ownId⟩ := own msg member
        rw [decide_eq_true_eq, ownId]
        intro sameId
        exact here (unshared c presentHere sameId).symm
      refine { earlier with flow := ?_ }
      rw [ofClient_append, none, List.append_nil]
      exact earlier.flow

/-- What a stream that has run on without a stop adds to the lane. -/
theorem Session.parse_read {lzo : Lzo} {s : Session} {chunk : Bytes}
    (running : ((frameCutter lzo.toLzoApi).run (s.received ++ chunk)).stopped = none) :
    (s.parse lzo).stopped = none ∧
      ((frameCutter lzo.toLzoApi).run ((s.parse lzo).rest ++ chunk)).stopped = none ∧
      (frameCutter lzo.toLzoApi).run (s.received ++ chunk) =
        ((frameCutter lzo.toLzoApi).run ((s.parse lzo).rest ++ chunk)).after
          (s.parse lzo).messages := by
  have extended := Cutter.run_append (frameCutter_stable lzo.toLzoApi) s.received chunk
  cases stopped : ((frameCutter lzo.toLzoApi).run s.received).stopped with
  | none =>
      rw [stopped] at extended
      rw [extended] at running
      exact ⟨stopped, running, extended⟩
  | some reason =>
      rw [stopped] at extended
      rw [extended] at running
      change ((frameCutter lzo.toLzoApi).run s.received).stopped = none at running
      rw [stopped] at running
      cases running

/-- A read that the framer accepts. -/
theorem Session.read_running {lzo : Lzo} {s : Session} {chunk : Bytes} (reading : s.reading = true)
    (running : ((frameCutter lzo.toLzoApi).run (s.mBuf ++ chunk)).stopped = none) :
    s.read lzo chunk =
      { s with
        mBuf := ((frameCutter lzo.toLzoApi).run (s.mBuf ++ chunk)).rest
        delivering := ((frameCutter lzo.toLzoApi).run (s.mBuf ++ chunk)).messages.map
          (stamp s.clientId)
        reading := ((frameCutter lzo.toLzoApi).run (s.mBuf ++ chunk)).messages.isEmpty
        received := s.received ++ chunk } := by
  unfold Session.read
  rw [if_pos reading]
  dsimp only
  rw [framerFeed_running lzo running, if_pos rfl]
  rfl

theorem Session.read_received (lzo : Lzo) {s : Session} (chunk : Bytes)
    (reading : s.reading = true) : (s.read lzo chunk).received = s.received ++ chunk := by
  unfold Session.read
  rw [if_pos reading]
  dsimp only
  split <;> rfl

theorem Lane.read {lzo : Lzo} {passed : List Message} {c : Nat} {session : Session}
    {chunk : Bytes} (clientId : session.clientId = clientIdOf c)
    (reading : session.reading = true) (waiting : session.delivering = [])
    (lane : (session.parse lzo).stopped = none → Lane lzo passed c session)
    (running : ((session.read lzo chunk).parse lzo).stopped = none) :
    Lane lzo passed c (session.read lzo chunk) := by
  have received := Session.read_received lzo chunk reading
  rw [Session.parse, received] at running
  obtain ⟨before, fed, extended⟩ := Session.parse_read running
  have earlier := lane before
  rw [← earlier.buffered] at fed extended
  have parse : (session.read lzo chunk).parse lzo =
      ((frameCutter lzo.toLzoApi).run (session.mBuf ++ chunk)).after
        (session.parse lzo).messages := by
    rw [Session.parse, received]
    exact extended
  have flow := earlier.flow
  rw [waiting, List.append_nil] at flow
  constructor
  · rw [parse, Session.read_running reading fed]
    rfl
  · rw [parse, Session.read_running reading fed, flow, clientId]
    exact List.map_append.symm

theorem Inbound.read {lzo : Lzo} {s : Shared α ω} (inbound : Inbound lzo s) (c : Nat)
    (chunk : Bytes) : Inbound lzo (s.setConn c ((s.conns c).read lzo chunk)) := by
  by_cases reading : (s.conns c).reading = true
  · have waiting := inbound.waits c reading
    have delivering : ∀ msg ∈ ((s.conns c).read lzo chunk).delivering,
        msg.clientId = (s.conns c).clientId := by
      intro msg member
      rcases (s.conns c).read_delivering lzo chunk member with earlier | ⟨own, _admitted⟩
      · exact inbound.stamped c msg earlier
      · exact own
    have clientId := ((s.conns c).read_quiet lzo chunk).clientId
    refine inbound.reader s.recv [] clientId ?_ ?_ ?_ ?_ ?_ ?_
    · intro fresh
      rw [(inbound.absent c fresh).1] at reading
      cases reading
    · unfold Session.read
      rw [if_pos reading]
      dsimp only
      split
      · intro empty
        exact List.map_eq_nil_iff.mpr (List.isEmpty_iff.mp empty)
      · intro impossible
        cases impossible
    · rw [clientId]
      exact delivering
    · exact (List.append_nil _).symm
    · intro msg impossible
      cases impossible
    · intro present unshared running
      rw [List.append_nil]
      exact Lane.read (inbound.clientIds c present) reading waiting
        (inbound.lanes c present unshared) running
  · have unchanged : (s.conns c).read lzo chunk = s.conns c := by
      unfold Session.read
      exact if_neg reading
    rw [unchanged, s.setConn_self]
    exact inbound

theorem Inbound.readError {lzo : Lzo} {s : Shared α ω} (inbound : Inbound lzo s) (c : Nat) :
    Inbound lzo (s.setConn c (s.conns c).readError) := by
  unfold Session.readError
  split
  · refine inbound.reader s.recv [] rfl ?_ ?_ ?_ ?_ ?_ ?_
    · intro fresh
      exact ⟨rfl, (inbound.absent c fresh).2⟩
    · intro impossible
      cases impossible
    · exact inbound.stamped c
    · exact (List.append_nil _).symm
    · intro msg impossible
      cases impossible
    · intro present unshared running
      rw [List.append_nil]
      exact { inbound.lanes c present unshared running with }
  · rw [s.setConn_self]
    exact inbound

theorem Inbound.deliver {lzo : Lzo} {s : Shared α ω} (inbound : Inbound lzo s) {c : Nat}
    {msg : Message} {session : Session} (delivered : (s.conns c).deliver = some (msg, session)) :
    Inbound lzo { s.setConn c session with recv := s.recv.msgQueueInsert msg } := by
  have quiet := Session.deliver_quiet delivered
  have queue := Session.deliver_delivering delivered
  have present : c < s.accepted := by
    by_contra fresh
    rw [(inbound.absent c (Nat.not_lt.mp fresh)).2] at queue
    cases queue
  have stamped := inbound.stamped c
  rw [queue] at stamped
  have own : msg.clientId = clientIdOf c :=
    (stamped msg List.mem_cons_self).trans (inbound.clientIds c present)
  have after : session.mBuf = (s.conns c).mBuf ∧ session.received = (s.conns c).received ∧
      session.reading = session.delivering.isEmpty := by
    unfold Session.deliver at delivered
    split at delivered
    · cases delivered
    · cases delivered
      exact ⟨rfl, rfl, rfl⟩
  obtain ⟨mBuf, received, reading⟩ := after
  refine inbound.reader _ [msg] quiet.clientId ?_ ?_ ?_ ?_ ?_ ?_
  · intro fresh
    exact absurd present (Nat.not_lt.mpr fresh)
  · rw [reading]
    exact List.isEmpty_iff.mp
  · rw [quiet.clientId]
    intro other member
    exact stamped other (List.mem_cons_of_mem _ member)
  · exact (List.append_assoc ..).symm
  · intro other member
    rw [List.mem_singleton.mp member]
    exact ⟨present, own⟩
  · intro _present unshared running
    have parse : session.parse lzo = (s.conns c).parse lzo := by
      rw [Session.parse, received]
      rfl
    rw [parse] at running
    have lane := inbound.lanes c present unshared running
    have flow := lane.flow
    rw [queue] at flow
    constructor
    · rw [parse, mBuf]
      exact lane.buffered
    · rw [parse, ofClient_append, ofClient_own own, List.append_assoc]
      exact flow

theorem Inbound.accept {lzo : Lzo} {s : Shared α ω} (inbound : Inbound lzo s)
    (remote : Option Bytes) : Inbound lzo (s.accept remote) := by
  have clientId : s.nextClientId + 1 = clientIdOf s.accepted := by
    rw [inbound.nextId, clientIdOf, UInt32.ofNat_add]
    rfl
  have passed : (s.accept remote).passed = s.passed := rfl
  have same : (s.accept remote).conns s.accepted = .start (clientIdOf s.accepted) remote := by
    rw [← clientId]
    exact Function.update_self ..
  have old : ∀ c, c ≠ s.accepted → (s.accept remote).conns c = s.conns c := by
    intro c different
    exact Function.update_of_ne different ..
  constructor
  · exact clientId
  · intro c present
    by_cases new : c = s.accepted
    · subst new
      rw [same]
      rfl
    · rw [old c new]
      exact inbound.clientIds c (by change c < s.accepted + 1 at present; omega)
  · intro c fresh
    have later : s.accepted < c := fresh
    rw [old c (by omega)]
    exact inbound.absent c (by omega)
  · intro c
    by_cases new : c = s.accepted
    · subst new
      rw [same]
      exact fun _reading => rfl
    · rw [old c new]
      exact inbound.waits c
  · intro c
    by_cases new : c = s.accepted
    · subst new
      rw [same]
      intro msg impossible
      cases impossible
    · rw [old c new]
      exact inbound.stamped c
  · rw [passed]
    intro msg member
    obtain ⟨c, present, own⟩ := inbound.known msg member
    exact ⟨c, Nat.lt_succ_of_lt present, own⟩
  · intro c present unshared
    rw [passed]
    by_cases new : c = s.accepted
    · subst new
      rw [same]
      intro _running
      have parse : (Session.start (clientIdOf s.accepted) remote).parse lzo =
          { messages := [], stopped := none, rest := [] } := Cutter.run_of_wait _ rfl
      have none : ofClient (clientIdOf s.accepted) s.passed = [] := by
        apply List.filter_eq_nil_iff.mpr
        intro msg member
        obtain ⟨c, earlier, own⟩ := inbound.known msg member
        rw [decide_eq_true_eq, own]
        intro sameId
        exact absurd (unshared c (Nat.lt_succ_of_lt earlier) sameId) (Nat.ne_of_lt earlier)
      constructor
      · rw [parse]
        rfl
      · rw [parse, none]
        rfl
    · rw [old c new]
      apply inbound.lanes c
      · change c < s.accepted + 1 at present
        omega
      · intro other earlier sameId
        exact unshared other (Nat.lt_succ_of_lt earlier) sameId

theorem Inbound.io {lzo : Lzo} {s : Shared α ω} (inbound : Inbound lzo s)
    (onClose : UInt32 → α → α) (event : IoEvent) : Inbound lzo (s.io lzo onClose event) := by
  cases event with
  | accept remote => exact inbound.accept remote
  | read c chunk => exact inbound.read c chunk
  | readError c => exact inbound.readError c
  | deliver c =>
      simp only [Shared.io]
      split
      · exact inbound
      · rename_i msg session delivered
        exact inbound.deliver delivered
  | endpoint c remote =>
      exact inbound.setConn { mBuf := rfl, delivering := rfl, reading := rfl, received := rfl } rfl
  | write c event =>
      simp only [Shared.io]
      split
      · exact inbound.setConn ((s.conns c).silent_writer _) rfl
      · exact inbound
  | notify c =>
      simp only [Shared.io, Shared.notify]
      split
      · have quiet : Inbound lzo (s.onWriter c Writer.closeNotify) :=
          inbound.setConn ((s.conns c).silent_writer _) rfl
        exact quiet.silent rfl rfl rfl fun _c => ⟨.refl _, rfl⟩
      · exact inbound

/-! ### The tick and the lanes -/

theorem Inbound.flip {lzo : Lzo} {s : Shared α ω} (inbound : Inbound lzo s) :
    Inbound lzo s.flip := by
  refine inbound.silent rfl rfl ?_ fun _c => ⟨.refl _, rfl⟩
  change takenOf s.log ++ (s.recv.back ++ s.recv.front) ++ [] = s.passed
  rw [List.append_nil, ← List.append_assoc]
  rfl

theorem Inbound.take {lzo : Lzo} {s : Shared α ω} (inbound : Inbound lzo s) {msg : Message}
    {recv : MsgManager} (taken : s.recv.getMsg = some (msg, recv)) :
    Inbound lzo (s.take msg recv) := by
  obtain ⟨back, front⟩ := MsgManager.getMsg_some taken
  refine inbound.silent rfl rfl ?_ fun _c => ⟨.refl _, rfl⟩
  change takenOf s.log ++ [msg] ++ recv.back ++ recv.front = s.passed
  rw [Shared.passed, back, front]
  simp only [List.append_assoc, List.cons_append, List.nil_append]

theorem Inbound.flushAll {lzo : Lzo} {s : Shared α ω} (inbound : Inbound lzo s) :
    Inbound lzo (s.flushAll lzo) := by
  refine inbound.silent rfl rfl rfl ?_
  intro c
  exact ⟨s.flushAll_silent lzo c, s.flushAll_clientId lzo c⟩

end RanOnline.Net
