/-
What a tick leaves in the send buffers.

OnUpdate of the AuthServer and of the AgentServer ends in a Flush of every session.
The other three return after the dispatch loop, so that a reply below the packet
size stays behind.
-/
import RanOnline.Net.Inbound
import RanOnline.Servers.AgentServer
import RanOnline.Servers.AuthServer

namespace RanOnline.Servers

open Memory Net Db StepRun Threads

variable {α ω : Type}

/-- Every session in m_sessions has an empty send buffer. -/
def NothingLeft (s : Shared α ω) : Prop :=
  ∀ clientId c, s.sessions.lookup clientId = some c → (s.conns c).out.pending = []

/-- A property of the states in which OnUpdate is not running. -/
def BetweenTicks (property : Shared α ω → Prop) (sys : System α ω) : Prop :=
  sys.tick.isIdle = true → property sys.shared

/-! ### Servers that flush -/

theorem nothingLeft_start (app : α) : NothingLeft (.start app : Shared α ω) := by
  intro clientId c found
  cases found

theorem nothingLeft_pool {onClose : UInt32 → α → α} {s later : Shared α ω}
    (holds : NothingLeft s) (step : PoolStep onClose s later) : NothingLeft later := by
  intro clientId c found
  cases step with
  | accepted remote =>
      change (s.sessions.insert (s.nextClientId + 1) s.accepted).lookup clientId = some c at found
      change (Function.update s.conns s.accepted _ c).out.pending = []
      by_cases new : c = s.accepted
      · subst new
        rw [Function.update_self]
        exact OutBuffer.pending_new
      · rw [Function.update_of_ne new]
        by_cases same : clientId = s.nextClientId + 1
        · rw [same, AList.lookup_insert] at found
          exact absurd (Option.some.inj found).symm new
        · rw [AList.lookup_insert_ne same] at found
          exact holds clientId c found
  | notified other leaving =>
      rw [Shared.notify_of_leaving leaving] at found ⊢
      change (s.sessions.erase (s.conns other).clientId).lookup clientId = some c at found
      have present : s.sessions.lookup clientId = some c := by
        by_cases same : clientId = (s.conns other).clientId
        · rw [same, AList.lookup_erase] at found
          cases found
        · rwa [AList.lookup_erase_ne same] at found
      have quiet := s.setConn_quiet (s.conns other).closeNotify_quiet c
      exact quiet.out.symm ▸ holds clientId c present
  | inside other session recv quiet =>
      have kept := s.setConn_quiet quiet c
      exact kept.out.symm ▸ holds clientId c found

theorem nothingLeft_flushAll (lzo : Lzo) (s : Shared α ω) : NothingLeft (s.flushAll lzo) := by
  intro clientId c found
  exact Shared.flushAll_pending lzo found

/-- Whatever the handlers of a server do, its flush loop empties the buffers. -/
theorem nothingLeft_of_flushes (lzo : Lzo) {server : NetServer α ω}
    (flushes : server.flushes = true) (app : α) (events : List Event) :
    Always (System.step lzo server) (.start app) events (BetweenTicks NothingLeft) := by
  refine always_of_reached (run_invariant ?_ ?_) events
  · intro _idle
    exact nothingLeft_start app
  · intro sys event holds
    cases event with
    | io event =>
        intro idle
        exact nothingLeft_pool (holds idle) (sys.shared.io_poolStep lzo server.onClose event)
    | update =>
        simp only [System.step]
        split
        · intro running
          cases running
        · exact holds
    | next =>
        simp only [System.step, System.advance]
        split
        · exact holds
        · split
          · intro _idle
            rw [Shared.finish, if_pos flushes]
            exact nothingLeft_flushAll lzo _
          · intro running
            cases running
        · intro running
          cases running
        · intro running
          cases running

/-! ### Servers that do not flush -/

/-- The replies to the messages of a connection, as dispatch sends them. -/
def echoesOf (c : Nat) : List (Observation ω) → List Bytes
  | [] => []
  | .begun other msg :: earlier =>
      if other = c then echoesOf c earlier ++ [encodeMessage msg.type msg.payload]
      else echoesOf c earlier
  | _ :: earlier => echoesOf c earlier

theorem mem_echoesOf {c : Nat} {log : List (Observation ω)} {framed : Bytes} :
    framed ∈ echoesOf c log ↔
      ∃ msg, .begun c msg ∈ log ∧ encodeMessage msg.type msg.payload = framed := by
  induction log with
  | nil => simp [echoesOf]
  | cons event earlier ih =>
      cases event with
      | accepted => simp [echoesOf, ih]
      | closed => simp [echoesOf, ih]
      | taken => simp [echoesOf, ih]
      | app => simp [echoesOf, ih]
      | begun other msg =>
          simp only [echoesOf]
          by_cases same : other = c
          · subst same
            simp only [if_true, List.mem_append, ih, List.mem_cons, Observation.begun.injEq,
              true_and]
            grind
          · rw [if_neg same, ih]
            simp [Ne.symm same]

/-- All messages that dispatch had on an open session fill a packet on their own. -/
def LongMessages (s : Shared α ω) : Prop :=
  ∀ clientId c, s.sessions.lookup clientId = some c →
    ∀ msg, .begun c msg ∈ s.log → compressPacketSize ≤ kHeaderSize + msg.payloadSize

/-- What a server that only echoes keeps. -/
structure EchoInv (s : Shared Unit Empty) : Prop where
  traffic : Traffic s
  opened : ∀ clientId c, s.sessions.lookup clientId = some c → c < s.accepted
  begun : ∀ c msg, .begun c msg ∈ s.log → c < s.accepted
  short : ∀ c, (s.conns c).PendingShort

/-- The replies that a handler still has to pass to Send, for each connection. -/
structure Owes (owed : Nat → List Bytes) (s : Shared Unit Empty) : Prop where
  accepted : ∀ c, s.accepted ≤ c → owed c = []
  sent : ∀ c, (s.conns c).sent ++ owed c = echoesOf c s.log

/-- Every reply has been passed to Send. -/
abbrev AllEchoed : Shared Unit Empty → Prop := Owes fun _c => []

theorem EchoInv.pool {s later : Shared Unit Empty} (inv : EchoInv s)
    (step : PoolStep keepApp s later) (traffic : Traffic later) : EchoInv later := by
  refine
    { traffic := traffic
      opened := ?_
      begun := ?_
      short := step.conns Session.pendingShort_start (fun quiet holds => holds.quiet quiet) inv.short }
  · intro clientId c found
    cases step with
    | inside other session recv quiet => exact inv.opened clientId c found
    | accepted remote =>
        change (s.sessions.insert (s.nextClientId + 1) s.accepted).lookup clientId = some c at found
        change c < s.accepted + 1
        by_cases same : clientId = s.nextClientId + 1
        · rw [same, AList.lookup_insert] at found
          cases found
          exact Nat.lt_succ_self _
        · rw [AList.lookup_insert_ne same] at found
          exact Nat.lt_succ_of_lt (inv.opened clientId c found)
    | notified other leaving =>
        rw [Shared.notify_of_leaving leaving] at found ⊢
        apply inv.opened clientId c
        by_cases same : clientId = (s.conns other).clientId
        · rw [same] at found
          exact absurd (AList.lookup_erase _ _) (by rw [found]; exact Option.some_ne_none c)
        · exact (AList.lookup_erase_ne same).symm.trans found
  · intro c msg member
    cases step with
    | inside other session recv quiet => exact inv.begun c msg member
    | accepted remote =>
        have earlier := (List.mem_cons.mp member).resolve_left (by simp)
        exact Nat.lt_succ_of_lt (inv.begun c msg earlier)
    | notified other leaving =>
        rw [Shared.notify_of_leaving leaving] at member ⊢
        exact inv.begun c msg ((List.mem_cons.mp member).resolve_left (by simp))

theorem echoesOf_unaccepted {s : Shared Unit Empty} (inv : EchoInv s) {c : Nat}
    (fresh : s.accepted ≤ c) : echoesOf c s.log = [] := by
  rw [List.eq_nil_iff_forall_not_mem]
  intro framed member
  obtain ⟨msg, begun, _same⟩ := mem_echoesOf.mp member
  exact absurd (inv.begun c msg begun) (Nat.not_lt.mpr fresh)

theorem Owes.pool {owed : Nat → List Bytes} {s later : Shared Unit Empty} (inv : EchoInv s)
    (owes : Owes owed s) (step : PoolStep keepApp s later) : Owes owed later := by
  cases step with
  | inside other session recv quiet =>
      refine { owes with sent := ?_ }
      intro c
      have kept := s.setConn_quiet quiet c
      exact (congrArg (· ++ owed c) kept.sent).trans (owes.sent c)
  | notified other leaving =>
      rw [Shared.notify_of_leaving leaving]
      refine { owes with sent := ?_ }
      intro c
      have kept := s.setConn_quiet (s.conns other).closeNotify_quiet c
      exact (congrArg (· ++ owed c) kept.sent).trans (owes.sent c)
  | accepted remote =>
      constructor
      · intro c fresh
        exact owes.accepted c (Nat.le_of_succ_le fresh)
      · intro c
        change (Function.update s.conns s.accepted _ c).sent ++ owed c = echoesOf c s.log
        by_cases new : c = s.accepted
        · subst new
          rw [Function.update_self, owes.accepted _ (Nat.le_refl _),
            echoesOf_unaccepted inv (Nat.le_refl _)]
          rfl
        · rw [Function.update_of_ne new]
          exact owes.sent c

theorem echo_framed_length {msg : Message} (admitted : msg.Admitted) :
    (encodeMessage msg.type msg.payload).length < 2 ^ 32 := by
  have bound := admitted.bounded
  rw [encodeMessage_length, Message.payload, List.length_drop]
  unfold decompBufSize at bound
  unfold kHeaderSize
  omega

theorem echo_kept (lzo : Lzo) ⦃s : Shared Unit Empty⦄ (event : IoEvent)
    (_permitted : anyEvent event) (inv : EchoInv s) :
    EchoInv (s.io lzo keepApp event) :=
  inv.pool (s.io_poolStep lzo keepApp event) (inv.traffic.io lzo keepApp event)

theorem stable_owes (lzo : Lzo) (owed : Nat → List Bytes) :
    (pool lzo keepApp (echo_kept lzo)).Stable (Owes owed) := by
  intro s later inv owes moved
  obtain ⟨event, _permitted, same⟩ := moved
  rw [same]
  exact owes.pool inv (s.io_poolStep lzo keepApp event)

theorem EchoInv.setConn {s : Shared Unit Empty} (inv : EchoInv s) {c : Nat} {session : Session}
    (silent : (s.conns c).Silent session) (short : session.PendingShort) :
    EchoInv (s.setConn c session) := by
  refine { inv with traffic := inv.traffic.silent silent, short := ?_ }
  intro other
  by_cases here : other = c
  · subst here
    rw [Shared.setConn_same]
    exact short
  · rw [Shared.setConn_other s here]
    exact inv.short other

/-- Send settles what is owed to one connection. -/
theorem Owes.send {s : Shared Unit Empty} {c : Nat} {framed : Bytes} (lzo : Lzo)
    (owes : Owes (Function.update (fun _c => []) c [framed]) s) :
    AllEchoed (s.setConn c ((s.conns c).send lzo framed).1) := by
  refine { accepted := fun _c _fresh => rfl, sent := ?_ }
  intro other
  have settled := owes.sent other
  rw [List.append_nil]
  by_cases here : other = c
  · subst here
    rw [Function.update_self] at settled
    rw [Shared.setConn_same, Session.send_sent]
    exact settled
  · rw [Function.update_of_ne here, List.append_nil] at settled
    rw [Shared.setConn_other s here]
    exact settled

theorem Owes.closeTest {s : Shared Unit Empty} {owed : Nat → List Bytes} (owes : Owes owed s)
    (c : Nat) : Owes owed (s.onWriter c Writer.closeTest) := by
  refine { owes with sent := ?_ }
  intro other
  have kept := s.setConn_quiet
    ((s.conns c).quiet_writer (Session.closeTest_enqueued (s.conns c).writer)) other
  exact (congrArg (· ++ owed other) kept.sent).trans (owes.sent other)

/-- The echo of one message. -/
theorem wp_echo (lzo : Lzo) {c : Nat} {msg : Message} (admitted : msg.Admitted)
    {s : Shared Unit Empty} (inv : EchoInv s)
    (owes : Owes (Function.update (fun _c => []) c [encodeMessage msg.type msg.payload]) s) :
    (pool lzo keepApp (echo_kept lzo)).wp (echo lzo c msg) (fun _done => AllEchoed) s := by
  refine wp_sendTo (closing_anyEvent c) (stable_owes lzo _) (stable_owes lzo _) ?_ ?_ inv owes
  · intro s inv owes
    have nonempty : encodeMessage msg.type msg.payload ≠ [] := by
      intro empty
      have length := encodeMessage_length msg.type msg.payload
      rw [empty, List.length_nil] at length
      unfold kHeaderSize at length
      omega
    exact ⟨inv.setConn (Session.send_silent lzo _ _)
      ((inv.short c).send lzo nonempty (echo_framed_length admitted)), owes.send lzo⟩
  · intro s inv owes
    have quiet := (s.conns c).quiet_writer (Session.closeTest_enqueued (s.conns c).writer)
    exact ⟨inv.setConn ((s.conns c).silent_writer _) ((inv.short c).quiet quiet),
      owes.closeTest c⟩

/-- The loop of an echoing server. -/
def echoLoop (lzo : Lzo) : LoopProof lzo (echoServer lzo) where
  allowed := anyEvent
  inv := EchoInv
  idle := AllEchoed
  loop := AllEchoed
  kept := echo_kept lzo
  idle_io := by
    intro s event _permitted inv owes
    exact owes.pool inv (s.io_poolStep lzo keepApp event)
  loop_io := by
    intro s event _permitted inv owes
    exact owes.pool inv (s.io_poolStep lzo keepApp event)
  flipped := by
    intro s inv owes
    exact ⟨{ inv with traffic := inv.traffic.flip }, { owes with }⟩
  finished := by
    intro s inv owes _drained
    exact ⟨inv, owes⟩
  dispatched := by
    intro s msg recv inv owes taken
    obtain ⟨admitted, traffic⟩ := inv.traffic.take taken
    have takenInv : EchoInv (s.take msg recv) :=
      { inv with
        traffic := traffic
        begun := by
          intro c other member
          exact inv.begun c other ((List.mem_cons.mp member).resolve_left (by simp)) }
    refine ⟨takenInv, wp_dispatch (stable_owes lzo _) (stable_owes lzo _) ?_ ?_ takenInv
      { owes with }⟩
    · intro s _inv owes _missing
      exact owes
    · intro s c inv owes found
      have present := inv.opened msg.clientId c found
      have begun : EchoInv { s with log := .begun c msg :: s.log } := by
        refine { inv with traffic := { inv.traffic with }, begun := ?_ }
        intro other earlierMsg member
        rcases List.mem_cons.mp member with here | earlier
        · cases here
          exact present
        · exact inv.begun other earlierMsg earlier
      refine ⟨begun, wp_echo lzo admitted begun ?_⟩
      constructor
      · intro other fresh
        rw [Function.update_of_ne]
        intro same
        subst same
        exact absurd present (Nat.not_lt.mpr fresh)
      · intro other
        have settled := owes.sent other
        rw [List.append_nil] at settled
        simp only [echoesOf]
        by_cases here : c = other
        · subst here
          rw [Function.update_self, if_pos rfl, ← settled]
        · rw [Function.update_of_ne (Ne.symm here), if_neg here, ← settled]
          exact List.append_nil _

theorem echoInv_start : EchoInv (.start ()) :=
  { traffic :=
      { delivering := by
          intro c msg impossible
          cases impossible
        queued := by
          intro msg impossible
          cases impossible }
    opened := by
      intro clientId c found
      cases found
    begun := by
      intro c msg impossible
      cases impossible
    short := fun _c => Session.pendingShort_start 0 none }

/-- Between two ticks of an echoing server, the buffers are empty exactly when all
messages on the open sessions were long. -/
theorem echo_nothingLeft_iff (lzo : Lzo) (events : List Event) :
    BetweenTicks (fun s => NothingLeft s ↔ LongMessages s)
      (run (System.step lzo (echoServer lzo)) (.start ()) events) := by
  intro idle
  have settled : AllEchoed (.start () : Shared Unit Empty) :=
    { accepted := fun _c _fresh => rfl
      sent := fun _c => rfl }
  have permitted : ∀ event ∈ events, (echoLoop lzo).Permitted event := by
    intro event _member
    cases event <;> trivial
  have holds := (echoLoop lzo).run_holds echoInv_start settled permitted
  generalize run (System.step lzo (echoServer lzo)) (.start ()) events = sys at idle holds
  have inv : EchoInv sys.shared := holds.inv
  have owes : AllEchoed sys.shared := by
    have tick := holds.tick
    cases phase : sys.tick with
    | idle =>
        rw [phase] at tick
        exact tick
    | draining =>
        rw [phase] at idle
        cases idle
    | running thread =>
        rw [phase] at idle
        cases idle
  have each : ∀ c, (sys.shared.conns c).out.pending = [] ↔
      ∀ msg, .begun c msg ∈ sys.shared.log →
        compressPacketSize ≤ kHeaderSize + msg.payloadSize := by
    intro c
    have sent := owes.sent c
    rw [List.append_nil] at sent
    rw [(inv.short c).iff, sent]
    constructor
    · intro long msg begun
      have framed := long _ (mem_echoesOf.mpr ⟨msg, begun, rfl⟩)
      rwa [encodeMessage_length, Message.payload_length] at framed
    · intro long framed member
      obtain ⟨msg, begun, same⟩ := mem_echoesOf.mp member
      rw [← same, encodeMessage_length, Message.payload_length]
      exact long msg begun
  constructor
  · intro nothing clientId c found
    exact (each c).mp (nothing clientId c found)
  · intro long clientId c found
    exact (each c).mpr (long clientId c found)

/-! ### The five servers -/

/-- In every state between two ticks of a run nothing is left behind, if and only if
in every such state all messages on open sessions were long. -/
def NothingLeftIffLong (lzo : Lzo) (server : NetServer Unit Empty) (events : List Event) : Prop :=
  Always (System.step lzo server) (.start ()) events (BetweenTicks NothingLeft) ↔
    Always (System.step lzo server) (.start ()) events (BetweenTicks LongMessages)

theorem echo_leaves_nothing (lzo : Lzo) (events : List Event) :
    NothingLeftIffLong lzo (echoServer lzo) events := by
  constructor
  · intro always before after split idle
    exact (echo_nothingLeft_iff lzo before idle).mp (always before after split idle)
  · intro always before after split idle
    exact (echo_nothingLeft_iff lzo before idle).mpr (always before after split idle)

/-- The AuthServer and the AgentServer leave nothing behind, whatever their database
and their clients do.  The LoginServer, the SessionServer and the FieldServer leave
nothing behind exactly as long as every message on an open session is long. -/
theorem servers_nothingLeft (lzo : Lzo) (events : List Event) :
    (∀ (D : Type) (odbc : OdbcDb D) (beyond : Message → Bytes) (db : D),
      Always (authStep lzo odbc beyond) (authStart db) events (BetweenTicks NothingLeft)) ∧
    (∀ (D : Type) (odbc : OdbcDb D) (db : D) (dbReady : Bool),
      Always (agentStep lzo odbc) (agentStart db dbReady) events (BetweenTicks NothingLeft)) ∧
    NothingLeftIffLong lzo (loginServer lzo) events ∧
    NothingLeftIffLong lzo (sessionServer lzo) events ∧
    NothingLeftIffLong lzo (fieldServer lzo) events := by
  refine ⟨?_, ?_, echo_leaves_nothing lzo events, echo_leaves_nothing lzo events,
    echo_leaves_nothing lzo events⟩
  · intro D odbc beyond db
    have flushes : (authServer lzo odbc beyond).flushes = true := rfl
    exact nothingLeft_of_flushes lzo flushes _ events
  · intro D odbc db dbReady
    have flushes : (agentServer lzo odbc).flushes = true := rfl
    exact nothingLeft_of_flushes lzo flushes _ events

/-- One message of eight bytes to the LoginServer: the reply stays in the buffer. -/
theorem login_reply_left_behind :
    ¬Always (System.step literalLzo (loginServer literalLzo)) (.start ())
      [.io (.accept none), .io (.read 0 (encodeMessage 101 [])), .io (.deliver 0), .update, .next,
        .next, .next, .next, .next]
      (BetweenTicks NothingLeft) := by
  intro always
  have left := always.last (by decide +kernel) 1 0 (by decide +kernel)
  exact absurd left (by decide +kernel)

end RanOnline.Servers
