/-
The history of a server run.

The log of a run determines m_sessions, and with the rules of one server also the
state that its handlers keep.  Every observation stands in order: ids are given and
taken back connection by connection, and what dispatch does follows what it did
last, whatever the I/O pool did in between.
-/
import RanOnline.Net.NetServer

namespace RanOnline.Net

open Memory StepRun Threads Histories

variable {α ω : Type}

/-- The client id that OnAccept gives to a connection. -/
def clientIdOf (c : Nat) : UInt32 := UInt32.ofNat (c + 1)

theorem clientIdOf_inj {first second : Nat} (boundFirst : first < 2 ^ 32)
    (boundSecond : second < 2 ^ 32) (same : clientIdOf first = clientIdOf second) :
    first = second := by
  have values := congrArg UInt32.toNat same
  rw [clientIdOf, clientIdOf, UInt32.toNat_ofNat', UInt32.toNat_ofNat'] at values
  omega

def acceptedCount : List (Observation ω) → Nat
  | [] => 0
  | .accepted _ _ :: earlier => acceptedCount earlier + 1
  | _ :: earlier => acceptedCount earlier

/-- m_sessions as the history leaves it. -/
def sessionsOf : List (Observation ω) → UInt32 → Option Nat
  | [] => fun _clientId => none
  | .accepted c clientId :: earlier => Function.update (sessionsOf earlier) clientId (some c)
  | .closed _ clientId :: earlier => Function.update (sessionsOf earlier) clientId none
  | _ :: earlier => sessionsOf earlier

/-- What dispatch did last. -/
def lastDispatch (log : List (Observation ω)) : Option (Observation ω) :=
  previous Observation.pooled log

/-- Where an observation may stand.  `follows` is for the observations of one
server, `settled` for the moments at which its dispatch has returned. -/
def InOrder (follows : ω → List (Observation ω) → Prop)
    (settled : List (Observation ω) → Prop) :
    Observation ω → List (Observation ω) → Prop
  | .accepted c clientId, earlier => c = acceptedCount earlier ∧ clientId = clientIdOf c
  | .closed c clientId, earlier => c < acceptedCount earlier ∧ clientId = clientIdOf c
  | .taken _, earlier => settled earlier
  | .begun c msg, earlier =>
      lastDispatch earlier = some (.taken msg) ∧ sessionsOf earlier msg.clientId = some c
  | .app event, earlier => follows event earlier

theorem acceptedCount_suffix (later earlier : List (Observation ω)) :
    acceptedCount earlier ≤ acceptedCount (later ++ earlier) := by
  induction later with
  | nil => exact Nat.le_refl _
  | cons event later ih => cases event <;> simp only [List.cons_append, acceptedCount] <;> omega

theorem acceptedCount_before (later : List (Observation ω)) (event : Observation ω)
    (before : List (Observation ω)) :
    acceptedCount before ≤ acceptedCount (later ++ event :: before) := by
  have grown := acceptedCount_suffix (later ++ [event]) before
  rwa [List.append_assoc] at grown

/-- What accepts and callbacks leave alone is the same before them. -/
theorem unchanged_pooled {β : Type} {view : List (Observation ω) → β}
    (accepted : ∀ c clientId log, view (.accepted c clientId :: log) = view log)
    (closed : ∀ c clientId log, view (.closed c clientId :: log) = view log)
    {during before : List (Observation ω)} (pooled : ∀ other ∈ during, other.pooled = true) :
    view (during ++ before) = view before := by
  apply unchanged_since
  intro event member log
  have outside := pooled event member
  cases event with
  | accepted c clientId => exact accepted c clientId log
  | closed c clientId => exact closed c clientId log
  | taken => cases outside
  | begun => cases outside
  | app => cases outside

/-! ### What an ordered history says -/

section Ordered

variable {follows : ω → List (Observation ω) → Prop} {settled : List (Observation ω) → Prop}

/-- An open session is an accepted connection under its own id. -/
theorem sessionsOf_accepted {log : List (Observation ω)}
    (ordered : Throughout (InOrder follows settled) log) {clientId : UInt32} {c : Nat}
    (opened : sessionsOf log clientId = some c) :
    c < acceptedCount log ∧ clientId = clientIdOf c := by
  induction log with
  | nil => cases opened
  | cons event earlier ih =>
      obtain ⟨here, before⟩ := ordered
      cases event with
      | taken msg => exact ih before opened
      | begun other msg => exact ih before opened
      | app event => exact ih before opened
      | accepted other otherId =>
          obtain ⟨number, ownId⟩ := here
          simp only [sessionsOf, acceptedCount] at opened ⊢
          by_cases same : clientId = otherId
          · rw [same, Function.update_self] at opened
            cases opened
            exact ⟨by omega, same.trans ownId⟩
          · rw [Function.update_of_ne same] at opened
            obtain ⟨present, own⟩ := ih before opened
            exact ⟨by omega, own⟩
      | closed other otherId =>
          simp only [sessionsOf, acceptedCount] at opened ⊢
          by_cases same : clientId = otherId
          · rw [same, Function.update_self] at opened
            cases opened
          · rw [Function.update_of_ne same] at opened
            exact ih before opened

/-- A callback belongs to an accepted connection. -/
theorem closed_accepted {log : List (Observation ω)}
    (ordered : Throughout (InOrder follows settled) log) {c : Nat} {clientId : UInt32}
    (gone : Observation.closed c clientId ∈ log) : c < acceptedCount log := by
  induction log with
  | nil => cases gone
  | cons event earlier ih =>
      obtain ⟨here, before⟩ := ordered
      rcases List.mem_cons.mp gone with now | earlierGone
      · rw [← now] at here
        subst now
        exact here.1
      · have bound := ih before earlierGone
        cases event <;> simp only [acceptedCount] <;> omega

/-- A connection whose callback has run is not in m_sessions again. -/
theorem not_open_of_closed {log : List (Observation ω)}
    (ordered : Throughout (InOrder follows settled) log) {c : Nat} {closedId : UInt32}
    (gone : Observation.closed c closedId ∈ log) (clientId : UInt32) :
    sessionsOf log clientId ≠ some c := by
  induction log with
  | nil => cases gone
  | cons event earlier ih =>
      obtain ⟨here, before⟩ := ordered
      intro opened
      rcases List.mem_cons.mp gone with now | earlierGone
      · subst now
        simp only [sessionsOf] at opened
        by_cases same : clientId = closedId
        · rw [same, Function.update_self] at opened
          cases opened
        · rw [Function.update_of_ne same] at opened
          obtain ⟨_present, own⟩ := sessionsOf_accepted before opened
          exact same (own.trans here.2.symm)
      · cases event with
        | taken msg => exact ih before earlierGone opened
        | begun other msg => exact ih before earlierGone opened
        | app event => exact ih before earlierGone opened
        | accepted other otherId =>
            simp only [sessionsOf] at opened
            by_cases same : clientId = otherId
            · rw [same, Function.update_self] at opened
              cases opened
              have bound := closed_accepted before earlierGone
              rw [here.1] at bound
              exact absurd bound (Nat.lt_irrefl _)
            · rw [Function.update_of_ne same] at opened
              exact ih before earlierGone opened
        | closed other otherId =>
            simp only [sessionsOf] at opened
            by_cases same : clientId = otherId
            · rw [same, Function.update_self] at opened
              cases opened
            · rw [Function.update_of_ne same] at opened
              exact ih before earlierGone opened

/-- An accepted connection that alone has its client id is in m_sessions until its
callback runs. -/
theorem open_of_not_closed {log : List (Observation ω)}
    (ordered : Throughout (InOrder follows settled) log) {c : Nat}
    (present : c < acceptedCount log)
    (own : ∀ other, other < acceptedCount log → clientIdOf other = clientIdOf c → other = c)
    (kept : ∀ clientId, Observation.closed c clientId ∉ log) :
    sessionsOf log (clientIdOf c) = some c := by
  induction log with
  | nil => cases present
  | cons event earlier ih =>
      obtain ⟨here, before⟩ := ordered
      have stays : ∀ clientId, Observation.closed c clientId ∉ earlier :=
        fun clientId gone => kept clientId (List.mem_cons_of_mem _ gone)
      cases event with
      | taken msg => exact ih before present own stays
      | begun other msg => exact ih before present own stays
      | app event => exact ih before present own stays
      | accepted other otherId =>
          obtain ⟨number, ownId⟩ := here
          simp only [acceptedCount] at present own
          simp only [sessionsOf, ownId]
          by_cases new : other = c
          · rw [new, Function.update_self]
          · have different : clientIdOf c ≠ clientIdOf other :=
              fun same => new (own other (by omega) same.symm)
            rw [Function.update_of_ne different]
            exact ih before (by omega) (fun other bound => own other (by omega)) stays
      | closed other otherId =>
          obtain ⟨bound, ownId⟩ := here
          simp only [sessionsOf, ownId]
          have different : clientIdOf c ≠ clientIdOf other := by
            intro same
            have gone := own other bound same.symm
            subst gone
            exact kept otherId List.mem_cons_self
          rw [Function.update_of_ne different]
          exact ih before present own stays

/-- While dispatch is at work on a message, its session is the connection under
the client id of the message. -/
theorem begun_clientId {log : List (Observation ω)}
    (ordered : Throughout (InOrder follows settled) log) {c : Nat} {msg : Message}
    (last : lastDispatch log = some (.begun c msg)) : msg.clientId = clientIdOf c := by
  obtain ⟨_inside, during, before, split, _pooled⟩ := previous_split last
  subst split
  obtain ⟨here, earlier⟩ := ordered.suffix
  exact (sessionsOf_accepted earlier here.2).2

/-- The message that dispatch is at work on was the last one taken. -/
theorem begun_taken {log : List (Observation ω)}
    (ordered : Throughout (InOrder follows settled) log) {later before : List (Observation ω)}
    {c : Nat} {msg : Message} (split : log = later ++ .begun c msg :: before) :
    sessionsOf before msg.clientId = some c ∧
      ∃ during earlier, before = during ++ .taken msg :: earlier ∧
        ∀ other ∈ during, other.pooled = true := by
  subst split
  obtain ⟨last, opened⟩ := ordered.at
  obtain ⟨_inside, during, earlier, taken, pooled⟩ := previous_split last
  exact ⟨opened, during, earlier, taken, pooled⟩

end Ordered

/-- No two accepted connections have the same client id. -/
def DistinctIds (s : Shared α ω) : Prop :=
  ∀ first second, first < s.accepted → second < s.accepted →
    (s.conns first).clientId = (s.conns second).clientId → first = second

/-- A fact about the history that the I/O pool cannot change. -/
def Lasting (known : List (Observation ω) → Prop) : Prop :=
  ∀ ⦃event : Observation ω⦄ ⦃log : List (Observation ω)⦄, event.pooled = true → known log →
    known (event :: log)

theorem lasting_lastDispatch (event : Observation ω) :
    Lasting fun log => lastDispatch log = some event := by
  intro other log outside last
  rw [lastDispatch, previous_skip outside]
  exact last

/-- The rules of one server: the order of its observations, and how the state of
its handlers agrees with the history. -/
structure Discipline (server : NetServer α ω) where
  follows : ω → List (Observation ω) → Prop
  settled : List (Observation ω) → Prop
  agrees : α → List (Observation ω) → Prop
  settled_lasting : Lasting settled
  agrees_accepted : ∀ ⦃app log⦄ (c : Nat) (clientId : UInt32), agrees app log →
    agrees app (.accepted c clientId :: log)
  agrees_closed : ∀ ⦃app log⦄ (c : Nat) (clientId : UInt32), agrees app log →
    agrees (server.onClose clientId app) (.closed c clientId :: log)
  agrees_taken : ∀ ⦃app log⦄ (msg : Message), agrees app log → agrees app (.taken msg :: log)
  agrees_begun : ∀ ⦃app log⦄ (c : Nat) (msg : Message), agrees app log →
    agrees app (.begun c msg :: log)

/-- The rules of a server that adds no observations of its own. -/
def Discipline.bare (server : NetServer α Empty) : Discipline server where
  follows := fun _event _earlier => True
  settled := fun _log => True
  agrees := fun _app _log => True
  settled_lasting := fun _event _log _pooled _settled => trivial
  agrees_accepted := fun _app _log _c _clientId _agrees => trivial
  agrees_closed := fun _app _log _c _clientId _agrees => trivial
  agrees_taken := fun _app _log _msg _agrees => trivial
  agrees_begun := fun _app _log _c _msg _agrees => trivial

namespace Discipline

variable {server : NetServer α ω} (rules : Discipline server)

def Ordered (log : List (Observation ω)) : Prop :=
  Throughout (InOrder rules.follows rules.settled) log

/-- The history tells the state. -/
structure Recorded (s : Shared α ω) : Prop where
  count : acceptedCount s.log = s.accepted
  nextId : s.nextClientId = UInt32.ofNat s.accepted
  clientIds : ∀ c, c < s.accepted → (s.conns c).clientId = clientIdOf c
  sessions : ∀ clientId, s.sessions.lookup clientId = sessionsOf s.log clientId
  app : rules.agrees s.app s.log
  order : rules.Ordered s.log

variable {rules}

theorem Recorded.note {s : Shared α ω} (recorded : rules.Recorded s) {event : ω} {app : α}
    (follows : rules.follows event s.log) (agrees : rules.agrees app (.app event :: s.log)) :
    rules.Recorded { s with app := app, log := .app event :: s.log } :=
  { count := recorded.count
    nextId := recorded.nextId
    clientIds := recorded.clientIds
    sessions := recorded.sessions
    app := agrees
    order := ⟨follows, recorded.order⟩ }

theorem Recorded.setConn {s : Shared α ω} (recorded : rules.Recorded s) {c : Nat}
    {session : Session} (same : session.clientId = (s.conns c).clientId) (recv : MsgManager) :
    rules.Recorded { s.setConn c session with recv := recv } := by
  refine { recorded with clientIds := ?_ }
  intro other present
  change (Function.update s.conns c session other).clientId = clientIdOf other
  by_cases here : other = c
  · subst here
    rw [Function.update_self, same]
    exact recorded.clientIds other present
  · rw [Function.update_of_ne here]
    exact recorded.clientIds other present

theorem Recorded.session {s : Shared α ω} (recorded : rules.Recorded s) {c : Nat}
    {session : Session} (same : session.clientId = (s.conns c).clientId) :
    rules.Recorded (s.setConn c session) :=
  recorded.setConn same s.recv

theorem Recorded.onWriter {s : Shared α ω} (recorded : rules.Recorded s) (c : Nat)
    (change : Writer → Writer) : rules.Recorded (s.onWriter c change) :=
  recorded.session rfl

theorem Recorded.accept {s : Shared α ω} (recorded : rules.Recorded s) (remote : Option Bytes) :
    rules.Recorded (s.accept remote) := by
  have clientId : s.nextClientId + 1 = clientIdOf s.accepted := by
    rw [recorded.nextId, clientIdOf, UInt32.ofNat_add]
    rfl
  simp only [Shared.accept, clientId]
  refine
    { count := congrArg Nat.succ recorded.count
      nextId := rfl
      clientIds := ?_
      sessions := ?_
      app := rules.agrees_accepted _ _ recorded.app
      order := ⟨⟨recorded.count.symm, rfl⟩, recorded.order⟩ }
  · intro c present
    by_cases new : c = s.accepted
    · subst new
      simp only [Function.update_self]
      rfl
    · simp only [Function.update_of_ne new]
      exact recorded.clientIds c (by change c < s.accepted + 1 at present; omega)
  · intro clientId
    simp only [sessionsOf]
    by_cases new : clientId = clientIdOf s.accepted
    · subst new
      rw [AList.lookup_insert, Function.update_self]
    · rw [AList.lookup_insert_ne new, Function.update_of_ne new]
      exact recorded.sessions clientId

theorem Recorded.notify {s : Shared α ω} (recorded : rules.Recorded s) {c : Nat}
    (leaving : c < s.accepted ∧ (s.conns c).writer.notifying ≠ 0) :
    rules.Recorded (s.notify server.onClose c) := by
  have quiet : rules.Recorded (s.onWriter c Writer.closeNotify) := recorded.onWriter c _
  have clientId := recorded.clientIds c leaving.1
  rw [Shared.notify_of_leaving leaving, clientId]
  refine
    { quiet with
      sessions := ?_
      app := rules.agrees_closed _ _ recorded.app
      order := ⟨⟨recorded.count.symm ▸ leaving.1, rfl⟩, recorded.order⟩ }
  intro other
  simp only [sessionsOf]
  by_cases here : other = clientIdOf c
  · subst here
    rw [AList.lookup_erase, Function.update_self]
  · rw [AList.lookup_erase_ne here, Function.update_of_ne here]
    exact recorded.sessions other

theorem Recorded.pool {s later : Shared α ω} (recorded : rules.Recorded s)
    (step : PoolStep server.onClose s later) : rules.Recorded later := by
  cases step with
  | accepted remote => exact recorded.accept remote
  | notified c leaving => exact recorded.notify leaving
  | inside c session recv quiet => exact recorded.setConn quiet.clientId recv

theorem lasting_pool {onClose : UInt32 → α → α} {s later : Shared α ω}
    {known : List (Observation ω) → Prop} (lasting : Lasting known)
    (step : PoolStep onClose s later) (holds : known s.log) : known later.log := by
  cases step with
  | accepted remote => exact lasting rfl holds
  | notified c leaving =>
      rw [Shared.notify_of_leaving leaving]
      exact lasting rfl holds
  | inside c session recv quiet => exact holds

theorem recorded_kept (rules : Discipline server) (lzo : Lzo) ⦃s : Shared α ω⦄ (event : IoEvent)
    (_permitted : anyEvent event) (recorded : rules.Recorded s) : rules.Recorded (s.io lzo server.onClose event) :=
  recorded.pool (s.io_poolStep lzo server.onClose event)

/-! ### Sections of the dispatching thread -/

variable (rules) (lzo : Lzo)

def others : Interference (Shared α ω) := pool lzo server.onClose (recorded_kept rules lzo)

variable {rules} {lzo}

theorem stable_of_lasting {known : List (Observation ω) → Prop} (lasting : Lasting known) :
    (rules.others lzo).Stable fun s => known s.log := by
  intro s later _recorded holds moved
  obtain ⟨event, _permitted, same⟩ := moved
  rw [same]
  exact lasting_pool lasting (s.io_poolStep lzo server.onClose event) holds

private theorem closeTest_recorded {known : List (Observation ω) → Prop} (c : Nat)
    (s : Shared α ω) (recorded : rules.Recorded s) (holds : known s.log) :
    rules.Recorded (s.onWriter c Writer.closeTest) ∧
      known (s.onWriter c Writer.closeTest).log :=
  ⟨recorded.onWriter c Writer.closeTest, holds⟩

theorem wp_closeSession {known : List (Observation ω) → Prop} (lasting : Lasting known)
    {c : Nat} {s : Shared α ω} (recorded : rules.Recorded s) (holds : known s.log) :
    (rules.others lzo).wp (closeSession server.onClose c) (fun _done later => known later.log) s :=
  Net.wp_closeSession (stable_of_lasting lasting) (closing_anyEvent c) (closeTest_recorded c) recorded holds

theorem wp_sendTo {known : List (Observation ω) → Prop} (lasting : Lasting known)
    {c : Nat} {framed : Bytes} {s : Shared α ω} (recorded : rules.Recorded s)
    (holds : known s.log) :
    (rules.others lzo).wp (sendTo lzo server.onClose c framed)
      (fun _done later => known later.log) s := by
  have stable : (rules.others lzo).Stable fun s => known s.log := stable_of_lasting lasting
  refine Net.wp_sendTo (closing_anyEvent c) stable stable ?_ (closeTest_recorded c) recorded holds
  intro s recorded holds
  exact ⟨recorded.session (Session.send_clientId lzo _ framed), holds⟩

/-- The rules hold of every run where each handler keeps them. -/
def loopProof
    (handled : ∀ ⦃c : Nat⦄ ⦃msg : Message⦄ ⦃s : Shared α ω⦄, rules.Recorded s →
      lastDispatch s.log = some (.begun c msg) →
        (rules.others lzo).wp (server.handle c msg)
          (fun _done later => rules.settled later.log) s)
    (missed : ∀ ⦃msg : Message⦄ ⦃log : List (Observation ω)⦄,
      lastDispatch log = some (.taken msg) → rules.settled log) :
    LoopProof lzo server where
  allowed := anyEvent
  inv := rules.Recorded
  idle := fun s => rules.settled s.log
  loop := fun s => rules.settled s.log
  kept := recorded_kept rules lzo
  idle_io := by
    intro s event _permitted recorded holds
    exact lasting_pool rules.settled_lasting (s.io_poolStep lzo server.onClose event) holds
  loop_io := by
    intro s event _permitted recorded holds
    exact lasting_pool rules.settled_lasting (s.io_poolStep lzo server.onClose event) holds
  flipped := by
    intro s recorded holds
    exact ⟨{ recorded with }, holds⟩
  dispatched := by
    intro s msg recv recorded holds _taken
    have taken : rules.Recorded (s.take msg recv) :=
      { count := recorded.count
        nextId := recorded.nextId
        clientIds := recorded.clientIds
        sessions := recorded.sessions
        app := rules.agrees_taken msg recorded.app
        order := ⟨holds, recorded.order⟩ }
    refine ⟨taken, wp_dispatch (stable_of_lasting (lasting_lastDispatch (.taken msg)))
      (stable_of_lasting rules.settled_lasting) ?_ ?_ taken (previous_here rfl _)⟩
    · intro s _recorded last _absent
      exact missed last
    · intro s c recorded last found
      have begun : rules.Recorded { s with log := .begun c msg :: s.log } :=
        { count := recorded.count
          nextId := recorded.nextId
          clientIds := recorded.clientIds
          sessions := recorded.sessions
          app := rules.agrees_begun c msg recorded.app
          order := ⟨⟨last, (recorded.sessions _).symm.trans found⟩, recorded.order⟩ }
      exact ⟨begun, handled begun (previous_here rfl _)⟩
  finished := by
    intro s recorded holds _drained
    unfold Shared.finish
    split
    · refine ⟨{ recorded with clientIds := ?_ }, holds⟩
      intro c present
      rw [s.flushAll_clientId]
      exact recorded.clientIds c present
    · exact ⟨recorded, holds⟩

/-- Ids are distinct as long as their counter has not come round. -/
theorem Recorded.few {s : Shared α ω} (recorded : rules.Recorded s) (distinct : DistinctIds s) :
    acceptedCount s.log ≤ 2 ^ 32 := by
  rw [recorded.count]
  by_contra many
  have last : 2 ^ 32 < s.accepted := Nat.not_le.mp many
  have same : (s.conns 0).clientId = (s.conns (2 ^ 32)).clientId := by
    rw [recorded.clientIds 0 (by omega), recorded.clientIds _ last]
    decide
  exact absurd (distinct 0 (2 ^ 32) (by omega) last same) (by decide)

/-- What holds of every state of every run. -/
theorem run_recorded
    (handled : ∀ ⦃c : Nat⦄ ⦃msg : Message⦄ ⦃s : Shared α ω⦄, rules.Recorded s →
      lastDispatch s.log = some (.begun c msg) →
        (rules.others lzo).wp (server.handle c msg)
          (fun _done later => rules.settled later.log) s)
    (missed : ∀ ⦃msg : Message⦄ ⦃log : List (Observation ω)⦄,
      lastDispatch log = some (.taken msg) → rules.settled log)
    {app : α} (agrees : rules.agrees app []) (settled : rules.settled [])
    (events : List Event) :
    rules.Recorded (run (System.step lzo server) (.start app) events).shared := by
  have fresh : rules.Recorded (.start app) :=
    { count := rfl
      nextId := rfl
      clientIds := by
        intro c present
        cases present
      sessions := fun _clientId => rfl
      app := agrees
      order := trivial }
  refine ((loopProof handled missed).run_holds fresh settled ?_).inv
  intro event _member
  cases event <;> trivial

end Discipline

end RanOnline.Net
