/-
Who is logged in: the claims on m_loginSessions.

The user number that a handler works with is the one of the last successful login
on its connection, and no message of a closed connection reaches the database.
-/
import RanOnline.Servers.AgentHistory

namespace RanOnline.Servers

open Memory Net Db StepRun Threads Histories

/-- The last login on `c` that ProcessUserLogin reported as successful. -/
def lastLogin (c : Nat) : AgentLog → Option (Bytes × UserLogin)
  | [] => none
  | .app (.login other username result) :: earlier =>
      if other = c ∧ result.success = true then some (username, result) else lastLogin c earlier
  | _ :: earlier => lastLogin c earlier

/-- The connection whose message is being dispatched. -/
def AgentEvent.conn : AgentEvent → Nat
  | .login c _ _ | .stored c _ | .userNumRead c _ _ | .charList c _ | .charListSent c
  | .charDetail c _ _ | .charDetailSent c | .passCheck c _ _ _ _ | .pinCleared c => c

/-- A call of sp_ChaListAgent or sp_GetChaLobbyInfo, with its user number. -/
def AgentEvent.asksFor : AgentEvent → Option (Nat × Int)
  | .charList c userNum | .charDetail c userNum _ => some (c, userNum)
  | _ => none

def AgentEvent.callsDb : AgentEvent → Bool
  | .login _ _ _ | .charList _ _ | .charDetail _ _ _ | .passCheck _ _ _ _ _ => true
  | .stored _ _ | .userNumRead _ _ _ | .charListSent _ | .charDetailSent _ | .pinCleared _ => false

abbrev AgentOrdered (log : AgentLog) : Prop :=
  Throughout (InOrder agentFollows agentSettled) log

/-! ### The chain back to the message -/

theorem follows_conn {event : AgentEvent} {log : AgentLog} (follows : agentFollows event log) :
    Begun event.conn log ∨ ∃ before, After before log ∧ before.conn = event.conn := by
  cases event with
  | login c username result => exact Or.inl follows
  | userNumRead c request userNum => exact Or.inl follows.1
  | passCheck c userId pin checkFlag answer => exact Or.inl follows
  | charList c userNum => exact Or.inr ⟨_, follows.1, rfl⟩
  | charDetail c userNum chaNum => exact Or.inr ⟨_, follows.1, rfl⟩
  | stored c session =>
      obtain ⟨username, result, after, _rest⟩ := follows
      exact Or.inr ⟨_, after, rfl⟩
  | charListSent c =>
      obtain ⟨userNum, _positive, after | after⟩ := follows
      · exact Or.inr ⟨_, after, rfl⟩
      · exact Or.inr ⟨_, after, rfl⟩
  | charDetailSent c =>
      obtain ⟨userNum, chaNum, after⟩ := follows
      exact Or.inr ⟨_, after, rfl⟩
  | pinCleared c =>
      obtain ⟨userId, pin, checkFlag, check, after, _accepted⟩ := follows
      exact Or.inr ⟨_, after, rfl⟩

/-- Behind every step of dispatch lies the moment at which it found the session,
and the message that it had taken from the queue before. -/
theorem step_begun {event : AgentEvent} {earlier : AgentLog}
    (ordered : AgentOrdered (.app event :: earlier)) :
    ∃ during msg before, earlier = during ++ .begun event.conn msg :: before ∧
      ∀ other ∈ during, ∀ taken, other ≠ .taken taken := by
  induction size : earlier.length using Nat.strong_induction_on generalizing event earlier with
  | h length ih =>
      obtain ⟨follows, rest⟩ := ordered
      rcases follows_conn follows with ⟨msg, last⟩ | ⟨before, last, sameConn⟩
      · obtain ⟨_inside, during, before, split, pooled⟩ := previous_split last
        refine ⟨during, msg, before, split, ?_⟩
        intro other member taken same
        have outside := pooled other member
        rw [same] at outside
        cases outside
      · obtain ⟨_inside, during, older, split, pooled⟩ := previous_split last
        subst split
        have shorter : older.length < length := by
          rw [← size, List.length_append, List.length_cons]
          omega
        obtain ⟨further, msg, oldest, olderSplit, quiet⟩ :=
          ih _ shorter rest.suffix rfl
        rw [sameConn] at olderSplit
        refine ⟨during ++ .app before :: further, msg, oldest, ?_, ?_⟩
        · rw [olderSplit, List.append_assoc, List.cons_append]
        · intro other member taken same
          subst same
          rcases List.mem_append.mp member with here | there
          · cases pooled _ here
          · rcases List.mem_cons.mp there with now | deeper
            · cases now
            · exact quiet _ deeper taken rfl

theorem conn_accepted {event : AgentEvent} {earlier : AgentLog}
    (ordered : AgentOrdered (.app event :: earlier)) : event.conn < acceptedCount earlier := by
  obtain ⟨during, msg, before, split, _quiet⟩ := step_begun ordered
  subst split
  have bound := (sessionsOf_accepted ordered.2.suffix.2 ordered.2.at.2).1
  exact Nat.lt_of_lt_of_le bound (acceptedCount_before during (.begun event.conn msg) before)

/-! ### The last login -/

theorem lastLogin_pooled (c : Nat) {during before : AgentLog}
    (pooled : ∀ other ∈ during, other.pooled = true) :
    lastLogin c (during ++ before) = lastLogin c before :=
  unchanged_pooled (fun _c _clientId _log => rfl) (fun _c _clientId _log => rfl) pooled

theorem lastLogin_after {c : Nat} {username : Bytes} {login : UserLogin} {log : AgentLog}
    (after : After (.login c username login) log) (success : login.success = true) :
    lastLogin c log = some (username, login) := by
  obtain ⟨_inside, during, before, split, pooled⟩ := previous_split after
  rw [split, lastLogin_pooled c pooled, lastLogin, if_pos ⟨rfl, success⟩]

theorem lastLogin_other {c : Nat} {event : AgentEvent}
    (other : ∀ username result, event = .login c username result → result.success = false)
    (log : AgentLog) : lastLogin c (.app event :: log) = lastLogin c log := by
  cases event with
  | login conn username result =>
      simp only [lastLogin]
      rw [if_neg]
      intro holds
      rcases holds with ⟨same, success⟩
      subst same
      rw [other username result rfl] at success
      cases success
  | stored => rfl
  | userNumRead => rfl
  | charList => rfl
  | charListSent => rfl
  | charDetail => rfl
  | charDetailSent => rfl
  | passCheck => rfl
  | pinCleared => rfl

theorem follows_settled {event : AgentEvent} {log : AgentLog} (follows : agentFollows event log)
    (other : ∀ c session, event ≠ .stored c session) : agentSettled log := by
  cases event with
  | login c username result => exact Begun.settled follows
  | userNumRead c request userNum => exact follows.1.settled
  | passCheck c userId pin checkFlag answer => exact Begun.settled follows
  | charList c userNum => exact settled_after follows.1 fun _ _ _ => by simp
  | charDetail c userNum chaNum => exact settled_after follows.1 fun _ _ _ => by simp
  | stored c session => exact absurd rfl (other c session)
  | charListSent c =>
      obtain ⟨userNum, _positive, after | after⟩ := follows
      · exact settled_after after fun _ _ _ => by simp
      · exact settled_after after fun _ _ _ => by simp
  | charDetailSent c =>
      obtain ⟨userNum, chaNum, after⟩ := follows
      exact settled_after after fun _ _ _ => by simp
  | pinCleared c =>
      obtain ⟨userId, pin, checkFlag, check, after, _accepted⟩ := follows
      exact settled_after after fun _ _ _ => by simp

/-- A successful login that has not been stored. -/
def Pending (c : Nat) (log : AgentLog) : Prop :=
  ∃ username login, After (.login c username login) log ∧ login.success = true

theorem not_pending {c : Nat} {log : AgentLog} (settled : agentSettled log) : ¬Pending c log := by
  intro holds
  rcases holds with ⟨username, login, after, success⟩
  rw [settled c username login after] at success
  cases success

/-- The next step stores it. -/
theorem Pending.next {c : Nat} {event : AgentEvent} {log : AgentLog} (pending : Pending c log)
    (follows : agentFollows event log) : ∃ session, event = .stored c session := by
  by_cases stores : ∃ other session, event = .stored other session
  · obtain ⟨other, session, same⟩ := stores
    subst same
    obtain ⟨_username, _login, waiting, _success⟩ := pending
    obtain ⟨username, login, after, _rest⟩ := follows
    rw [After, after] at waiting
    cases waiting
    exact ⟨session, rfl⟩
  · have settled := follows_settled follows fun other session same => stores ⟨other, session, same⟩
    exact absurd pending (not_pending settled)

/-- A step of dispatch touches the entry of its own connection only. -/
theorem loginsOf_elsewhere {event : AgentEvent} {clientId : UInt32}
    (elsewhere : clientId ≠ clientIdOf event.conn) (log : AgentLog) :
    loginsOf (.app event :: log) clientId = loginsOf log clientId := by
  cases event with
  | stored c session => exact Function.update_of_ne elsewhere _ _
  | pinCleared c => exact Function.update_of_ne elsewhere _ _
  | login => rfl
  | userNumRead => rfl
  | charList => rfl
  | charListSent => rfl
  | charDetail => rfl
  | charDetailSent => rfl
  | passCheck => rfl

/-- Only storing a login adds an entry, and no step takes one out. -/
theorem loginsOf_app_none {event : AgentEvent} {clientId : UInt32}
    (unstored : ∀ c session, event = .stored c session → clientId ≠ clientIdOf c)
    (log : AgentLog) :
    loginsOf (.app event :: log) clientId = none ↔ loginsOf log clientId = none := by
  by_cases elsewhere : clientId = clientIdOf event.conn
  · cases event with
    | stored c session => exact absurd elsewhere (unstored c session rfl)
    | pinCleared c =>
        subst elsewhere
        rw [AgentEvent.conn, loginsOf, Function.update_self]
        exact Option.map_eq_none_iff
    | login => exact Iff.rfl
    | userNumRead => exact Iff.rfl
    | charList => exact Iff.rfl
    | charListSent => exact Iff.rfl
    | charDetail => exact Iff.rfl
    | charDetailSent => exact Iff.rfl
    | passCheck => exact Iff.rfl
  · rw [loginsOf_elsewhere elsewhere]

/-- A step that does not store the entry of `c` keeps its user number. -/
theorem loginsOf_app {event : AgentEvent} {log : AgentLog} {c : Nat} (small : c < 2 ^ 32)
    (accepted : event.conn < 2 ^ 32) (other : ∀ fresh, event ≠ .stored c fresh)
    {session : LoginSession}
    (found : loginsOf (.app event :: log) (clientIdOf c) = some session) :
    ∃ before, loginsOf log (clientIdOf c) = some before ∧ before.userNum = session.userNum := by
  by_cases own : c = event.conn
  · subst own
    cases event with
    | stored conn fresh => exact absurd rfl (other fresh)
    | pinCleared conn =>
        rw [loginsOf, AgentEvent.conn, Function.update_self] at found
        obtain ⟨before, present, same⟩ := Option.map_eq_some_iff.mp found
        subst same
        exact ⟨before, present, rfl⟩
    | login => exact ⟨session, found, rfl⟩
    | userNumRead => exact ⟨session, found, rfl⟩
    | charList => exact ⟨session, found, rfl⟩
    | charListSent => exact ⟨session, found, rfl⟩
    | charDetail => exact ⟨session, found, rfl⟩
    | charDetailSent => exact ⟨session, found, rfl⟩
    | passCheck => exact ⟨session, found, rfl⟩
  · have elsewhere : clientIdOf c ≠ clientIdOf event.conn :=
      fun same => own (clientIdOf_inj small accepted same)
    rw [loginsOf_elsewhere elsewhere] at found
    exact ⟨session, found, rfl⟩

/-- The entry of a connection in m_loginSessions is from its last login, unless a
newer one is about to be stored. -/
theorem loginsOf_lastLogin {log : AgentLog} (ordered : AgentOrdered log)
    (few : acceptedCount log ≤ 2 ^ 32) {c : Nat} (small : c < 2 ^ 32) {session : LoginSession}
    (found : loginsOf log (clientIdOf c) = some session) :
    Pending c log ∨
      ∃ username login, lastLogin c log = some (username, login) ∧
        login.userNum = session.userNum := by
  induction log generalizing session with
  | nil => cases found
  | cons event earlier ih =>
      obtain ⟨here, rest⟩ := ordered
      have fewer : acceptedCount earlier ≤ 2 ^ 32 :=
        Nat.le_trans (acceptedCount_suffix [event] earlier) few
      cases event with
      | accepted other clientId =>
          rcases ih rest fewer found with ⟨username, login, after, success⟩ | known
          · exact Or.inl ⟨username, login, lasting_after _ rfl after, success⟩
          · exact Or.inr known
      | closed other clientId =>
          simp only [loginsOf] at found
          by_cases same : clientIdOf c = clientId
          · rw [same, Function.update_self] at found
            cases found
          · rw [Function.update_of_ne same] at found
            rcases ih rest fewer found with ⟨username, login, after, success⟩ | known
            · exact Or.inl ⟨username, login, lasting_after _ rfl after, success⟩
            · exact Or.inr known
      | taken msg => exact Or.inr ((ih rest fewer found).resolve_left (not_pending here))
      | begun other msg =>
          have settled : agentSettled earlier := settled_of_last here.1 fun _ _ _ => by simp
          exact Or.inr ((ih rest fewer found).resolve_left (not_pending settled))
      | app event =>
          have accepted : event.conn < 2 ^ 32 :=
            Nat.lt_of_lt_of_le (conn_accepted ⟨here, rest⟩) fewer
          by_cases stores : ∃ fresh, event = .stored c fresh
          · obtain ⟨fresh, stored⟩ := stores
            subst stored
            obtain ⟨username, login, after, success, same⟩ := here
            right
            rw [lastLogin_other fun _ _ impossible => by cases impossible]
            rw [loginsOf, Function.update_self] at found
            cases found
            exact ⟨username, login, lastLogin_after after success, by rw [same]; rfl⟩
          · by_cases logs : ∃ username login, event = .login c username login ∧ login.success = true
            · obtain ⟨username, login, fresh, success⟩ := logs
              subst fresh
              exact Or.inl ⟨username, login, after_here _ _, success⟩
            · obtain ⟨before, present, same⟩ :=
                loginsOf_app small accepted (fun fresh stored => stores ⟨fresh, stored⟩) found
              have waiting : ¬Pending c earlier := fun pending => stores (pending.next here)
              obtain ⟨username, login, last, number⟩ :=
                (ih rest fewer present).resolve_left waiting
              right
              rw [lastLogin_other]
              · exact ⟨username, login, last, number.trans same⟩
              · intro username result fresh
                exact Bool.eq_false_iff.mpr fun success => logs ⟨username, result, fresh, success⟩

/-- What a handler reads from m_loginSessions, where it goes on with it. -/
theorem userNumRead_lastLogin {log : AgentLog} (ordered : AgentOrdered log)
    (few : acceptedCount log ≤ 2 ^ 32) {c : Nat} {request : CharRequest} {userNum : Int}
    (read : After (.userNumRead c request userNum) log) (positive : 0 < userNum) :
    ∃ username login, lastLogin c log = some (username, login) ∧ login.userNum = userNum := by
  obtain ⟨_inside, during, before, split, pooled⟩ := previous_split read
  subst split
  obtain ⟨⟨begun, value⟩, earlier⟩ := ordered.suffix
  have fewer : acceptedCount before ≤ 2 ^ 32 :=
    Nat.le_trans (acceptedCount_before during _ before) few
  have small : c < 2 ^ 32 := by
    have accepted := conn_accepted ordered.suffix
    exact Nat.lt_of_lt_of_le accepted fewer
  rw [lastLogin_pooled c pooled, lastLogin_other (fun _ _ impossible => by cases impossible)]
  cases found : loginsOf before (clientIdOf c) with
  | none =>
      rw [found] at value
      exact absurd positive (by rw [value]; decide)
  | some session =>
      obtain ⟨username, login, last, same⟩ :=
        (loginsOf_lastLogin earlier fewer small found).resolve_left (not_pending begun.settled)
      rw [found] at value
      exact ⟨username, login, last, same.trans value.symm⟩

/-- The user number of a character query. -/
theorem query_authenticated {log : AgentLog} (ordered : AgentOrdered log)
    (few : acceptedCount log ≤ 2 ^ 32) {later earlier : AgentLog} {event : AgentEvent} {c : Nat}
    {userNum : Int} (split : log = later ++ .app event :: earlier)
    (asks : event.asksFor = some (c, userNum)) :
    0 < userNum ∧
      ∃ username login, lastLogin c earlier = some (username, login) ∧
        login.userNum = userNum := by
  subst split
  obtain ⟨follows, rest⟩ := ordered.suffix
  have fewer : acceptedCount earlier ≤ 2 ^ 32 :=
    Nat.le_trans (acceptedCount_before later (.app event) earlier) few
  cases event with
  | charList other asked =>
      cases asks
      exact ⟨follows.2, userNumRead_lastLogin rest fewer follows.1 follows.2⟩
  | charDetail other asked chaNum =>
      cases asks
      exact ⟨follows.2, userNumRead_lastLogin rest fewer follows.1 follows.2⟩
  | login => cases asks
  | stored => cases asks
  | userNumRead => cases asks
  | charListSent => cases asks
  | charDetailSent => cases asks
  | passCheck => cases asks
  | pinCleared => cases asks

/-- No step of dispatch belongs to a message taken after its connection was closed. -/
theorem closed_silent {log : AgentLog} (ordered : AgentOrdered log)
    (few : acceptedCount log ≤ 2 ^ 32) {later during before : AgentLog} {event : AgentEvent}
    {msg : Message} (split : log = later ++ .app event :: (during ++ .taken msg :: before))
    (alone : ∀ other, .taken other ∉ during) {c : Nat} (accepted : c < acceptedCount log)
    (own : msg.clientId = clientIdOf c) (clientId : UInt32) : .closed c clientId ∉ before := by
  intro gone
  subst split
  have rest := ordered.suffix
  obtain ⟨since, begunMsg, older, chain, quiet⟩ := step_begun rest
  obtain ⟨opened, between, oldest, taken, pooled⟩ := begun_taken rest.2 chain
  -- both splits end at the last message taken
  have whole : during ++ .taken msg :: before =
      (since ++ .begun event.conn begunMsg :: between) ++ .taken begunMsg :: oldest := by
    rw [chain, taken, List.append_assoc, List.cons_append]
  have noneDuring : ∀ other ∈ during, ¬∃ msg, other = .taken msg := by
    rintro other member ⟨msg, same⟩
    exact alone msg (same ▸ member)
  have noneSince : ∀ other ∈ since ++ .begun event.conn begunMsg :: between,
      ¬∃ msg, other = .taken msg := by
    rintro other member ⟨msg, same⟩
    subst same
    rcases List.mem_append.mp member with here | there
    · exact quiet _ here msg rfl
    · rcases List.mem_cons.mp there with begun | deeper
      · cases begun
      · cases pooled _ deeper
  obtain ⟨sameMsg, sameBefore⟩ := last_unique whole noneDuring noneSince ⟨_, rfl⟩ ⟨_, rfl⟩
  cases sameMsg
  subst sameBefore
  have orderedOlder : AgentOrdered older := by
    have begun := rest.2
    rw [chain] at begun
    exact begun.suffix.2
  obtain ⟨present, ownId⟩ := sessionsOf_accepted orderedOlder opened
  have bound := conn_accepted rest
  have grown := acceptedCount_before later (.app event) (during ++ .taken msg :: before)
  have same : c = event.conn :=
    clientIdOf_inj (Nat.lt_of_lt_of_le accepted few)
      (Nat.lt_of_lt_of_le bound (Nat.le_trans grown few)) (own.symm.trans ownId)
  have goneOlder : Observation.closed c clientId ∈ older := by
    rw [taken]
    exact List.mem_append_right _ (List.mem_cons_of_mem _ gone)
  rw [← same] at opened
  exact not_open_of_closed orderedOlder goneOlder _ opened

/-! ### Logins of closed connections -/

/-- No m_onClose callback for the client of a login falls between the lookup of its
session and the moment at which the login is stored. -/
def Uninterrupted (log : AgentLog) : Prop :=
  ∀ later c session during msg before,
    log = later ++ .app (.stored c session) :: (during ++ .begun c msg :: before) →
      (∀ other taken, .begun other taken ∉ during) →
        ∀ other, .closed other msg.clientId ∉ during

theorem Uninterrupted.earlier {event : Observation AgentEvent} {log : AgentLog}
    (uninterrupted : Uninterrupted (event :: log)) : Uninterrupted log := by
  intro later c session during msg before split
  exact uninterrupted (event :: later) c session during msg before (by rw [split, List.cons_append])

theorem sessionsOf_stays {during before : AgentLog} {clientId : UInt32} {c : Nat}
    (opened : sessionsOf before clientId = some c)
    (undisturbed : ∀ other, .closed other clientId ∉ during) :
    sessionsOf (during ++ before) clientId ≠ none := by
  induction during with
  | nil =>
      rw [List.nil_append, opened]
      exact Option.some_ne_none c
  | cons event during ih =>
      have rest := ih fun other member => undisturbed other (List.mem_cons_of_mem _ member)
      cases event with
      | taken => exact rest
      | begun => exact rest
      | app => exact rest
      | accepted other otherId =>
          rw [List.cons_append, sessionsOf]
          by_cases same : clientId = otherId
          · rw [same, Function.update_self]
            exact Option.some_ne_none other
          · rwa [Function.update_of_ne same]
      | closed other otherId =>
          rw [List.cons_append, sessionsOf]
          by_cases same : clientId = otherId
          · subst same
            exact absurd List.mem_cons_self (undisturbed other)
          · rwa [Function.update_of_ne same]

/-- The session of a login is still there when the login is stored. -/
theorem stored_open {log : AgentLog} {c : Nat} {session : LoginSession}
    (ordered : AgentOrdered (.app (.stored c session) :: log))
    (uninterrupted : Uninterrupted (.app (.stored c session) :: log)) :
    sessionsOf log (clientIdOf c) ≠ none := by
  obtain ⟨⟨username, login, after, _success, _same⟩, rest⟩ := ordered
  obtain ⟨_inside, since, older, split, pooledSince⟩ := previous_split after
  subst split
  obtain ⟨⟨msg, last⟩, _older⟩ := rest.suffix
  have own := begun_clientId rest.suffix.2 last
  obtain ⟨_inside, between, before, split, pooledBetween⟩ := previous_split last
  subst split
  have opened := rest.suffix.2.suffix.1.2
  have whole : since ++ .app (.login c username login) :: (between ++ .begun c msg :: before) =
      (since ++ .app (.login c username login) :: between) ++ .begun c msg :: before := by
    rw [List.append_assoc, List.cons_append]
  have quiet : ∀ other taken,
      .begun other taken ∉ since ++ .app (.login c username login) :: between := by
    intro other taken member
    rcases List.mem_append.mp member with here | there
    · cases pooledSince _ here
    · rcases List.mem_cons.mp there with impossible | deeper
      · cases impossible
      · cases pooledBetween _ deeper
  have undisturbed := uninterrupted [] c session _ msg before (by rw [← whole]; rfl) quiet
  rw [whole, ← own]
  exact sessionsOf_stays (c := c) opened undisturbed

/-- Every key of m_loginSessions is a key of m_sessions, as the history has them. -/
theorem loginsOf_open {log : AgentLog} (ordered : AgentOrdered log)
    (uninterrupted : Uninterrupted log) {clientId : UInt32}
    (present : loginsOf log clientId ≠ none) : sessionsOf log clientId ≠ none := by
  induction log with
  | nil => exact absurd rfl present
  | cons event earlier ih =>
      have before := ih ordered.2 uninterrupted.earlier
      cases event with
      | taken => exact before present
      | begun => exact before present
      | accepted other otherId =>
          rw [sessionsOf]
          by_cases same : clientId = otherId
          · rw [same, Function.update_self]
            exact Option.some_ne_none other
          · rw [Function.update_of_ne same]
            exact before present
      | closed other otherId =>
          rw [loginsOf] at present
          rw [sessionsOf]
          by_cases same : clientId = otherId
          · rw [same, Function.update_self] at present
            exact absurd rfl present
          · rw [Function.update_of_ne same] at present ⊢
            exact before present
      | app event =>
          change sessionsOf earlier clientId ≠ none
          by_cases stores : ∃ c session, event = .stored c session ∧ clientId = clientIdOf c
          · obtain ⟨c, session, stored, same⟩ := stores
            subst stored same
            exact stored_open ordered uninterrupted
          · apply before
            have unstored : ∀ c session, event = .stored c session → clientId ≠ clientIdOf c :=
              fun c session stored same => stores ⟨c, session, stored, same⟩
            exact fun missing => present ((loginsOf_app_none unstored earlier).mpr missing)

/-! ### The authentication gate -/

section Gate

variable {D : Type} (lzo : Lzo) (odbc : OdbcDb D) (db : D) (dbReady : Bool)

/-- Where no two connections share a client id, every query for characters is made
with the positive user number of the last successful login on its connection, and
the dispatch of a message that begins after its connection was closed makes no
database call. -/
theorem agent_authenticated (events : List Event)
    (distinct : DistinctIds (run (agentStep lzo odbc) (agentStart db dbReady) events).shared) :
    let s := (run (agentStep lzo odbc) (agentStart db dbReady) events).shared
    (∀ later event earlier c userNum, s.log = later ++ .app event :: earlier →
      event.asksFor = some (c, userNum) →
        0 < userNum ∧ ∃ username login, lastLogin c earlier = some (username, login) ∧
          login.userNum = userNum) ∧
    (∀ later event during msg before c clientId,
      s.log = later ++ .app event :: (during ++ .taken msg :: before) →
        (∀ other, .taken other ∉ during) → c < s.accepted →
          msg.clientId = (s.conns c).clientId → event.callsDb = true →
            .closed c clientId ∉ before) := by
  intro s
  have recorded := agent_recorded lzo odbc db dbReady events
  have few := recorded.few distinct
  constructor
  · intro later event earlier c userNum split asks
    exact query_authenticated recorded.order few split asks
  · intro later event during msg before c clientId split alone accepted own _calls
    have count : c < acceptedCount s.log := recorded.count.symm ▸ accepted
    rw [recorded.clientIds c accepted] at own
    exact closed_silent recorded.order few split alone count own clientId

/-- In every state whose history shows no interrupted login, each key of
m_loginSessions is a key of m_sessions. -/
theorem agent_logins_open (events : List Event) :
    let s := (run (agentStep lzo odbc) (agentStart db dbReady) events).shared
    Uninterrupted s.log → ∀ clientId, clientId ∈ s.app.loginSessions → clientId ∈ s.sessions := by
  intro s uninterrupted clientId member
  have recorded := agent_recorded lzo odbc db dbReady events
  rw [← AList.lookup_isSome, Option.isSome_iff_ne_none] at member ⊢
  rw [recorded.sessions clientId]
  rw [recorded.app clientId] at member
  exact loginsOf_open recorded.order uninterrupted member

end Gate

/-- One login and the list it is asked for. -/
def loginAndList : List Event := oneClient [loginFrame [97], charListFrame] 18

theorem agent_authenticated_list :
    let s := (scriptedRun [some 1] loginAndList).shared
    (0 : Int) < 7 ∧ ∃ username login, lastLogin 0 (s.log.drop 2) = some (username, login) ∧
      login.userNum = 7 := by
  have one : (scriptedRun [some 1] loginAndList).shared.accepted = 1 := by decide +kernel
  have distinct : DistinctIds (scriptedRun [some 1] loginAndList).shared := by
    intro first second boundFirst boundSecond _same
    rw [one] at boundFirst boundSecond
    omega
  have split : (scriptedRun [some 1] loginAndList).shared.log =
      [.app (.charListSent 0)] ++ .app (.charList 0 7) ::
        (scriptedRun [some 1] loginAndList).shared.log.drop 2 := by decide +kernel
  unfold scriptedRun at distinct split ⊢
  exact (agent_authenticated literalLzo (scriptedDb 7) (.start [some 1]) true loginAndList
    distinct).1 _ _ _ 0 7 split rfl

theorem uninterrupted_of_open {log : AgentLog} (opened : ∀ c clientId, .closed c clientId ∉ log) :
    Uninterrupted log := by
  intro later c session during msg before split _alone other member
  apply opened other msg.clientId
  rw [split]
  exact List.mem_append_right _ (List.mem_cons_of_mem _ (List.mem_append_left _ member))

/-- A login on a connection that stays. -/
theorem agent_logins_open_list :
    let s := (scriptedRun [some 1] loginAndList).shared
    1 ∈ s.app.loginSessions ∧ 1 ∈ s.sessions := by
  have member : 1 ∈ (scriptedRun [some 1] loginAndList).shared.app.loginSessions := by
    decide +kernel
  have stays : (scriptedRun [some 1] loginAndList).shared.log.all
      (fun event => !event.isClosed) = true := by decide +kernel
  have uninterrupted : Uninterrupted (scriptedRun [some 1] loginAndList).shared.log := by
    apply uninterrupted_of_open
    intro c clientId gone
    cases List.all_eq_true.mp stays _ gone
  unfold scriptedRun at member uninterrupted ⊢
  exact ⟨member, agent_logins_open literalLzo (scriptedDb 7) (.start [some 1]) true loginAndList
    uninterrupted 1 member⟩

/-- The connection is lost while gs_user_verify is answered: the callback finds no
login to erase, and the login is stored for a client that is gone. -/
def interruptedLogin : List Event :=
  oneClient [loginFrame [97]] 4 ++
    [.io (.readError 0), .io (.write 0 .closeMark), .io (.write 0 .closeClear), .io (.notify 0)] ++
    List.replicate 6 .next

theorem agent_login_left_behind :
    let sys := scriptedRun [some 1] interruptedLogin
    sys.tick.isIdle = true ∧
      ¬∀ clientId, clientId ∈ sys.shared.app.loginSessions → clientId ∈ sys.shared.sessions := by
  refine ⟨by decide +kernel, ?_⟩
  intro inside
  have present := inside 1 (by decide +kernel)
  exact absurd present (by decide +kernel)

end RanOnline.Servers
