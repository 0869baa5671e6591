/-
Client ids that come round: the claim on what OnAccept finds in the two maps.

m_nextClientId is a 32-bit counter, so connection c has the id of the connection
2^32 accepts before it.  Whether that id is free when c is accepted depends on the
m_onClose callbacks since the accept of the former holder, and on the logins that
were stored under the id after the last of them.
-/
import RanOnline.Servers.AgentLogins

namespace RanOnline.Servers

open Memory Net Db StepRun Threads Histories

/-! ### The counter -/

theorem clientIdOf_eq_iff {first second : Nat} :
    clientIdOf first = clientIdOf second ↔ first % 2 ^ 32 = second % 2 ^ 32 := by
  simp only [← UInt32.toNat_inj, clientIdOf, UInt32.toNat_ofNat']
  omega

/-- The connection that had the id of `c` before it. -/
def formerHolder (c : Nat) : Nat := c - 2 ^ 32

theorem clientIdOf_formerHolder {c : Nat} (wrapped : 2 ^ 32 ≤ c) :
    clientIdOf (formerHolder c) = clientIdOf c := by
  apply clientIdOf_eq_iff.mpr
  unfold formerHolder
  omega

theorem not_reused_between {c other : Nat} (after : formerHolder c < other) (before : other < c) :
    clientIdOf c ≠ clientIdOf other := by
  intro same
  have remainders := clientIdOf_eq_iff.mp same
  unfold formerHolder at after
  omega

/-! ### Who may be logged in -/

/-- A login is stored under the id of a connection that was accepted. -/
theorem loginsOf_accepted {log : AgentLog} (ordered : AgentOrdered log) {clientId : UInt32}
    (present : loginsOf log clientId ≠ none) :
    ∃ c, c < acceptedCount log ∧ clientId = clientIdOf c := by
  induction log with
  | nil => exact absurd rfl present
  | cons event earlier ih =>
      have before := ih ordered.2
      have grown := acceptedCount_suffix [event] earlier
      have lifted : loginsOf earlier clientId ≠ none →
          ∃ c, c < acceptedCount (event :: earlier) ∧ clientId = clientIdOf c := by
        intro known
        obtain ⟨c, bound, own⟩ := before known
        exact ⟨c, Nat.lt_of_lt_of_le bound grown, own⟩
      cases event with
      | accepted => exact lifted present
      | taken => exact lifted present
      | begun => exact lifted present
      | closed other otherId =>
          rw [loginsOf] at present
          by_cases same : clientId = otherId
          · rw [same, Function.update_self] at present
            exact absurd rfl present
          · rw [Function.update_of_ne same] at present
            exact lifted present
      | app event =>
          by_cases own : clientId = clientIdOf event.conn
          · exact ⟨event.conn, Nat.lt_of_lt_of_le (conn_accepted ordered) grown, own⟩
          · rw [loginsOf_elsewhere own] at present
            exact lifted present

/-- No two of the first 2^32 connections share an id, so nothing stands under a new one. -/
theorem unused_of_few {log : AgentLog} (ordered : AgentOrdered log)
    (few : acceptedCount log < 2 ^ 32) :
    sessionsOf log (clientIdOf (acceptedCount log)) = none ∧
      loginsOf log (clientIdOf (acceptedCount log)) = none := by
  have unused : ∀ c, c < acceptedCount log → clientIdOf (acceptedCount log) ≠ clientIdOf c := by
    intro c bound same
    exact absurd (clientIdOf_inj few (Nat.lt_trans bound few) same) (Nat.ne_of_gt bound)
  constructor
  · by_contra taken
    obtain ⟨c, opened⟩ := Option.ne_none_iff_exists'.mp taken
    obtain ⟨bound, same⟩ := sessionsOf_accepted ordered opened
    exact unused c bound same
  · by_contra taken
    obtain ⟨c, bound, same⟩ := loginsOf_accepted ordered taken
    exact unused c bound same

/-! ### When an id is free again -/

/-- Since `holder` was accepted an m_onClose callback has run for its id, and no
login has been stored under the id after that callback. -/
def Released (holder : Nat) (log : AgentLog) : Prop :=
  ∃ since other before, log = since ++ .closed other (clientIdOf holder) :: before ∧
    holder < acceptedCount before ∧
    ∀ c session, clientIdOf c = clientIdOf holder → .app (.stored c session) ∉ since

theorem Released.later {holder : Nat} {event : Observation AgentEvent} {log : AgentLog}
    (released : Released holder log)
    (apart : ∀ c session, clientIdOf c = clientIdOf holder → event ≠ .app (.stored c session)) :
    Released holder (event :: log) := by
  obtain ⟨since, other, before, split, accepted, quiet⟩ := released
  refine ⟨event :: since, other, before, by rw [split, List.cons_append], accepted, ?_⟩
  intro c session same member
  rcases List.mem_cons.mp member with here | deeper
  · exact apart c session same here.symm
  · exact quiet c session same deeper

/-- An id that was given out and stands in neither map has been released. -/
theorem released_of_unused {log : AgentLog} (ordered : AgentOrdered log) {holder : Nat}
    (accepted : holder < acceptedCount log) (noSession : sessionsOf log (clientIdOf holder) = none)
    (noLogin : loginsOf log (clientIdOf holder) = none) : Released holder log := by
  induction log with
  | nil => cases accepted
  | cons event earlier ih =>
      have before := ih ordered.2
      cases event with
      | taken => exact (before accepted noSession noLogin).later fun _ _ _ => by simp
      | begun => exact (before accepted noSession noLogin).later fun _ _ _ => by simp
      | accepted c clientId =>
          obtain ⟨number, own⟩ := ordered.1
          rw [sessionsOf, own] at noSession
          by_cases same : clientIdOf holder = clientIdOf c
          · rw [same, Function.update_self] at noSession
            cases noSession
          · rw [Function.update_of_ne same] at noSession
            have older : holder < acceptedCount earlier := by
              have different : holder ≠ c := fun equal => same (congrArg clientIdOf equal)
              rw [acceptedCount] at accepted
              omega
            exact (before older noSession noLogin).later fun _ _ _ => by simp
      | closed other clientId =>
          by_cases same : clientIdOf holder = clientId
          · subst same
            exact ⟨[], other, earlier, rfl, accepted, fun _ _ _ => List.not_mem_nil⟩
          · rw [sessionsOf, Function.update_of_ne same] at noSession
            rw [loginsOf, Function.update_of_ne same] at noLogin
            exact (before accepted noSession noLogin).later fun _ _ _ => by simp
      | app event =>
          have unstored : ∀ c session, event = .stored c session →
              clientIdOf holder ≠ clientIdOf c := by
            intro c session stored same
            subst stored
            rw [loginsOf, same, Function.update_self] at noLogin
            cases noLogin
          have missing := (loginsOf_app_none unstored earlier).mp noLogin
          apply (before accepted noSession missing).later
          intro c session own equal
          cases equal
          exact unstored c session rfl own.symm

/-- A released id stays out of both maps until it is given out again. -/
theorem unused_since {since before : AgentLog} {clientId : UInt32} {other : Nat}
    (unaccepted : ∀ c, .accepted c clientId ∉ since)
    (unstored : ∀ c session, clientIdOf c = clientId → .app (.stored c session) ∉ since) :
    sessionsOf (since ++ .closed other clientId :: before) clientId = none ∧
      loginsOf (since ++ .closed other clientId :: before) clientId = none := by
  induction since with
  | nil =>
      rw [List.nil_append, sessionsOf, loginsOf]
      exact ⟨Function.update_self .., Function.update_self ..⟩
  | cons event since ih =>
      obtain ⟨noSession, noLogin⟩ :=
        ih (fun c member => unaccepted c (List.mem_cons_of_mem _ member))
          (fun c session own member => unstored c session own (List.mem_cons_of_mem _ member))
      rw [List.cons_append]
      cases event with
      | taken => exact ⟨noSession, noLogin⟩
      | begun => exact ⟨noSession, noLogin⟩
      | accepted c otherId =>
          have different : clientId ≠ otherId := by
            intro same
            subst same
            exact unaccepted c List.mem_cons_self
          rw [sessionsOf, Function.update_of_ne different]
          exact ⟨noSession, noLogin⟩
      | closed c otherId =>
          rw [sessionsOf, loginsOf]
          by_cases same : clientId = otherId
          · rw [same]
            exact ⟨Function.update_self .., Function.update_self ..⟩
          · rw [Function.update_of_ne same, Function.update_of_ne same]
            exact ⟨noSession, noLogin⟩
      | app event =>
          have own : ∀ c session, event = .stored c session → clientId ≠ clientIdOf c := by
            intro c session stored same
            subst stored
            exact unstored c session same.symm List.mem_cons_self
          exact ⟨noSession, (loginsOf_app_none own _).mpr noLogin⟩

theorem unused_of_released {log : AgentLog} (ordered : AgentOrdered log)
    (wrapped : 2 ^ 32 ≤ acceptedCount log)
    (released : Released (formerHolder (acceptedCount log)) log) :
    sessionsOf log (clientIdOf (acceptedCount log)) = none ∧
      loginsOf log (clientIdOf (acceptedCount log)) = none := by
  obtain ⟨since, other, before, split, held, unstored⟩ := released
  rw [clientIdOf_formerHolder wrapped] at split unstored
  generalize next : acceptedCount log = c at *
  subst split
  apply unused_since _ unstored
  -- an accept in between is too late for one round and too early for the next
  intro between member
  obtain ⟨newer, older, sinceSplit⟩ := List.append_of_mem member
  subst sinceSplit
  rw [List.append_assoc, List.cons_append] at ordered next
  obtain ⟨number, own⟩ := ordered.at
  have sinceHeld := acceptedCount_suffix older (.closed other (clientIdOf c) :: before)
  have sinceAccepted := acceptedCount_suffix newer (.accepted between (clientIdOf c) ::
    (older ++ .closed other (clientIdOf c) :: before))
  rw [next, acceptedCount, ← number] at sinceAccepted
  rw [← number] at sinceHeld
  exact not_reused_between (Nat.lt_of_lt_of_le held sinceHeld) sinceAccepted own

/-! ### Every accept of a run -/

section Accepts

variable {D : Type}

/-- The id that OnAccept is about to give stands in neither map. -/
def StartsClean (sys : System (AgentApp D) AgentEvent) : Event → Prop
  | .io (.accept _) =>
      sys.shared.nextClientId + 1 ∉ sys.shared.sessions ∧
        sys.shared.nextClientId + 1 ∉ sys.shared.app.loginSessions
  | _ => True

/-- Where ids have come round, the former holder of the next one has released it. -/
def FormerReleased (sys : System (AgentApp D) AgentEvent) : Event → Prop
  | .io (.accept _) =>
      2 ^ 32 ≤ sys.shared.accepted → Released (formerHolder sys.shared.accepted) sys.shared.log
  | _ => True

variable {lzo : Lzo} {odbc : OdbcDb D}

theorem nextClientId_of_recorded {s : AgentState D} (recorded : AgentRecorded lzo odbc s) :
    s.nextClientId + 1 = clientIdOf (acceptedCount s.log) := by
  rw [recorded.nextId, recorded.count, clientIdOf, UInt32.ofNat_add]
  rfl

theorem startsClean_iff {sys : System (AgentApp D) AgentEvent}
    (recorded : AgentRecorded lzo odbc sys.shared) (event : Event) :
    StartsClean sys event ↔ FormerReleased sys event := by
  cases event with
  | update => exact Iff.rfl
  | next => exact Iff.rfl
  | io event =>
      cases event with
      | read => exact Iff.rfl
      | readError => exact Iff.rfl
      | deliver => exact Iff.rfl
      | endpoint => exact Iff.rfl
      | write => exact Iff.rfl
      | notify => exact Iff.rfl
      | accept remote =>
          simp only [StartsClean, FormerReleased]
          rw [nextClientId_of_recorded recorded, ← AList.lookup_eq_none, ← AList.lookup_eq_none,
            recorded.sessions, recorded.app, ← recorded.count]
          constructor
          · rintro ⟨noSession, noLogin⟩ wrapped
            have own := clientIdOf_formerHolder wrapped
            rw [← own] at noSession noLogin
            have accepted : formerHolder (acceptedCount sys.shared.log) <
                acceptedCount sys.shared.log := by
              unfold formerHolder
              omega
            exact released_of_unused recorded.order accepted noSession noLogin
          · intro released
            by_cases wrapped : 2 ^ 32 ≤ acceptedCount sys.shared.log
            · exact unused_of_released recorded.order wrapped (released wrapped)
            · exact unused_of_few recorded.order (Nat.not_le.mp wrapped)

/-- A run gives every new connection an id that stands in neither map exactly when,
at each accept from number 2^32 on, the connection 2^32 accepts before has seen an
m_onClose callback for its id and no login has been stored under it since. -/
theorem agent_starts_clean_iff (lzo : Lzo) (odbc : OdbcDb D) (db : D) (dbReady : Bool)
    (events : List Event) :
    Along (agentStep lzo odbc) (agentStart db dbReady) events StartsClean ↔
      Along (agentStep lzo odbc) (agentStart db dbReady) events FormerReleased := by
  have decided : ∀ before event,
      StartsClean (run (agentStep lzo odbc) (agentStart db dbReady) before) event ↔
        FormerReleased (run (agentStep lzo odbc) (agentStart db dbReady) before) event := by
    intro before event
    exact startsClean_iff (agent_recorded lzo odbc db dbReady before) event
  constructor
  · intro clean before event after split
    exact (decided before event).mp (clean before event after split)
  · intro released before event after split
    exact (decided before event).mpr (released before event after split)

/-- Accepts take no entry out of either map. -/
theorem accepts_keep (clientId : UInt32) (count : Nat)
    {sys : System (AgentApp D) AgentEvent} (session : clientId ∈ sys.shared.sessions)
    (login : clientId ∈ sys.shared.app.loginSessions) :
    let later := run (agentStep lzo odbc) sys (List.replicate count (.io (.accept none)))
    later.shared.accepted = sys.shared.accepted + count ∧
      clientId ∈ later.shared.sessions ∧ clientId ∈ later.shared.app.loginSessions := by
  induction count generalizing sys with
  | zero => exact ⟨rfl, session, login⟩
  | succ count ih =>
      have stays : clientId ∈ (agentStep lzo odbc sys (.io (.accept none))).shared.sessions :=
        (AList.mem_insert _).mpr (Or.inr session)
      obtain ⟨number, kept⟩ := ih stays login
      constructor
      · rw [← Nat.add_assoc, Nat.add_right_comm]
        exact number
      · exact kept

/-- A client that stays logged in for one round of the counter hands its id to the
next connection. -/
theorem taken_after_round {db : D} {dbReady : Bool} {events : List Event} {count : Nat}
    (one : (run (agentStep lzo odbc) (agentStart db dbReady) events).shared.accepted = 1)
    (session : 1 ∈ (run (agentStep lzo odbc) (agentStart db dbReady) events).shared.sessions)
    (login : 1 ∈
      (run (agentStep lzo odbc) (agentStart db dbReady) events).shared.app.loginSessions)
    (round : 1 + count = 2 ^ 32) :
    let sys := run (agentStep lzo odbc) (agentStart db dbReady)
      (events ++ List.replicate count (.io (.accept none)))
    sys.shared.nextClientId + 1 ∈ sys.shared.sessions ∧
      sys.shared.nextClientId + 1 ∈ sys.shared.app.loginSessions := by
  intro sys
  have recorded : AgentRecorded lzo odbc sys.shared := agent_recorded lzo odbc db dbReady _
  have reached : sys = run (agentStep lzo odbc)
      (run (agentStep lzo odbc) (agentStart db dbReady) events)
      (List.replicate count (.io (.accept none))) := run_append _ _ _ _
  obtain ⟨number, sessionStays, loginStays⟩ := accepts_keep 1 count session login
  rw [← reached] at number sessionStays loginStays
  have next : sys.shared.nextClientId + 1 = 1 := by
    rw [nextClientId_of_recorded recorded, recorded.count, number, one, round]
    decide
  rw [next]
  exact ⟨sessionStays, loginStays⟩

end Accepts

/-- The first client logs in and stays, and the id counter comes round. -/
def comesRound : List Event :=
  loginAndList ++ List.replicate (2 ^ 32 - 1) (.io (.accept none))

theorem agent_id_taken :
    (let sys := scriptedRun [some 1] comesRound
    sys.shared.nextClientId + 1 ∈ sys.shared.sessions ∧
      sys.shared.nextClientId + 1 ∈ sys.shared.app.loginSessions) ∧
    ¬Along (agentStep literalLzo (scriptedDb 7)) (agentStart (.start [some 1]) true)
      (comesRound ++ [.io (.accept none)]) StartsClean := by
  have session : 1 ∈ (scriptedRun [some 1] loginAndList).shared.sessions := by decide +kernel
  have login : 1 ∈ (scriptedRun [some 1] loginAndList).shared.app.loginSessions := by
    decide +kernel
  have one : (scriptedRun [some 1] loginAndList).shared.accepted = 1 := by decide +kernel
  unfold scriptedRun at session login one
  unfold scriptedRun comesRound
  have taken := taken_after_round one session login (by decide : 1 + (2 ^ 32 - 1) = 2 ^ 32)
  constructor
  · exact taken
  · intro clean
    have last := ((along_snoc _ _ _ _).mp clean).2
    exact absurd taken.1 last.1

end RanOnline.Servers
