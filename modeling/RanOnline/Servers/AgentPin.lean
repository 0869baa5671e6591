/-
The second password.

A login that gs_user_verify answers with 30 or 31 leaves a PIN to be checked.  The
handlers that serve characters look at the user number of the login only, and the
PIN check works on the name that the client sends.
-/
import RanOnline.Servers.AgentLogins

namespace RanOnline.Servers

open Memory Net Db StepRun Threads Histories

/-- dbo.daum_user_passcheck answered, and the answer is 0. -/
def PassCheck.Accepted (check : PassCheck) : Prop :=
  check.result = 0 ∧ (check.returnValue.isSome ∨ check.output.isSome)

instance (check : PassCheck) : Decidable check.Accepted :=
  inferInstanceAs (Decidable (_ ∧ _))

/-- The last successful login on `c` came with a second password, and no PIN of
that connection has been accepted since. -/
def pinPending (c : Nat) : AgentLog → Bool
  | [] => false
  | .app (.login other _ result) :: earlier =>
      if other = c ∧ result.success = true then
        result.errCode = .krOkNewPass ∨ result.errCode = .krOkUsePass
      else pinPending c earlier
  | .app (.passCheck other _ _ _ (some check)) :: earlier =>
      if other = c ∧ check.Accepted then false else pinPending c earlier
  | _ :: earlier => pinPending c earlier

/-- A query for characters or a reply with them. -/
def AgentEvent.serves : AgentEvent → Option Nat
  | .charList c _ | .charListSent c | .charDetail c _ _ | .charDetailSent c => some c
  | _ => none

/-- The gate: nothing is served while a PIN is pending. -/
def PinGate : Observation AgentEvent → AgentLog → Prop
  | .app event, earlier => ∀ c, event.serves = some c → pinPending c earlier = false
  | _, _ => True

/-- No handler of a character request finds a user number in m_loginSessions while
the PIN of its connection is pending. -/
def PinDone : Observation AgentEvent → AgentLog → Prop
  | .app (.userNumRead c _ userNum), earlier => 0 < userNum → pinPending c earlier = false
  | _, _ => True

instance PinDone.decide : ∀ event earlier, Decidable (PinDone event earlier)
  | .app (.userNumRead _ _ _), _ => inferInstanceAs (Decidable (_ → _))
  | .accepted _ _, _ | .closed _ _, _ | .taken _, _ | .begun _ _, _ => .isTrue trivial
  | .app (.login _ _ _), _ | .app (.stored _ _), _ | .app (.charList _ _), _
  | .app (.charListSent _), _ | .app (.charDetail _ _ _), _ | .app (.charDetailSent _), _
  | .app (.passCheck _ _ _ _ _), _ | .app (.pinCleared _), _ => .isTrue trivial

/-- The name of the last PIN check that was answered on `c`, with the answer. -/
def lastPassCheck (c : Nat) : AgentLog → Option (Bytes × PassCheck)
  | [] => none
  | .app (.passCheck other userId _ _ (some check)) :: earlier =>
      if other = c then some (userId, check) else lastPassCheck c earlier
  | _ :: earlier => lastPassCheck c earlier

/-- A flag is cleared only after the procedure has accepted the PIN of the account
that the connection is logged in with. -/
def PinBound : Observation AgentEvent → AgentLog → Prop
  | .app (.pinCleared c), earlier =>
      ∃ account check, lastPassCheck c earlier = some (account, check) ∧ check.Accepted ∧
        (lastLogin c earlier).map Prod.fst = some account
  | _, _ => True

/-- Every check that passes names the account of the connection, and its answer
is one that the procedure gave. -/
def OwnChecks : Observation AgentEvent → AgentLog → Prop
  | .app (.passCheck c userId _ _ (some check)), earlier =>
      check.result = 0 → check.Accepted ∧ (lastLogin c earlier).map Prod.fst = some userId
  | _, _ => True

instance OwnChecks.decide : ∀ event earlier, Decidable (OwnChecks event earlier)
  | .app (.passCheck _ _ _ _ (some _)), _ => inferInstanceAs (Decidable (_ → _ ∧ _))
  | .accepted _ _, _ | .closed _ _, _ | .taken _, _ | .begun _ _, _ => .isTrue trivial
  | .app (.login _ _ _), _ | .app (.stored _ _), _ | .app (.userNumRead _ _ _), _
  | .app (.charList _ _), _ | .app (.charListSent _), _ | .app (.charDetail _ _ _), _
  | .app (.charDetailSent _), _ | .app (.passCheck _ _ _ _ none), _
  | .app (.pinCleared _), _ => .isTrue trivial

/-! ### The gate -/

theorem pinPending_pooled (c : Nat) {during before : AgentLog}
    (pooled : ∀ other ∈ during, other.pooled = true) :
    pinPending c (during ++ before) = pinPending c before :=
  unchanged_pooled (fun _c _clientId _log => rfl) (fun _c _clientId _log => rfl) pooled

/-- What was not pending when the user number was read is not pending now. -/
theorem not_pending_after_read {log : AgentLog} (done : Throughout PinDone log) {c : Nat}
    {request : CharRequest} {userNum : Int} (read : After (.userNumRead c request userNum) log)
    (positive : 0 < userNum) : pinPending c log = false := by
  obtain ⟨_inside, during, before, split, pooled⟩ := previous_split read
  subst split
  rw [pinPending_pooled c pooled]
  exact done.at positive

/-- The same one step later, behind the query. -/
theorem not_pending_after_query {log : AgentLog} (ordered : AgentOrdered log)
    (done : Throughout PinDone log) {event : AgentEvent} {c : Nat} {userNum : Int}
    (asks : event.asksFor = some (c, userNum)) (after : After event log) :
    pinPending c log = false := by
  obtain ⟨_inside, during, before, split, pooled⟩ := previous_split after
  subst split
  have follows := ordered.at
  have doneBefore := done.suffix.2
  rw [pinPending_pooled c pooled]
  cases event with
  | charList other asked =>
      cases asks
      exact not_pending_after_read doneBefore follows.1 follows.2
  | charDetail other asked chaNum =>
      cases asks
      exact not_pending_after_read doneBefore follows.1 follows.2
  | login => cases asks
  | stored => cases asks
  | userNumRead => cases asks
  | charListSent => cases asks
  | charDetailSent => cases asks
  | passCheck => cases asks
  | pinCleared => cases asks

theorem pinGate_of_done {log : AgentLog} (ordered : AgentOrdered log)
    (done : Throughout PinDone log) : Everywhere PinGate log := by
  intro later event earlier split
  subst split
  have doneEarlier := done.suffix.2
  obtain ⟨follows, orderedEarlier⟩ := ordered.suffix
  cases event with
  | accepted => trivial
  | closed => trivial
  | taken => trivial
  | begun => trivial
  | app event =>
      intro c serves
      cases event with
      | charList other userNum =>
          cases serves
          exact not_pending_after_read doneEarlier follows.1 follows.2
      | charDetail other userNum chaNum =>
          cases serves
          exact not_pending_after_read doneEarlier follows.1 follows.2
      | charListSent other =>
          cases serves
          obtain ⟨userNum, positive, read | queried⟩ := follows
          · exact not_pending_after_read doneEarlier read positive
          · exact not_pending_after_query orderedEarlier doneEarlier rfl queried
      | charDetailSent other =>
          cases serves
          obtain ⟨userNum, chaNum, queried⟩ := follows
          exact not_pending_after_query orderedEarlier doneEarlier rfl queried
      | login => cases serves
      | stored => cases serves
      | userNumRead => cases serves
      | passCheck => cases serves
      | pinCleared => cases serves

/-! ### The account of a check -/

theorem lastPassCheck_pooled (c : Nat) {during before : AgentLog}
    (pooled : ∀ other ∈ during, other.pooled = true) :
    lastPassCheck c (during ++ before) = lastPassCheck c before :=
  unchanged_pooled (fun _c _clientId _log => rfl) (fun _c _clientId _log => rfl) pooled

theorem pinBound_of_own {log : AgentLog} (ordered : AgentOrdered log)
    (own : Throughout OwnChecks log) : Everywhere PinBound log := by
  intro later event earlier split
  subst split
  have ownEarlier := own.suffix.2
  have follows := ordered.at
  cases event with
  | accepted => trivial
  | closed => trivial
  | taken => trivial
  | begun => trivial
  | app event =>
      cases event with
      | pinCleared c =>
          obtain ⟨userId, pin, checkFlag, check, checked, zero⟩ := follows
          obtain ⟨_inside, during, before, split, pooled⟩ := previous_split checked
          subst split
          obtain ⟨accepted, account⟩ := ownEarlier.at zero
          refine ⟨userId, check, ?_, accepted, ?_⟩
          · rw [lastPassCheck_pooled c pooled, lastPassCheck, if_pos rfl]
          · rw [lastLogin_pooled c pooled]
            exact account
      | login => trivial
      | stored => trivial
      | userNumRead => trivial
      | charList => trivial
      | charListSent => trivial
      | charDetail => trivial
      | charDetailSent => trivial
      | passCheck => trivial

/-! ### Runs -/

section Runs

variable {D : Type} (lzo : Lzo) (odbc : OdbcDb D) (db : D) (dbReady : Bool)

/-- In every run where no character request meets a pending PIN, nothing is served
while one is pending. -/
theorem agent_pin_gate (events : List Event)
    (done : Everywhere PinDone
      (run (agentStep lzo odbc) (agentStart db dbReady) events).shared.log) :
    Everywhere PinGate (run (agentStep lzo odbc) (agentStart db dbReady) events).shared.log :=
  pinGate_of_done (agent_recorded lzo odbc db dbReady events).order (everywhere_iff.mp done)

/-- In every run where the checks that pass are answered and name the account of
their own connection, a flag is cleared for that account only. -/
theorem agent_pin_bound (events : List Event)
    (own : Everywhere OwnChecks
      (run (agentStep lzo odbc) (agentStart db dbReady) events).shared.log) :
    Everywhere PinBound (run (agentStep lzo odbc) (agentStart db dbReady) events).shared.log :=
  pinBound_of_own (agent_recorded lzo odbc db dbReady events).order (everywhere_iff.mp own)

end Runs

/-- A login with a second password, its check and the list. -/
def checkedLogin : List Event :=
  oneClient [loginFrame [97], passcheckFrame [97], charListFrame] 28

theorem agent_pin_gate_checked :
    Everywhere PinGate
      (run (agentStep literalLzo (scriptedDb 7)) (agentStart (.start [some 31, some 0]) true)
        checkedLogin).shared.log := by
  apply agent_pin_gate literalLzo (scriptedDb 7) (.start [some 31, some 0]) true checkedLogin
  decide +kernel

theorem agent_pin_bound_checked :
    Everywhere PinBound
      (run (agentStep literalLzo (scriptedDb 7)) (agentStart (.start [some 31, some 0]) true)
        checkedLogin).shared.log := by
  apply agent_pin_bound literalLzo (scriptedDb 7) (.start [some 31, some 0]) true checkedLogin
  decide +kernel

/-- The list is served without a PIN check. -/
theorem agent_list_before_pin :
    ¬Everywhere PinGate
      (scriptedRun [some 31] (oneClient [loginFrame [97], charListFrame] 18)).shared.log := by
  generalize reached : (scriptedRun [some 31]
    (oneClient [loginFrame [97], charListFrame] 18)).shared.log = log
  have sent : log.head? = some (.app (.charListSent 0)) := by
    rw [← reached]
    decide +kernel
  have pending : pinPending 0 log.tail = true := by
    rw [← reached]
    decide +kernel
  intro gate
  have served := gate [] _ _ (List.cons_head?_tail sent).symm 0 rfl
  rw [pending] at served
  cases served

/-- The PIN of another account clears the flag. -/
theorem agent_pin_of_other :
    ¬Everywhere PinBound (scriptedRun [some 31, some 0]
      (oneClient [loginFrame [97], passcheckFrame [98]] 18)).shared.log := by
  generalize reached : (scriptedRun [some 31, some 0]
    (oneClient [loginFrame [97], passcheckFrame [98]] 18)).shared.log = log
  have cleared : log.head? = some (.app (.pinCleared 0)) := by
    rw [← reached]
    decide +kernel
  have checked : (lastPassCheck 0 log.tail).map Prod.fst = some [98] := by
    rw [← reached]
    decide +kernel
  have logged : (lastLogin 0 log.tail).map Prod.fst = some [97] := by
    rw [← reached]
    decide +kernel
  intro bound
  obtain ⟨account, check, last, _accepted, own⟩ :=
    bound [] _ _ (List.cons_head?_tail cleared).symm
  rw [last] at checked
  rw [logged] at own
  cases checked
  cases own

end RanOnline.Servers
