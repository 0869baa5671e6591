/-
The history of an AgentServer run.

`agentFollows` lists what each step of a handler comes right after and what it
knows then; `loginsOf` is m_loginSessions as the history leaves it.  One pass over
the handlers shows that every run keeps to both, and the claims about logins, PINs
and characters are then read off the history.
-/
import RanOnline.Net.ServerHistory
import RanOnline.Servers.AgentServer

namespace RanOnline.Servers

open Memory Net Db StepRun Threads Histories

abbrev AgentLog := List (Observation AgentEvent)

/-- m_loginSessions as the history leaves it. -/
def loginsOf : AgentLog → UInt32 → Option LoginSession
  | [] => fun _clientId => none
  | .app (.stored c session) :: earlier =>
      Function.update (loginsOf earlier) (clientIdOf c) (some session)
  | .app (.pinCleared c) :: earlier =>
      Function.update (loginsOf earlier) (clientIdOf c)
        ((loginsOf earlier (clientIdOf c)).map fun session => { session with use2ndPass := 0 })
  | .closed _ clientId :: earlier => Function.update (loginsOf earlier) clientId none
  | _ :: earlier => loginsOf earlier

def AgentEvent.keepsLogins : AgentEvent → Bool
  | .stored _ _ | .pinCleared _ => false
  | _ => true

theorem loginsOf_keeps {event : AgentEvent} (keeps : event.keepsLogins = true) (log : AgentLog) :
    loginsOf (.app event :: log) = loginsOf log := by
  cases event with
  | stored c session => cases keeps
  | pinCleared c => cases keeps
  | login => rfl
  | userNumRead => rfl
  | charList => rfl
  | charListSent => rfl
  | charDetail => rfl
  | charDetailSent => rfl
  | passCheck => rfl

/-- The last step of dispatch is this one of the AgentServer. -/
def After (event : AgentEvent) (log : AgentLog) : Prop := lastDispatch log = some (.app event)

/-- Dispatch has found the session of `c` and done nothing more. -/
def Begun (c : Nat) (log : AgentLog) : Prop := ∃ msg, lastDispatch log = some (.begun c msg)

/-- The steps of the handlers, each with what it comes after. -/
def agentFollows : AgentEvent → AgentLog → Prop
  | .login c _ _, earlier => Begun c earlier
  | .stored c session, earlier =>
      ∃ username result, After (.login c username result) earlier ∧ result.success = true ∧
        session = result.session
  | .userNumRead c _ userNum, earlier =>
      Begun c earlier ∧
        userNum = ((loginsOf earlier (clientIdOf c)).map LoginSession.userNum).getD 0
  | .charList c userNum, earlier => After (.userNumRead c .list userNum) earlier ∧ 0 < userNum
  | .charListSent c, earlier =>
      ∃ userNum, 0 < userNum ∧
        (After (.userNumRead c .list userNum) earlier ∨ After (.charList c userNum) earlier)
  | .charDetail c userNum _, earlier =>
      After (.userNumRead c .detail userNum) earlier ∧ 0 < userNum
  | .charDetailSent c, earlier => ∃ userNum chaNum, After (.charDetail c userNum chaNum) earlier
  | .passCheck c _ _ _ _, earlier => Begun c earlier
  | .pinCleared c, earlier =>
      ∃ userId pin checkFlag check,
        After (.passCheck c userId pin checkFlag (some check)) earlier ∧ check.result = 0

/-- Dispatch has returned: no successful login is waiting to be stored. -/
def agentSettled (log : AgentLog) : Prop :=
  ∀ c username result, After (.login c username result) log → result.success = false

theorem lasting_after (event : AgentEvent) : Lasting (After event) := lasting_lastDispatch _

theorem lasting_begun (c : Nat) : Lasting (Begun c) := by
  intro event log outside holds
  obtain ⟨msg, last⟩ := holds
  exact ⟨msg, lasting_lastDispatch _ outside last⟩

theorem after_here (event : AgentEvent) (log : AgentLog) : After event (.app event :: log) :=
  previous_here rfl log

theorem lasting_settled : Lasting agentSettled := by
  intro event log outside holds c username result last
  apply holds c username result
  rw [After, lastDispatch, previous_skip outside] at last
  exact last

/-- Any other last step means that no login is waiting. -/
theorem settled_of_last {log : AgentLog} {event : Observation AgentEvent}
    (last : lastDispatch log = some event)
    (other : ∀ c username result, event ≠ .app (.login c username result)) :
    agentSettled log := by
  intro c username result after
  rw [After, last] at after
  exact absurd (Option.some.inj after) (other c username result)

theorem Begun.settled {c : Nat} {log : AgentLog} (begun : Begun c log) : agentSettled log := by
  obtain ⟨msg, last⟩ := begun
  exact settled_of_last last fun _ _ _ => by simp

section Rules

variable {D : Type} {lzo : Lzo} {odbc : OdbcDb D}

/-- m_loginSessions and the history agree. -/
def AgentApp.Agrees (app : AgentApp D) (log : AgentLog) : Prop :=
  ∀ clientId, app.loginSessions.lookup clientId = loginsOf log clientId

def agentRules (lzo : Lzo) (odbc : OdbcDb D) : Discipline (agentServer lzo odbc) where
  follows := agentFollows
  settled := agentSettled
  agrees := AgentApp.Agrees
  settled_lasting := lasting_settled
  agrees_accepted := fun _app _log _c _clientId agrees => agrees
  agrees_taken := fun _app _log _msg agrees => agrees
  agrees_begun := fun _app _log _c _msg agrees => agrees
  agrees_closed := by
    intro app log c clientId agrees other
    simp only [loginsOf]
    change (app.loginSessions.erase clientId).lookup other = _
    by_cases here : other = clientId
    · subst here
      rw [AList.lookup_erase, Function.update_self]
    · rw [AList.lookup_erase_ne here, Function.update_of_ne here]
      exact agrees other

/-- The state after a step, where the history tells it. -/
abbrev AgentRecorded (lzo : Lzo) (odbc : OdbcDb D) (s : AgentState D) : Prop :=
  (agentRules lzo odbc).Recorded s

abbrev agentOthers (lzo : Lzo) (odbc : OdbcDb D) : Interference (AgentState D) :=
  (agentRules lzo odbc).others lzo

/-! ### The sections keep the rules -/

theorem recorded_note {s : AgentState D} (recorded : AgentRecorded lzo odbc s)
    {event : AgentEvent} (follows : agentFollows event s.log)
    (keeps : event.keepsLogins = true) : AgentRecorded lzo odbc (s.note event) := by
  apply recorded.note follows
  intro clientId
  rw [loginsOf_keeps keeps]
  exact recorded.app clientId

theorem recorded_query {s : AgentState D} (recorded : AgentRecorded lzo odbc s) {β : Type}
    {procedure : StateM D β} {event : β → AgentEvent}
    (follows : ∀ answer, agentFollows (event answer) s.log)
    (keeps : ∀ answer, (event answer).keepsLogins = true) :
    AgentRecorded lzo odbc (s.query procedure event).1 := by
  apply recorded.note (follows _)
  intro clientId
  rw [loginsOf_keeps (keeps _)]
  exact recorded.app clientId

theorem agrees_store {app : AgentApp D} {log : AgentLog} (agrees : app.Agrees log) (c : Nat)
    (session : LoginSession) :
    { app with loginSessions := app.loginSessions.insert (clientIdOf c) session }.Agrees
      (.app (.stored c session) :: log) := by
  intro clientId
  simp only [loginsOf]
  by_cases here : clientId = clientIdOf c
  · subst here
    rw [AList.lookup_insert, Function.update_self]
  · rw [AList.lookup_insert_ne here, Function.update_of_ne here]
    exact agrees clientId

theorem recorded_store {s : AgentState D} (recorded : AgentRecorded lzo odbc s) {c : Nat}
    {session : LoginSession} (follows : agentFollows (.stored c session) s.log) :
    AgentRecorded lzo odbc (s.store c (clientIdOf c) session) :=
  recorded.note follows (agrees_store recorded.app c session)

theorem agrees_clearPin {app : AgentApp D} {log : AgentLog} (agrees : app.Agrees log) {c : Nat}
    {session : LoginSession} (found : app.loginSessions.lookup (clientIdOf c) = some session) :
    { app with
        loginSessions := app.loginSessions.insert (clientIdOf c)
          { session with use2ndPass := 0 } }.Agrees (.app (.pinCleared c) :: log) := by
  intro clientId
  have agreed := agrees (clientIdOf c)
  rw [found] at agreed
  simp only [loginsOf, ← agreed, Option.map_some]
  by_cases here : clientId = clientIdOf c
  · subst here
    rw [AList.lookup_insert, Function.update_self]
  · rw [AList.lookup_insert_ne here, Function.update_of_ne here]
    exact agrees clientId

theorem recorded_clearPin {s : AgentState D} (recorded : AgentRecorded lzo odbc s) {c : Nat}
    (follows : agentFollows (.pinCleared c) s.log) :
    AgentRecorded lzo odbc (s.clearPin c (clientIdOf c)) := by
  unfold AgentState.clearPin
  split
  · exact recorded
  · rename_i session found
    exact recorded.note follows (agrees_clearPin recorded.app found)

theorem readUserNum_follows {s : AgentState D} (recorded : AgentRecorded lzo odbc s) {c : Nat}
    (begun : Begun c s.log) (request : CharRequest) :
    agentFollows (.userNumRead c request (s.readUserNum c request (clientIdOf c)).2) s.log := by
  refine ⟨begun, ?_⟩
  rw [← recorded.app (clientIdOf c)]
  rfl

/-! ### The handlers keep the rules -/

/-- The postcondition of every handler. -/
abbrev Done : Unit → AgentState D → Prop := fun _done later => agentSettled later.log

theorem wp_reply {s : AgentState D} (recorded : AgentRecorded lzo odbc s)
    (settled : agentSettled s.log) (c : Nat) (type : UInt32) (payload : Bytes) :
    (agentOthers lzo odbc).wp (agentReply lzo c type payload) Done s :=
  Discipline.wp_sendTo lasting_settled recorded settled

theorem wp_close {s : AgentState D} (recorded : AgentRecorded lzo odbc s)
    (settled : agentSettled s.log) (c : Nat) :
    (agentOthers lzo odbc).wp (closeSession agentOnClose c) Done s :=
  Discipline.wp_closeSession lasting_settled recorded settled

/-- A section at a moment that the history describes. -/
theorem wp_step {β γ : Type} {known : AgentLog → Prop} (lasting : Lasting known)
    {body : AgentState D → AgentState D × β} {rest : β → AgentThread D γ}
    {post : γ → AgentState D → Prop} {s : AgentState D} (recorded : AgentRecorded lzo odbc s)
    (holds : known s.log)
    (done : ∀ s, AgentRecorded lzo odbc s → known s.log →
      AgentRecorded lzo odbc (body s).1 ∧
        (agentOthers lzo odbc).wp (rest (body s).2) post (body s).1) :
    (agentOthers lzo odbc).wp (Thread.atomically body >>= rest) post s :=
  Interference.wp_section (Discipline.stable_of_lasting lasting) recorded holds done

theorem settled_after {event : AgentEvent} {log : AgentLog} (after : After event log)
    (other : ∀ c username result, event ≠ .login c username result) : agentSettled log :=
  settled_of_last after fun c username result same =>
    other c username result (Observation.app.inj same)

theorem wp_done {s : AgentState D} (recorded : AgentRecorded lzo odbc s)
    (settled : agentSettled s.log) : (agentOthers lzo odbc).wp (pure ()) Done s :=
  Interference.wp_ret (Discipline.stable_of_lasting lasting_settled) recorded settled

/-- A database call that dispatch makes at such a moment. -/
theorem wp_query {β γ : Type} {known : AgentLog → Prop} (lasting : Lasting known)
    {procedure : StateM D β} {event : β → AgentEvent} {rest : β → AgentThread D γ}
    {post : γ → AgentState D → Prop}
    (follows : ∀ log answer, known log → agentFollows (event answer) log)
    (keeps : ∀ answer, (event answer).keepsLogins = true)
    (done : ∀ s answer, AgentRecorded lzo odbc s → After (event answer) s.log →
      (agentOthers lzo odbc).wp (rest answer) post s)
    {s : AgentState D} (recorded : AgentRecorded lzo odbc s) (holds : known s.log) :
    (agentOthers lzo odbc).wp (Thread.atomically (AgentState.query procedure event) >>= rest)
      post s := by
  apply wp_step lasting recorded holds
  intro s recorded holds
  have queried : AgentRecorded lzo odbc (s.query procedure event).1 := recorded_query recorded
    (fun answer => follows s.log answer holds) keeps
  exact ⟨queried, done _ _ queried (after_here _ _)⟩

/-- The same behind a test of m_dbReady. -/
theorem wp_queryIfReady {β γ : Type} {known : AgentLog → Prop} (lasting : Lasting known)
    {procedure : StateM D β} {event : β → AgentEvent} {missing : β} {rest : β → AgentThread D γ}
    {post : γ → AgentState D → Prop}
    (follows : ∀ log answer, known log → agentFollows (event answer) log)
    (keeps : ∀ answer, (event answer).keepsLogins = true)
    (done : ∀ s answer, AgentRecorded lzo odbc s → After (event answer) s.log →
      (agentOthers lzo odbc).wp (rest answer) post s)
    (skipped : ∀ s, AgentRecorded lzo odbc s → known s.log →
      (agentOthers lzo odbc).wp (rest missing) post s)
    {s : AgentState D} (recorded : AgentRecorded lzo odbc s) (holds : known s.log) :
    (agentOthers lzo odbc).wp
      (Thread.atomically (fun s : AgentState D =>
        if s.app.dbReady then s.query procedure event else (s, missing)) >>= rest) post s := by
  apply wp_step lasting recorded holds
  intro s recorded holds
  split
  · have queried : AgentRecorded lzo odbc (s.query procedure event).1 := recorded_query recorded
      (fun answer => follows s.log answer holds) keeps
    exact ⟨queried, done _ _ queried (after_here _ _)⟩
  · exact ⟨recorded, skipped s recorded holds⟩

theorem wp_note {γ : Type} {known : AgentLog → Prop} (lasting : Lasting known)
    {event : AgentEvent} {rest : Unit → AgentThread D γ} {post : γ → AgentState D → Prop}
    (follows : ∀ log, known log → agentFollows event log) (keeps : event.keepsLogins = true)
    (done : ∀ s, AgentRecorded lzo odbc s → After event s.log →
      (agentOthers lzo odbc).wp (rest ()) post s)
    {s : AgentState D} (recorded : AgentRecorded lzo odbc s) (holds : known s.log) :
    (agentOthers lzo odbc).wp (Thread.update (fun s : AgentState D => s.note event) >>= rest)
      post s := by
  apply wp_step lasting recorded holds
  intro s recorded holds
  have noted := recorded_note recorded (follows s.log holds) keeps
  exact ⟨noted, done _ noted (after_here _ _)⟩

theorem wp_readUserNum {γ : Type} {c : Nat} {request : CharRequest} {clientId : UInt32}
    (own : clientId = clientIdOf c) {rest : Int → AgentThread D γ}
    {post : γ → AgentState D → Prop}
    (done : ∀ s userNum, AgentRecorded lzo odbc s → After (.userNumRead c request userNum) s.log →
      (agentOthers lzo odbc).wp (rest userNum) post s)
    {s : AgentState D} (recorded : AgentRecorded lzo odbc s) (begun : Begun c s.log) :
    (agentOthers lzo odbc).wp
      (Thread.atomically (AgentState.readUserNum c request clientId) >>= rest) post s := by
  subst own
  apply wp_step (lasting_begun c) recorded begun
  intro s recorded begun
  have noted := recorded_note recorded (readUserNum_follows recorded begun request) rfl
  exact ⟨noted, done _ _ noted (after_here _ _)⟩

theorem wp_handleLogin {c : Nat} {msg : Message} (own : msg.clientId = clientIdOf c)
    {s : AgentState D} (recorded : AgentRecorded lzo odbc s) (begun : Begun c s.log) :
    (agentOthers lzo odbc).wp (handleLogin lzo odbc c msg) Done s := by
  unfold handleLogin
  split
  · exact wp_close recorded begun.settled c
  · apply wp_step (lasting_begun c) recorded begun
    intro s recorded begun
    refine ⟨recorded, ?_⟩
    split
    · refine wp_query (lasting_begun c) ?_ ?_ ?_ recorded begun
      · exact fun _log _answer begun => begun
      · exact fun _answer => rfl
      intro s login recorded after
      split
      · rename_i success
        rw [own]
        apply wp_step (lasting_after _) recorded after
        intro s recorded after
        have stored := recorded_store recorded ⟨_, login, after, success, rfl⟩
        refine ⟨stored, wp_reply stored ?_ c _ _⟩
        exact settled_after (after_here _ _) fun _ _ _ => by simp
      · rename_i failed
        refine wp_reply recorded ?_ c _ _
        intro other username result last
        rw [After, after] at last
        cases last
        exact Bool.eq_false_iff.mpr failed
    · exact wp_reply recorded begun.settled c _ _

theorem wp_handleCharList {c : Nat} {msg : Message} (own : msg.clientId = clientIdOf c)
    {s : AgentState D} (recorded : AgentRecorded lzo odbc s) (begun : Begun c s.log) :
    (agentOthers lzo odbc).wp (handleCharList lzo odbc c msg) Done s := by
  unfold handleCharList
  refine wp_readUserNum own ?_ recorded begun
  intro s userNum recorded read
  split
  · exact wp_close recorded (settled_after read fun _ _ _ => by simp) c
  · rename_i positive
    have logged : 0 < userNum := Int.not_le.mp positive
    have sent : ∀ (charNums : List Int) (known : AgentLog → Prop), Lasting known →
        (∀ log, known log → agentFollows (.charListSent c) log) →
        ∀ s, AgentRecorded lzo odbc s → known s.log →
          (agentOthers lzo odbc).wp (do
            Thread.update fun s : AgentState D => s.note (.charListSent c)
            agentReply lzo c netMsgChaBainfoAc (chaBainfo charNums)) Done s := by
      intro charNums known lasting follows s recorded holds
      refine wp_note lasting follows rfl ?_ recorded holds
      intro s recorded after
      exact wp_reply recorded (settled_after after fun _ _ _ => by simp) c _ _
    refine wp_queryIfReady (lasting_after _) ?_ ?_ ?_ ?_ recorded read
    · exact fun _log _answer read => ⟨read, logged⟩
    · exact fun _answer => rfl
    · intro s listed recorded queried
      exact sent listed.2 _ (lasting_after _)
        (fun _log queried => ⟨userNum, logged, Or.inr queried⟩) s recorded queried
    · intro s recorded read
      exact sent [] _ (lasting_after _)
        (fun _log read => ⟨userNum, logged, Or.inl read⟩) s recorded read

theorem wp_handleCharDetail {c : Nat} {msg : Message} (own : msg.clientId = clientIdOf c)
    {s : AgentState D} (recorded : AgentRecorded lzo odbc s) (begun : Begun c s.log) :
    (agentOthers lzo odbc).wp (handleCharDetail lzo odbc c msg) Done s := by
  unfold handleCharDetail
  split
  · exact wp_done recorded begun.settled
  · split
    · exact wp_done recorded begun.settled
    · refine wp_readUserNum own ?_ recorded begun
      intro s userNum recorded read
      split
      · exact wp_close recorded (settled_after read fun _ _ _ => by simp) c
      · rename_i positive
        refine wp_queryIfReady (lasting_after _) ?_ ?_ ?_ ?_ recorded read
        · exact fun _log _answer read => ⟨read, Int.not_le.mp positive⟩
        · exact fun _answer => rfl
        · intro s detail recorded queried
          cases detail with
          | none => exact wp_done recorded (settled_after queried fun _ _ _ => by simp)
          | some detail =>
              refine wp_note (lasting_after _) ?_ rfl ?_ recorded queried
              · exact fun _log queried => ⟨userNum, _, queried⟩
              intro s recorded after
              have settled := settled_after after fun _ _ _ => by simp
              apply Interference.wp_bind recorded
              refine Interference.wp_mono ?_ (wp_reply recorded settled c _ _)
              intro _done s recorded settled
              exact wp_reply recorded settled c _ _
        · intro s recorded read
          exact wp_done recorded (settled_after read fun _ _ _ => by simp)

theorem wp_handlePassCheck {c : Nat} {msg : Message} (own : msg.clientId = clientIdOf c)
    {s : AgentState D} (recorded : AgentRecorded lzo odbc s) (begun : Begun c s.log) :
    (agentOthers lzo odbc).wp (handlePassCheck lzo odbc c msg) Done s := by
  unfold handlePassCheck
  split
  · exact wp_done recorded begun.settled
  · apply wp_step (lasting_begun c) recorded begun
    intro s recorded begun
    refine ⟨recorded, ?_⟩
    split
    · exact wp_done recorded begun.settled
    · refine wp_queryIfReady (lasting_begun c) ?_ ?_ ?_ ?_ recorded begun
      · exact fun _log _answer begun => begun
      · exact fun _answer => rfl
      · intro s answer recorded checked
        have settled := settled_after checked fun _ _ _ => by simp
        cases answer with
        | none => exact wp_reply recorded settled c _ _
        | some check =>
            simp only
            split
            · rename_i accepted
              rw [own]
              apply wp_step (lasting_after _) recorded checked
              intro s recorded checked
              have cleared := recorded_clearPin recorded ⟨_, _, _, check, checked, accepted⟩
              refine ⟨cleared, wp_reply cleared ?_ c _ _⟩
              unfold AgentState.clearPin
              split
              · exact settled_after checked fun _ _ _ => by simp
              · exact settled_after (after_here _ _) fun _ _ _ => by simp
            · split
              · exact wp_reply recorded settled c _ _
              · exact wp_reply recorded settled c _ _
      · intro s recorded begun
        exact wp_reply recorded begun.settled c _ _

theorem wp_agentHandle ⦃c : Nat⦄ ⦃msg : Message⦄ ⦃s : AgentState D⦄
    (recorded : AgentRecorded lzo odbc s) (last : lastDispatch s.log = some (.begun c msg)) :
    (agentOthers lzo odbc).wp ((agentServer lzo odbc).handle c msg) Done s := by
  have own : msg.clientId = clientIdOf c := begun_clientId recorded.order last
  have begun : Begun c s.log := ⟨msg, last⟩
  change (agentOthers lzo odbc).wp (agentHandle lzo odbc c msg) Done s
  unfold agentHandle
  split
  · exact wp_handleLogin own recorded begun
  · split
    · exact wp_handleCharList own recorded begun
    · split
      · exact wp_handleCharDetail own recorded begun
      · split
        · exact wp_handlePassCheck own recorded begun
        · exact wp_reply recorded begun.settled c _ _

/-- Every run of the AgentServer keeps to its history. -/
theorem agent_recorded (lzo : Lzo) (odbc : OdbcDb D) (db : D) (dbReady : Bool)
    (events : List Event) :
    AgentRecorded lzo odbc (run (agentStep lzo odbc) (agentStart db dbReady) events).shared := by
  refine Discipline.run_recorded wp_agentHandle ?_ ?_ ?_ events
  · intro msg log last
    exact settled_of_last last fun _ _ _ => by simp
  · intro clientId
    rfl
  · intro c username result last
    cases last

end Rules

end RanOnline.Servers
