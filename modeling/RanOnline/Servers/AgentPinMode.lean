/-
The mode of a PIN check: to verify the PIN, or to set a new one.

dispatch looks at use2ndPass to see that a second password is pending, and hands
the nCheckFlag of the message on to the procedure as it is.
-/
import RanOnline.Servers.AgentLogins

namespace RanOnline.Servers

open Memory Net Db StepRun Threads Histories

/-- use2ndPass of the connection in m_loginSessions, zero where it has no entry. -/
def pinMode (c : Nat) (log : AgentLog) : Int :=
  ((loginsOf log (clientIdOf c)).map LoginSession.use2ndPass).getD 0

/-- daum_user_passcheck is called to set a new PIN only where the login has asked for
one, and to verify a PIN only while a second password is pending. -/
def PinModeKept : Observation AgentEvent → AgentLog → Prop
  | .app (.passCheck c _ _ checkFlag _), earlier =>
      (checkFlag = 1 → pinMode c earlier = 2) ∧ (checkFlag = 0 → pinMode c earlier ≠ 0) ∧
        (pinMode c earlier = 1 → checkFlag ≠ 1)
  | _, _ => True

/-- No message asks for a new PIN on a connection that has one to verify. -/
def NoNewPin : Observation AgentEvent → AgentLog → Prop
  | .begun c msg, earlier =>
      msg.type = daumNetMsgPasscheck → daumNetPasscheckPayload ≤ msg.payloadSize →
        passcheckFlag msg = 1 → pinMode c earlier ≠ 1
  | _, _ => True

instance NoNewPin.decide : ∀ event earlier, Decidable (NoNewPin event earlier)
  | .begun _ _, _ => inferInstanceAs (Decidable (_ → _ → _ → _))
  | .accepted _ _, _ | .closed _ _, _ | .taken _, _ | .app _, _ => .isTrue trivial

/-- No connection is closed between the look at its mode and the call. -/
def CallsOpen : Observation AgentEvent → AgentLog → Prop
  | .app (.passCheck c _ _ checkFlag _), earlier =>
      checkFlag = 0 ∨ checkFlag = 1 → loginsOf earlier (clientIdOf c) ≠ none
  | _, _ => True

instance CallsOpen.decide : ∀ event earlier, Decidable (CallsOpen event earlier)
  | .app (.passCheck _ _ _ _ _), _ => inferInstanceAs (Decidable (_ → _))
  | .accepted _ _, _ | .closed _ _, _ | .taken _, _ | .begun _ _, _ => .isTrue trivial
  | .app (.login _ _ _), _ | .app (.stored _ _), _ | .app (.userNumRead _ _ _), _
  | .app (.charList _ _), _ | .app (.charListSent _), _ | .app (.charDetail _ _ _), _
  | .app (.charDetailSent _), _ | .app (.pinCleared _), _ => .isTrue trivial

/-! ### Modes -/

/-- What dispatch does besides its steps takes entries out and changes none. -/
theorem loginsOf_pooled (clientId : UInt32) {during before : AgentLog}
    (pooled : ∀ other ∈ during, other.pooled = true) :
    loginsOf (during ++ before) clientId = none ∨
      loginsOf (during ++ before) clientId = loginsOf before clientId := by
  induction during with
  | nil => exact Or.inr rfl
  | cons event during ih =>
      have still := ih fun other member => pooled other (List.mem_cons_of_mem event member)
      have outside := pooled event List.mem_cons_self
      rw [List.cons_append]
      cases event with
      | accepted c otherId => exact still
      | closed c otherId =>
          simp only [loginsOf]
          by_cases here : clientId = otherId
          · rw [here, Function.update_self]
            exact Or.inl rfl
          · rw [Function.update_of_ne here]
            exact still
      | taken => cases outside
      | begun => cases outside
      | app => cases outside

/-- A stored login has one of three modes. -/
theorem session_mode (login : UserLogin) :
    login.session.use2ndPass = 0 ∨ login.session.use2ndPass = 1 ∨
      login.session.use2ndPass = 2 := by
  unfold UserLogin.session
  cases login.errCode with
  | krOkUsePass => exact Or.inr (Or.inl rfl)
  | krOkNewPass => exact Or.inr (Or.inr rfl)
  | _ => exact Or.inl rfl

theorem loginsOf_mode {log : AgentLog} (ordered : AgentOrdered log) {clientId : UInt32}
    {session : LoginSession} (found : loginsOf log clientId = some session) :
    session.use2ndPass = 0 ∨ session.use2ndPass = 1 ∨ session.use2ndPass = 2 := by
  induction log generalizing session with
  | nil => cases found
  | cons event earlier ih =>
      obtain ⟨follows, before⟩ := ordered
      cases event with
      | accepted c otherId => exact ih before found
      | taken msg => exact ih before found
      | begun c msg => exact ih before found
      | closed c otherId =>
          simp only [loginsOf] at found
          by_cases here : clientId = otherId
          · rw [here, Function.update_self] at found
            cases found
          · rw [Function.update_of_ne here] at found
            exact ih before found
      | app event =>
          by_cases elsewhere : clientId = clientIdOf event.conn
          · subst elsewhere
            cases event with
            | stored c stored =>
                obtain ⟨_username, login, _after, _success, same⟩ := follows
                simp only [loginsOf, AgentEvent.conn, Function.update_self] at found
                cases found
                rw [same]
                exact session_mode login
            | pinCleared c =>
                simp only [loginsOf, AgentEvent.conn, Function.update_self] at found
                obtain ⟨_older, _present, cleared⟩ := Option.map_eq_some_iff.mp found
                rw [← cleared]
                exact Or.inl rfl
            | login => exact ih before found
            | userNumRead => exact ih before found
            | charList => exact ih before found
            | charListSent => exact ih before found
            | charDetail => exact ih before found
            | charDetailSent => exact ih before found
            | passCheck => exact ih before found
          · rw [loginsOf_elsewhere elsewhere] at found
            exact ih before found

/-! ### The message of a call -/

/-- A second password is pending, unless the connection has been closed since. -/
def Armed (c : Nat) (log : AgentLog) : Prop :=
  loginsOf log (clientIdOf c) ≠ none → pinMode c log ≠ 0

theorem lasting_armed (c : Nat) : Lasting (Armed c) := by
  intro event log outside armed present
  have pooled : ∀ other ∈ [event], other.pooled = true := by
    intro other member
    rw [List.mem_singleton.mp member]
    exact outside
  rcases loginsOf_pooled (clientIdOf c) pooled with gone | same
  · exact absurd gone present
  · have here : loginsOf (event :: log) (clientIdOf c) = loginsOf log (clientIdOf c) := same
    rw [here] at present
    have mode : pinMode c (event :: log) = pinMode c log := by rw [pinMode, here, pinMode]
    rw [mode]
    exact armed present

/-- The calls of daum_user_passcheck, each with the message that it is made for. -/
def PinCall (ready : Bool) : AgentEvent → AgentLog → Prop
  | .passCheck c _ _ checkFlag _, earlier =>
      ready = true ∧ Armed c earlier ∧
        ∃ msg, lastDispatch earlier = some (.begun c msg) ∧ msg.type = daumNetMsgPasscheck ∧
          daumNetPasscheckPayload ≤ msg.payloadSize ∧ checkFlag = passcheckFlag msg
  | _, _ => True

section Rules

variable {D : Type} {lzo : Lzo} {odbc : OdbcDb D} {ready : Bool}

/-- The rules that the calls of daum_user_passcheck keep to. -/
def pinRules (lzo : Lzo) (odbc : OdbcDb D) (ready : Bool) : Discipline (agentServer lzo odbc) where
  follows := PinCall ready
  settled := fun _log => True
  agrees := fun app log => app.Agrees log ∧ app.dbReady = ready
  settled_lasting := fun _event _log _pooled _settled => trivial
  agrees_accepted := fun _app _log _c _clientId agrees => agrees
  agrees_taken := fun _app _log _msg agrees => agrees
  agrees_begun := fun _app _log _c _msg agrees => agrees
  agrees_closed := by
    intro app log c clientId agrees
    exact ⟨(agentRules lzo odbc).agrees_closed c clientId agrees.1, agrees.2⟩

abbrev PinRecorded (lzo : Lzo) (odbc : OdbcDb D) (ready : Bool) (s : AgentState D) : Prop :=
  (pinRules lzo odbc ready).Recorded s

abbrev pinOthers (lzo : Lzo) (odbc : OdbcDb D) (ready : Bool) : Interference (AgentState D) :=
  (pinRules lzo odbc ready).others lzo

theorem lasting_true : Lasting fun _log : AgentLog => True :=
  fun _event _log _pooled _holds => trivial

theorem safe_reply (c : Nat) (type : UInt32) (payload : Bytes) :
    (pinOthers lzo odbc ready).Safe (agentReply lzo c type payload) := by
  intro s recorded
  exact Discipline.wp_sendTo lasting_true recorded trivial

theorem safe_close (c : Nat) :
    (pinOthers lzo odbc ready).Safe (closeSession agentOnClose c) := by
  intro s recorded
  exact Discipline.wp_closeSession lasting_true recorded trivial

/-- A step that leaves m_loginSessions alone and is no PIN check. -/
theorem pinRecorded_keeps {s : AgentState D} (recorded : PinRecorded lzo odbc ready s)
    {event : AgentEvent} (follows : PinCall ready event s.log) (keeps : event.keepsLogins = true)
    (db : D) :
    PinRecorded lzo odbc ready { s with app := { s.app with db := db }, log := .app event :: s.log } := by
  refine recorded.note follows ⟨?_, recorded.app.2⟩
  intro clientId
  rw [loginsOf_keeps keeps]
  exact recorded.app.1 clientId

theorem safe_query {β : Type} {procedure : StateM D β} {event : β → AgentEvent}
    (follows : ∀ answer log, PinCall ready (event answer) log)
    (keeps : ∀ answer, (event answer).keepsLogins = true) :
    (pinOthers lzo odbc ready).Safe (Thread.atomically (AgentState.query procedure event)) := by
  apply Interference.safe_atomically
  intro s recorded
  exact pinRecorded_keeps recorded (follows _ _) (keeps _) _

theorem safe_queryIfReady {β : Type} {procedure : StateM D β} {event : β → AgentEvent}
    {missing : β} (follows : ∀ answer log, PinCall ready (event answer) log)
    (keeps : ∀ answer, (event answer).keepsLogins = true) :
    (pinOthers lzo odbc ready).Safe (Thread.atomically fun s : AgentState D =>
      if s.app.dbReady then s.query procedure event else (s, missing)) := by
  apply Interference.safe_atomically
  intro s recorded
  split
  · exact pinRecorded_keeps recorded (follows _ _) (keeps _) _
  · exact recorded

theorem safe_note {event : AgentEvent} (follows : ∀ log, PinCall ready event log)
    (keeps : event.keepsLogins = true) :
    (pinOthers lzo odbc ready).Safe (Thread.update fun s : AgentState D => s.note event) := by
  apply Interference.safe_atomically
  intro s recorded
  exact pinRecorded_keeps recorded (follows _) keeps _

theorem safe_readUserNum (c : Nat) (request : CharRequest) (clientId : UInt32) :
    (pinOthers lzo odbc ready).Safe
      (Thread.atomically (AgentState.readUserNum c request clientId)) := by
  apply Interference.safe_atomically
  intro s recorded
  refine pinRecorded_keeps recorded ?_ rfl s.app.db
  exact trivial

theorem safe_handleLogin {c : Nat} {msg : Message} (own : msg.clientId = clientIdOf c) :
    (pinOthers lzo odbc ready).Safe (handleLogin lzo odbc c msg) := by
  unfold handleLogin
  split
  · exact safe_close c
  · apply Interference.Safe.bind
    · exact Interference.safe_atomically fun _s recorded => recorded
    · intro ip
      split
      · refine Interference.Safe.bind (safe_query ?_ ?_) ?_
        · exact fun _answer _log => trivial
        · exact fun _answer => rfl
        intro login
        split
        · apply Interference.Safe.bind
          · apply Interference.safe_atomically
            intro s recorded
            rw [own]
            exact recorded.note trivial ⟨agrees_store recorded.app.1 c _, recorded.app.2⟩
          · intro _stored
            exact safe_reply c _ _
        · exact safe_reply c _ _
      · exact safe_reply c _ _

theorem safe_handleCharList (c : Nat) (msg : Message) :
    (pinOthers lzo odbc ready).Safe (handleCharList lzo odbc c msg) := by
  unfold handleCharList
  apply (safe_readUserNum c .list msg.clientId).bind
  intro userNum
  split
  · exact safe_close c
  · refine Interference.Safe.bind (safe_queryIfReady ?_ ?_) ?_
    · exact fun _answer _log => trivial
    · exact fun _answer => rfl
    intro charNums
    refine Interference.Safe.bind (safe_note ?_ rfl) ?_
    · exact fun _log => trivial
    intro _noted
    exact safe_reply c _ _

theorem safe_handleCharDetail (c : Nat) (msg : Message) :
    (pinOthers lzo odbc ready).Safe (handleCharDetail lzo odbc c msg) := by
  unfold handleCharDetail
  split
  · exact Interference.safe_pure ()
  · split
    · exact Interference.safe_pure ()
    · apply (safe_readUserNum c .detail msg.clientId).bind
      intro userNum
      split
      · exact safe_close c
      · refine Interference.Safe.bind (safe_queryIfReady ?_ ?_) ?_
        · exact fun _answer _log => trivial
        · exact fun _answer => rfl
        intro detail
        cases detail with
        | none => exact Interference.safe_pure ()
        | some detail =>
            refine Interference.Safe.bind (safe_note ?_ rfl) ?_
            · exact fun _log => trivial
            intro _noted
            apply (safe_reply c _ _).bind
            intro _sent
            exact safe_reply c _ _

/-- What the procedure has answered is told to the client. -/
theorem safe_passCheckAnswered {c : Nat} {msg : Message} (own : msg.clientId = clientIdOf c)
    (check : PassCheck) :
    (pinOthers lzo odbc ready).Safe
      (if check.result = 0 then do
        Thread.update (AgentState.clearPin c msg.clientId)
        agentReply lzo c netMsgPasscheckFb (passcheckFeedback msg.clientId .ok)
      else if check.result = 2 then
        agentReply lzo c netMsgPasscheckFb (passcheckFeedback msg.clientId .passOk)
      else agentReply lzo c netMsgPasscheckFb (passcheckFeedback msg.clientId .fail)) := by
  split
  · apply Interference.Safe.bind
    · apply Interference.safe_atomically
      intro s recorded
      rw [own]
      change PinRecorded lzo odbc ready (s.clearPin c (clientIdOf c))
      unfold AgentState.clearPin
      split
      · exact recorded
      · rename_i session found
        exact recorded.note trivial ⟨agrees_clearPin recorded.app.1 found, recorded.app.2⟩
    · intro _cleared
      exact safe_reply c _ _
  · split
    · exact safe_reply c _ _
    · exact safe_reply c _ _

theorem wp_passCheck {c : Nat} {msg : Message} (own : msg.clientId = clientIdOf c)
    (kind : msg.type = daumNetMsgPasscheck) {s : AgentState D}
    (recorded : PinRecorded lzo odbc ready s)
    (last : lastDispatch s.log = some (.begun c msg)) :
    (pinOthers lzo odbc ready).wp (handlePassCheck lzo odbc c msg) (fun _done _later => True) s := by
  unfold handlePassCheck
  split
  · exact Interference.safe_pure () s recorded
  · rename_i long
    have begun : (pinOthers lzo odbc ready).Stable
        fun s => lastDispatch s.log = some (.begun c msg) :=
      Discipline.stable_of_lasting (lasting_lastDispatch (.begun c msg))
    refine Interference.wp_section begun recorded last ?_
    intro s recorded last
    refine ⟨recorded, ?_⟩
    split
    · exact Interference.safe_pure () s recorded
    · rename_i pending
      have armed : Armed c s.log := by
        intro _present
        rw [pinMode, ← recorded.app.1, ← own]
        exact pending
      have stillArmed : (pinOthers lzo odbc ready).Stable fun s => Armed c s.log :=
        Discipline.stable_of_lasting (lasting_armed c)
      refine Interference.wp_section (begun.and stillArmed) recorded ⟨last, armed⟩ ?_
      intro s recorded known
      by_cases isReady : s.app.dbReady = true
      · have called : PinRecorded lzo odbc ready (s.query
            (processPassCheck odbc (passcheckUserId msg) (passcheckPin msg) (passcheckFlag msg))
            (AgentEvent.passCheck c (passcheckUserId msg) (passcheckPin msg)
              (passcheckFlag msg))).1 := by
          refine pinRecorded_keeps recorded ?_ rfl _
          exact ⟨recorded.app.2.symm.trans isReady, known.2, msg, known.1, kind,
            Nat.not_lt.mp long, rfl⟩
        simp only [if_pos isReady]
        refine ⟨called, ?_⟩
        cases (s.query
            (processPassCheck odbc (passcheckUserId msg) (passcheckPin msg) (passcheckFlag msg))
            (AgentEvent.passCheck c (passcheckUserId msg) (passcheckPin msg)
              (passcheckFlag msg))).2 with
        | none => exact safe_reply c _ _ _ called
        | some check => exact safe_passCheckAnswered own check _ called
      · simp only [if_neg isReady]
        exact ⟨recorded, safe_reply c _ _ s recorded⟩

theorem wp_pinHandle ⦃c : Nat⦄ ⦃msg : Message⦄ ⦃s : AgentState D⦄
    (recorded : PinRecorded lzo odbc ready s)
    (last : lastDispatch s.log = some (.begun c msg)) :
    (pinOthers lzo odbc ready).wp ((agentServer lzo odbc).handle c msg)
      (fun _done _later => True) s := by
  have own : msg.clientId = clientIdOf c := begun_clientId recorded.order last
  change (pinOthers lzo odbc ready).wp (agentHandle lzo odbc c msg) _ s
  unfold agentHandle
  split
  · exact safe_handleLogin own s recorded
  · split
    · exact safe_handleCharList c msg s recorded
    · split
      · exact safe_handleCharDetail c msg s recorded
      · split
        · rename_i kind
          exact wp_passCheck own kind recorded last
        · exact safe_reply c _ _ s recorded

end Rules

/-! ### Runs -/

section Runs

variable {D : Type} (lzo : Lzo) (odbc : OdbcDb D) (db : D) (dbReady : Bool)

theorem pin_recorded (events : List Event) :
    PinRecorded lzo odbc dbReady
      (run (agentStep lzo odbc) (agentStart db dbReady) events).shared := by
  apply Discipline.run_recorded wp_pinHandle
  · exact fun _msg _log _taken => trivial
  · refine ⟨?_, rfl⟩
    intro clientId
    exact AList.lookup_empty clientId
  · trivial

/-- A connection that is still open has, at the call for its message, the mode it had
when the message was taken up. -/
theorem pinMode_of_asked {c : Nat} {msg : Message} {earlier : AgentLog}
    (last : lastDispatch earlier = some (.begun c msg)) (asked : Throughout NoNewPin earlier)
    (kind : msg.type = daumNetMsgPasscheck)
    (long : daumNetPasscheckPayload ≤ msg.payloadSize) (setsNew : passcheckFlag msg = 1)
    (opened : loginsOf earlier (clientIdOf c) ≠ none) : pinMode c earlier ≠ 1 := by
  obtain ⟨_inside, during, before, split, pooled⟩ := previous_split last
  subst split
  have atMessage : pinMode c before ≠ 1 := asked.at kind long setsNew
  rcases loginsOf_pooled (clientIdOf c) pooled with gone | same
  · exact absurd gone opened
  · have mode : pinMode c (during ++ .begun c msg :: before) = pinMode c before := by
      rw [pinMode, same]
      rfl
    rw [mode]
    exact atMessage

/-- A call for a message that asks for nothing wrong is made in the mode that belongs
to it, as long as the connection is open. -/
theorem pinMode_called {ready : Bool} {log : AgentLog}
    (calls : Throughout (InOrder (PinCall ready) fun _log => True) log)
    (ordered : AgentOrdered log) (asked : ready = true → Throughout NoNewPin log)
    (opened : Throughout CallsOpen log) : Everywhere PinModeKept log := by
  intro later event earlier split
  subst split
  have here := calls.at
  have connected := opened.at
  have before := ordered.suffix.2
  cases event with
  | accepted => trivial
  | closed => trivial
  | taken => trivial
  | begun => trivial
  | app event =>
      cases event with
      | passCheck c userId pin checkFlag answer =>
          obtain ⟨isReady, armed, msg, last, kind, long, own⟩ := here
          have unchanged : checkFlag = 1 → pinMode c earlier ≠ 1 := by
            intro setsNew
            exact pinMode_of_asked last (asked isReady).suffix.2 kind long
              (own.symm.trans setsNew) (connected (Or.inr setsNew))
          refine ⟨?_, ?_, ?_⟩
          · intro setsNew
            have present := connected (Or.inr setsNew)
            obtain ⟨session, found⟩ := Option.ne_none_iff_exists'.mp present
            have mode : pinMode c earlier = session.use2ndPass := by rw [pinMode, found]; rfl
            have pending := armed present
            have other := unchanged setsNew
            rw [mode] at pending other ⊢
            rcases loginsOf_mode before found with none | verify | new
            · exact absurd none pending
            · exact absurd verify other
            · exact new
          · intro verifies
            exact armed (connected (Or.inl verifies))
          · intro toVerify setsNew
            exact unchanged setsNew toVerify
      | login => trivial
      | stored => trivial
      | userNumRead => trivial
      | charList => trivial
      | charListSent => trivial
      | charDetail => trivial
      | charDetailSent => trivial
      | pinCleared => trivial

/-- In every run where no message asks for a new PIN on a connection that has one to
verify, and none is closed between the look at its mode and the call, the procedure
is called in the mode of the login. -/
theorem agent_pin_mode (events : List Event)
    (asked : dbReady = true → Everywhere NoNewPin
      (run (agentStep lzo odbc) (agentStart db dbReady) events).shared.log)
    (opened : Everywhere CallsOpen
      (run (agentStep lzo odbc) (agentStart db dbReady) events).shared.log) :
    Everywhere PinModeKept
      (run (agentStep lzo odbc) (agentStart db dbReady) events).shared.log :=
  pinMode_called (pin_recorded lzo odbc db dbReady events).order
    (agent_recorded lzo odbc db dbReady events).order
    (fun ready => everywhere_iff.mp (asked ready)) (everywhere_iff.mp opened)

end Runs

/-- A PIN check that sets a new PIN. -/
def newPinFrame : Bytes :=
  encodeMessage daumNetMsgPasscheck (97 :: List.replicate 43 0 ++ [1, 0, 0, 0])

/-- A login that asks for a new PIN, and the message that sets it. -/
theorem agent_pin_mode_new :
    Everywhere PinModeKept
      (run (agentStep literalLzo (scriptedDb 7)) (agentStart (.start [some 30, some 2]) true)
        (oneClient [loginFrame [97], newPinFrame] 18)).shared.log := by
  apply agent_pin_mode literalLzo (scriptedDb 7) (.start [some 30, some 2]) true
    (oneClient [loginFrame [97], newPinFrame] 18)
  · intro _ready
    decide +kernel
  · decide +kernel

/-- A new PIN is set where one was to be verified. -/
theorem agent_pin_replaced :
    ¬Everywhere PinModeKept
      (scriptedRun [some 31, some 2] (oneClient [loginFrame [97], newPinFrame] 18)).shared.log := by
  generalize reached : (scriptedRun [some 31, some 2]
    (oneClient [loginFrame [97], newPinFrame] 18)).shared.log = log
  have called : log.head? = some (.app (.passCheck 0 [97] [] 1
      (some { returnValue := some 2, output := none }))) := by
    rw [← reached]
    decide +kernel
  have toVerify : pinMode 0 log.tail = 1 := by
    rw [← reached]
    decide +kernel
  intro kept
  have here := kept [] _ _ (List.cons_head?_tail called).symm
  exact here.2.2 toVerify rfl

end RanOnline.Servers
