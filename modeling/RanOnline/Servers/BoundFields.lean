/-
The strings of a message that its handler binds (agent_server.cpp, auth_server.cpp).

The size of a column stands at the binding, and the length of its string is bounded
where the message is read, for each string by a number of its own.
-/
import RanOnline.Db.VarcharLog
import RanOnline.Servers.AgentServer
import RanOnline.Servers.AuthAnswer
import RanOnline.Servers.ShownDb

namespace RanOnline.Servers

open Memory Net Db Methods Threads

variable {D : Type} {odbc : OdbcDb D}

/-! ### What the procedures bind -/

def loginVarchars (username password ip : Bytes) : List Varchar :=
  [{ name := "@userId", value := username, size := 20 },
    { name := "@userPass", value := password, size := 20 },
    { name := "@userIp", value := ip, size := 20 }]

def passCheckVarchars (userId pin : Bytes) : List Varchar :=
  [{ name := "@szDaumGID", value := userId, size := 20 },
    { name := "@szDaumPasswd", value := pin, size := 20 }]

def certVarchars (r : CertRequest) : List Varchar :=
  [{ name := "@serverip", value := r.ip, size := r.ip.length },
    { name := "@uniqKey", value := r.uniqKey, size := r.uniqKey.length }]

theorem leaves_collectInt (column : String) :
    Leaves Prod.snd (collectInt odbc.recorded column) := by
  apply (leaves_beside _).bind
  intro _value
  exact leaves_pure _

theorem leaves_collectText (column : String) :
    Leaves Prod.snd (collectText odbc.recorded column) := by
  apply (leaves_beside _).bind
  intro _value
  exact leaves_pure _

theorem leaves_collectWord (column : String) :
    Leaves Prod.snd (collectWord odbc.recorded column) := by
  apply (leaves_collectInt column).bind
  intro _value
  exact leaves_pure _

theorem leaves_collectShort (column : String) :
    Leaves Prod.snd (collectShort odbc.recorded column) := by
  apply (leaves_collectInt column).bind
  intro _value
  exact leaves_pure _

theorem leaves_fetchUserInfo (username : Bytes) (errCode : LoginFb) :
    Leaves Prod.snd (fetchUserInfo odbc.recorded username errCode) := by
  unfold fetchUserInfo
  apply (leaves_beside _).bind
  intro queried
  apply (leaves_pure _).ite
  apply leaves_get.bind
  intro db
  apply (leaves_pure _).ite
  apply (leaves_collectInt _).bind
  intro _userNum
  apply (leaves_collectInt _).bind
  intro _userType
  apply (leaves_collectInt _).bind
  intro _tempCha
  apply (leaves_collectInt _).bind
  intro _tempTest
  apply (leaves_collectText _).bind
  intro _premiumDate
  apply (leaves_collectText _).bind
  intro _chatBlockDate
  apply (leaves_collectText _).bind
  intro _lastLoginDate
  exact leaves_pure _

/-- Nothing is bound where the database is not open. -/
theorem processUserLogin_closed {username password ip : Bytes} {db : D × List Varchar}
    (closed : odbc.isOpened db.1 = false) :
    (processUserLogin odbc.recorded username password ip db).2 = db := by
  have shut : odbc.recorded.isOpened db = false := closed
  unfold processUserLogin
  rw [bind_get, shut]
  rfl

theorem processUserLogin_opened {username password ip : Bytes} {db : D × List Varchar}
    (opened : odbc.isOpened db.1 = true) :
    (processUserLogin odbc.recorded username password ip db).2.2 =
      db.2 ++ loginVarchars username password ip := by
  have isOpen : odbc.recorded.isOpened db = true := opened
  unfold processUserLogin
  rw [bind_get, isOpen, Bool.not_true, if_neg Bool.false_ne_true]
  suffices binds : OdbcDb.Binds (loginVarchars username password ip) _ from binds db
  apply (leaves_beside _).bind_appends
  intro _cleared
  apply (leaves_beside _).bind_appends
  intro _return
  apply (OdbcDb.binds_varchar "@userId" username 20).bind
  intro _userId
  apply (OdbcDb.binds_varchar "@userPass" password 20).bind
  intro _userPass
  apply (OdbcDb.binds_varchar "@userIp" ip 20).bind_leaves
  intro _userIp
  apply (leaves_beside _).bind
  intro _svrGrpNum
  apply (leaves_beside _).bind
  intro _svrNum
  apply (leaves_beside _).bind
  intro _output
  apply (leaves_beside _).bind
  intro executed
  apply (leaves_pure _).ite
  apply (leaves_beside _).bind
  intro returned
  cases returned with
  | none => exact leaves_pure _
  | some nResult => exact (leaves_pure _).ite (leaves_fetchUserInfo username _)

theorem binds_processPassCheck (userId pin : Bytes) (checkFlag : Int) :
    OdbcDb.Binds (passCheckVarchars userId pin)
      (processPassCheck odbc.recorded userId pin checkFlag) := by
  unfold processPassCheck
  apply (leaves_beside _).bind_appends
  intro _cleared
  apply (leaves_beside _).bind_appends
  intro _return
  apply (OdbcDb.binds_varchar "@szDaumGID" userId 20).bind
  intro _userId
  apply (OdbcDb.binds_varchar "@szDaumPasswd" pin 20).bind_leaves
  intro _pin
  apply (leaves_beside _).bind
  intro _checkFlag
  apply (leaves_beside _).bind
  intro _output
  apply (leaves_beside _).bind
  intro executed
  apply (leaves_pure _).ite
  apply (leaves_beside _).bind
  intro returnValue
  apply Leaves.ite
  · apply (leaves_beside _).bind
    intro _output
    exact leaves_pure _
  · exact leaves_pure _

theorem leaves_certRows : Leaves Prod.snd (certRows odbc.recorded) := by
  intro db
  induction db using certRows.induct odbc.recorded with
  | case1 db more ih =>
      rw [certRows_more more, ih]
      rfl
  | case2 db ended =>
      rw [certRows_ended ended]
      rfl

theorem binds_certCall (r : CertRequest) :
    OdbcDb.Binds (certVarchars r) (certCall odbc.recorded r) := by
  unfold certCall
  apply (leaves_beside _).bind_appends
  intro _cleared
  apply (leaves_beside _).bind_appends
  intro _country
  apply (leaves_beside _).bind_appends
  intro _serverType
  apply (OdbcDb.binds_varchar "@serverip" r.ip r.ip.length).bind
  intro _ip
  apply (leaves_beside _).bind_appends
  intro _port
  apply (OdbcDb.binds_varchar "@uniqKey" r.uniqKey r.uniqKey.length).bind_leaves
  intro _uniqKey
  apply (leaves_beside _).bind
  intro _isSessionSvr
  exact leaves_beside _

theorem binds_processCertificationForAuth (r : CertRequest) :
    OdbcDb.Binds (certVarchars r) (processCertificationForAuth odbc.recorded r) := by
  intro db
  have bound := @binds_certCall D odbc r db
  rw [processCertificationForAuth_eq]
  by_cases failed : (certCall odbc.recorded r db).1 = false
  · rw [if_pos failed]
    exact bound
  · rw [if_neg failed]
    by_cases empty : odbc.recorded.getEOF (certCall odbc.recorded r db).2 = true
    · rw [if_pos empty]
      exact bound
    · rw [if_neg empty, leaves_certRows]
      exact bound

theorem leaves_charListRows (charNums : List Int) :
    Leaves Prod.snd (charListRows odbc.recorded charNums) := by
  intro db
  induction charNums, db using charListRows.induct odbc.recorded with
  | case1 charNums db more _chaNum ih =>
      rw [charListRows, dif_pos more]
      exact ih
  | case2 charNums db ended =>
      rw [charListRows, dif_neg ended]

theorem leaves_processCharList (userNum : Int) :
    Leaves Prod.snd (processCharList odbc.recorded userNum) := by
  unfold processCharList
  apply (leaves_beside _).bind
  intro _cleared
  apply (leaves_beside _).bind
  intro _userNum
  apply (leaves_beside _).bind
  intro _serverGroup
  apply (leaves_beside _).bind
  intro executed
  apply (leaves_pure _).ite
  apply (leaves_charListRows []).bind
  intro _charNums
  exact leaves_pure _

theorem leaves_collectDetail (chaNum : Int) :
    Leaves Prod.snd (collectDetail odbc.recorded chaNum) := by
  unfold collectDetail
  apply (leaves_collectWord _).bind
  intro _guNum
  apply (leaves_collectText _).bind
  intro _chaName
  apply (leaves_collectWord _).bind
  intro _chaClass
  apply (leaves_collectShort _).bind
  intro _chaSchool
  apply (leaves_collectShort _).bind
  intro _chaDex
  apply (leaves_collectShort _).bind
  intro _chaIntel
  apply (leaves_collectShort _).bind
  intro _chaPower
  apply (leaves_collectShort _).bind
  intro _chaStrong
  apply (leaves_collectShort _).bind
  intro _chaSpirit
  apply (leaves_collectShort _).bind
  intro _chaStrength
  apply (leaves_collectShort _).bind
  intro _chaLevel
  apply (leaves_collectShort _).bind
  intro _chaHair
  apply (leaves_collectShort _).bind
  intro _chaFace
  apply (leaves_collectInt _).bind
  intro _chaBright
  apply (leaves_collectShort _).bind
  intro _chaSex
  apply (leaves_collectShort _).bind
  intro _chaHairColor
  apply (leaves_collectInt _).bind
  intro _expNow
  apply (leaves_collectWord _).bind
  intro _chaSaveMap
  apply (leaves_collectWord _).bind
  intro _hpNow
  apply (leaves_collectInt _).bind
  intro _chaLock
  exact leaves_pure _

theorem leaves_processCharDetail (userNum chaNum : Int) :
    Leaves Prod.snd (processCharDetail odbc.recorded userNum chaNum) := by
  unfold processCharDetail
  apply (leaves_beside _).bind
  intro _cleared
  apply (leaves_beside _).bind
  intro _userNum
  apply (leaves_beside _).bind
  intro _chaNum
  apply (leaves_beside _).bind
  intro executed
  apply (leaves_pure _).ite
  apply leaves_get.bind
  intro db
  apply (leaves_pure _).ite
  apply (leaves_collectDetail chaNum).bind
  intro _detail
  exact leaves_pure _

/-- The procedures answer as they do without a record. -/
theorem recorded_answers (odbc : OdbcDb D) (db : D × List Varchar) :
    (∀ username password ip, (processUserLogin odbc.recorded username password ip db).1 =
        (processUserLogin odbc username password ip db.1).1) ∧
      (∀ userId pin checkFlag, (processPassCheck odbc.recorded userId pin checkFlag db).1 =
        (processPassCheck odbc userId pin checkFlag db.1).1) ∧
      ∀ r, (processCertificationForAuth odbc.recorded r db).1 =
        (processCertificationForAuth odbc r db.1).1 := by
  have shows := odbc.recorded_shows
  refine ⟨?_, ?_, ?_⟩
  · intro username password ip
    exact (mirrors_processUserLogin shows username password ip db).1
  · intro userId pin checkFlag
    exact (mirrors_processPassCheck shows userId pin checkFlag db).1
  · intro r
    exact (mirrors_processCertificationForAuth shows r db).1

/-! ### The sections of a handler -/

section Sections

variable {α ω : Type} {varchars : α → List Varchar}

/-- What the sections bind, one after the other. -/
def boundIn (varchars : α → List Varchar) (sections : List (Shared α ω × Shared α ω)) :
    List Varchar :=
  sections.flatMap fun pair => (varchars pair.2.app).drop (varchars pair.1.app).length

/-- The section binds nothing. -/
def BindsNothing (varchars : α → List Varchar) (before after : Shared α ω) : Prop :=
  varchars after.app = varchars before.app

theorem boundIn_cons {added : List Varchar} {before after : Shared α ω}
    (bound : varchars after.app = varchars before.app ++ added)
    (rest : List (Shared α ω × Shared α ω)) :
    boundIn varchars ((before, after) :: rest) = added ++ boundIn varchars rest := by
  unfold boundIn
  rw [List.flatMap_cons, bound, List.drop_left]

theorem boundIn_nothing {β : Type} {thread : Thread (Shared α ω) β}
    (nothing : thread.Guarantees (BindsNothing varchars)) (env : Nat → Shared α ω → Shared α ω)
    (number : Nat) (s : Shared α ω) : boundIn varchars (Thread.sections env thread number s) = [] := by
  unfold boundIn
  rw [List.flatMap_eq_nil_iff]
  intro pair member
  have same : varchars pair.2.app = varchars pair.1.app := nothing.sections env number s pair member
  rw [same, List.drop_length]

/-- A section that only reads. -/
theorem boundIn_observed (s : Shared α ω) (rest : List (Shared α ω × Shared α ω)) :
    boundIn varchars ((s, s) :: rest) = boundIn varchars rest :=
  boundIn_cons (List.append_nil _).symm rest

/-- The section that calls the procedure, which the rest of the handler adds nothing to. -/
theorem boundIn_section {β : Type} {body : Shared α ω → Shared α ω × β}
    {rest : β → Thread (Shared α ω) Unit} {bound : List Varchar}
    {env : Nat → Shared α ω → Shared α ω} {number : Nat} {s : Shared α ω}
    (binds : varchars (body (env number s)).1.app = varchars (env number s).app ++ bound)
    (nothing : ∀ value, (rest value).Guarantees (BindsNothing varchars)) :
    boundIn varchars (Thread.sections env (Thread.atomically body >>= rest) number s) = bound := by
  rw [Thread.sections_atomically, boundIn_cons binds, boundIn_nothing (nothing _), List.append_nil]

theorem bindsNothing_notify {onClose : UInt32 → α → α}
    (keeps : ∀ clientId app, varchars (onClose clientId app) = varchars app) (c : Nat)
    (s : Shared α ω) : BindsNothing varchars s (s.notify onClose c) := by
  unfold BindsNothing Shared.notify
  split
  · exact keeps _ _
  · rfl

theorem bindsNothing_closeSession {onClose : UInt32 → α → α}
    (keeps : ∀ clientId app, varchars (onClose clientId app) = varchars app) (c : Nat) :
    (closeSession onClose c : Thread (Shared α ω) Unit).Guarantees (BindsNothing varchars) :=
  guarantees_closeSession (fun _s _change => rfl) (bindsNothing_notify keeps c)

theorem bindsNothing_sendTo (lzo : Lzo) {onClose : UInt32 → α → α}
    (keeps : ∀ clientId app, varchars (onClose clientId app) = varchars app) (c : Nat)
    (framed : Bytes) :
    (sendTo lzo onClose c framed : Thread (Shared α ω) Unit).Guarantees (BindsNothing varchars) :=
  guarantees_sendTo (fun _s => rfl) (bindsNothing_closeSession keeps c)

end Sections

/-! ### The AgentServer -/

/-- What a section of the AgentServer has bound. -/
def agentVarchars (app : AgentApp (D × List Varchar)) : List Varchar := app.db.2

theorem agentVarchars_onClose (clientId : UInt32) (app : AgentApp (D × List Varchar)) :
    agentVarchars (agentOnClose clientId app) = agentVarchars app := rfl

theorem bindsNothing_agentReply (lzo : Lzo) (c : Nat) (type : UInt32) (payload : Bytes) :
    (agentReply lzo c type payload : AgentThread (D × List Varchar) Unit).Guarantees
      (BindsNothing agentVarchars) :=
  bindsNothing_sendTo lzo agentVarchars_onClose c _

theorem bindsNothing_query {β : Type} {procedure : StateM (D × List Varchar) β}
    (leaves : Leaves Prod.snd procedure) (event : β → AgentEvent)
    (s : AgentState (D × List Varchar)) :
    BindsNothing agentVarchars s (s.query procedure event).1 :=
  leaves s.app.db

theorem bindsNothing_rules (lzo : Lzo) (c : Nat) :
    HandlerRules lzo c (@BindsNothing (AgentApp (D × List Varchar)) AgentEvent agentVarchars) where
  refl := fun _s => rfl
  logins := fun _s _loginSessions _event => rfl
  closes := bindsNothing_closeSession agentVarchars_onClose c
  replies := bindsNothing_agentReply lzo c

section Dispatch

variable (lzo : Lzo) (odbc : OdbcDb D) (c : Nat) (msg : Message)
  (env : Nat → AgentState (D × List Varchar) → AgentState (D × List Varchar))
  (s : AgentState (D × List Varchar))

/-- The strings that a message gets bound, whatever the other threads do. -/
def agentBound : List Varchar :=
  boundIn agentVarchars (Thread.sections env (agentHandle lzo odbc.recorded c msg) 0 s)

/-- The address that a login is made from. -/
def loginIp : Bytes := ((env 0 s).conns c).remoteIp

/-- The login reaches the database. -/
def LoginAsks : Prop :=
  msg.type = idnNetMsgLogin ∧ idnNetLoginPayload ≤ msg.payloadSize ∧
    validUsername (loginUserid msg) = true ∧ odbc.isOpened (env 1 (env 0 s)).app.db.1 = true

/-- The PIN check does. -/
def PinAsks : Prop :=
  msg.type = daumNetMsgPasscheck ∧ daumNetPasscheckPayload ≤ msg.payloadSize ∧
    AgentState.use2ndPass msg.clientId (env 0 s) ≠ 0 ∧ (env 1 (env 0 s)).app.dbReady = true

variable {lzo odbc c msg env s}

theorem agentBound_login (asks : LoginAsks odbc msg env s) :
    agentBound lzo odbc c msg env s =
      loginVarchars (loginUserid msg) (loginPassword msg) (loginIp c env s) := by
  obtain ⟨type, sized, valid, opened⟩ := asks
  rw [agentBound, agentHandle, if_pos type, handleLogin, if_neg (Nat.not_lt.mpr sized)]
  simp only [Thread.observe, if_pos valid]
  rw [Thread.sections_atomically, boundIn_observed]
  exact boundIn_section (processUserLogin_opened opened)
    ((bindsNothing_rules lzo c).loginAnswered msg.clientId)

theorem agentBound_login_refused (type : msg.type = idnNetMsgLogin)
    (unasked : ¬LoginAsks odbc msg env s) : agentBound lzo odbc c msg env s = [] := by
  rw [agentBound, agentHandle, if_pos type, handleLogin]
  by_cases short : msg.payloadSize < idnNetLoginPayload
  · rw [if_pos short]
    exact boundIn_nothing (bindsNothing_closeSession agentVarchars_onClose c) env 0 s
  · rw [if_neg short]
    by_cases valid : validUsername (loginUserid msg) = true
    · simp only [Thread.observe, if_pos valid]
      rw [Thread.sections_atomically, boundIn_observed]
      have closed : odbc.isOpened (env 1 (env 0 s)).app.db.1 = false := by
        rw [← Bool.not_eq_true]
        intro opened
        exact unasked ⟨type, Nat.not_lt.mp short, valid, opened⟩
      apply boundIn_section
      · exact (congrArg Prod.snd (processUserLogin_closed closed)).trans (List.append_nil _).symm
      · exact (bindsNothing_rules lzo c).loginAnswered msg.clientId
    · simp only [Thread.observe, if_neg valid]
      rw [Thread.sections_atomically, boundIn_observed]
      exact boundIn_nothing (bindsNothing_agentReply lzo c _ _) env 1 _

theorem agentBound_pin (asks : PinAsks msg env s) :
    agentBound lzo odbc c msg env s = passCheckVarchars (passcheckUserId msg) (passcheckPin msg) := by
  obtain ⟨type, sized, pending, ready⟩ := asks
  rw [agentBound, agentHandle, type, if_neg (by decide), if_neg (by decide), if_neg (by decide),
    if_pos rfl, handlePassCheck, if_neg (Nat.not_lt.mpr sized)]
  simp only [Thread.observe]
  rw [Thread.sections_atomically, if_neg pending, boundIn_observed]
  apply boundIn_section
  · rw [if_pos ready]
    exact binds_processPassCheck _ _ _ _
  · intro answer
    cases answer with
    | none => exact bindsNothing_agentReply lzo c _ _
    | some check => exact (bindsNothing_rules lzo c).passCheckAnswered msg.clientId check

theorem agentBound_pin_refused (type : msg.type = daumNetMsgPasscheck)
    (unasked : ¬PinAsks msg env s) : agentBound lzo odbc c msg env s = [] := by
  rw [agentBound, agentHandle, type, if_neg (by decide), if_neg (by decide), if_neg (by decide),
    if_pos rfl, handlePassCheck]
  by_cases short : msg.payloadSize < daumNetPasscheckPayload
  · rw [if_pos short]
    exact boundIn_nothing (Thread.guarantees_pure _ ()) env 0 s
  · rw [if_neg short]
    simp only [Thread.observe]
    rw [Thread.sections_atomically, boundIn_observed]
    by_cases none : AgentState.use2ndPass msg.clientId (env 0 s) = 0
    · rw [if_pos none]
      exact boundIn_nothing (Thread.guarantees_pure _ ()) env 1 _
    · rw [if_neg none]
      have unready : ¬(env 1 (env 0 s)).app.dbReady = true := by
        intro ready
        exact unasked ⟨type, Nat.not_lt.mp short, none, ready⟩
      apply boundIn_section
      · rw [if_neg unready, List.append_nil]
      · intro answer
        cases answer with
        | none => exact bindsNothing_agentReply lzo c _ _
        | some check => exact (bindsNothing_rules lzo c).passCheckAnswered msg.clientId check

/-- No other message gets anything bound. -/
theorem agentBound_other (notLogin : msg.type ≠ idnNetMsgLogin)
    (notPin : msg.type ≠ daumNetMsgPasscheck) : agentBound lzo odbc c msg env s = [] := by
  apply boundIn_nothing
  unfold agentHandle
  rw [if_neg notLogin, if_neg notPin]
  split
  · apply (bindsNothing_rules lzo c).handleCharList
    intro userNum event
    exact bindsNothing_query (leaves_processCharList userNum) event
  · split
    · apply (bindsNothing_rules lzo c).handleCharDetail
      intro userNum chaNum event
      exact bindsNothing_query (leaves_processCharDetail userNum chaNum) event
    · exact bindsNothing_agentReply lzo c _ _

end Dispatch

/-! ### The AuthServer -/

section Certification

/-- What a section of the AuthServer has bound. -/
def authVarchars (app : AuthApp (D × List Varchar)) : List Varchar := app.db.2

theorem authVarchars_keepApp (clientId : UInt32) (app : AuthApp (D × List Varchar)) :
    authVarchars (keepApp clientId app) = authVarchars app := rfl

variable (lzo : Lzo) (odbc : OdbcDb D) (beyond : Message → Bytes) (c : Nat) (msg : Message)
  (env : Nat → Shared (AuthApp (D × List Varchar)) Empty →
    Shared (AuthApp (D × List Varchar)) Empty)
  (s : Shared (AuthApp (D × List Varchar)) Empty)

def authBound : List Varchar :=
  boundIn authVarchars (Thread.sections env (authHandle lzo odbc.recorded beyond c msg) 0 s)

/-- The request that reaches the database. -/
def authRequest : Option CertRequest :=
  if msg.type = netMsgAuthCertificationRequest then answeredRequest msg (beyond msg) else none

variable {lzo odbc beyond c msg env s}

theorem authBound_request {req : CertRequest} (asks : authRequest beyond msg = some req) :
    authBound lzo odbc beyond c msg env s = certVarchars req := by
  unfold authRequest at asks
  by_cases type : msg.type = netMsgAuthCertificationRequest
  · rw [if_pos type] at asks
    rw [authBound, authHandle, if_pos type, handleCertification_eq, asks]
    apply boundIn_section
    · exact binds_processCertificationForAuth req _
    · intro res
      exact bindsNothing_sendTo lzo authVarchars_keepApp c _
  · rw [if_neg type] at asks
    cases asks

theorem authBound_other (unasked : authRequest beyond msg = none) :
    authBound lzo odbc beyond c msg env s = [] := by
  unfold authRequest at unasked
  by_cases type : msg.type = netMsgAuthCertificationRequest
  · rw [if_pos type] at unasked
    rw [authBound, authHandle, if_pos type, handleCertification_eq, unasked]
    exact boundIn_nothing (Thread.guarantees_pure _ ()) env 0 s
  · rw [authBound, authHandle, if_neg type]
    exact boundIn_nothing (bindsNothing_sendTo lzo authVarchars_keepApp c _) env 0 s

end Certification

/-! ### Whether they fit -/

theorem fieldString_length_le (bytes : Bytes) (offset length : Nat) :
    (fieldString bytes offset length).length ≤ length :=
  List.length_take_le _ _

/-- The procedure is given these fields, and each of them whole. -/
structure GivenWhole (fields : List (String × Bytes)) (bound : List Varchar) : Prop where
  given : bound.map (fun varchar => (varchar.name, varchar.value)) = fields
  fit : ∀ varchar ∈ bound, varchar.Fits

/-- The columns of gs_user_verify and daum_user_passcheck. -/
theorem fits_twenty (name : String) (value : Bytes) :
    Varchar.Fits { name := name, value := value, size := 20 } ↔ value.length ≤ 20 :=
  Varchar.fits_sized name value (by decide)

theorem loginVarchars_fit_iff {username : Bytes} (short : username.length ≤ 20)
    (password ip : Bytes) :
    (∀ varchar ∈ loginVarchars username password ip, varchar.Fits) ↔
      password.length ≤ 20 ∧ ip.length ≤ 20 := by
  simp only [loginVarchars, List.forall_mem_cons, fits_twenty]
  constructor
  · intro fits
    exact ⟨fits.2.1, fits.2.2.1⟩
  · intro fits
    refine ⟨short, fits.1, fits.2, ?_⟩
    intro varchar impossible
    cases impossible

theorem passCheckVarchars_fit {userId pin : Bytes} (shortId : userId.length ≤ 20)
    (shortPin : pin.length ≤ 20) : ∀ varchar ∈ passCheckVarchars userId pin, varchar.Fits := by
  intro varchar member
  simp only [passCheckVarchars, List.mem_cons, List.not_mem_nil, or_false] at member
  rcases member with rfl | rfl
  · exact (fits_twenty _ _).mpr shortId
  · exact (fits_twenty _ _).mpr shortPin

theorem certVarchars_fit (req : CertRequest) : ∀ varchar ∈ certVarchars req, varchar.Fits := by
  intro varchar member
  simp only [certVarchars, List.mem_cons, List.not_mem_nil, or_false] at member
  rcases member with rfl | rfl
  · exact Varchar.fits_whole _ _
  · exact Varchar.fits_whole _ _

section Handlers

variable (lzo : Lzo) (odbc : OdbcDb D) (beyond : Message → Bytes) (c : Nat) (msg : Message)
  (agentEnv : Nat → AgentState (D × List Varchar) → AgentState (D × List Varchar))
  (agent : AgentState (D × List Varchar))
  (authEnv : Nat → Shared (AuthApp (D × List Varchar)) Empty →
    Shared (AuthApp (D × List Varchar)) Empty)
  (auth : Shared (AuthApp (D × List Varchar)) Empty)

/-- Each of the handlers, on whatever message, binds the fields of a message that reaches the
database and no string that its column is too short for. -/
structure StringsFit : Prop where
  login : LoginAsks odbc msg agentEnv agent →
    GivenWhole [("@userId", loginUserid msg), ("@userPass", loginPassword msg),
      ("@userIp", loginIp c agentEnv agent)] (agentBound lzo odbc c msg agentEnv agent)
  passCheck : PinAsks msg agentEnv agent →
    GivenWhole [("@szDaumGID", passcheckUserId msg), ("@szDaumPasswd", passcheckPin msg)]
      (agentBound lzo odbc c msg agentEnv agent)
  certification : ∀ req, authRequest beyond msg = some req →
    GivenWhole [("@serverip", req.ip), ("@uniqKey", req.uniqKey)]
      (authBound lzo odbc beyond c msg authEnv auth)
  agent : ∀ varchar ∈ agentBound lzo odbc c msg agentEnv agent, varchar.Fits
  auth : ∀ varchar ∈ authBound lzo odbc beyond c msg authEnv auth, varchar.Fits

variable {lzo odbc beyond c msg agentEnv agent authEnv auth}

theorem agentBound_fits
    (short : LoginAsks odbc msg agentEnv agent →
      (loginPassword msg).length ≤ 20 ∧ (loginIp c agentEnv agent).length ≤ 20) :
    ∀ varchar ∈ agentBound lzo odbc c msg agentEnv agent, varchar.Fits := by
  have nothing : ∀ varchar ∈ ([] : List Varchar), varchar.Fits := by
    intro varchar impossible
    cases impossible
  by_cases login : msg.type = idnNetMsgLogin
  · by_cases asks : LoginAsks odbc msg agentEnv agent
    · rw [agentBound_login asks]
      exact (loginVarchars_fit_iff (fieldString_length_le _ _ _) _ _).mpr (short asks)
    · rw [agentBound_login_refused login asks]
      exact nothing
  · by_cases passCheck : msg.type = daumNetMsgPasscheck
    · by_cases asks : PinAsks msg agentEnv agent
      · rw [agentBound_pin asks]
        exact passCheckVarchars_fit (fieldString_length_le _ _ _) (fieldString_length_le _ _ _)
      · rw [agentBound_pin_refused passCheck asks]
        exact nothing
    · rw [agentBound_other login passCheck]
      exact nothing

theorem authBound_fits :
    ∀ varchar ∈ authBound lzo odbc beyond c msg authEnv auth, varchar.Fits := by
  cases asks : authRequest beyond msg with
  | none =>
      rw [authBound_other asks]
      intro varchar impossible
      cases impossible
  | some req =>
      rw [authBound_request asks]
      exact certVarchars_fit req

variable (lzo odbc beyond c msg agentEnv agent authEnv auth)

/-- The strings fit exactly when a login that reaches the database has a password and an
address of at most 20 bytes. -/
theorem strings_fit_iff :
    StringsFit lzo odbc beyond c msg agentEnv agent authEnv auth ↔
      (LoginAsks odbc msg agentEnv agent →
        (loginPassword msg).length ≤ 20 ∧ (loginIp c agentEnv agent).length ≤ 20) := by
  constructor
  · intro fits asks
    have bound := fits.agent
    rw [agentBound_login asks] at bound
    exact (loginVarchars_fit_iff (fieldString_length_le _ _ _) _ _).mp bound
  · intro short
    constructor
    · intro asks
      refine ⟨?_, agentBound_fits short⟩
      rw [agentBound_login asks]
      rfl
    · intro asks
      refine ⟨?_, agentBound_fits short⟩
      rw [agentBound_pin asks]
      rfl
    · intro req asks
      refine ⟨?_, authBound_fits⟩
      rw [authBound_request asks]
      rfl
    · exact agentBound_fits short
    · exact authBound_fits

end Handlers

/-- The text of an IPv4 address. -/
def ipv4Text (a b c d : UInt8) : Bytes :=
  [46].intercalate [decimal a.toNat, decimal b.toNat, decimal c.toNat, decimal d.toNat]

theorem decimal_byte_length (value : UInt8) : (decimal value.toNat).length ≤ 3 := by
  have all : ∀ number < 256, (decimal (number : Nat)).length ≤ 3 := by decide +kernel
  exact all value.toNat value.toNat_lt

theorem ipv4Text_length (a b c d : UInt8) : (ipv4Text a b c d).length ≤ 15 := by
  have first := decimal_byte_length a
  have second := decimal_byte_length b
  have third := decimal_byte_length c
  have fourth := decimal_byte_length d
  simp only [ipv4Text, List.intercalate, List.intersperse, List.flatten_cons, List.flatten_nil,
    List.length_append, List.length_cons, List.length_nil]
  omega

/-- The listener takes IPv4 connections, so an address always fits. -/
theorem remoteIp_fits {session : Session}
    (ipv4 : ∀ remote, session.remote = some remote → ∃ a b c d, remote = ipv4Text a b c d) :
    session.remoteIp.length ≤ 20 := by
  cases known : session.remote with
  | none =>
      rw [Session.remoteIp, known]
      decide +kernel
  | some remote =>
      obtain ⟨a, b, c, d, rfl⟩ := ipv4 remote known
      have length := ipv4Text_length a b c d
      rw [Session.remoteIp, known, Option.getD_some]
      omega

/-- A login with a password of 32 digits, the length of an MD5 hash. -/
def hashedLogin : Message :=
  { type := idnNetMsgLogin
    clientId := 1
    bytes := encodeMessage idnNetMsgLogin
      (List.replicate 4 0 ++ [97] ++ List.replicate 20 0 ++ List.replicate 32 49 ++
        List.replicate 3 0) }

/-- The database is open and nobody is logged in. -/
def beforeHashedLogin : AgentState (Script × List Varchar) :=
  .start
    { db := (.start [], [])
      dbReady := true
      loginSessions := ∅ }

theorem hashedLogin_cut :
    ¬StringsFit literalLzo (scriptedDb 7) (fun _msg => []) 0 hashedLogin (fun _number s => s)
      beforeHashedLogin (fun _number s => s) (.start { db := (.start [], []) }) := by
  intro fits
  have asks : LoginAsks (scriptedDb 7) hashedLogin (fun _number s => s) beforeHashedLogin := by
    refine ⟨rfl, ?_, ?_, rfl⟩
    · decide +kernel
    · decide +kernel
  have bound := fits.agent
  rw [agentBound_login asks] at bound
  have short := ((loginVarchars_fit_iff (fieldString_length_le _ _ _) _ _).mp bound).1
  revert short
  decide +kernel

end RanOnline.Servers
