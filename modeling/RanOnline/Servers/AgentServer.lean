/-
The AgentServer (servers/agentserver/agent_server.h, agent_server.cpp).

Sections under m_sessMx and under m_dbMx are single steps of the dispatching
thread.  Each step that the history has to show leaves an observation, a database
call when it is made and a reply before it is passed to Send.
-/
import RanOnline.Db.OdbcDb
import RanOnline.Net.NetServer
import RanOnline.Servers.AgentMsg
import RanOnline.Servers.CharLobby

namespace RanOnline.Servers

open Memory Net Db StepRun Threads

/-! ### Login state -/

/-- `use2ndPass` is 0 for none, 1 to verify the PIN, 2 to set a new one. -/
structure LoginSession where
  userNum : Int
  userType : Int
  use2ndPass : Int
  deriving DecidableEq, Repr

/-- What ProcessUserLogin leaves in its output arguments. -/
structure UserLogin where
  success : Bool
  userNum : Int
  userType : Int
  chaRemain : UInt16
  chaTestRemain : UInt16
  premiumDate : Bytes
  chatBlockDate : Bytes
  lastLoginDate : Bytes
  errCode : LoginFb
  deriving DecidableEq, Repr

def UserLogin.failed (errCode : LoginFb) : UserLogin :=
  { success := false
    userNum := 0
    userType := 0
    chaRemain := 0
    chaTestRemain := 0
    premiumDate := []
    chatBlockDate := []
    lastLoginDate := []
    errCode := errCode }

/-- The session that dispatch stores after a successful login. -/
def UserLogin.session (login : UserLogin) : LoginSession :=
  { userNum := login.userNum
    userType := login.userType
    use2ndPass :=
      match login.errCode with
      | .krOkUsePass => 1
      | .krOkNewPass => 2
      | _ => 0 }

/-- The map of gs_user_verify's return codes, with the ones that log in. -/
def verifyResult (nResult : Int) : LoginFb × Bool :=
  if nResult = 1 ∨ nResult = 2 ∨ nResult = 3 then (.ok, true)
  else if nResult = 30 then (.krOkNewPass, true)
  else if nResult = 31 then (.krOkUsePass, true)
  else if nResult = 0 then (.incorrect, false)
  else if nResult = 4 then (.ipBan, false)
  else if nResult = 5 then (.dup, false)
  else if nResult = 6 then (.block, false)
  else if nResult = 7 then (.randomPass, false)
  else if nResult = 23 then (.betakey, false)
  else (.fail, false)

/-- What GetParam answers for RETURN_VALUE and for @nReturn, which is asked for
only behind a first answer that is missing or zero. -/
structure PassCheck where
  returnValue : Option Int
  output : Option Int
  deriving DecidableEq, Repr

/-- The `result` of ProcessPassCheck. -/
def PassCheck.result (check : PassCheck) : Int :=
  if check.returnValue.getD 0 = 0 then check.output.getD 0 else check.returnValue.getD 0

/-! ### Database procedures -/

section Procedures

variable {D : Type} (odbc : OdbcDb D)

def userInfoQuery (cleanUser : Bytes) : Bytes :=
  ("SELECT UserNum, UserType, ChaRemain, ChaTestRemain, PremiumDate, ChatBlockDate, " ++
    "LastLoginDate FROM dbo.GSUserInfo WHERE UserID = '").toUTF8.toList ++ cleanUser ++
      "'".toUTF8.toList

/-- GetCollect into an integer that starts at zero. -/
def collectInt (column : String) : StateM D Int := do
  let value ← odbc.getCollect column
  pure (value.getD 0)

def collectText (column : String) : StateM D Bytes := do
  let value ← odbc.getCollectString column
  pure (value.getD [])

/-- The second half of ProcessUserLogin: the row of GSUserInfo. -/
def fetchUserInfo (username : Bytes) (errCode : LoginFb) : StateM D UserLogin := do
  let queried ← odbc.execute (userInfoQuery (username.filter isUserChar))
  if !queried then return .failed .system
  if odbc.getEOF (← get) then return .failed .incorrect
  let userNum ← collectInt odbc "UserNum"
  let userType ← collectInt odbc "UserType"
  let tempCha ← collectInt odbc "ChaRemain"
  let tempTest ← collectInt odbc "ChaTestRemain"
  let premiumDate ← collectText odbc "PremiumDate"
  let chatBlockDate ← collectText odbc "ChatBlockDate"
  let lastLoginDate ← collectText odbc "LastLoginDate"
  return { success := true
           userNum := userNum
           userType := userType
           chaRemain := UInt16.ofInt tempCha
           chaTestRemain := UInt16.ofInt tempTest
           premiumDate := premiumDate
           chatBlockDate := chatBlockDate
           lastLoginDate := lastLoginDate
           errCode := errCode }

def processUserLogin (username password ip : Bytes) : StateM D UserLogin := do
  if !odbc.isOpened (← get) then return .failed .system
  odbc.clearParams
  odbc.appendRParamInteger
  odbc.appendIParamVarchar "@userId" username 20
  odbc.appendIParamVarchar "@userPass" password 20
  odbc.appendIParamVarchar "@userIp" ip 20
  odbc.appendIParamInteger "@SvrGrpNum" 1
  odbc.appendIParamInteger "@SvrNum" 0
  odbc.appendOParamInteger "@nReturn"
  let executed ← odbc.executeStoredProcedure "dbo.gs_user_verify"
  if !executed then return .failed .system
  match ← odbc.getParam "RETURN_VALUE" with
  | none => return .failed .system
  | some nResult =>
      let verified := verifyResult nResult
      if !verified.2 then return .failed verified.1
      fetchUserInfo odbc username verified.1

/-- The loop over the rows of sp_ChaListAgent. -/
def charListRows (charNums : List Int) (db : D) : List Int × D :=
  if _more : odbc.getEOF db = false then
    let chaNum := (odbc.getCollect "ChaNum" db).1.getD 0
    charListRows (if chaNum > 0 then charNums ++ [chaNum] else charNums)
      (odbc.next (odbc.getCollect "ChaNum" db).2).2
  else (charNums, db)
termination_by odbc.unvisited db
decreasing_by exact odbc.unvisited_next _more (odbc.getCollect_rowsLeft _ db)

/-- The result and charNums. -/
def processCharList (userNum : Int) : StateM D (Bool × List Int) := do
  odbc.clearParams
  odbc.appendIParamInteger "@UserNum" userNum
  odbc.appendIParamInteger "@ServerGroup" 1
  let executed ← odbc.executeStoredProcedure "dbo.sp_ChaListAgent"
  if !executed then return (false, [])
  let charNums ← charListRows odbc []
  return (true, charNums)

def collectWord (column : String) : StateM D UInt32 := do
  let value ← collectInt odbc column
  pure (UInt32.ofInt value)

def collectShort (column : String) : StateM D UInt16 := do
  let value ← collectInt odbc column
  pure (UInt16.ofInt value)

/-- The columns in the order in which the row is read. -/
def collectDetail (chaNum : Int) : StateM D CharInfoLobby := do
  let guNum ← collectWord odbc "GuNum"
  let chaName ← collectText odbc "ChaName"
  let chaClass ← collectWord odbc "ChaClass"
  let chaSchool ← collectShort odbc "ChaSchool"
  let chaDex ← collectShort odbc "ChaDex"
  let chaIntel ← collectShort odbc "ChaIntel"
  let chaPower ← collectShort odbc "ChaPower"
  let chaStrong ← collectShort odbc "ChaStrong"
  let chaSpirit ← collectShort odbc "ChaSpirit"
  let chaStrength ← collectShort odbc "ChaStrength"
  let chaLevel ← collectShort odbc "ChaLevel"
  let chaHair ← collectShort odbc "ChaHair"
  let chaFace ← collectShort odbc "ChaFace"
  let chaBright ← collectInt odbc "ChaBright"
  let chaSex ← collectShort odbc "ChaSex"
  let chaHairColor ← collectShort odbc "ChaHairColor"
  let expNow ← collectInt odbc "ChaExp"
  let chaSaveMap ← collectWord odbc "ChaSaveMap"
  let hpNow ← collectWord odbc "ChaHP"
  let chaLock ← collectInt odbc "ChaLock"
  return { dwCharID := UInt32.ofInt chaNum
           clubDbNum := guNum
           emClass := chaClass
           wSchool := chaSchool
           wHair := chaHair
           wFace := chaFace
           wSex := chaSex
           wHairColor := chaHairColor
           sHP := { dwData := hpNow &&& 0xFFFF }
           sExperience := { lnData1 := Int64.ofInt expNow, lnData2 := 0 }
           nBright := Int32.ofInt chaBright
           wLevel := chaLevel
           sStats :=
             { wPow := chaPower
               wStr := chaStrong
               wSpi := chaSpirit
               wDex := chaDex
               wInt := chaIntel
               wSta := chaStrength }
           putOnItems := List.replicate slotTsize .empty
           sSaveMapID := { dwID := chaSaveMap }
           clubRank := 0
           chaName := chaName
           clubName := []
           lock := chaLock ≠ 0
           bRanMobile := false }

def processCharDetail (userNum chaNum : Int) : StateM D (Option CharInfoLobby) := do
  odbc.clearParams
  odbc.appendIParamInteger "@UserNum" userNum
  odbc.appendIParamInteger "@ChaNum" chaNum
  let executed ← odbc.executeStoredProcedure "dbo.sp_GetChaLobbyInfo"
  if !executed then return none
  if odbc.getEOF (← get) then return none
  let detail ← collectDetail odbc chaNum
  return some detail

/-- `none` where the source returns false. -/
def processPassCheck (userId pin : Bytes) (checkFlag : Int) : StateM D (Option PassCheck) := do
  odbc.clearParams
  odbc.appendRParamInteger
  odbc.appendIParamVarchar "@szDaumGID" userId 20
  odbc.appendIParamVarchar "@szDaumPasswd" pin 20
  odbc.appendIParamInteger "@nCheckFlag" checkFlag
  odbc.appendOParamInteger "@nReturn"
  let executed ← odbc.executeStoredProcedure "dbo.daum_user_passcheck"
  if !executed then return none
  let returnValue ← odbc.getParam "RETURN_VALUE"
  if returnValue.getD 0 = 0 then
    let output ← odbc.getParam "@nReturn"
    return some { returnValue := returnValue, output := output }
  return some { returnValue := returnValue, output := none }

end Procedures

/-! ### Handlers -/

inductive CharRequest
  | list
  | detail
  deriving DecidableEq, Repr

/-- What the AgentServer adds to the history; each names the connection whose
message is being dispatched. -/
inductive AgentEvent
  | login (c : Nat) (username : Bytes) (result : UserLogin)
  | stored (c : Nat) (session : LoginSession)
  | userNumRead (c : Nat) (request : CharRequest) (userNum : Int)
  | charList (c : Nat) (userNum : Int)
  | charListSent (c : Nat)
  | charDetail (c : Nat) (userNum chaNum : Int)
  | charDetailSent (c : Nat)
  | passCheck (c : Nat) (userId pin : Bytes) (checkFlag : Int) (answer : Option PassCheck)
  | pinCleared (c : Nat)
  deriving DecidableEq, Repr

/-- `db` is behind m_dbMx, `loginSessions` behind m_sessMx. -/
structure AgentApp (D : Type) where
  db : D
  dbReady : Bool
  loginSessions : AList fun _clientId : UInt32 => LoginSession

/-- What the m_onClose callback does besides m_sessions.erase. -/
def agentOnClose {D : Type} (clientId : UInt32) (app : AgentApp D) : AgentApp D :=
  { app with loginSessions := app.loginSessions.erase clientId }

abbrev AgentState (D : Type) := Shared (AgentApp D) AgentEvent

abbrev AgentThread (D : Type) := Thread (AgentState D)

section Handlers

variable {D : Type}

namespace AgentState

/-- A procedure under m_dbMx, with what the history shows of it. -/
def query {β : Type} (procedure : StateM D β) (event : β → AgentEvent) (s : AgentState D) :
    AgentState D × β :=
  let answer := procedure s.app.db
  ({ s with
      app := { s.app with db := answer.2 }
      log := .app (event answer.1) :: s.log }, answer.1)

def store (c : Nat) (clientId : UInt32) (session : LoginSession) (s : AgentState D) :
    AgentState D :=
  { s with
    app := { s.app with loginSessions := s.app.loginSessions.insert clientId session }
    log := .app (.stored c session) :: s.log }

def readUserNum (c : Nat) (request : CharRequest) (clientId : UInt32) (s : AgentState D) :
    AgentState D × Int :=
  let userNum := ((s.app.loginSessions.lookup clientId).map LoginSession.userNum).getD 0
  (s.note (.userNumRead c request userNum), userNum)

def use2ndPass (clientId : UInt32) (s : AgentState D) : Int :=
  ((s.app.loginSessions.lookup clientId).map LoginSession.use2ndPass).getD 0

def clearPin (c : Nat) (clientId : UInt32) (s : AgentState D) : AgentState D :=
  match s.app.loginSessions.lookup clientId with
  | none => s
  | some session =>
      { s with
        app :=
          { s.app with
            loginSessions := s.app.loginSessions.insert clientId
              { session with use2ndPass := 0 } }
        log := .app (.pinCleared c) :: s.log }

end AgentState

variable (lzo : Lzo) (odbc : OdbcDb D)

def agentReply (c : Nat) (type : UInt32) (payload : Bytes) : AgentThread D Unit :=
  sendTo lzo agentOnClose c (encodeMessage type payload)

/-- IDN_NET_MSG_LOGIN. -/
def handleLogin (c : Nat) (msg : Message) : AgentThread D Unit := do
  if msg.payloadSize < idnNetLoginPayload then closeSession agentOnClose c
  else
    let username := loginUserid msg
    let ip ← Thread.observe fun s => (s.conns c).remoteIp
    if validUsername username then
      let login ← Thread.atomically
        (AgentState.query (processUserLogin odbc username (loginPassword msg) ip)
          (AgentEvent.login c username))
      if login.success then
        Thread.update (AgentState.store c msg.clientId login.session)
        agentReply lzo c netMsgLoginFb (loginFeedback login.errCode login.chaRemain)
      else agentReply lzo c netMsgLoginFb (loginFeedback login.errCode 0)
    else agentReply lzo c netMsgLoginFb (loginFeedback .incorrect 0)

/-- NET_MSG_REQ_CHA_BAINFO. -/
def handleCharList (c : Nat) (msg : Message) : AgentThread D Unit := do
  let userNum ← Thread.atomically (AgentState.readUserNum c .list msg.clientId)
  if userNum ≤ 0 then closeSession agentOnClose c
  else
    let listed ← Thread.atomically fun s : AgentState D =>
      if s.app.dbReady then
        s.query (processCharList odbc userNum) fun _listed => .charList c userNum
      else (s, (false, []))
    Thread.update fun s => s.note (.charListSent c)
    agentReply lzo c netMsgChaBainfoAc (chaBainfo listed.2)

/-- NET_MSG_REQ_CHA_BINFO_CA. -/
def handleCharDetail (c : Nat) (msg : Message) : AgentThread D Unit := do
  if msg.payloadSize < netChaBaInfoCaPayload then pure ()
  else if requestedChaDbNum msg ≤ 0 then pure ()
  else
    let chaNum := requestedChaDbNum msg
    let userNum ← Thread.atomically (AgentState.readUserNum c .detail msg.clientId)
    if userNum ≤ 0 then closeSession agentOnClose c
    else
      let detail ← Thread.atomically fun s : AgentState D =>
        if s.app.dbReady then
          s.query (processCharDetail odbc userNum chaNum)
            fun _detail => .charDetail c userNum chaNum
        else (s, none)
      match detail with
      | none => pure ()
      | some detail =>
          Thread.update fun s => s.note (.charDetailSent c)
          agentReply lzo c netMsgLobbyCharinfoAc (packBody (packLobbyCharInfoAc detail))
          agentReply lzo c netMsgLobbyCharinfoAcEnd []

/-- DAUM_NET_MSG_PASSCHECK. -/
def handlePassCheck (c : Nat) (msg : Message) : AgentThread D Unit := do
  if msg.payloadSize < daumNetPasscheckPayload then pure ()
  else
    let userId := passcheckUserId msg
    let pin := passcheckPin msg
    let checkFlag := passcheckFlag msg
    let use2nd ← Thread.observe (AgentState.use2ndPass msg.clientId)
    if use2nd = 0 then pure ()
    else
      let answer ← Thread.atomically fun s : AgentState D =>
        if s.app.dbReady then
          s.query (processPassCheck odbc userId pin checkFlag)
            (AgentEvent.passCheck c userId pin checkFlag)
        else (s, none)
      match answer with
      | none => agentReply lzo c netMsgPasscheckFb (passcheckFeedback msg.clientId .fail)
      | some check =>
          if check.result = 0 then
            Thread.update (AgentState.clearPin c msg.clientId)
            agentReply lzo c netMsgPasscheckFb (passcheckFeedback msg.clientId .ok)
          else if check.result = 2 then
            agentReply lzo c netMsgPasscheckFb (passcheckFeedback msg.clientId .passOk)
          else agentReply lzo c netMsgPasscheckFb (passcheckFeedback msg.clientId .fail)

def agentHandle (c : Nat) (msg : Message) : AgentThread D Unit :=
  if msg.type = idnNetMsgLogin then handleLogin lzo odbc c msg
  else if msg.type = netMsgReqChaBainfo then handleCharList lzo odbc c msg
  else if msg.type = netMsgReqChaBinfoCa then handleCharDetail lzo odbc c msg
  else if msg.type = daumNetMsgPasscheck then handlePassCheck lzo odbc c msg
  else agentReply lzo c msg.type msg.payload

def agentServer : NetServer (AgentApp D) AgentEvent :=
  { handle := agentHandle lzo odbc
    flushes := true
    onClose := agentOnClose }

/-- Before the first accept. -/
def agentStart (db : D) (dbReady : Bool) : System (AgentApp D) AgentEvent :=
  .start
    { db := db
      dbReady := dbReady
      loginSessions := ∅ }

/-- One event of an AgentServer run. -/
def agentStep : System (AgentApp D) AgentEvent → Event → System (AgentApp D) AgentEvent :=
  System.step lzo (agentServer lzo odbc)

end Handlers

/-! ### Relations between the sections of a handler -/

section Relations

variable {D : Type} (lzo : Lzo) (odbc : OdbcDb D) (c : Nat)

/-- A relation that every section of a handler but its database call stands in. -/
structure HandlerRules (relation : AgentState D → AgentState D → Prop) : Prop where
  refl : ∀ s, relation s s
  logins : ∀ (s : AgentState D) loginSessions event,
    relation s
      { s with
        app := { s.app with loginSessions := loginSessions }
        log := .app event :: s.log }
  closes : (closeSession agentOnClose c).Guarantees relation
  replies : ∀ type payload, (agentReply lzo c type payload).Guarantees relation

variable {lzo odbc c} {relation : AgentState D → AgentState D → Prop}

theorem HandlerRules.queryIfReady (rules : HandlerRules lzo c relation) {β : Type}
    {procedure : StateM D β} {event : β → AgentEvent}
    (asks : ∀ s : AgentState D, relation s (s.query procedure event).1) (unready : β) :
    (Thread.atomically fun s : AgentState D =>
      if s.app.dbReady then s.query procedure event else (s, unready)).Guarantees relation := by
  apply Thread.guarantees_atomically
  intro s
  split
  · exact asks s
  · exact rules.refl s

/-- What follows the answer to a login. -/
theorem HandlerRules.loginAnswered (rules : HandlerRules lzo c relation) (clientId : UInt32)
    (login : UserLogin) :
    (if login.success = true then do
        Thread.update (AgentState.store c clientId login.session)
        agentReply lzo c netMsgLoginFb (loginFeedback login.errCode login.chaRemain)
      else agentReply lzo c netMsgLoginFb (loginFeedback login.errCode 0) :
        AgentThread D Unit).Guarantees relation := by
  split
  · apply Thread.Guarantees.bind (Thread.guarantees_atomically fun s => rules.logins s _ _)
    intro _stored
    exact rules.replies _ _
  · exact rules.replies _ _

theorem HandlerRules.handleLogin (rules : HandlerRules lzo c relation)
    (asks : ∀ username password ip event (s : AgentState D),
      relation s (s.query (processUserLogin odbc username password ip) event).1)
    (msg : Message) : (handleLogin lzo odbc c msg).Guarantees relation := by
  unfold Servers.handleLogin
  split
  · exact rules.closes
  · apply Thread.Guarantees.bind (Thread.guarantees_atomically rules.refl)
    intro ip
    split
    · apply Thread.Guarantees.bind (Thread.guarantees_atomically fun s => asks _ _ ip _ s)
      exact rules.loginAnswered msg.clientId
    · exact rules.replies _ _

theorem HandlerRules.handleCharList (rules : HandlerRules lzo c relation)
    (asks : ∀ userNum event (s : AgentState D),
      relation s (s.query (processCharList odbc userNum) event).1) (msg : Message) :
    (handleCharList lzo odbc c msg).Guarantees relation := by
  unfold Servers.handleCharList
  apply Thread.Guarantees.bind (Thread.guarantees_atomically fun s => rules.logins s _ _)
  intro userNum
  split
  · exact rules.closes
  · apply Thread.Guarantees.bind (rules.queryIfReady (asks userNum _) _)
    intro listed
    apply Thread.Guarantees.bind (Thread.guarantees_atomically fun s => rules.logins s _ _)
    intro _noted
    exact rules.replies _ _

theorem HandlerRules.handleCharDetail (rules : HandlerRules lzo c relation)
    (asks : ∀ userNum chaNum event (s : AgentState D),
      relation s (s.query (processCharDetail odbc userNum chaNum) event).1) (msg : Message) :
    (handleCharDetail lzo odbc c msg).Guarantees relation := by
  unfold Servers.handleCharDetail
  split
  · exact Thread.guarantees_pure _ _
  · split
    · exact Thread.guarantees_pure _ _
    · apply Thread.Guarantees.bind (Thread.guarantees_atomically fun s => rules.logins s _ _)
      intro userNum
      split
      · exact rules.closes
      · apply Thread.Guarantees.bind (rules.queryIfReady (asks userNum _ _) _)
        intro detail
        cases detail with
        | none => exact Thread.guarantees_pure _ _
        | some detail =>
            apply Thread.Guarantees.bind (Thread.guarantees_atomically fun s => rules.logins s _ _)
            intro _noted
            apply Thread.Guarantees.bind (rules.replies _ _)
            intro _sent
            exact rules.replies _ _

/-- What follows the answer to a PIN check. -/
theorem HandlerRules.passCheckAnswered (rules : HandlerRules lzo c relation) (clientId : UInt32)
    (check : PassCheck) :
    (if check.result = 0 then do
        Thread.update (AgentState.clearPin c clientId)
        agentReply lzo c netMsgPasscheckFb (passcheckFeedback clientId .ok)
      else if check.result = 2 then
        agentReply lzo c netMsgPasscheckFb (passcheckFeedback clientId .passOk)
      else agentReply lzo c netMsgPasscheckFb (passcheckFeedback clientId .fail) :
        AgentThread D Unit).Guarantees relation := by
  split
  · apply Thread.Guarantees.bind
    · apply Thread.guarantees_atomically
      intro s
      unfold AgentState.clearPin
      split
      · exact rules.refl s
      · exact rules.logins s _ _
    · intro _cleared
      exact rules.replies _ _
  · split
    · exact rules.replies _ _
    · exact rules.replies _ _

theorem HandlerRules.handlePassCheck (rules : HandlerRules lzo c relation)
    (asks : ∀ userId pin checkFlag event (s : AgentState D),
      relation s (s.query (processPassCheck odbc userId pin checkFlag) event).1) (msg : Message) :
    (handlePassCheck lzo odbc c msg).Guarantees relation := by
  unfold Servers.handlePassCheck
  split
  · exact Thread.guarantees_pure _ _
  · apply Thread.Guarantees.bind (Thread.guarantees_atomically rules.refl)
    intro use2nd
    split
    · exact Thread.guarantees_pure _ _
    · apply Thread.Guarantees.bind (rules.queryIfReady (asks _ _ _ _) _)
      intro answer
      cases answer with
      | none => exact rules.replies _ _
      | some check => exact rules.passCheckAnswered msg.clientId check

end Relations

/-! ### Requests as a client sends them -/

/-- A login under the name, without a password. -/
def loginFrame (userid : Bytes) : Bytes :=
  encodeMessage idnNetMsgLogin
    (List.replicate 4 0 ++ userid ++ List.replicate (idnNetLoginPayload - 4 - userid.length) 0)

/-- A PIN check for the name, without a PIN. -/
def passcheckFrame (userId : Bytes) : Bytes :=
  encodeMessage daumNetMsgPasscheck
    (userId ++ List.replicate (daumNetPasscheckPayload - userId.length) 0)

def charListFrame : Bytes := encodeMessage netMsgReqChaBainfo []

/-- A run over a database that answers the procedures with these values. -/
def scriptedRun (answers : List (Option Int)) (events : List Event) :
    System (AgentApp Script) AgentEvent :=
  run (agentStep literalLzo (scriptedDb 7)) (agentStart (.start answers) true) events

end RanOnline.Servers
