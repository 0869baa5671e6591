/-
The statements of the AgentServer and of the AuthServer over whole runs
(agent_server.cpp, auth_server.cpp).

What a client sends reaches the database as a bound value.  The one text that is put
together from a message is the query of GSUserInfo, and the name that stands in it
between two quotes has none of its own.
-/
import RanOnline.Db.StatementTexts
import RanOnline.Net.AppInvariant
import RanOnline.Servers.ShownDb

namespace RanOnline.Servers

open Memory Net Db StepRun Methods Threads

/-! ### The procedures -/

section Procedures

variable {D : Type} {odbc : OdbcDb D} (texts : odbc.Texts)

theorem collectInt_within (column : String) :
    Triple texts.within (collectInt odbc column) fun _value => texts.within := by
  unfold collectInt
  refine Triple.bind (texts.getCollect column) ?_
  intro _value
  exact triple_pure fun _db within => within

theorem collectText_within (column : String) :
    Triple texts.within (collectText odbc column) fun _value => texts.within := by
  unfold collectText
  refine Triple.bind (texts.getCollectString column) ?_
  intro _value
  exact triple_pure fun _db within => within

theorem fetchUserInfo_within
    (named : ∀ user : Bytes, (∀ char, char ∈ user → isUserChar char = true) →
      texts.direct (userInfoQuery user)) (username : Bytes) (errCode : LoginFb) :
    Triple texts.within (fetchUserInfo odbc username errCode) fun _login => texts.within := by
  have clean : texts.direct (userInfoQuery (username.filter isUserChar)) :=
    named _ fun _char member => (List.mem_filter.mp member).2
  have given {β : Type} (value : β) :
      Triple texts.within (pure value : StateM D β) fun _value => texts.within :=
    triple_pure fun _db within => within
  unfold fetchUserInfo
  refine Triple.bind (texts.execute _ clean) ?_
  intro _queried
  refine Triple.ite (fun _failed => given _) ?_
  intro _executed
  refine Triple.bind leaves_get.keeps ?_
  intro _current
  refine Triple.ite (fun _empty => given _) ?_
  intro _row
  refine Triple.bind (collectInt_within texts _) ?_
  intro _userNum
  refine Triple.bind (collectInt_within texts _) ?_
  intro _userType
  refine Triple.bind (collectInt_within texts _) ?_
  intro _tempCha
  refine Triple.bind (collectInt_within texts _) ?_
  intro _tempTest
  refine Triple.bind (collectText_within texts _) ?_
  intro _premiumDate
  refine Triple.bind (collectText_within texts _) ?_
  intro _chatBlockDate
  refine Triple.bind (collectText_within texts _) ?_
  intro _lastLoginDate
  exact given _

theorem processUserLogin_within
    (named : ∀ user : Bytes, (∀ char, char ∈ user → isUserChar char = true) →
      texts.direct (userInfoQuery user))
    (verify : texts.prepared
      (escapeText [true, false, false, false, false, false, false] "dbo.gs_user_verify"))
    (username password ip : Bytes) :
    Triple texts.within (processUserLogin odbc username password ip)
      fun _login => texts.within := by
  have given {β : Type} (value : β) :
      Triple texts.within (pure value : StateM D β) fun _value => texts.within :=
    triple_pure fun _db within => within
  unfold processUserLogin
  refine Triple.bind leaves_get.keeps ?_
  intro _current
  refine Triple.ite (fun _closed => given _) ?_
  intro _opened
  refine Triple.bind texts.clearParams ?_
  intro _cleared
  refine Triple.bind (texts.appendRParamInteger _) ?_
  intro _return
  refine Triple.bind (texts.appendIParamVarchar _ _ _ _) ?_
  intro _userId
  refine Triple.bind (texts.appendIParamVarchar _ _ _ _) ?_
  intro _userPass
  refine Triple.bind (texts.appendIParamVarchar _ _ _ _) ?_
  intro _userIp
  refine Triple.bind (texts.appendIParamInteger _ _ _) ?_
  intro _svrGrpNum
  refine Triple.bind (texts.appendIParamInteger _ _ _) ?_
  intro _svrNum
  refine Triple.bind (texts.appendOParamInteger _ _) ?_
  intro _output
  refine Triple.bind (texts.executeStoredProcedure _ _ (List.cons_ne_nil _ _) verify) ?_
  intro _executed
  refine Triple.ite (fun _failed => given _) ?_
  intro _ran
  refine Triple.bind (texts.getParam _) ?_
  intro returned
  cases returned with
  | none => exact given _
  | some nResult =>
      exact Triple.ite (fun _refused => given _) fun _verified =>
        fetchUserInfo_within texts named username _

theorem charListRows_within (charNums : List Int) :
    Triple texts.within (charListRows odbc charNums) fun _charNums => texts.within := by
  intro db within
  induction charNums, db using charListRows.induct odbc with
  | case1 charNums db more _chaNum ih =>
      rw [charListRows_next more]
      exact ih (texts.next _ (texts.getCollect _ db within))
  | case2 charNums db ended =>
      rw [Bool.not_eq_false] at ended
      rw [charListRows_ended ended]
      exact within

theorem processCharList_within
    (lists : texts.prepared (escapeText [false, false] "dbo.sp_ChaListAgent")) (userNum : Int) :
    Triple texts.within (processCharList odbc userNum) fun _listed => texts.within := by
  unfold processCharList
  refine Triple.bind texts.clearParams ?_
  intro _cleared
  refine Triple.bind (texts.appendIParamInteger _ _ _) ?_
  intro _userNum
  refine Triple.bind (texts.appendIParamInteger _ _ _) ?_
  intro _serverGroup
  refine Triple.bind (texts.executeStoredProcedure _ _ (List.cons_ne_nil _ _) lists) ?_
  intro _executed
  refine Triple.ite (fun _failed => triple_pure fun _db within => within) ?_
  intro _ran
  refine Triple.bind (charListRows_within texts []) ?_
  intro _charNums
  exact triple_pure fun _db within => within

theorem collectWord_within (column : String) :
    Triple texts.within (collectWord odbc column) fun _value => texts.within := by
  unfold collectWord
  refine Triple.bind (collectInt_within texts column) ?_
  intro _value
  exact triple_pure fun _db within => within

theorem collectShort_within (column : String) :
    Triple texts.within (collectShort odbc column) fun _value => texts.within := by
  unfold collectShort
  refine Triple.bind (collectInt_within texts column) ?_
  intro _value
  exact triple_pure fun _db within => within

theorem collectDetail_within (chaNum : Int) :
    Triple texts.within (collectDetail odbc chaNum) fun _detail => texts.within := by
  unfold collectDetail
  refine Triple.bind (collectWord_within texts _) fun _guNum => ?_
  refine Triple.bind (collectText_within texts _) fun _chaName => ?_
  refine Triple.bind (collectWord_within texts _) fun _chaClass => ?_
  refine Triple.bind (collectShort_within texts _) fun _chaSchool => ?_
  refine Triple.bind (collectShort_within texts _) fun _chaDex => ?_
  refine Triple.bind (collectShort_within texts _) fun _chaIntel => ?_
  refine Triple.bind (collectShort_within texts _) fun _chaPower => ?_
  refine Triple.bind (collectShort_within texts _) fun _chaStrong => ?_
  refine Triple.bind (collectShort_within texts _) fun _chaSpirit => ?_
  refine Triple.bind (collectShort_within texts _) fun _chaStrength => ?_
  refine Triple.bind (collectShort_within texts _) fun _chaLevel => ?_
  refine Triple.bind (collectShort_within texts _) fun _chaHair => ?_
  refine Triple.bind (collectShort_within texts _) fun _chaFace => ?_
  refine Triple.bind (collectInt_within texts _) fun _chaBright => ?_
  refine Triple.bind (collectShort_within texts _) fun _chaSex => ?_
  refine Triple.bind (collectShort_within texts _) fun _chaHairColor => ?_
  refine Triple.bind (collectInt_within texts _) fun _expNow => ?_
  refine Triple.bind (collectWord_within texts _) fun _chaSaveMap => ?_
  refine Triple.bind (collectWord_within texts _) fun _hpNow => ?_
  refine Triple.bind (collectInt_within texts _) fun _chaLock => ?_
  exact triple_pure fun _db within => within

theorem processCharDetail_within
    (details : texts.prepared (escapeText [false, false] "dbo.sp_GetChaLobbyInfo"))
    (userNum chaNum : Int) :
    Triple texts.within (processCharDetail odbc userNum chaNum) fun _detail => texts.within := by
  have given {β : Type} (value : β) :
      Triple texts.within (pure value : StateM D β) fun _value => texts.within :=
    triple_pure fun _db within => within
  unfold processCharDetail
  refine Triple.bind texts.clearParams ?_
  intro _cleared
  refine Triple.bind (texts.appendIParamInteger _ _ _) ?_
  intro _userNum
  refine Triple.bind (texts.appendIParamInteger _ _ _) ?_
  intro _chaNum
  refine Triple.bind (texts.executeStoredProcedure _ _ (List.cons_ne_nil _ _) details) ?_
  intro _executed
  refine Triple.ite (fun _failed => given _) ?_
  intro _ran
  refine Triple.bind leaves_get.keeps ?_
  intro _current
  refine Triple.ite (fun _empty => given _) ?_
  intro _row
  refine Triple.bind (collectDetail_within texts chaNum) ?_
  intro _detail
  exact given _

theorem processPassCheck_within
    (checks : texts.prepared
      (escapeText [true, false, false, false, false] "dbo.daum_user_passcheck"))
    (userId pin : Bytes) (checkFlag : Int) :
    Triple texts.within (processPassCheck odbc userId pin checkFlag)
      fun _answer => texts.within := by
  have given {β : Type} (value : β) :
      Triple texts.within (pure value : StateM D β) fun _value => texts.within :=
    triple_pure fun _db within => within
  unfold processPassCheck
  refine Triple.bind texts.clearParams ?_
  intro _cleared
  refine Triple.bind (texts.appendRParamInteger _) ?_
  intro _return
  refine Triple.bind (texts.appendIParamVarchar _ _ _ _) ?_
  intro _userId
  refine Triple.bind (texts.appendIParamVarchar _ _ _ _) ?_
  intro _pin
  refine Triple.bind (texts.appendIParamInteger _ _ _) ?_
  intro _checkFlag
  refine Triple.bind (texts.appendOParamInteger _ _) ?_
  intro _output
  refine Triple.bind (texts.executeStoredProcedure _ _ (List.cons_ne_nil _ _) checks) ?_
  intro _executed
  refine Triple.ite (fun _failed => given _) ?_
  intro _ran
  refine Triple.bind (texts.getParam _) ?_
  intro returnValue
  refine Triple.ite ?_ ?_
  · intro _zero
    refine Triple.bind (texts.getParam _) ?_
    intro _output
    exact given _
  · intro _given
    exact given _

theorem certRows_within :
    Triple texts.within (certRows odbc) fun _result => texts.within := by
  intro db within
  have passed (db : D) (within : texts.within db) : texts.within (certRow odbc db).2.2 :=
    texts.next _ (texts.getCollectString _ _ (texts.getCollect _ _ (texts.getCollect _ _ within)))
  induction db using certRows.induct odbc with
  | case1 db more ih =>
      rw [certRows_more more]
      exact ih (passed db within)
  | case2 db ended =>
      rw [certRows_ended ended]
      exact passed db within

theorem processCertificationForAuth_within
    (certifies : texts.prepared
      (escapeText [false, false, false, false, false, false] "dbo.sp_CertificationUniqKey"))
    (r : CertRequest) :
    Triple texts.within (processCertificationForAuth odbc r) fun _result => texts.within := by
  have given {β : Type} (value : β) :
      Triple texts.within (pure value : StateM D β) fun _value => texts.within :=
    triple_pure fun _db within => within
  unfold processCertificationForAuth
  refine Triple.bind texts.clearParams ?_
  intro _cleared
  refine Triple.bind (texts.appendIParamInteger _ _ _) ?_
  intro _country
  refine Triple.bind (texts.appendIParamInteger _ _ _) ?_
  intro _serverType
  refine Triple.bind (texts.appendIParamVarchar _ _ _ _) ?_
  intro _ip
  refine Triple.bind (texts.appendIParamInteger _ _ _) ?_
  intro _port
  refine Triple.bind (texts.appendIParamVarchar _ _ _ _) ?_
  intro _uniqKey
  refine Triple.bind (texts.appendIParamInteger _ _ _) ?_
  intro _isSessionSvr
  refine Triple.bind (texts.executeStoredProcedure _ _ (List.cons_ne_nil _ _) certifies) ?_
  intro _executed
  refine Triple.ite (fun _failed => given _) ?_
  intro _ran
  refine Triple.bind leaves_get.keeps ?_
  intro _current
  exact Triple.ite (fun _empty => given _) fun _rows => certRows_within texts

end Procedures

/-! ### The AgentServer -/

/-- The query of GSUserInfo for a name, with the two quotes around the name and no other. -/
structure UserInfoText (sql : Bytes) : Prop where
  named : ∃ user : Bytes, (∀ char, char ∈ user → isUserChar char = true) ∧ sql = userInfoQuery user
  quotes : sql.count 39 = 2

/-- The four procedures of the AgentServer. -/
def agentCallTexts : List Bytes :=
  [Object.text "\x7b ? = call dbo.gs_user_verify (?,?,?,?,?,?) \x7d",
    Object.text "\x7b call dbo.sp_ChaListAgent (?,?) \x7d",
    Object.text "\x7b call dbo.sp_GetChaLobbyInfo (?,?) \x7d",
    Object.text "\x7b ? = call dbo.daum_user_passcheck (?,?,?,?) \x7d"]

def authCallText : Bytes := Object.text "\x7b call dbo.sp_CertificationUniqKey (?,?,?,?,?,?) \x7d"

theorem userInfoText {user : Bytes} (clean : ∀ char, char ∈ user → isUserChar char = true) :
    UserInfoText (userInfoQuery user) := by
  refine ⟨⟨user, clean, rfl⟩, ?_⟩
  have quoteless : user.count 39 = 0 := by
    apply List.count_eq_zero.mpr
    intro member
    exact absurd (clean 39 member) (by decide)
  unfold userInfoQuery
  rw [List.count_append, List.count_append, quoteless]
  decide +kernel

section Agent

variable {D : Type} {odbc : OdbcDb D} (texts : odbc.Texts)

/-- The texts that the AgentServer is to give. -/
structure AgentTexts : Prop where
  named : ∀ user : Bytes, (∀ char, char ∈ user → isUserChar char = true) →
    texts.direct (userInfoQuery user)
  verify : texts.prepared
    (escapeText [true, false, false, false, false, false, false] "dbo.gs_user_verify")
  lists : texts.prepared (escapeText [false, false] "dbo.sp_ChaListAgent")
  details : texts.prepared (escapeText [false, false] "dbo.sp_GetChaLobbyInfo")
  checks : texts.prepared
    (escapeText [true, false, false, false, false] "dbo.daum_user_passcheck")

variable {texts}

theorem keepsApp_query {β : Type} {procedure : StateM D β} {within : D → Prop}
    (keeps : Triple within procedure fun _result => within) (event : β → AgentEvent)
    (s : AgentState D) :
    KeepsApp (fun app : AgentApp D => within app.db) s (s.query procedure event).1 :=
  keeps s.app.db

theorem keepsApp_rules (lzo : Lzo) (c : Nat) (within : D → Prop) :
    HandlerRules lzo c (@KeepsApp (AgentApp D) AgentEvent fun app => within app.db) where
  refl := fun _s holds => holds
  logins := fun _s _loginSessions _event holds => holds
  closes := @keepsApp_closeSession _ _ _ agentOnClose (fun _clientId _app holds => holds) c
  replies := fun _type _payload =>
    @keepsApp_sendTo _ _ _ lzo agentOnClose (fun _clientId _app holds => holds) c _

theorem agent_keepsApp (lzo : Lzo) (allowed : AgentTexts texts) :
    (agentServer lzo odbc).KeepsApp fun app => texts.within app.db where
  onClose := fun _clientId _app holds => holds
  handle := by
    intro c msg
    have rules := @keepsApp_rules D lzo c texts.within
    change (agentHandle lzo odbc c msg).Guarantees _
    unfold agentHandle
    split
    · apply rules.handleLogin
      intro username password ip event s
      exact keepsApp_query (processUserLogin_within texts allowed.named allowed.verify _ _ _) _ s
    · split
      · apply rules.handleCharList
        intro userNum event s
        exact keepsApp_query (processCharList_within texts allowed.lists _) _ s
      · split
        · apply rules.handleCharDetail
          intro userNum chaNum event s
          exact keepsApp_query (processCharDetail_within texts allowed.details _ _) _ s
        · split
          · apply rules.handlePassCheck
            intro userId pin checkFlag event s
            exact keepsApp_query (processPassCheck_within texts allowed.checks _ _ _) _ s
          · exact rules.replies _ _

end Agent

/-- In every run of the AgentServer over OdbcDb and any driver, once OnStart and its probe query
are done, whatever the clients send and the database answers: each statement is the query of
GSUserInfo for a name without quotes, and each call escape one of four fixed texts. -/
theorem agent_texts {W : Type} (driver : Driver W) (lzo : Lzo) (db : Object W) (dbReady : Bool)
    (events : List Event) :
    (run (agentStep lzo (Object.odbcDb driver.recorded)) (agentStart db.withRecord dbReady)
      events).shared.app.db.Within UserInfoText (· ∈ agentCallTexts) := by
  have allowed : AgentTexts (Object.texts driver UserInfoText (· ∈ agentCallTexts)) :=
    { named := fun _user clean => userInfoText clean
      verify := by
        change _ ∈ agentCallTexts
        decide +kernel
      lists := by
        change _ ∈ agentCallTexts
        decide +kernel
      details := by
        change _ ∈ agentCallTexts
        decide +kernel
      checks := by
        change _ ∈ agentCallTexts
        decide +kernel }
  apply (agent_keepsApp lzo allowed).run
  intro call impossible
  cases impossible

/-! ### The AuthServer -/

theorem auth_keepsApp {D : Type} {odbc : OdbcDb D} {texts : odbc.Texts} (lzo : Lzo)
    (beyond : Message → Bytes)
    (certifies : texts.prepared
      (escapeText [false, false, false, false, false, false] "dbo.sp_CertificationUniqKey")) :
    (authServer lzo odbc beyond).KeepsApp fun app => texts.within app.db where
  onClose := fun _clientId _app holds => holds
  handle := by
    intro c msg
    have sends (framed : Bytes) :
        (sendTo lzo keepApp c framed : Thread (Shared (AuthApp D) Empty) Unit).Guarantees
          (KeepsApp fun app => texts.within app.db) :=
      @keepsApp_sendTo _ _ _ lzo keepApp (fun _clientId _app holds => holds) c framed
    change (authHandle lzo odbc beyond c msg).Guarantees _
    unfold authHandle
    split
    · simp only [handleCertification]
      split
      · exact Thread.guarantees_pure _ _
      · split
        · exact Thread.guarantees_pure _ _
        · cases CertRequest.parse (decryptAuthData (requestAuthData msg (beyond msg))) with
          | none => exact Thread.guarantees_pure _ _
          | some req =>
              apply Thread.Guarantees.bind
              · apply Thread.guarantees_atomically
                intro s holds
                exact processCertificationForAuth_within texts certifies req s.app.db holds
              · intro res
                exact sends _
    · exact sends _

/-- Behind the probe query of OnStart the AuthServer gives its database one text, the call of
the certification procedure. -/
theorem auth_texts {W : Type} (driver : Driver W) (lzo : Lzo) (beyond : Message → Bytes)
    (db : Object W) (events : List Event) :
    (run (authStep lzo (Object.odbcDb driver.recorded) beyond) (authStart db.withRecord)
      events).shared.app.db.Within (fun _sql => False) (· = authCallText) := by
  have certifies : (Object.texts driver (fun _sql => False) (· = authCallText)).prepared
      (escapeText [false, false, false, false, false, false] "dbo.sp_CertificationUniqKey") := by
    change _ = authCallText
    decide +kernel
  apply (auth_keepsApp lzo beyond certifies).run
  intro call impossible
  cases impossible

end RanOnline.Servers
