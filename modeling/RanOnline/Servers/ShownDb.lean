/-
The database procedures of the two servers over a database that shows another one.

They work on OdbcDb alone, so they answer the same over both, and what the first database
keeps besides is a matter of fact about the second.
-/
import RanOnline.Servers.AgentServer
import RanOnline.Servers.AuthAnswer

namespace RanOnline.Servers

open Memory Net Db Methods

/-! ### The loops, pass by pass -/

section Loops

variable {D : Type} {odbc : OdbcDb D}

theorem charListRows_ended {charNums : List Int} {db : D} (ended : odbc.getEOF db = true) :
    charListRows odbc charNums db = (charNums, db) := by
  have stop : ¬odbc.getEOF db = false := by
    rw [ended]
    exact fun impossible => Bool.noConfusion impossible
  rw [charListRows, dif_neg stop]

theorem charListRows_next {charNums : List Int} {db : D} (more : odbc.getEOF db = false) :
    charListRows odbc charNums db =
      charListRows odbc
        (if (odbc.getCollect "ChaNum" db).1.getD 0 > 0 then
          charNums ++ [(odbc.getCollect "ChaNum" db).1.getD 0] else charNums)
        (odbc.next (odbc.getCollect "ChaNum" db).2).2 := by
  rw [charListRows, dif_pos more]

theorem certRows_more {db : D} (more : (certRow odbc db).2.1 = true) :
    certRows odbc db = certRows odbc (certRow odbc db).2.2 := by
  rw [certRows, dif_pos more]

theorem certRows_ended {db : D} (ended : ¬(certRow odbc db).2.1 = true) :
    certRows odbc db = ((certRow odbc db).1, (certRow odbc db).2.2) := by
  rw [certRows, dif_neg ended]

end Loops

section Shown

variable {E D : Type} {above : OdbcDb E} {odbc : OdbcDb D} {see : E → D}
  (shows : above.Shows odbc see)

include shows

/-! ### Columns -/

theorem mirrors_collectInt (column : String) :
    Mirrors see (collectInt above column) (collectInt odbc column) := by
  apply (shows.getCollect column).bind
  intro _value
  exact mirrors_pure _

theorem mirrors_collectText (column : String) :
    Mirrors see (collectText above column) (collectText odbc column) := by
  apply (shows.getCollectString column).bind
  intro _value
  exact mirrors_pure _

/-! ### The AgentServer -/

theorem mirrors_fetchUserInfo (username : Bytes) (errCode : LoginFb) :
    Mirrors see (fetchUserInfo above username errCode) (fetchUserInfo odbc username errCode) := by
  unfold fetchUserInfo
  apply (shows.execute _).bind
  intro queried
  apply (mirrors_pure _).ite
  apply Mirrors.look
  intro db
  rw [shows.getEOF]
  apply (mirrors_pure _).ite
  apply (mirrors_collectInt shows _).bind
  intro _userNum
  apply (mirrors_collectInt shows _).bind
  intro _userType
  apply (mirrors_collectInt shows _).bind
  intro _tempCha
  apply (mirrors_collectInt shows _).bind
  intro _tempTest
  apply (mirrors_collectText shows _).bind
  intro _premiumDate
  apply (mirrors_collectText shows _).bind
  intro _chatBlockDate
  apply (mirrors_collectText shows _).bind
  intro _lastLoginDate
  exact mirrors_pure _

theorem mirrors_processUserLogin (username password ip : Bytes) :
    Mirrors see (processUserLogin above username password ip)
      (processUserLogin odbc username password ip) := by
  unfold processUserLogin
  apply Mirrors.look
  intro db
  rw [shows.isOpened]
  apply (mirrors_pure _).ite
  apply shows.clearParams.bind
  intro _cleared
  apply shows.appendRParamInteger.bind
  intro _return
  apply (shows.appendIParamVarchar _ _ _).bind
  intro _userId
  apply (shows.appendIParamVarchar _ _ _).bind
  intro _userPass
  apply (shows.appendIParamVarchar _ _ _).bind
  intro _userIp
  apply (shows.appendIParamInteger _ _).bind
  intro _svrGrpNum
  apply (shows.appendIParamInteger _ _).bind
  intro _svrNum
  apply (shows.appendOParamInteger _).bind
  intro _output
  apply (shows.executeStoredProcedure _).bind
  intro executed
  apply (mirrors_pure _).ite
  apply (shows.getParam _).bind
  intro returned
  cases returned with
  | none => exact mirrors_pure _
  | some nResult => exact (mirrors_pure _).ite (mirrors_fetchUserInfo shows username _)

theorem mirrors_charListRows (charNums : List Int) :
    Mirrors see (charListRows above charNums) (charListRows odbc charNums) := by
  intro db
  induction charNums, db using charListRows.induct above with
  | case1 charNums db more _chaNum ih =>
      obtain ⟨number, collected⟩ := shows.getCollect "ChaNum" db
      have after := (shows.next (above.getCollect "ChaNum" db).2).2
      rw [collected] at after
      have seenMore : odbc.getEOF (see db) = false := (shows.getEOF db).symm.trans more
      rw [charListRows_next more, charListRows_next seenMore, ← number, ← after]
      exact ih
  | case2 charNums db ended =>
      rw [Bool.not_eq_false] at ended
      have seenEnded : odbc.getEOF (see db) = true := (shows.getEOF db).symm.trans ended
      rw [charListRows_ended ended, charListRows_ended seenEnded]
      exact ⟨rfl, rfl⟩

theorem mirrors_processCharList (userNum : Int) :
    Mirrors see (processCharList above userNum) (processCharList odbc userNum) := by
  unfold processCharList
  apply shows.clearParams.bind
  intro _cleared
  apply (shows.appendIParamInteger _ _).bind
  intro _userNum
  apply (shows.appendIParamInteger _ _).bind
  intro _serverGroup
  apply (shows.executeStoredProcedure _).bind
  intro executed
  apply (mirrors_pure _).ite
  apply (mirrors_charListRows shows []).bind
  intro _charNums
  exact mirrors_pure _

theorem mirrors_processPassCheck (userId pin : Bytes) (checkFlag : Int) :
    Mirrors see (processPassCheck above userId pin checkFlag)
      (processPassCheck odbc userId pin checkFlag) := by
  unfold processPassCheck
  apply shows.clearParams.bind
  intro _cleared
  apply shows.appendRParamInteger.bind
  intro _return
  apply (shows.appendIParamVarchar _ _ _).bind
  intro _userId
  apply (shows.appendIParamVarchar _ _ _).bind
  intro _pin
  apply (shows.appendIParamInteger _ _).bind
  intro _checkFlag
  apply (shows.appendOParamInteger _).bind
  intro _output
  apply (shows.executeStoredProcedure _).bind
  intro executed
  apply (mirrors_pure _).ite
  apply (shows.getParam _).bind
  intro returnValue
  apply Mirrors.ite
  · apply (shows.getParam _).bind
    intro _output
    exact mirrors_pure _
  · exact mirrors_pure _

/-! ### The AuthServer -/

/-- One pass of the loop, which is no method. -/
theorem certRow_shown (db : E) :
    (certRow above db).1 = (certRow odbc (see db)).1 ∧
      (certRow above db).2.1 = (certRow odbc (see db)).2.1 ∧
      see (certRow above db).2.2 = (certRow odbc (see db)).2.2 := by
  obtain ⟨session, sessionDb⟩ := shows.getCollect "SessionSvrID" db
  obtain ⟨cert, certDb⟩ := shows.getCollect "Certification" (above.getCollect "SessionSvrID" db).2
  rw [sessionDb] at cert certDb
  obtain ⟨key, keyDb⟩ := shows.getCollectString "UniqKey"
    (above.getCollect "Certification" (above.getCollect "SessionSvrID" db).2).2
  rw [certDb] at key keyDb
  obtain ⟨more, moreDb⟩ := shows.next (above.getCollectString "UniqKey"
    (above.getCollect "Certification" (above.getCollect "SessionSvrID" db).2).2).2
  rw [keyDb] at more moreDb
  refine ⟨?_, more, moreDb⟩
  change CertResult.mk true _ _ _ = CertResult.mk true _ _ _
  congr 1
  · exact congrArg (·.getD 0) cert
  · exact congrArg (·.getD 0) session
  · exact congrArg (·.getD []) key

theorem mirrors_certRows : Mirrors see (certRows above) (certRows odbc) := by
  intro db
  induction db using certRows.induct above with
  | case1 db more ih =>
      obtain ⟨_result, same, after⟩ := certRow_shown shows db
      rw [certRows_more more, certRows_more (same.symm.trans more), ← after]
      exact ih
  | case2 db ended =>
      obtain ⟨result, same, after⟩ := certRow_shown shows db
      rw [certRows_ended ended, certRows_ended (fun more => ended (same.trans more)), ← result,
        ← after]
      exact ⟨rfl, rfl⟩

theorem mirrors_certCall (r : CertRequest) :
    Mirrors see (certCall above r) (certCall odbc r) := by
  unfold certCall
  apply shows.clearParams.bind
  intro _cleared
  apply (shows.appendIParamInteger _ _).bind
  intro _country
  apply (shows.appendIParamInteger _ _).bind
  intro _serverType
  apply (shows.appendIParamVarchar _ _ _).bind
  intro _ip
  apply (shows.appendIParamInteger _ _).bind
  intro _port
  apply (shows.appendIParamVarchar _ _ _).bind
  intro _uniqKey
  apply (shows.appendIParamInteger _ _).bind
  intro _isSessionSvr
  exact shows.executeStoredProcedure _

theorem mirrors_processCertificationForAuth (r : CertRequest) :
    Mirrors see (processCertificationForAuth above r) (processCertificationForAuth odbc r) := by
  have answered : Mirrors see
      (do
        let executed ← certCall above r
        if !executed then return .new
        if above.getEOF (← get) then return { CertResult.new with ok := true }
        certRows above)
      (do
        let executed ← certCall odbc r
        if !executed then return .new
        if odbc.getEOF (← get) then return { CertResult.new with ok := true }
        certRows odbc) := by
    apply (mirrors_certCall shows r).bind
    intro executed
    apply (mirrors_pure _).ite
    apply Mirrors.look
    intro db
    rw [shows.getEOF]
    exact (mirrors_pure _).ite (mirrors_certRows shows)
  exact answered

end Shown

end RanOnline.Servers
