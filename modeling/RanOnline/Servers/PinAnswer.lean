/-
What a PIN check answers, from the driver's writes to the reply.

ProcessPassCheck takes the first of RETURN_VALUE and @nReturn that is not zero, and
GetParam leaves a zero where it has nothing: a procedure that delivers neither looks
like one that accepted the PIN.
-/
import RanOnline.Db.OdbcParams
import RanOnline.Servers.AgentServer

namespace RanOnline.Servers

open Memory Net Db Threads Methods

variable {W : Type}

/-! ### The call of dbo.daum_user_passcheck -/

def passCheckParams (userId pin : Bytes) (checkFlag : Int) : List Param :=
  [Object.outputParam (Object.text "RETURN_VALUE") true .slong .integer 10 4,
    Object.varcharParam (Object.text "@szDaumGID") userId 20,
    Object.varcharParam (Object.text "@szDaumPasswd") pin 20,
    Object.inputParam (Object.text "@nCheckFlag") .slong .integer 10 (Object.intBytes checkFlag),
    Object.outputParam (Object.text "@nReturn") false .slong .integer 10 4]

/-- What the driver writes from SQLExecute until GetParam has drained the results, as far as
it does; none where the call fails. -/
def passCheckWrites (driver : Driver W) (userId pin : Bytes) (checkFlag : Int)
    (db : Object W) : Option (List Written) :=
  let called := Object.executeStoredProcedure driver "dbo.daum_user_passcheck"
    (db.withParams (passCheckParams userId pin checkFlag))
  if called.1 then some (Object.settled driver called.2).written else none

/-- RETURN_VALUE is parameter 1 of the call and @nReturn parameter 5. -/
def deliveredReturn (written : List Written) : Option Int := Object.outputInt written 1

def deliveredOutput (written : List Written) : Option Int := Object.outputInt written 5

def passCheckAnswer (written : List Written) : PassCheck :=
  { returnValue := deliveredReturn written
    output := if (deliveredReturn written).getD 0 = 0 then deliveredOutput written else none }

theorem passCheckParams_received (written : List Written) (userId pin : Bytes) (checkFlag : Int) :
    Object.received written (passCheckParams userId pin checkFlag) =
      (passCheckParams userId pin checkFlag).zipWith
        (fun param number => Object.receive written number param) [1, 2, 3, 4, 5] := rfl

private theorem names_differ :
    Object.lower (Object.text "RETURN_VALUE") ≠ Object.lower (Object.text "@nReturn") ∧
      Object.lower (Object.text "@szDaumGID") ≠ Object.lower (Object.text "@nReturn") ∧
      Object.lower (Object.text "@szDaumPasswd") ≠ Object.lower (Object.text "@nReturn") ∧
      Object.lower (Object.text "@nCheckFlag") ≠ Object.lower (Object.text "@nReturn") := by
  decide +kernel

theorem readParam_output {db : Object W} {userId pin : Bytes} {checkFlag : Int}
    (filled : Object.Filled (passCheckParams userId pin checkFlag) db) :
    Object.readParam db "@nReturn" = deliveredOutput db.written := by
  obtain ⟨notReturn, notGid, notPasswd, notFlag⟩ := names_differ
  unfold Object.readParam Object.findParam
  rw [filled.1, passCheckParams_received, passCheckParams]
  simp only [List.zipWith_cons_cons, List.zipWith_nil_right]
  rw [List.find?_cons_of_neg (by rw [decide_eq_true_eq]; exact notReturn),
    List.find?_cons_of_neg (by rw [decide_eq_true_eq]; exact notGid),
    List.find?_cons_of_neg (by rw [decide_eq_true_eq]; exact notPasswd),
    List.find?_cons_of_neg (by rw [decide_eq_true_eq]; exact notFlag),
    List.find?_cons_of_pos (by rw [decide_eq_true_eq]; rfl)]
  rfl

/-- ProcessPassCheck over the real OdbcDb. -/
theorem processPassCheck_odbc (driver : Driver W) (userId pin : Bytes) (checkFlag : Int)
    (db : Object W) :
    (processPassCheck (Object.odbcDb driver) userId pin checkFlag db).1 =
      (passCheckWrites driver userId pin checkFlag db).map passCheckAnswer := by
  generalize bound : db.withParams (passCheckParams userId pin checkFlag) = ready
  have appended : processPassCheck (Object.odbcDb driver) userId pin checkFlag db =
      (do
        let executed ← Object.executeStoredProcedure driver "dbo.daum_user_passcheck"
        if !executed then return none
        let returnValue ← Object.getParam driver "RETURN_VALUE"
        if returnValue.getD 0 = 0 then
          let output ← Object.getParam driver "@nReturn"
          return some { returnValue := returnValue, output := output }
        return some { returnValue := returnValue, output := none } :
        Method W (Option PassCheck)) ready := by
    rw [← bound]
    refine (Object.clearParams_bind _ db).trans ?_
    refine (Object.addParam_bind _ [] _ db).trans ?_
    refine (Object.addParam_bind _ _ _ db).trans ?_
    refine (Object.addParam_bind _ _ _ db).trans ?_
    refine (Object.addParam_bind _ _ _ db).trans ?_
    exact Object.addParam_bind _ _ _ db
  have filled : (Object.executeStoredProcedure driver "dbo.daum_user_passcheck" ready).1 = true →
      Object.Filled (passCheckParams userId pin checkFlag)
        (Object.executeStoredProcedure driver "dbo.daum_user_passcheck" ready).2 := by
    rw [← bound]
    exact Object.execCall_filled "dbo.daum_user_passcheck" (passCheckParams userId pin checkFlag)
      _ rfl
  rw [appended, passCheckWrites, bound]
  generalize called : Object.executeStoredProcedure driver "dbo.daum_user_passcheck" ready = outcome
  rw [called] at filled
  change ((if (!(Object.executeStoredProcedure driver "dbo.daum_user_passcheck" ready).1) = true then
      pure none
    else do
      let returnValue ← Object.getParam driver "RETURN_VALUE"
      if returnValue.getD 0 = 0 then
        let output ← Object.getParam driver "@nReturn"
        return some { returnValue := returnValue, output := output }
      return some { returnValue := returnValue, output := none } : Method W (Option PassCheck))
      (Object.executeStoredProcedure driver "dbo.daum_user_passcheck" ready).2).1 = _
  rw [called]
  obtain ⟨executed, db⟩ := outcome
  cases executed with
  | false => rfl
  | true =>
      have settled : Object.Filled (passCheckParams userId pin checkFlag)
          (Object.settled driver db) := Object.settled_filled (filled rfl)
      have returned : Object.readParam (Object.settled driver db) "RETURN_VALUE" =
          deliveredReturn (Object.settled driver db).written := Object.readParam_return settled
      change ((if (Object.getParam driver "RETURN_VALUE" db).1.getD 0 = 0 then do
          let output ← Object.getParam driver "@nReturn"
          return some
            { returnValue := (Object.getParam driver "RETURN_VALUE" db).1
              output := output }
        else pure (some
            { returnValue := (Object.getParam driver "RETURN_VALUE" db).1
              output := none }) : Method W (Option PassCheck))
          (Object.getParam driver "RETURN_VALUE" db).2).1 =
        some (passCheckAnswer (Object.settled driver db).written)
      rw [Object.getParam_eq, returned, passCheckAnswer]
      simp only
      by_cases zero : (deliveredReturn (Object.settled driver db).written).getD 0 = 0
      · rw [if_pos zero, if_pos zero]
        change some (PassCheck.mk (deliveredReturn (Object.settled driver db).written)
          (Object.getParam driver "@nReturn" (Object.settled driver db)).1) = _
        rw [Object.getParam_eq, Object.settled_settled, readParam_output settled]
      · rw [if_neg zero, if_neg zero]
        rfl

/-! ### A run of dispatch -/

section Dispatch

variable (driver : Driver W) (msg : Message)
  (env : Nat → AgentState (Object W) → AgentState (Object W)) (s : AgentState (Object W))

/-- The state in which dispatch, past the read of use2ndPass, holds m_dbMx. -/
def askedState : AgentState (Object W) := env 1 (env 0 s)

/-- The call of the procedure is made. -/
def Asks : Prop :=
  daumNetPasscheckPayload ≤ msg.payloadSize ∧ AgentState.use2ndPass msg.clientId (env 0 s) ≠ 0 ∧
    (askedState env s).app.dbReady = true

/-- ProcessPassCheck on the message. -/
def askedResult : Option PassCheck :=
  (processPassCheck (Object.odbcDb driver) (passcheckUserId msg) (passcheckPin msg)
    (passcheckFlag msg) (askedState env s).app.db).1

def askedWrites : Option (List Written) :=
  passCheckWrites driver (passcheckUserId msg) (passcheckPin msg) (passcheckFlag msg)
    (askedState env s).app.db

end Dispatch

/-- The section sets a pending use2ndPass to 0. -/
def ClearsPin {D : Type} (clientId : UInt32) (before after : AgentState D) : Prop :=
  ∃ session later, before.app.loginSessions.lookup clientId = some session ∧
    session.use2ndPass ≠ 0 ∧ after.app.loginSessions.lookup clientId = some later ∧
    later.use2ndPass = 0

/-- The section hands a NET_MSG_PASSCHECK_FB with EM_LOGIN_FB_SUB_OK to Send. -/
def RepliesOk {D : Type} (c : Nat) (clientId : UInt32) (before after : AgentState D) : Prop :=
  (after.conns c).sent = (before.conns c).sent ++
    [encodeMessage netMsgPasscheckFb (passcheckFeedback clientId .ok)]

/-- A success code comes from a value that the driver delivered, and where it
delivered none nothing is accepted. -/
structure PinFailsClosed (lzo : Lzo) (driver : Driver W) (c : Nat) (msg : Message)
    (env : Nat → AgentState (Object W) → AgentState (Object W)) (s : AgentState (Object W)) :
    Prop where
  answered : Asks msg env s → ∀ check, askedResult driver msg env s = some check →
    check.result = 0 ∨ check.result = 2 →
      ∃ written, askedWrites driver msg env s = some written ∧
        (deliveredReturn written = some check.result ∨
          deliveredOutput written = some check.result)
  dispatched : (Asks msg env s → ∀ written, askedWrites driver msg env s = some written →
      deliveredReturn written = none ∧ deliveredOutput written = none) →
    ∀ pair ∈ Thread.sections env (handlePassCheck lzo (Object.odbcDb driver) c msg) 0 s,
      ¬ClearsPin msg.clientId pair.1 pair.2 ∧ ¬RepliesOk c msg.clientId pair.1 pair.2

theorem passCheckAnswer_delivered {written : List Written}
    (delivered : deliveredReturn written ≠ none ∨ deliveredOutput written ≠ none) :
    deliveredReturn written = some (passCheckAnswer written).result ∨
      deliveredOutput written = some (passCheckAnswer written).result := by
  unfold passCheckAnswer PassCheck.result
  simp only
  cases returned : deliveredReturn written with
  | none =>
      rw [returned] at delivered
      have output := delivered.resolve_left fun absent => absent rfl
      obtain ⟨value, same⟩ := Option.ne_none_iff_exists'.mp output
      rw [same]
      exact Or.inr rfl
  | some value =>
      by_cases zero : value = 0
      · subst zero
        cases output : deliveredOutput written with
        | none => exact Or.inl rfl
        | some other => exact Or.inr rfl
      · apply Or.inl
        simp only [Option.getD_some, if_neg zero]

/-! ### Sections that accept nothing -/

section Quiet

variable {D : Type} {c : Nat} {clientId : UInt32}

structure Unaccepting (c : Nat) (clientId : UInt32) (before after : AgentState D) : Prop where
  logins : ∀ session, after.app.loginSessions.lookup clientId = some session →
    before.app.loginSessions.lookup clientId = some session
  sent : (after.conns c).sent = (before.conns c).sent ∨
    ∃ framed, (after.conns c).sent = (before.conns c).sent ++ [framed] ∧
      framed ≠ encodeMessage netMsgPasscheckFb (passcheckFeedback clientId .ok)

theorem Unaccepting.not_clears {before after : AgentState D}
    (quiet : Unaccepting c clientId before after) : ¬ClearsPin clientId before after := by
  intro holds
  rcases holds with ⟨session, later, found, pending, kept, cleared⟩
  have same := (quiet.logins later kept).symm.trans found
  cases same
  exact pending cleared

theorem Unaccepting.not_replies {before after : AgentState D}
    (quiet : Unaccepting c clientId before after) : ¬RepliesOk c clientId before after := by
  intro replied
  rcases quiet.sent with same | ⟨framed, grown, other⟩
  · rw [RepliesOk, same] at replied
    have impossible := congrArg List.length replied
    rw [List.length_append, List.length_singleton] at impossible
    omega
  · rw [RepliesOk, grown] at replied
    exact other (List.cons.inj (List.append_cancel_left replied)).1

theorem Unaccepting.refl (s : AgentState D) : Unaccepting c clientId s s :=
  { logins := fun _session found => found
    sent := Or.inl rfl }

theorem unaccepting_onWriter (s : AgentState D) (other : Nat) (change : Writer → Writer) :
    Unaccepting c clientId s (s.onWriter other change) := by
  refine { logins := fun _session found => found, sent := Or.inl ?_ }
  by_cases here : c = other
  · subst here
    rw [Shared.onWriter, Shared.setConn_same]
  · rw [Shared.onWriter, Shared.setConn_other s here]

theorem unaccepting_notify (s : AgentState D) (other : Nat) :
    Unaccepting c clientId s (s.notify agentOnClose other) := by
  unfold Shared.notify
  split
  · refine { logins := ?_, sent := (unaccepting_onWriter s other _).sent }
    intro session found
    change (s.app.loginSessions.erase (s.conns other).clientId).lookup clientId = some session
      at found
    by_cases same : clientId = (s.conns other).clientId
    · rw [same, AList.lookup_erase] at found
      cases found
    · rwa [AList.lookup_erase_ne same] at found
  · exact .refl s

theorem unaccepting_agentReply (lzo : Lzo) {type : UInt32} {payload : Bytes}
    (other : encodeMessage type payload ≠
      encodeMessage netMsgPasscheckFb (passcheckFeedback clientId .ok)) :
    (agentReply lzo c type payload : AgentThread D Unit).Guarantees (Unaccepting c clientId) := by
  apply guarantees_sendTo
  · intro s
    refine { logins := fun _session found => found, sent := Or.inr ⟨_, ?_, other⟩ }
    rw [Shared.setConn_same]
    exact Session.send_sent lzo _ _
  · exact guarantees_closeSession (fun s change => unaccepting_onWriter s c change)
      fun s => unaccepting_notify s c

end Quiet

/-! ### The sections of dispatch -/

/-- The section under m_dbMx. -/
def passCheckSection (driver : Driver W) (c : Nat) (msg : Message) (s : AgentState (Object W)) :
    AgentState (Object W) × Option PassCheck :=
  if s.app.dbReady then
    s.query (processPassCheck (Object.odbcDb driver) (passcheckUserId msg) (passcheckPin msg)
      (passcheckFlag msg))
      (AgentEvent.passCheck c (passcheckUserId msg) (passcheckPin msg) (passcheckFlag msg))
  else (s, none)

theorem sections_short (lzo : Lzo) (driver : Driver W) {c : Nat} {msg : Message}
    {env : Nat → AgentState (Object W) → AgentState (Object W)} {s : AgentState (Object W)}
    (short : msg.payloadSize < daumNetPasscheckPayload) :
    Thread.sections env (handlePassCheck lzo (Object.odbcDb driver) c msg) 0 s = [] := by
  rw [handlePassCheck, if_pos short]
  rfl

theorem sections_notPending (lzo : Lzo) (driver : Driver W) {c : Nat} {msg : Message}
    {env : Nat → AgentState (Object W) → AgentState (Object W)} {s : AgentState (Object W)}
    (sized : ¬msg.payloadSize < daumNetPasscheckPayload)
    (none : AgentState.use2ndPass msg.clientId (env 0 s) = 0) :
    Thread.sections env (handlePassCheck lzo (Object.odbcDb driver) c msg) 0 s =
      [(env 0 s, env 0 s)] := by
  rw [handlePassCheck, if_neg sized]
  simp only [Thread.observe, Thread.sections_atomically, if_pos none]
  rfl

theorem sections_refused (lzo : Lzo) (driver : Driver W) {c : Nat} {msg : Message}
    {env : Nat → AgentState (Object W) → AgentState (Object W)} {s : AgentState (Object W)}
    (sized : ¬msg.payloadSize < daumNetPasscheckPayload)
    (pending : AgentState.use2ndPass msg.clientId (env 0 s) ≠ 0)
    (refused : (passCheckSection driver c msg (askedState env s)).2 = none) :
    Thread.sections env (handlePassCheck lzo (Object.odbcDb driver) c msg) 0 s =
      (env 0 s, env 0 s) ::
        (askedState env s, (passCheckSection driver c msg (askedState env s)).1) ::
          Thread.sections env
            (agentReply lzo c netMsgPasscheckFb (passcheckFeedback msg.clientId .fail)) 2
            (passCheckSection driver c msg (askedState env s)).1 := by
  unfold passCheckSection askedState at refused ⊢
  rw [handlePassCheck, if_neg sized]
  simp only [Thread.observe, Thread.sections_atomically, if_neg pending, refused]

theorem unaccepting_section (driver : Driver W) {c : Nat} {msg : Message}
    (s : AgentState (Object W)) :
    Unaccepting c msg.clientId s (passCheckSection driver c msg s).1 := by
  unfold passCheckSection
  split
  · exact { logins := fun _session found => found, sent := Or.inl rfl }
  · exact .refl s

theorem fail_is_not_ok (clientId : UInt32) :
    encodeMessage netMsgPasscheckFb (passcheckFeedback clientId .fail) ≠
      encodeMessage netMsgPasscheckFb (passcheckFeedback clientId .ok) := by
  intro same
  have payload : passcheckFeedback clientId .fail = passcheckFeedback clientId .ok :=
    List.append_cancel_left (List.append_cancel_left same)
  rw [passcheckFeedback, passcheckFeedback, List.append_assoc, List.append_assoc] at payload
  have result := List.append_cancel_left payload
  revert result
  decide

theorem passCheckSection_none {driver : Driver W} {c : Nat} {msg : Message}
    {env : Nat → AgentState (Object W) → AgentState (Object W)} {s : AgentState (Object W)}
    (unanswered : (askedState env s).app.dbReady = true → askedWrites driver msg env s = none) :
    (passCheckSection driver c msg (askedState env s)).2 = none := by
  unfold passCheckSection
  split
  · rename_i ready
    have missing := unanswered ready
    rw [askedWrites] at missing
    change (processPassCheck (Object.odbcDb driver) (passcheckUserId msg) (passcheckPin msg)
      (passcheckFlag msg) (askedState env s).app.db).1 = none
    rw [processPassCheck_odbc, missing]
    rfl
  · rfl

/-- Without an answer of the procedure no section accepts the PIN. -/
theorem dispatch_quiet (lzo : Lzo) {driver : Driver W} {c : Nat} {msg : Message}
    {env : Nat → AgentState (Object W) → AgentState (Object W)} {s : AgentState (Object W)}
    (unanswered : Asks msg env s → askedWrites driver msg env s = none) :
    ∀ pair ∈ Thread.sections env (handlePassCheck lzo (Object.odbcDb driver) c msg) 0 s,
      Unaccepting c msg.clientId pair.1 pair.2 := by
  by_cases short : msg.payloadSize < daumNetPasscheckPayload
  · rw [sections_short lzo driver short]
    intro pair member
    cases member
  · by_cases pending : AgentState.use2ndPass msg.clientId (env 0 s) = 0
    · rw [sections_notPending lzo driver short pending]
      intro pair member
      rw [List.mem_singleton.mp member]
      exact .refl _
    · have refused : (passCheckSection driver c msg (askedState env s)).2 = none :=
        passCheckSection_none fun ready => unanswered ⟨Nat.not_lt.mp short, pending, ready⟩
      rw [sections_refused lzo driver short pending refused]
      intro pair member
      rcases List.mem_cons.mp member with first | later
      · rw [first]
        exact .refl _
      · rcases List.mem_cons.mp later with asked | reply
        · rw [asked]
          exact unaccepting_section driver _
        · exact (unaccepting_agentReply lzo (fail_is_not_ok msg.clientId)).sections env 2 _
            pair reply

/-- The PIN check of a run fails closed exactly when the procedure, if it is called
and executed, delivers RETURN_VALUE or @nReturn. -/
theorem pin_check_fails_closed_iff (lzo : Lzo) (driver : Driver W) (c : Nat) (msg : Message)
    (env : Nat → AgentState (Object W) → AgentState (Object W)) (s : AgentState (Object W)) :
    PinFailsClosed lzo driver c msg env s ↔
      (Asks msg env s → ∀ written, askedWrites driver msg env s = some written →
        deliveredReturn written ≠ none ∨ deliveredOutput written ≠ none) := by
  constructor
  · intro closed asks written answered
    by_contra neither
    obtain ⟨noReturn, noOutput⟩ := not_or.mp neither
    rw [not_not] at noReturn noOutput
    have checked : askedResult driver msg env s = some (passCheckAnswer written) := by
      rw [askedResult, processPassCheck_odbc]
      rw [askedWrites] at answered
      rw [answered]
      rfl
    have zero : (passCheckAnswer written).result = 0 := by
      rw [passCheckAnswer, noReturn, noOutput]
      rfl
    obtain ⟨other, same, returned | output⟩ := closed.answered asks _ checked (Or.inl zero)
    · rw [answered] at same
      cases same
      rw [noReturn] at returned
      cases returned
    · rw [answered] at same
      cases same
      rw [noOutput] at output
      cases output
  · intro delivers
    constructor
    · intro asks check checked _success
      rw [askedResult, processPassCheck_odbc] at checked
      obtain ⟨written, answered, same⟩ := Option.map_eq_some_iff.mp checked
      rw [← same]
      exact ⟨written, answered, passCheckAnswer_delivered (delivers asks written answered)⟩
    · intro neither pair member
      have unanswered : Asks msg env s → askedWrites driver msg env s = none := by
        intro asks
        by_contra some
        obtain ⟨written, answered⟩ := Option.ne_none_iff_exists'.mp some
        obtain ⟨noReturn, noOutput⟩ := neither asks written answered
        rcases delivers asks written answered with present | present
        · exact present noReturn
        · exact present noOutput
      have quiet := dispatch_quiet lzo unanswered pair member
      exact ⟨quiet.not_clears, quiet.not_replies⟩

/-- A login with a PIN to verify, on an open database. -/
def pinToVerify : AgentState (Object Unit) :=
  .start
    { db := { Object.new () with conn := true }
      dbReady := true
      loginSessions := AList.insert 1 { userNum := 7, userType := 0, use2ndPass := 1 } ∅ }

def pinMessage : Message :=
  { type := daumNetMsgPasscheck
    clientId := 1
    bytes := passcheckFrame [97] }

/-- The procedure runs and delivers nothing, and the PIN counts as accepted. -/
theorem pin_accepted_unanswered :
    ¬PinFailsClosed literalLzo (emptyDriver true) 0 pinMessage (fun _number s => s)
      pinToVerify := by
  have asks : Asks pinMessage (fun _number s => s) pinToVerify :=
    ⟨by decide +kernel, by decide +kernel, by decide +kernel⟩
  have checked : askedResult (emptyDriver true) pinMessage (fun _number s => s) pinToVerify =
      some { returnValue := none, output := none } := by
    decide +kernel
  have answered : askedWrites (emptyDriver true) pinMessage (fun _number s => s) pinToVerify =
      some [] := by
    decide +kernel
  intro closed
  obtain ⟨written, same, delivered⟩ := closed.answered asks _ checked (Or.inl rfl)
  rw [answered] at same
  cases same
  revert delivered
  decide +kernel

end RanOnline.Servers
