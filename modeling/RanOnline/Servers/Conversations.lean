/-
What each of the five servers says to a client.

The answer to a message is determined by the message, by what the handler notes
while it runs and by what the database procedures return; it goes to the connection
that the message came from, between whatever else the server says to other clients.
-/
import RanOnline.Net.ConversationLive
import RanOnline.Servers.GameServers

namespace RanOnline.Servers

open Memory Net Db StepRun Threads

/-! ### The servers that only echo -/

/-- The message itself, framed again. -/
def EchoAnswers {ω : Type} (_c : Nat) (msg : Message) (events : List ω) (frames : List Bytes) :
    Prop :=
  events = [] ∧ frames = [encodeMessage msg.type msg.payload]

theorem tells_echo {α ω : Type} (lzo : Lzo) (c : Nat) (msg : Message) :
    Tells lzo c (echo lzo c msg : Thread (Shared α ω) Unit)
      fun _done events frames => EchoAnswers c msg events frames :=
  tells_sendTo ⟨rfl, rfl⟩

def loginTalker (lzo : Lzo) : Talker lzo Unit Empty :=
  { loginGame lzo with
    answers := EchoAnswers
    tells := tells_echo lzo }

def sessionTalker (lzo : Lzo) : Talker lzo Unit Empty :=
  { sessionGame lzo with
    answers := EchoAnswers
    tells := tells_echo lzo }

def fieldTalker (lzo : Lzo) : Talker lzo Unit Empty :=
  { fieldGame lzo with
    answers := EchoAnswers
    tells := tells_echo lzo }

/-! ### The AuthServer -/

section Auth

variable {D : Type}

/-- The cases of dispatch; the first three are requests that it leaves unanswered. -/
inductive AuthAnswers (odbc : OdbcDb D) (beyond : Message → Bytes) (msg : Message) :
    List Bytes → Prop
  | short (type : msg.type = netMsgAuthCertificationRequest)
      (short : msg.payloadSize < gAuthInfoSize) : AuthAnswers odbc beyond msg []
  | undecrypted (type : msg.type = netMsgAuthCertificationRequest)
      (empty : decryptAuthData (requestAuthData msg (beyond msg)) = []) :
      AuthAnswers odbc beyond msg []
  | unparsed (type : msg.type = netMsgAuthCertificationRequest)
      (fields : CertRequest.parse (decryptAuthData (requestAuthData msg (beyond msg))) = none) :
      AuthAnswers odbc beyond msg []
  | certified (type : msg.type = netMsgAuthCertificationRequest)
      (whole : gAuthInfoSize ≤ msg.payloadSize) (req : CertRequest)
      (parsed : CertRequest.parse (decryptAuthData (requestAuthData msg (beyond msg))) = some req)
      (db : D) :
      AuthAnswers odbc beyond msg
        [encodeMessage netMsgAuthCertificationAns
          (certAnswer req (processCertificationForAuth odbc req db).1)]
  | other (type : msg.type ≠ netMsgAuthCertificationRequest) :
      AuthAnswers odbc beyond msg [encodeMessage msg.type msg.payload]

variable (lzo : Lzo) (odbc : OdbcDb D) (beyond : Message → Bytes)

theorem tells_authHandle (c : Nat) (msg : Message) :
    Tells lzo c (authHandle lzo odbc beyond c msg)
      fun _done _events frames => AuthAnswers odbc beyond msg frames := by
  unfold authHandle
  split
  · rename_i type
    simp only [handleCertification]
    split
    · rename_i short
      exact tells_pure (.short type short)
    · rename_i whole
      split
      · rename_i empty
        exact tells_pure (.undecrypted type empty)
      · cases parsed : CertRequest.parse (decryptAuthData (requestAuthData msg (beyond msg))) with
        | none => exact tells_pure (.unparsed type parsed)
        | some req =>
            apply tells_section
            intro s
            refine ⟨[], { Says.refl lzo c s with }, ?_⟩
            exact tells_sendTo (.certified type (Nat.not_lt.mp whole) req parsed s.app.db)
  · rename_i other
    exact tells_sendTo (.other other)

def authTalker : Talker lzo (AuthApp D) Empty :=
  { authGame lzo odbc beyond with
    answers := fun _c msg _events frames => AuthAnswers odbc beyond msg frames
    tells := tells_authHandle lzo odbc beyond }

end Auth

/-! ### The AgentServer -/

section Agent

variable {D : Type}

/-- The result code of a PIN check that daum_user_passcheck has answered so. -/
def pinFeedback : Option PassCheck → LoginFb
  | none => .fail
  | some check => if check.result = 0 then .ok else if check.result = 2 then .passOk else .fail

/-- The cases of dispatch, message type by message type: what the handler notes and
what it sends. -/
inductive AgentAnswers (odbc : OdbcDb D) (c : Nat) (msg : Message) :
    List AgentEvent → List Bytes → Prop
  | loginShort (type : msg.type = idnNetMsgLogin)
      (short : msg.payloadSize < idnNetLoginPayload) : AgentAnswers odbc c msg [] []
  | loginName (type : msg.type = idnNetMsgLogin) (whole : idnNetLoginPayload ≤ msg.payloadSize)
      (invalid : validUsername (loginUserid msg) = false) :
      AgentAnswers odbc c msg [] [encodeMessage netMsgLoginFb (loginFeedback .incorrect 0)]
  | loginFailed (type : msg.type = idnNetMsgLogin) (whole : idnNetLoginPayload ≤ msg.payloadSize)
      (valid : validUsername (loginUserid msg) = true) (ip : Bytes) (db : D) (result : UserLogin)
      (answered : result =
        (processUserLogin odbc (loginUserid msg) (loginPassword msg) ip db).1)
      (failed : result.success = false) :
      AgentAnswers odbc c msg [.login c (loginUserid msg) result]
        [encodeMessage netMsgLoginFb (loginFeedback result.errCode 0)]
  | loggedIn (type : msg.type = idnNetMsgLogin) (whole : idnNetLoginPayload ≤ msg.payloadSize)
      (valid : validUsername (loginUserid msg) = true) (ip : Bytes) (db : D) (result : UserLogin)
      (answered : result =
        (processUserLogin odbc (loginUserid msg) (loginPassword msg) ip db).1)
      (success : result.success = true) :
      AgentAnswers odbc c msg [.login c (loginUserid msg) result, .stored c result.session]
        [encodeMessage netMsgLoginFb (loginFeedback result.errCode result.chaRemain)]
  | listRefused (type : msg.type = netMsgReqChaBainfo) (userNum : Int) (loggedOut : userNum ≤ 0) :
      AgentAnswers odbc c msg [.userNumRead c .list userNum] []
  | listUnready (type : msg.type = netMsgReqChaBainfo) (userNum : Int) (logged : 0 < userNum) :
      AgentAnswers odbc c msg [.userNumRead c .list userNum, .charListSent c]
        [encodeMessage netMsgChaBainfoAc (chaBainfo [])]
  | listed (type : msg.type = netMsgReqChaBainfo) (userNum : Int) (logged : 0 < userNum) (db : D) :
      AgentAnswers odbc c msg
        [.userNumRead c .list userNum, .charList c userNum, .charListSent c]
        [encodeMessage netMsgChaBainfoAc (chaBainfo (processCharList odbc userNum db).1.2)]
  | detailShort (type : msg.type = netMsgReqChaBinfoCa)
      (bad : msg.payloadSize < netChaBaInfoCaPayload ∨ requestedChaDbNum msg ≤ 0) :
      AgentAnswers odbc c msg [] []
  | detailRefused (type : msg.type = netMsgReqChaBinfoCa) (userNum : Int)
      (loggedOut : userNum ≤ 0) : AgentAnswers odbc c msg [.userNumRead c .detail userNum] []
  | detailUnready (type : msg.type = netMsgReqChaBinfoCa) (userNum : Int) (logged : 0 < userNum) :
      AgentAnswers odbc c msg [.userNumRead c .detail userNum] []
  | detailMissing (type : msg.type = netMsgReqChaBinfoCa) (userNum : Int) (logged : 0 < userNum)
      (db : D) (missing : (processCharDetail odbc userNum (requestedChaDbNum msg) db).1 = none) :
      AgentAnswers odbc c msg
        [.userNumRead c .detail userNum, .charDetail c userNum (requestedChaDbNum msg)] []
  | detailed (type : msg.type = netMsgReqChaBinfoCa) (userNum : Int) (logged : 0 < userNum)
      (db : D) (detail : CharInfoLobby)
      (found : (processCharDetail odbc userNum (requestedChaDbNum msg) db).1 = some detail) :
      AgentAnswers odbc c msg
        [.userNumRead c .detail userNum, .charDetail c userNum (requestedChaDbNum msg),
          .charDetailSent c]
        [encodeMessage netMsgLobbyCharinfoAc (packBody (packLobbyCharInfoAc detail)),
          encodeMessage netMsgLobbyCharinfoAcEnd []]
  | pinShort (type : msg.type = daumNetMsgPasscheck)
      (short : msg.payloadSize < daumNetPasscheckPayload) : AgentAnswers odbc c msg [] []
  | pinUnasked (type : msg.type = daumNetMsgPasscheck)
      (whole : daumNetPasscheckPayload ≤ msg.payloadSize) : AgentAnswers odbc c msg [] []
  | pinUnready (type : msg.type = daumNetMsgPasscheck)
      (whole : daumNetPasscheckPayload ≤ msg.payloadSize) :
      AgentAnswers odbc c msg []
        [encodeMessage netMsgPasscheckFb (passcheckFeedback msg.clientId .fail)]
  | pinChecked (type : msg.type = daumNetMsgPasscheck)
      (whole : daumNetPasscheckPayload ≤ msg.payloadSize) (db : D) (answer : Option PassCheck)
      (answered : answer = (processPassCheck odbc (passcheckUserId msg) (passcheckPin msg)
        (passcheckFlag msg) db).1)
      (cleared : List AgentEvent) (clears : cleared = [] ∨
        cleared = [.pinCleared c] ∧ pinFeedback answer = .ok) :
      AgentAnswers odbc c msg
        (.passCheck c (passcheckUserId msg) (passcheckPin msg) (passcheckFlag msg) answer ::
          cleared)
        [encodeMessage netMsgPasscheckFb (passcheckFeedback msg.clientId (pinFeedback answer))]
  | other (login : msg.type ≠ idnNetMsgLogin) (list : msg.type ≠ netMsgReqChaBainfo)
      (detail : msg.type ≠ netMsgReqChaBinfoCa) (pin : msg.type ≠ daumNetMsgPasscheck) :
      AgentAnswers odbc c msg [] [encodeMessage msg.type msg.payload]

variable (lzo : Lzo) (odbc : OdbcDb D)

section Sections

variable {lzo} {c : Nat} {β γ : Type} {rest : β → AgentThread D γ}
  {post : γ → List AgentEvent → List Bytes → Prop}

/-- A reply is the last section of every handler but one. -/
theorem tells_agentReply {type : UInt32} {payload : Bytes}
    {post : Unit → List AgentEvent → List Bytes → Prop}
    (done : post () [] [encodeMessage type payload]) :
    Tells lzo c (agentReply lzo c type payload : AgentThread D Unit) post :=
  tells_sendTo done

theorem tells_query {procedure : StateM D β} {event : β → AgentEvent}
    (done : ∀ db, Tells lzo c (rest (procedure db).1) fun result later frames =>
      post result ([event (procedure db).1] ++ later) frames) :
    Tells lzo c (Thread.atomically (AgentState.query procedure event) >>= rest) post := by
  apply tells_section
  intro s
  exact ⟨[event (procedure s.app.db).1], Says.app lzo c s _ _, done s.app.db⟩

/-- A procedure behind a test of m_dbReady. -/
theorem tells_queryIfReady {procedure : StateM D β} {event : β → AgentEvent} {missing : β}
    (done : ∀ db, Tells lzo c (rest (procedure db).1) fun result later frames =>
      post result ([event (procedure db).1] ++ later) frames)
    (unready : Tells lzo c (rest missing) post) :
    Tells lzo c (Thread.atomically (fun s : AgentState D =>
      if s.app.dbReady then s.query procedure event else (s, missing)) >>= rest) post := by
  apply tells_section
  intro s
  by_cases ready : s.app.dbReady = true
  · rw [if_pos ready]
    exact ⟨[event (procedure s.app.db).1], Says.app lzo c s _ _, done s.app.db⟩
  · rw [if_neg ready]
    exact ⟨[], Says.refl lzo c s, unready⟩

theorem tells_note {rest : Unit → AgentThread D γ} {event : AgentEvent}
    (done : Tells lzo c (rest ()) fun result later frames => post result ([event] ++ later) frames) :
    Tells lzo c (Thread.update (fun s : AgentState D => s.note event) >>= rest) post := by
  apply tells_section
  intro s
  exact ⟨[event], Says.app lzo c s s.app event, done⟩

theorem tells_readUserNum {rest : Int → AgentThread D γ} {request : CharRequest}
    {clientId : UInt32}
    (done : ∀ userNum, Tells lzo c (rest userNum) fun result later frames =>
      post result ([.userNumRead c request userNum] ++ later) frames) :
    Tells lzo c (Thread.atomically (AgentState.readUserNum c request clientId) >>= rest) post := by
  apply tells_section
  intro s
  exact ⟨_, Says.app lzo c s s.app _, done _⟩

end Sections

theorem tells_handleLogin (c : Nat) (msg : Message) (type : msg.type = idnNetMsgLogin) :
    Tells lzo c (handleLogin lzo odbc c msg)
      fun _done events frames => AgentAnswers odbc c msg events frames := by
  unfold handleLogin
  split
  · rename_i short
    exact tells_closeSession (.loginShort type short)
  · rename_i long
    have whole : idnNetLoginPayload ≤ msg.payloadSize := Nat.not_lt.mp long
    apply tells_section
    intro s
    refine ⟨[], Says.refl lzo c s, ?_⟩
    change Tells lzo c (ite _ _ _) _
    split
    · rename_i valid
      apply tells_query
      intro db
      split
      · rename_i success
        apply tells_section
        intro s
        refine ⟨[_], Says.app lzo c s _ _, ?_⟩
        exact tells_agentReply (.loggedIn type whole valid _ db _ rfl success)
      · rename_i failed
        exact tells_agentReply
          (.loginFailed type whole valid _ db _ rfl (Bool.eq_false_iff.mpr failed))
    · rename_i invalid
      exact tells_agentReply (.loginName type whole (Bool.eq_false_iff.mpr invalid))

theorem tells_handleCharList (c : Nat) (msg : Message) (type : msg.type = netMsgReqChaBainfo) :
    Tells lzo c (handleCharList lzo odbc c msg)
      fun _done events frames => AgentAnswers odbc c msg events frames := by
  unfold handleCharList
  apply tells_readUserNum
  intro userNum
  split
  · rename_i loggedOut
    exact tells_closeSession (.listRefused type userNum loggedOut)
  · rename_i positive
    have logged : 0 < userNum := Int.not_le.mp positive
    apply tells_queryIfReady
    · intro db
      apply tells_note
      exact tells_agentReply (.listed type userNum logged db)
    · apply tells_note
      exact tells_agentReply (.listUnready type userNum logged)

theorem tells_handleCharDetail (c : Nat) (msg : Message) (type : msg.type = netMsgReqChaBinfoCa) :
    Tells lzo c (handleCharDetail lzo odbc c msg)
      fun _done events frames => AgentAnswers odbc c msg events frames := by
  unfold handleCharDetail
  split
  · rename_i short
    exact tells_pure (.detailShort type (Or.inl short))
  · split
    · rename_i bad
      exact tells_pure (.detailShort type (Or.inr bad))
    · apply tells_readUserNum
      intro userNum
      split
      · rename_i loggedOut
        exact tells_closeSession (.detailRefused type userNum loggedOut)
      · rename_i positive
        have logged : 0 < userNum := Int.not_le.mp positive
        apply tells_queryIfReady
        · intro db
          cases found : (processCharDetail odbc userNum (requestedChaDbNum msg) db).1 with
          | none => exact tells_pure (.detailMissing type userNum logged db found)
          | some detail =>
              apply tells_note
              have first : Tells lzo c (agentReply lzo c netMsgLobbyCharinfoAc
                    (packBody (packLobbyCharInfoAc detail)) : AgentThread D Unit)
                  fun _done events frames => events = [] ∧
                    frames = [encodeMessage netMsgLobbyCharinfoAc
                      (packBody (packLobbyCharInfoAc detail))] := tells_agentReply ⟨rfl, rfl⟩
              apply Tells.bind first
              rintro _sent events frames ⟨rfl, rfl⟩
              exact tells_agentReply (.detailed type userNum logged db detail found)
        · exact tells_pure (.detailUnready type userNum logged)

/-- The reply to a PIN check, after what came of its answer. -/
theorem tells_pinReply {odbc : OdbcDb D} {c : Nat} {msg : Message}
    (type : msg.type = daumNetMsgPasscheck) (whole : daumNetPasscheckPayload ≤ msg.payloadSize)
    {db : D} {answer : Option PassCheck}
    (answered : (processPassCheck odbc (passcheckUserId msg) (passcheckPin msg)
      (passcheckFlag msg) db).1 = answer) {cleared : List AgentEvent}
    (clears : cleared = [] ∨ cleared = [.pinCleared c] ∧ pinFeedback answer = .ok)
    {result : LoginFb} (same : pinFeedback answer = result) :
    Tells lzo c (agentReply lzo c netMsgPasscheckFb (passcheckFeedback msg.clientId result) :
        AgentThread D Unit)
      fun _done events frames => AgentAnswers odbc c msg
        (.passCheck c (passcheckUserId msg) (passcheckPin msg) (passcheckFlag msg) answer ::
          (cleared ++ events)) frames := by
  apply tells_agentReply
  rw [List.append_nil, ← same]
  exact .pinChecked type whole db answer answered.symm cleared clears

theorem tells_handlePassCheck (c : Nat) (msg : Message)
    (type : msg.type = daumNetMsgPasscheck) :
    Tells lzo c (handlePassCheck lzo odbc c msg)
      fun _done events frames => AgentAnswers odbc c msg events frames := by
  unfold handlePassCheck
  split
  · rename_i short
    exact tells_pure (.pinShort type short)
  · rename_i long
    have whole : daumNetPasscheckPayload ≤ msg.payloadSize := Nat.not_lt.mp long
    apply tells_section
    intro s
    refine ⟨[], Says.refl lzo c s, ?_⟩
    change Tells lzo c (ite _ _ _) _
    split
    · exact tells_pure (.pinUnasked type whole)
    · apply tells_queryIfReady
      · intro db
        cases answered : (processPassCheck odbc (passcheckUserId msg) (passcheckPin msg)
            (passcheckFlag msg) db).1 with
        | none => exact tells_pinReply lzo type whole answered (Or.inl rfl) rfl
        | some check =>
            simp only
            split
            · rename_i accepted
              have ok : pinFeedback (some check) = .ok := by rw [pinFeedback, if_pos accepted]
              apply tells_section
              intro s
              unfold AgentState.clearPin
              split
              · exact ⟨[], Says.refl lzo c s,
                  tells_pinReply lzo type whole answered (Or.inl rfl) ok⟩
              · exact ⟨[_], Says.app lzo c s _ _,
                  tells_pinReply lzo type whole answered (Or.inr ⟨rfl, ok⟩) ok⟩
            · rename_i refused
              split
              · rename_i passed
                apply tells_pinReply lzo type whole answered (Or.inl rfl)
                rw [pinFeedback, if_neg refused, if_pos passed]
              · rename_i failed
                apply tells_pinReply lzo type whole answered (Or.inl rfl)
                rw [pinFeedback, if_neg refused, if_neg failed]
      · exact tells_agentReply (.pinUnready type whole)

theorem tells_agentHandle (c : Nat) (msg : Message) :
    Tells lzo c (agentHandle lzo odbc c msg)
      fun _done events frames => AgentAnswers odbc c msg events frames := by
  unfold agentHandle
  split
  · rename_i type
    exact tells_handleLogin lzo odbc c msg type
  · rename_i login
    split
    · rename_i type
      exact tells_handleCharList lzo odbc c msg type
    · rename_i list
      split
      · rename_i type
        exact tells_handleCharDetail lzo odbc c msg type
      · rename_i detail
        split
        · rename_i type
          exact tells_handlePassCheck lzo odbc c msg type
        · rename_i pin
          exact tells_agentReply (.other login list detail pin)

def agentTalker : Talker lzo (AgentApp D) AgentEvent :=
  { agentGame lzo odbc with
    answers := AgentAnswers odbc
    tells := tells_agentHandle lzo odbc }

end Agent

/-! ### All that is said is framed -/

theorem encodes_one (type : UInt32) (payload : Bytes) :
    ∀ frame ∈ [encodeMessage type payload], ∃ type payload, frame = encodeMessage type payload := by
  intro frame member
  exact ⟨type, payload, List.mem_singleton.mp member⟩

theorem AgentAnswers.encodes {D : Type} {odbc : OdbcDb D} {c : Nat} {msg : Message}
    {events : List AgentEvent} {frames : List Bytes}
    (answers : AgentAnswers odbc c msg events frames) :
    ∀ frame ∈ frames, ∃ type payload, frame = encodeMessage type payload := by
  cases answers with
  | loginShort => nofun
  | loginName => exact encodes_one _ _
  | loginFailed => exact encodes_one _ _
  | loggedIn => exact encodes_one _ _
  | listRefused => nofun
  | listUnready => exact encodes_one _ _
  | listed => exact encodes_one _ _
  | detailShort => nofun
  | detailRefused => nofun
  | detailUnready => nofun
  | detailMissing => nofun
  | detailed =>
      intro frame member
      rcases List.mem_cons.mp member with first | last
      · exact ⟨_, _, first⟩
      · exact encodes_one _ _ frame last
  | pinShort => nofun
  | pinUnasked => nofun
  | pinUnready => exact encodes_one _ _
  | pinChecked => exact encodes_one _ _
  | other => exact encodes_one _ _

theorem AuthAnswers.encodes {D : Type} {odbc : OdbcDb D} {beyond : Message → Bytes}
    {msg : Message} {frames : List Bytes} (answers : AuthAnswers odbc beyond msg frames) :
    ∀ frame ∈ frames, ∃ type payload, frame = encodeMessage type payload := by
  cases answers with
  | short => nofun
  | undecrypted => nofun
  | unparsed => nofun
  | certified => exact encodes_one _ _
  | other => exact encodes_one _ _

/-! ### Every run -/

/-- Over every run of the AgentServer each connection is sent the answers to its own
messages, in order, and nothing else. -/
theorem agent_conversed {D : Type} (lzo : Lzo) (odbc : OdbcDb D) (db : D) (dbReady : Bool)
    (events : List Event) :
    Conversed (agentTalker lzo odbc) (run (agentStep lzo odbc) (agentStart db dbReady) events) :=
  (reached_spoken (agentTalker lzo odbc) _ events).conversed

/-- The only connection of a run, where it is at rest. -/
theorem atRest_one {α ω : Type} {lzo : Lzo} {sys : System α ω} (one : sys.shared.accepted = 1)
    (idle : sys.tick.isIdle = true) (listed : sys.shared.sessions.lookup (clientIdOf 0) = some 0)
    (accepted : (framerFeed lzo [] (sys.shared.conns 0).received).ok = true)
    (delivered : (sys.shared.conns 0).delivering = []) (drained : sys.shared.recv.front = []) :
    AtRest lzo sys 0 := by
  constructor
  · exact idle
  · rw [one]
    exact Nat.one_pos
  · intro other present _same
    rw [one] at present
    omega
  · exact listed
  · exact accepted
  · exact delivered
  · rw [drained]
    rfl

/-- The AgentServer has enqueued the answers to all that a client at rest has sent. -/
theorem agent_replied {D : Type} (lzo : Lzo) (roundTrip : lzo.RoundTrip) (odbc : OdbcDb D) (db : D)
    (dbReady : Bool) (events : List Event) (c : Nat)
    (rest : AtRest lzo (run (agentStep lzo odbc) (agentStart db dbReady) events) c)
    (small : ∀ frame ∈ ((run (agentStep lzo odbc)
      (agentStart db dbReady) events).shared.conns c).sent, frame.length ≤ netDataBufsize) :
    ∃ replies, Replied (agentTalker lzo odbc)
      (run (agentStep lzo odbc) (agentStart db dbReady) events) c replies := by
  apply replied_of_rest roundTrip (agentTalker lzo odbc) _ events rest
  apply readable_of_answers (reached_spoken (agentTalker lzo odbc) _ events) _ small
  intro other msg noted frames answers
  exact AgentAnswers.encodes answers

theorem agent_replied_login :
    ∃ replies, Replied (agentTalker literalLzo (scriptedDb 7))
      (scriptedRun [some 1] (oneClient [loginFrame [97], charListFrame] 24)) 0 replies := by
  have rest : AtRest literalLzo
      (scriptedRun [some 1] (oneClient [loginFrame [97], charListFrame] 24)) 0 :=
    atRest_one (by decide +kernel) (by decide +kernel) (by decide +kernel) (by decide +kernel)
      (by decide +kernel) (by decide +kernel)
  have small : ∀ frame ∈ ((scriptedRun [some 1]
      (oneClient [loginFrame [97], charListFrame] 24)).shared.conns 0).sent,
      frame.length ≤ netDataBufsize := by decide +kernel
  unfold scriptedRun at rest small ⊢
  exact agent_replied literalLzo literalLzo_roundTrip (scriptedDb 7) _ true _ 0 rest small

/-- The AuthServer has enqueued the answers to all that a client at rest has sent. -/
theorem auth_replied {D : Type} (lzo : Lzo) (roundTrip : lzo.RoundTrip) (odbc : OdbcDb D)
    (beyond : Message → Bytes) (db : D) (events : List Event) (c : Nat)
    (rest : AtRest lzo (run (authStep lzo odbc beyond) (authStart db) events) c)
    (small : ∀ frame ∈ ((run (authStep lzo odbc beyond)
      (authStart db) events).shared.conns c).sent, frame.length ≤ netDataBufsize) :
    ∃ replies, Replied (authTalker lzo odbc beyond)
      (run (authStep lzo odbc beyond) (authStart db) events) c replies := by
  apply replied_of_rest roundTrip (authTalker lzo odbc beyond) _ events rest
  apply readable_of_answers (reached_spoken (authTalker lzo odbc beyond) { db := db } events) _ small
  intro other msg noted frames answers
  exact AuthAnswers.encodes answers

/-- One message that the AuthServer has no handler for. -/
theorem auth_replied_other :
    let sys := run (authStep literalLzo (scriptedDb 7) fun _msg => []) (authStart (.start []))
      (oneClient [encodeMessage 101 [1, 2, 3]] 9)
    ∃ replies, Replied (authTalker literalLzo (scriptedDb 7) fun _msg => []) sys 0 replies := by
  have rest : AtRest literalLzo (run (authStep literalLzo (scriptedDb 7) fun _msg => [])
      (authStart (.start [])) (oneClient [encodeMessage 101 [1, 2, 3]] 9)) 0 :=
    atRest_one (by decide +kernel) (by decide +kernel) (by decide +kernel) (by decide +kernel)
      (by decide +kernel) (by decide +kernel)
  exact auth_replied literalLzo literalLzo_roundTrip (scriptedDb 7) (fun _msg => []) _ _ 0 rest
    (by decide +kernel)

/-! ### The echo on the wire -/

theorem echoes_flatten {ω : Type} {said : List (Exchange ω)} {replies : List (List Bytes)}
    (answered : List.Forall₂ (Exchange.Answered EchoAnswers) said replies) :
    replies.flatten = (said.map Exchange.msg).map fun msg => encodeMessage msg.type msg.payload := by
  induction answered with
  | nil => rfl
  | cons head rest ih =>
      rw [List.flatten_cons, ih, head.2]
      rfl

/-- The framer of the server emits messages that encode to their own frames. -/
theorem decoded_encode {lzo : Lzo} {stream : Bytes}
    (accepted : (framerFeed lzo [] stream).ok = true) (clientId : UInt32) :
    ((framerFeed lzo [] stream).out.map (stamp clientId)).map
        (fun msg => encodeMessage msg.type msg.payload) =
      (framerFeed lzo [] stream).out.map Message.bytes := by
  have running := framerFeed_ok accepted
  rw [List.map_map]
  apply List.map_congr_left
  intro msg member
  have fed := congrArg FeedResult.out (@framerFeed_running lzo [] _ running)
  rw [fed] at member
  exact (frameRun_admitted lzo _ running msg member).framed.encode

/-- One of the three servers that only echo has enqueued what a client at rest has sent,
message by message; what does not fill a packet waits for more. -/
theorem echo_replied (lzo : Lzo) (roundTrip : lzo.RoundTrip) (server : Talker lzo Unit Empty)
    (echoing : server ∈ [loginTalker lzo, sessionTalker lzo, fieldTalker lzo])
    (events : List Event) (c : Nat)
    (rest : AtRest lzo (reached lzo server.toGameServer () events) c)
    (fits : ∀ msg ∈ (framerFeed lzo []
      ((reached lzo server.toGameServer () events).shared.conns c).received).out,
      msg.bytes.length ≤ netDataBufsize) :
    Reads lzo ((reached lzo server.toGameServer () events).shared.conns c)
      ((framerFeed lzo []
        ((reached lzo server.toGameServer () events).shared.conns c).received).out.map
        Message.bytes) := by
  have echoes : server.answers = EchoAnswers := by
    simp only [List.mem_cons, List.not_mem_nil, or_false] at echoing
    rcases echoing with login | session | field
    · rw [login]
      rfl
    · rw [session]
      rfl
    · rw [field]
      rfl
  have conversed := (reached_spoken server () events).conversed
  have flow : Flow lzo (reached lzo server.toGameServer () events) _ := reached_flow events
  obtain ⟨replies, answered, sent⟩ := conversed.between rest.between c
  rw [echoes] at answered
  rw [echoes_flatten answered, rest.asked flow conversed, decoded_encode rest.accepted] at sent
  have readable : ∀ frame ∈
      ((reached lzo server.toGameServer () events).shared.conns c).sent, Readable frame := by
    apply readable_of_answers (reached_spoken server () events)
    · intro other msg noted frames answers frame member
      rw [echoes] at answers
      rw [answers.2] at member
      exact ⟨_, _, List.mem_singleton.mp member⟩
    · intro frame member
      rw [sent] at member
      obtain ⟨msg, listed, same⟩ := List.mem_map.mp member
      rw [← same]
      exact fits msg listed
  have carries := (reached_sending server () events).wired c readable
  rw [sent] at carries
  exact carries.reads roundTrip

theorem echo_replied_login :
    Reads literalLzo ((reached literalLzo (loginTalker literalLzo).toGameServer ()
        (oneClient [encodeMessage 101 [1, 2, 3], encodeMessage 102 []] 9)).shared.conns 0)
      ((framerFeed literalLzo [] ((reached literalLzo (loginTalker literalLzo).toGameServer ()
        (oneClient [encodeMessage 101 [1, 2, 3], encodeMessage 102 []] 9)).shared.conns
          0).received).out.map Message.bytes) := by
  apply echo_replied literalLzo literalLzo_roundTrip _ List.mem_cons_self _ 0
  · exact atRest_one (by decide +kernel) (by decide +kernel) (by decide +kernel)
      (by decide +kernel) (by decide +kernel) (by decide +kernel)
  · decide +kernel

/-- A client of the LoginServer connects and sends one message; then its session, the
timer and the tick take turns. -/
def oneMessage : Nat → Event :=
  roundRobin [.io (.accept none), .io (.read 0 (encodeMessage 101 [1, 2, 3]))] 3
    fun turn => if turn = 0 then .io (.deliver 0) else if turn = 1 then .update else .next

theorem eventually_answered_login :
    ∃ later, 2 ≤ later ∧
      let sys := reached literalLzo (loginTalker literalLzo).toGameServer ()
        (eventsBefore oneMessage later)
      sys.tick.isIdle = true ∧
        (OwnId sys.shared 0 → sys.shared.sessions.lookup (clientIdOf 0) = some 0 →
          (framerFeed literalLzo [] ((reached literalLzo (loginTalker literalLzo).toGameServer ()
              (eventsBefore oneMessage 2)).shared.conns 0).received).out.map
                (stamp (clientIdOf 0)) <+:
            (conversation 0 sys.shared.log).map Exchange.msg ∧
          ∃ replies : List (List Bytes),
            List.Forall₂ (Exchange.Answered (loginTalker literalLzo).answers)
              (conversation 0 sys.shared.log) replies ∧
              (sys.shared.conns 0).sent = replies.flatten) :=
  eventually_answered literalLzo (loginTalker literalLzo) () oneMessage 0
    (often_roundRobin _ _ (show 0 < 3 by decide)) (often_roundRobin _ _ (show 1 < 3 by decide))
    (often_roundRobin _ _ (show 2 < 3 by decide)) 2 (by decide +kernel) (by decide +kernel)

end RanOnline.Servers
