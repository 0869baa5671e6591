/-
The AuthServer (servers/authserver/auth_server.h, auth_server.cpp,
auth_server_msg.h): certification requests are answered from the database, every
other message is sent back.
-/
import RanOnline.Db.OdbcDb
import RanOnline.Servers.AuthCrypto
import RanOnline.Servers.EchoServers

namespace RanOnline.Servers

open Memory CString Net Db Threads

def netMsgAuthCertificationRequest : UInt32 := 204
def netMsgAuthCertificationAns : UInt32 := 205

def serverSession : Int := 2

/-- `sizeof(G_AUTH_INFO)`, packed. -/
def gAuthInfoSize : Nat := 595

/-! ### Text -/

/-- The bytes before the NUL that a `char*` points to. -/
def cString (bytes : Bytes) : Bytes := bytes.takeWhile (· ≠ 0)

/-- strncpy into a zeroed `char[size]` that keeps its last byte. -/
def strncpyField (size : Nat) (text : Bytes) : Bytes :=
  let copied := (cString text).take (size - 1)
  copied ++ List.replicate (size - copied.length) 0

def splitFields (s : Bytes) (d : UInt8) : List Bytes := s.splitOn d

/-- std::to_string. -/
def decimal (value : Int) : Bytes := (toString value).toUTF8.toList

def comma : UInt8 := 44

/-! ### Certification -/

structure CertRequest where
  country : Int
  serverType : Int
  ip : Bytes
  port : Int
  uniqKey : Bytes
  isSessionSvr : Int
  deriving DecidableEq, Repr

structure CertResult where
  ok : Bool
  certification : Int
  sessionSvrId : Int
  newUniqKey : Bytes
  deriving DecidableEq, Repr

def CertResult.new : CertResult :=
  { ok := false
    certification := 0
    sessionSvrId := 0
    newUniqKey := [] }

/-- The szAuthData of a request.  Nothing bounds its length, so that the text may
run on into what memory holds behind the message. -/
def requestAuthData (msg : Message) (beyond : Bytes) : Bytes :=
  cString (msg.bytes.drop 99 ++ beyond)

def CertRequest.parse (decrypted : Bytes) : Option CertRequest :=
  match splitFields decrypted comma with
  | country :: serverType :: ip :: port :: uniqKey :: _ =>
      some
        { country := atoi country
          serverType := atoi serverType
          ip := ip
          port := atoi port
          uniqKey := uniqKey
          isSessionSvr := if atoi serverType = serverSession then 1 else 0 }
  | _ => none

section Procedures

variable {D : Type} (odbc : OdbcDb D)

/-- One pass of the loop over the rows: the columns, and whether there is another
row. -/
def certRow (db : D) : CertResult × Bool × D :=
  let sessionSvrId := odbc.getCollect "SessionSvrID" db
  let certification := odbc.getCollect "Certification" sessionSvrId.2
  let newUniqKey := odbc.getCollectString "UniqKey" certification.2
  let fetched := odbc.next newUniqKey.2
  ({ ok := true
     certification := certification.1.getD 0
     sessionSvrId := sessionSvrId.1.getD 0
     newUniqKey := newUniqKey.1.getD [] }, fetched.1, fetched.2)

theorem certRow_rowsLeft {db : D} (more : (certRow odbc db).2.1 = true) :
    odbc.rowsLeft (certRow odbc db).2.2 < odbc.rowsLeft db := by
  have fewer := odbc.next_rowsLeft _ more
  rw [odbc.getCollectString_rowsLeft, odbc.getCollect_rowsLeft, odbc.getCollect_rowsLeft] at fewer
  exact fewer

/-- The values of the last row stay. -/
def certRows (db : D) : CertResult × D :=
  if _more : (certRow odbc db).2.1 = true then certRows (certRow odbc db).2.2
  else ((certRow odbc db).1, (certRow odbc db).2.2)
termination_by odbc.rowsLeft db
decreasing_by exact certRow_rowsLeft odbc _more

def processCertificationForAuth (r : CertRequest) : StateM D CertResult := do
  odbc.clearParams
  odbc.appendIParamInteger "@country" r.country
  odbc.appendIParamInteger "@servertype" r.serverType
  odbc.appendIParamVarchar "@serverip" r.ip r.ip.length
  odbc.appendIParamInteger "@serverport" r.port
  odbc.appendIParamVarchar "@uniqKey" r.uniqKey r.uniqKey.length
  odbc.appendIParamInteger "@IsSessionSvr" r.isSessionSvr
  let executed ← odbc.executeStoredProcedure "dbo.sp_CertificationUniqKey"
  if !executed then return .new
  if odbc.getEOF (← get) then return { CertResult.new with ok := true }
  certRows odbc

end Procedures

/-- The six fields of the answer before encryption. -/
def certPlain (req : CertRequest) (res : CertResult) : Bytes :=
  [comma].intercalate
    [decimal req.country, decimal req.serverType, req.ip, decimal req.port, res.newUniqKey,
      decimal res.certification]

/-- The G_AUTH_INFO of the answer. -/
def certAnswer (req : CertRequest) (res : CertResult) : Bytes :=
  writeLE32 (UInt32.ofInt req.serverType) ++ writeLE32 (UInt32.ofInt req.country) ++
    strncpyField 21 req.ip ++ List.replicate 3 0 ++ writeLE32 (UInt32.ofInt req.port) ++
    writeLE32 (UInt32.ofInt (if req.serverType = serverSession then res.sessionSvrId else 0)) ++
    List.replicate 51 0 ++ strncpyField 501 (encryptAuthData (certPlain req res)) ++
    List.replicate 3 0

/-! ### Dispatch -/

structure AuthApp (D : Type) where
  db : D

section Handlers

variable {D : Type}

/-- The update tick is the only user of m_db, so the call is one step. -/
def authQuery {β : Type} (procedure : StateM D β) (s : Shared (AuthApp D) Empty) :
    Shared (AuthApp D) Empty × β :=
  let answer := procedure s.app.db
  ({ s with app := { db := answer.2 } }, answer.1)

variable (lzo : Lzo) (odbc : OdbcDb D) (beyond : Message → Bytes)

/-- NET_MSG_AUTH_CERTIFICATION_REQUEST. -/
def handleCertification (c : Nat) (msg : Message) : Thread (Shared (AuthApp D) Empty) Unit :=
  if msg.payloadSize < gAuthInfoSize then pure ()
  else
    let decrypted := decryptAuthData (requestAuthData msg (beyond msg))
    if decrypted = [] then pure ()
    else
      match CertRequest.parse decrypted with
      | none => pure ()
      | some req => do
          let res ← Thread.atomically (authQuery (processCertificationForAuth odbc req))
          sendTo lzo keepApp c (encodeMessage netMsgAuthCertificationAns (certAnswer req res))

def authHandle (c : Nat) (msg : Message) : Thread (Shared (AuthApp D) Empty) Unit :=
  if msg.type = netMsgAuthCertificationRequest then handleCertification lzo odbc beyond c msg
  else echo lzo c msg

def authServer : NetServer (AuthApp D) Empty :=
  { handle := authHandle lzo odbc beyond
    flushes := true
    onClose := keepApp }

def authStart (db : D) : System (AuthApp D) Empty := .start { db := db }

def authStep : System (AuthApp D) Empty → Event → System (AuthApp D) Empty :=
  System.step lzo (authServer lzo odbc beyond)

end Handlers

end RanOnline.Servers
