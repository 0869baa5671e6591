/-
The messages of the AgentServer (servers/agentserver/agent_server_msg.h).

A request is read in place from the bytes of its message, a reply is the payload
that the handler hands to EncodeMessage.  Offsets count from the start of the
message, header included.
-/
import RanOnline.Net.Packet

namespace RanOnline.Servers

open Memory Net

def idnNetMsgLogin : UInt32 := 233
def netMsgLoginFb : UInt32 := 223
def netMsgReqChaBinfoCa : UInt32 := 283
def netMsgReqChaBainfo : UInt32 := 284
def netMsgChaBainfoAc : UInt32 := 285
def daumNetMsgPasscheck : UInt32 := 238
def netMsgPasscheckFb : UInt32 := 239
def netMsgLobbyCharinfoAc : UInt32 := 298
def netMsgLobbyCharinfoAcEnd : UInt32 := 299

def maxOneserverCharNum : Nat := 30
def usrIdLength : Nat := 20
def md5MaxLength : Nat := 32

/-- EM_LOGIN_FB_SUB, the codes that the handlers use. -/
inductive LoginFb
  | ok
  | fail
  | system
  | dup
  | incorrect
  | ipBan
  | block
  | randomPass
  | passOk
  | betakey
  | krOkUsePass
  | krOkNewPass
  deriving DecidableEq, Repr

def LoginFb.code : LoginFb → UInt32
  | .ok => 0
  | .fail => 1
  | .system => 2
  | .dup => 4
  | .incorrect => 5
  | .ipBan => 6
  | .block => 7
  | .randomPass => 19
  | .passOk => 20
  | .betakey => 23
  | .krOkUsePass => 27
  | .krOkNewPass => 28

/-! ### Requests -/

def int32At (bytes : Bytes) (offset : Nat) : Int := (wordAt bytes offset).toInt32.toInt

/-- A std::string made of the characters up to the NUL, at most `length` of them.
Every field is longer than its `length`, so nothing behind it is used. -/
def fieldString (bytes : Bytes) (offset length : Nat) : Bytes :=
  ((bytes.drop offset).takeWhile (· ≠ 0)).take length

/-- `sizeof(IDN_NET_LOGIN_DATA) - kHeaderSize`. -/
def idnNetLoginPayload : Nat := 60

/-- `sizeof(NET_CHA_BA_INFO_CA_DATA) - kHeaderSize`. -/
def netChaBaInfoCaPayload : Nat := 4

/-- `sizeof(DAUM_NET_PASSCHECK_DATA) - kHeaderSize`. -/
def daumNetPasscheckPayload : Nat := 48

def loginUserid (msg : Message) : Bytes := fieldString msg.bytes 12 usrIdLength

def loginPassword (msg : Message) : Bytes := fieldString msg.bytes 33 md5MaxLength

def requestedChaDbNum (msg : Message) : Int := int32At msg.bytes 8

def passcheckUserId (msg : Message) : Bytes := fieldString msg.bytes 8 20

def passcheckPin (msg : Message) : Bytes := fieldString msg.bytes 29 20

def passcheckFlag (msg : Message) : Int := int32At msg.bytes 52

def isAlnum (c : UInt8) : Bool :=
  (48 ≤ c && c ≤ 57) || (65 ≤ c && c ≤ 90) || (97 ≤ c && c ≤ 122)

/-- Letters, digits and `_`, `-`, `.`. -/
def isUserChar (c : UInt8) : Bool := isAlnum c || c = 95 || c = 45 || c = 46

def validUsername (username : Bytes) : Bool :=
  !username.isEmpty && username.length ≤ usrIdLength && username.all isUserChar

/-! ### Replies -/

def int32Bytes (value : Int) : Bytes := writeLE32 (UInt32.ofInt value)

/-- NET_LOGIN_FEEDBACK_DATA behind its header: m_Result, five zero integers,
m_ChaRemain and zeros up to the end. -/
def loginFeedback (result : LoginFb) (chaRemain : UInt16) : Bytes :=
  writeLE32 result.code ++ List.replicate 20 (0 : UInt8) ++
    [chaRemain.toUInt8, (chaRemain >>> 8).toUInt8] ++ List.replicate 34 (0 : UInt8)

def chaBainfo (charNums : List Int) : Bytes :=
  let shown := charNums.take maxOneserverCharNum
  writeLE32 (UInt32.ofNat shown.length) ++ shown.flatMap int32Bytes ++
    List.replicate (4 * (maxOneserverCharNum - shown.length)) (0 : UInt8)

/-- The body of the NET_MSG_PACK envelope: m_Crc, m_DataSize and the data. -/
def packBody (mpbuf : Bytes) : Bytes :=
  writeLE32 0 ++ writeLE32 (UInt32.ofNat mpbuf.length) ++ mpbuf

/-- NET_PASSCHECK_FEEDBACK_DATA behind its header: nClient, nResult and padding. -/
def passcheckFeedback (clientId : UInt32) (result : LoginFb) : Bytes :=
  writeLE32 clientId ++ (writeLE32 result.code).take 2 ++ [0, 0]

end RanOnline.Servers
