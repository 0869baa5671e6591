/-
The bytes that a handler reads from its message, in the memory of the message.

A size check bounds the struct and not its strings: strlen goes on until a NUL,
through the fields behind and past the end of the message.
-/
import Mathlib.Data.List.TakeWhile
import RanOnline.Lib.CString
import RanOnline.Servers.AgentServer
import RanOnline.Servers.AuthServer

namespace RanOnline.Servers

open Memory Net CString

/-- m_szUserid and m_szPassword of an IDN_NET_LOGIN_DATA. -/
def readLogin (block : Block) : Checked (Bytes × Bytes) := do
  let username ← readString block 12 usrIdLength
  let password ← readString block 33 md5MaxLength
  .ok (username, password)

/-- szDaumGID, szUserPass and nCheckFlag of a DAUM_NET_PASSCHECK_DATA. -/
def readPasscheck (block : Block) : Checked (Bytes × Bytes × Int) := do
  let userId ← readString block 8 20
  let pin ← readString block 29 20
  let checkFlag ← readLE32 block 52
  .ok (userId, pin, checkFlag.toInt32.toInt)

/-- szAuthData of a NET_AUTH_CERTIFICATION_REQUEST. -/
def readCertification (block : Block) : Checked Bytes := readCString block 99

/-- The handlers that read strings: two of the AgentServer and one of the AuthServer. -/
inductive FieldHandler
  | login
  | passcheck
  | certification
  deriving DecidableEq, Repr

namespace FieldHandler

def messageType : FieldHandler → UInt32
  | .login => idnNetMsgLogin
  | .passcheck => daumNetMsgPasscheck
  | .certification => netMsgAuthCertificationRequest

/-- The payload size that the handler asks for. -/
def minPayload : FieldHandler → Nat
  | .login => idnNetLoginPayload
  | .passcheck => daumNetPasscheckPayload
  | .certification => gAuthInfoSize

/-- What the handler reads past its size check. -/
def reads (handler : FieldHandler) (msg : Message) : Checked Unit :=
  let block := Block.ofBytes msg.bytes
  match handler with
  | .login => (readLogin block).map fun _fields => ()
  | .passcheck => (readPasscheck block).map fun _fields => ()
  | .certification => (readCertification block).map fun _text => ()

/-- Where the last of its strings begins. -/
def lastString : FieldHandler → Nat
  | .login => 33
  | .passcheck => 29
  | .certification => 99

/-- The message reaches the reads of this handler. -/
def Takes (handler : FieldHandler) (msg : Message) : Prop :=
  msg.type = handler.messageType ∧ handler.minPayload ≤ msg.payloadSize

end FieldHandler

/-- No handler reads a byte outside the message. -/
def ReadsInside (msg : Message) : Prop :=
  ∀ handler : FieldHandler, handler.Takes msg → handler.reads msg = .ok ()

/-- Some byte from that offset on is NUL. -/
def Terminated (msg : Message) (offset : Nat) : Prop :=
  ∃ index, offset ≤ index ∧ index < msg.bytes.length ∧ msg.bytes.getD index 1 = 0

theorem terminated_iff (msg : Message) (offset : Nat) :
    Terminated msg offset ↔ 0 ∈ msg.bytes.drop offset := by
  rw [Terminated, List.mem_iff_getElem?]
  constructor
  · intro holds
    rcases holds with ⟨index, after, inside, nul⟩
    refine ⟨index - offset, ?_⟩
    rw [List.getElem?_drop, Nat.add_sub_cancel' after, List.getElem?_eq_getElem inside]
    rw [List.getD_eq_getElem?_getD, List.getElem?_eq_getElem inside, Option.getD_some] at nul
    rw [nul]
  · intro holds
    rcases holds with ⟨distance, nul⟩
    rw [List.getElem?_drop] at nul
    obtain ⟨inside, _same⟩ := List.getElem?_eq_some_iff.mp nul
    refine ⟨offset + distance, Nat.le_add_right _ _, inside, ?_⟩
    rw [List.getD_eq_getElem?_getD, nul, Option.getD_some]

theorem Terminated.earlier {msg : Message} {first second : Nat} (le : first ≤ second)
    (terminated : Terminated msg second) : Terminated msg first := by
  obtain ⟨index, after, inside, nul⟩ := terminated
  exact ⟨index, le.trans after, inside, nul⟩

/-! ### The strings of the handlers -/

theorem readString_terminated {msg : Message} {offset : Nat} (terminated : Terminated msg offset)
    (limit : Nat) :
    readString (Block.ofBytes msg.bytes) offset limit =
      .ok (fieldString msg.bytes offset limit) := by
  rw [readString_ofBytes, if_pos ((terminated_iff msg offset).mp terminated), fieldString]

theorem readString_unterminated {msg : Message} {offset : Nat}
    (unterminated : ¬Terminated msg offset) (limit : Nat) :
    readString (Block.ofBytes msg.bytes) offset limit = .error .outOfBounds := by
  rw [readString_ofBytes, if_neg (fun nul => unterminated ((terminated_iff msg offset).mpr nul))]

/-- Inside the message the handlers work on the values that these reads give. -/
theorem readLogin_terminated {msg : Message} (terminated : Terminated msg 33) :
    readLogin (Block.ofBytes msg.bytes) = .ok (loginUserid msg, loginPassword msg) := by
  rw [readLogin, readString_terminated (terminated.earlier (by decide)), ok_bind,
    readString_terminated terminated, ok_bind]
  rfl

theorem readPasscheck_terminated {msg : Message} (sized : daumNetPasscheckPayload ≤ msg.payloadSize)
    (terminated : Terminated msg 29) :
    readPasscheck (Block.ofBytes msg.bytes) =
      .ok (passcheckUserId msg, passcheckPin msg, passcheckFlag msg) := by
  have bound : 52 + 4 ≤ msg.bytes.length := by
    rw [← msg.payload_length, Message.payload, List.length_drop] at sized
    unfold daumNetPasscheckPayload kHeaderSize at sized
    omega
  have flag := readLE32_of_shows (Block.shows_ofBytes msg.bytes) bound
  rw [Nat.zero_add] at flag
  rw [readPasscheck, readString_terminated (terminated.earlier (by decide)), ok_bind,
    readString_terminated terminated, ok_bind, flag, ok_bind]
  rfl

theorem readCertification_terminated {msg : Message} (terminated : Terminated msg 99)
    (beyond : Bytes) :
    readCertification (Block.ofBytes msg.bytes) = .ok (requestAuthData msg beyond) := by
  have nul := (terminated_iff msg 99).mp terminated
  have stops : ((msg.bytes.drop 99).takeWhile (· ≠ 0)).length ≠ (msg.bytes.drop 99).length := by
    intro whole
    have all := List.takeWhile_eq_self_iff.mp
      ((List.takeWhile_prefix (· ≠ 0)).eq_of_length whole) 0 nul
    exact absurd all (by decide)
  rw [readCertification, readCString_ofBytes, if_pos nul, requestAuthData, cString,
    List.takeWhile_append, if_neg stops]

/-- Where the last of two strings runs out of the message, one of the reads fails. -/
theorem twoStrings_unterminated {α : Type} {msg : Message} {second : Nat}
    (unterminated : ¬Terminated msg second) (first firstLimit secondLimit : Nat)
    (rest : Bytes → Bytes → Checked α) :
    (do
      let userid ← readString (Block.ofBytes msg.bytes) first firstLimit
      let secret ← readString (Block.ofBytes msg.bytes) second secondLimit
      rest userid secret) = .error .outOfBounds := by
  by_cases terminated : Terminated msg first
  · rw [readString_terminated terminated, ok_bind, readString_unterminated unterminated]
    rfl
  · rw [readString_unterminated terminated]
    rfl

theorem readLogin_unterminated {msg : Message} (unterminated : ¬Terminated msg 33) :
    readLogin (Block.ofBytes msg.bytes) = .error .outOfBounds :=
  twoStrings_unterminated unterminated 12 usrIdLength md5MaxLength _

theorem readPasscheck_unterminated {msg : Message} (unterminated : ¬Terminated msg 29) :
    readPasscheck (Block.ofBytes msg.bytes) = .error .outOfBounds :=
  twoStrings_unterminated unterminated 8 20 20 _

theorem readCertification_unterminated {msg : Message} (unterminated : ¬Terminated msg 99) :
    readCertification (Block.ofBytes msg.bytes) = .error .outOfBounds := by
  rw [readCertification, readCString_ofBytes,
    if_neg (fun nul => unterminated ((terminated_iff msg 99).mpr nul))]

theorem reads_terminated (handler : FieldHandler) {msg : Message}
    (sized : handler.minPayload ≤ msg.payloadSize)
    (terminated : Terminated msg handler.lastString) : handler.reads msg = .ok () := by
  cases handler with
  | login =>
      rw [FieldHandler.reads, readLogin_terminated terminated]
      rfl
  | passcheck =>
      rw [FieldHandler.reads, readPasscheck_terminated sized terminated]
      rfl
  | certification =>
      rw [FieldHandler.reads, readCertification_terminated terminated []]
      rfl

theorem reads_unterminated (handler : FieldHandler) {msg : Message}
    (unterminated : ¬Terminated msg handler.lastString) :
    handler.reads msg = .error .outOfBounds := by
  cases handler with
  | login =>
      rw [FieldHandler.reads, readLogin_unterminated unterminated]
      rfl
  | passcheck =>
      rw [FieldHandler.reads, readPasscheck_unterminated unterminated]
      rfl
  | certification =>
      rw [FieldHandler.reads, readCertification_unterminated unterminated]
      rfl

theorem reads_inside_iff (handler : FieldHandler) {msg : Message}
    (sized : handler.minPayload ≤ msg.payloadSize) :
    handler.reads msg = .ok () ↔ Terminated msg handler.lastString := by
  constructor
  · intro inside
    by_contra unterminated
    rw [reads_unterminated handler unterminated] at inside
    cases inside
  · exact reads_terminated handler sized

/-- What the handlers read lies inside the message exactly when each handler that
takes it finds a NUL at or behind the start of its last string. -/
theorem field_reads_inside_iff (msg : Message) :
    ReadsInside msg ↔
      ∀ handler : FieldHandler, handler.Takes msg → Terminated msg handler.lastString := by
  constructor
  · intro inside handler takes
    exact (reads_inside_iff handler takes.2).mp (inside handler takes)
  · intro terminated handler takes
    exact (reads_inside_iff handler takes.2).mpr (terminated handler takes)

/-- A login whose fields are full up to the end of the message, as Feed emits it. -/
def fullLogin : Message :=
  { type := idnNetMsgLogin
    clientId := 0
    bytes := encodeMessage idnNetMsgLogin (List.replicate idnNetLoginPayload 97) }

theorem login_read_past_end :
    (framerFeed literalLzo [] fullLogin.bytes).out = [fullLogin] ∧ ¬ReadsInside fullLogin := by
  constructor
  · have fed := framerFeed_eq literalLzo [] fullLogin.bytes
    have emitted : (feed literalLzo.toLzoApi [] fullLogin.bytes).toOption.map FeedResult.out =
        some [fullLogin] := by
      decide +kernel
    rw [fed] at emitted
    exact Option.some.inj emitted
  · intro inside
    have read := inside .login ⟨rfl, by decide⟩
    revert read
    decide +kernel

end RanOnline.Servers
