/-
What the network layer locks and shares.

Each function keeps its mutexes and the fields of shared objects that it reads or
writes under them or beside them.  Branches stand as free choices, loops as any
number of turns.  `sock`, `closed`, `framer`, the error text of the compressor, the send
buffer after it was packed and the early look at `m_dwPos` are not under any mutex
in the source; no guard is claimed for them.
-/
import RanOnline.Lib.LockOrder

namespace RanOnline.Net.Locks

open Locking Locking.Script

/-- The mutexes of one server process; those of a session carry its client id. -/
inductive Mutex
  | sess
  | db
  | recv
  | write (c : Nat)
  | buffer (c : Nat)
  | lzo
  deriving DecidableEq

inductive Datum
  | sessions
  | loginSessions
  | agentDb
  | authDb
  | front
  | back
  | writeQueue (c : Nat)
  | writeInProgress (c : Nat)
  | usCount (c : Nat)
  | pBuffer (c : Nat)
  | dwPos (c : Nat)
  | pSendBuffer (c : Nat)
  | bInit
  | pWorkmem
  | strError
  | sock (c : Nat)
  | closed (c : Nat)
  | framer (c : Nat)

def Datum.guard : Datum → Option Mutex
  | .sessions => some .sess
  | .loginSessions => some .sess
  | .agentDb => some .db
  | .front => some .recv
  | .back => some .recv
  | .writeQueue c => some (.write c)
  | .writeInProgress c => some (.write c)
  | .usCount c => some (.buffer c)
  | .pBuffer c => some (.buffer c)
  | .bInit => some .lzo
  | .pWorkmem => some .lzo
  | .authDb => none
  | .dwPos _ => none
  | .pSendBuffer _ => none
  | .strError => none
  | .sock _ => none
  | .closed _ => none
  | .framer _ => none

def Mutex.rank : Mutex → Nat
  | .sess => 0
  | .db => 0
  | .recv => 0
  | .write _ => 1
  | .buffer _ => 1
  | .lzo => 2

def order : Discipline Mutex Datum :=
  { rank := Mutex.rank
    top := 2
    rank_le := by intro lock; cases lock <;> simp [Mutex.rank]
    guard := Datum.guard }

abbrev Locked := Script Mutex Datum

/-! ### CMinLzo -/

def minLzoInit : Locked :=
  .holding .lzo (both [.touch .bInit, either .skip (.touch .strError),
    either .skip (.touch .pWorkmem), .touch .bInit])

def lzoCompress : Locked :=
  either (.touch .strError)
    (.holding .lzo (both [.touch .pWorkmem, either .skip (.touch .strError)]))

def lzoDeCompress : Locked :=
  either (.touch .strError) (.holding .lzo (either .skip (.touch .strError)))

/-! ### SendMsgBuffer -/

def addMsg (c : Nat) : Locked :=
  either .skip (.holding (.buffer c) (both [.touch (.dwPos c), either .skip (both
    [.touch (.pBuffer c), .touch (.dwPos c), .touch (.usCount c)])]))

/-- `m_dwPos` is read before the mutex is taken. -/
def getSendSize (c : Nat) : Locked :=
  both [.touch (.dwPos c), either .skip (.holding (.buffer c) (both
    [minLzoInit, .touch (.pBuffer c), lzoCompress, .touch (.pSendBuffer c), .touch (.dwPos c),
      .touch (.usCount c)]))]

/-! ### Session -/

def doWrite (c : Nat) : Locked :=
  both [.holding (.write c) (both
      [.touch (.writeQueue c), either .skip (.touch (.writeInProgress c))]),
    either .skip (.touch (.sock c))]

def enqueueWrite (c : Nat) : Locked :=
  both [.holding (.write c) (both [.touch (.writeQueue c), .touch (.writeInProgress c)]),
    either .skip (doWrite c)]

def flush (c : Nat) : Locked :=
  both [getSendSize c, either .skip (both [.touch (.pSendBuffer c), enqueueWrite c])]

/-- The callback comes after the mutex of the queue is free again. -/
def close (onClose : Locked) (c : Nat) : Locked :=
  both [.touch (.closed c), either .skip (both [.touch (.closed c), .touch (.sock c),
    .holding (.write c) (.touch (.writeQueue c)), onClose])]

/-- Where the buffer is full, `Send` does what `Flush` does. -/
def send (onClose : Locked) (c : Nat) : Locked :=
  both [addMsg c, either (close onClose c) (either .skip (either (flush c)
    (both [flush c, addMsg c])))]

def feed (c : Nat) : Locked :=
  both [.touch (.framer c), .many (both [.touch (.framer c), either .skip (both
    [minLzoInit, lzoDeCompress])])]

def doRead (c : Nat) : Locked := .touch (.sock c)

/-! ### MsgManager -/

def msgQueueInsert : Locked := .holding .recv (.touch .front)

def msgQueueFlip : Locked := .holding .recv (.many (both [.touch .front, .touch .back]))

def getMsg : Locked := .holding .recv (.touch .back)

/-! ### The handlers of a session -/

/-- The completion of a read. -/
def readHandler (onClose : Locked) (c : Nat) : Locked :=
  either (close onClose c) (both [feed c, either (close onClose c)
    (both [.many msgQueueInsert, doRead c])])

/-- The completion of a write. -/
def writeHandler (onClose : Locked) (c : Nat) : Locked :=
  either (close onClose c) (both [.holding (.write c) (.touch (.writeQueue c)), doWrite c])

/-! ### They keep to the order -/

def Below (held : List Mutex) (rank : Nat) : Prop := ∀ other, other ∈ held → other.rank < rank

@[simp] theorem below_nil (rank : Nat) : Below [] rank := by
  intro other member
  cases member

@[simp] theorem below_cons (lock : Mutex) (held : List Mutex) (rank : Nat) :
    Below (lock :: held) rank ↔ lock.rank < rank ∧ Below held rank :=
  List.forall_mem_cons

theorem Below.mono {held : List Mutex} {low high : Nat} (below : Below held low)
    (le : low ≤ high) : Below held high := by
  intro other member
  exact Nat.lt_of_lt_of_le (below other member) le

variable {held : List Mutex}

@[simp] theorem follows_skip : (Script.skip : Locked).Follows order held := trivial

@[simp] theorem follows_touch (datum : Datum) :
    (Script.touch datum : Locked).Follows order held ↔
      ∀ lock, datum.guard = some lock → lock ∈ held := Iff.rfl

@[simp] theorem follows_holding (lock : Mutex) (body : Locked) :
    (Script.holding lock body).Follows order held ↔
      Below held lock.rank ∧ body.Follows order (lock :: held) := Iff.rfl

@[simp] theorem follows_many (body : Locked) :
    (Script.many body).Follows order held ↔ body.Follows order held := Iff.rfl

@[simp] theorem follows_choose (branch : Nat → Locked) :
    (Script.choose branch).Follows order held ↔ ∀ pick, (branch pick).Follows order held := Iff.rfl

attribute [simp] follows_either follows_both Mutex.rank Datum.guard

theorem minLzoInit_follows (below : Below held 2) : minLzoInit.Follows order held := by
  simp [minLzoInit, below]

theorem lzoCompress_follows (below : Below held 2) : lzoCompress.Follows order held := by
  simp [lzoCompress, below]

theorem lzoDeCompress_follows (below : Below held 2) : lzoDeCompress.Follows order held := by
  simp [lzoDeCompress, below]

theorem addMsg_follows (below : Below held 1) (c : Nat) : (addMsg c).Follows order held := by
  simp [addMsg, below]

theorem getSendSize_follows (below : Below held 1) (c : Nat) :
    (getSendSize c).Follows order held := by
  -- the compressor's mutex is taken under the one of the buffer
  have inside : Below (.buffer c :: held) 2 :=
    (below_cons _ _ _).mpr ⟨Nat.one_lt_two, below.mono (Nat.le_succ 1)⟩
  simp [getSendSize, below, minLzoInit_follows inside, lzoCompress_follows inside]

theorem doWrite_follows (below : Below held 1) (c : Nat) : (doWrite c).Follows order held := by
  simp [doWrite, below]

theorem enqueueWrite_follows (below : Below held 1) (c : Nat) :
    (enqueueWrite c).Follows order held := by
  simp [enqueueWrite, below, doWrite_follows below]

theorem flush_follows (below : Below held 1) (c : Nat) : (flush c).Follows order held := by
  simp [flush, getSendSize_follows below, enqueueWrite_follows below]

section Closing

variable {onClose : Locked} (closes : onClose.Follows order held)

include closes

theorem close_follows (below : Below held 1) (c : Nat) :
    (close onClose c).Follows order held := by
  simp [close, below, closes]

theorem send_follows (below : Below held 1) (c : Nat) : (send onClose c).Follows order held := by
  simp [send, addMsg_follows below, flush_follows below, close_follows closes below]

theorem writeHandler_follows (below : Below held 1) (c : Nat) :
    (writeHandler onClose c).Follows order held := by
  simp [writeHandler, below, close_follows closes below, doWrite_follows below]

end Closing

theorem feed_follows (below : Below held 2) (c : Nat) : (feed c).Follows order held := by
  simp [feed, minLzoInit_follows below, lzoDeCompress_follows below]

theorem msgQueueInsert_follows : msgQueueInsert.Follows order [] := by
  simp [msgQueueInsert]

theorem msgQueueFlip_follows : msgQueueFlip.Follows order [] := by
  simp [msgQueueFlip]

theorem getMsg_follows : getMsg.Follows order [] := by
  simp [getMsg]

theorem readHandler_follows {onClose : Locked} (closes : onClose.Follows order []) (c : Nat) :
    (readHandler onClose c).Follows order [] := by
  simp [readHandler, close_follows closes, feed_follows, msgQueueInsert_follows, doRead]

end RanOnline.Net.Locks
