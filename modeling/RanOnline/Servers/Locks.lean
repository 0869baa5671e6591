/-
The five servers never lock themselves up.

Workers of the pool run handlers of the server in any number and order: accepts,
timer ticks and completions of reads and writes.  `m_sessMx` is held over `Flush`,
which takes the mutexes of a session and of the compressor; no other mutex of a
server is held over a function that locks.
-/
import RanOnline.Net.Locks

namespace RanOnline.Servers.Locks

open Locking Locking.Script Net.Locks

inductive Server
  | auth
  | login
  | session
  | field
  | agent

/-! ### The servers' functions -/

def onClose : Server → Locked
  | .agent => .holding .sess (both [.touch .sessions, .touch .loginSessions])
  | _ => .holding .sess (.touch .sessions)

def onAccept (c : Nat) : Locked :=
  both [.touch (.sock c), .holding .sess (.touch .sessions), doRead c]

def findSession : Locked := .holding .sess (.touch .sessions)

def findLogin : Locked := .holding .sess (.touch .loginSessions)

def closeSession (server : Server) (c : Nat) : Locked := close (onClose server) c

def reply (server : Server) (c : Nat) : Locked := send (onClose server) c

def processUserLogin : Locked := .holding .db (.touch .agentDb)

/-- `ProcessCharList`, `ProcessCharDetail` and `ProcessPassCheck`, under the mutex that
`dispatch` takes for them. -/
def underDb : Locked := .holding .db (either .skip (.touch .agentDb))

def agentLogin (c : Nat) : Locked :=
  either (closeSession .agent c) (both [.touch (.sock c),
    either .skip (both [processUserLogin, either .skip findLogin]), reply .agent c])

def agentCharList (c : Nat) : Locked :=
  both [findLogin, either (closeSession .agent c) (both [underDb, reply .agent c])]

def agentCharDetail (c : Nat) : Locked :=
  either .skip (both [findLogin, either (closeSession .agent c) (both
    [underDb, either .skip (both [reply .agent c, reply .agent c])])])

def agentPassCheck (c : Nat) : Locked :=
  either .skip (both [findLogin, either .skip (both
    [underDb, either .skip findLogin, reply .agent c])])

/-- `AuthServer` asks its database under no mutex. -/
def authCertification (c : Nat) : Locked :=
  either .skip (both [.touch .authDb, reply .auth c])

def handle : Server → Nat → Locked
  | .auth, c => either (authCertification c) (reply .auth c)
  | .agent, c => either (agentLogin c) (either (agentCharList c) (either (agentCharDetail c)
      (either (agentPassCheck c) (reply .agent c))))
  | server, c => reply server c

/-- The client of the message is any. -/
def dispatch (server : Server) : Locked :=
  both [findSession, either .skip (.choose (handle server))]

def flushAll : Locked :=
  .holding .sess (both [.touch .sessions, .many (.choose flush)])

def onUpdate (server : Server) : Locked :=
  both [msgQueueFlip, .many (both [getMsg, dispatch server]), getMsg,
    match server with
    | .auth => flushAll
    | .agent => flushAll
    | _ => .skip]

/-- What a worker can be given to run. -/
inductive Job
  | accept (c : Nat)
  | update
  | schedule
  | read (c : Nat)
  | written (c : Nat)

def run (server : Server) : Job → Locked
  | .accept c => onAccept c
  | .update => onUpdate server
  | .schedule => .skip
  | .read c => readHandler (onClose server) c
  | .written c => writeHandler (onClose server) c

/-! ### They keep to the order -/

theorem onClose_follows (server : Server) : (onClose server).Follows order [] := by
  cases server <;> simp [onClose]

theorem findLogin_follows : findLogin.Follows order [] := by
  simp [findLogin]

theorem underDb_follows : underDb.Follows order [] := by
  simp [underDb]

theorem closeSession_follows (server : Server) (c : Nat) :
    (closeSession server c).Follows order [] :=
  close_follows (onClose_follows server) (below_nil 1) c

theorem reply_follows (server : Server) (c : Nat) : (reply server c).Follows order [] :=
  send_follows (onClose_follows server) (below_nil 1) c

theorem agentLogin_follows (c : Nat) : (agentLogin c).Follows order [] := by
  simp [agentLogin, processUserLogin, closeSession_follows, findLogin_follows, reply_follows]

theorem agentCharList_follows (c : Nat) : (agentCharList c).Follows order [] := by
  simp [agentCharList, closeSession_follows, findLogin_follows, underDb_follows, reply_follows]

theorem agentCharDetail_follows (c : Nat) : (agentCharDetail c).Follows order [] := by
  simp [agentCharDetail, closeSession_follows, findLogin_follows, underDb_follows, reply_follows]

theorem agentPassCheck_follows (c : Nat) : (agentPassCheck c).Follows order [] := by
  simp [agentPassCheck, findLogin_follows, underDb_follows, reply_follows]

theorem handle_follows (server : Server) (c : Nat) : (handle server c).Follows order [] := by
  cases server with
  | auth => simp [handle, authCertification, reply_follows]
  | login => exact reply_follows .login c
  | session => exact reply_follows .session c
  | field => exact reply_follows .field c
  | agent =>
      simp [handle, agentLogin_follows, agentCharList_follows, agentCharDetail_follows,
        agentPassCheck_follows, reply_follows]

theorem dispatch_follows (server : Server) : (dispatch server).Follows order [] := by
  simp [dispatch, findSession, handle_follows]

theorem flushAll_follows : flushAll.Follows order [] := by
  have above : Below [.sess] 1 := (below_cons _ _ _).mpr ⟨Nat.one_pos, below_nil 1⟩
  simp [flushAll, flush_follows above]

theorem onUpdate_follows (server : Server) : (onUpdate server).Follows order [] := by
  cases server <;>
    simp [onUpdate, msgQueueFlip_follows, getMsg_follows, dispatch_follows, flushAll_follows]

theorem run_follows (server : Server) (job : Job) : (run server job).Follows order [] := by
  cases job with
  | accept c => simp [run, onAccept, doRead]
  | update => exact onUpdate_follows server
  | schedule => exact follows_skip
  | read c => exact readHandler_follows (onClose_follows server) c
  | written c => exact writeHandler_follows (onClose_follows server) (below_nil 1) c

/-! ### Any number of workers -/

variable {τ : Type} [DecidableEq τ]

def reached (server : Server) (events : List (Event τ Job)) : System τ Mutex Datum :=
  StepRun.run (System.step (run server)) System.idle events

theorem coherent_reached (server : Server) (events : List (Event τ Job)) :
    Coherent order (reached server events) :=
  coherent_idle.run (run_follows server) events

/-- Whatever the workers of a server have run so far, there is an order in which they can
all run to the end of their handlers, and none of them stands before a mutex
that it holds itself. -/
theorem workers_finish (server : Server) (events : List (Event τ Job)) :
    (∀ worker lock body rest,
      (reached server events).stack worker = .run (.holding lock body) :: rest →
        lock ∉ owned ((reached server events).stack worker)) ∧
    ∃ turns : List τ,
      (∀ worker, (reached server (events ++ turns.map (.advance · 0))).stack worker = []) ∧
      ∀ lock, (reached server (events ++ turns.map (.advance · 0))).owner lock = none := by
  constructor
  · intro worker lock body rest here
    exact (coherent_reached server events).not_own here
  · obtain ⟨turns, finished⟩ := @finishes _ _ _ _ order _ _ _ (run_follows server) events
    refine ⟨turns, finished, ?_⟩
    intro lock
    by_contra taken
    obtain ⟨worker, owns⟩ := Option.ne_none_iff_exists'.mp taken
    have member := ((coherent_reached server _).owner_iff lock worker).mp owns
    have empty := finished worker
    unfold reached at member
    rw [empty] at member
    exact absurd member List.not_mem_nil

/-- No two workers of a server ever come to touch one guarded datum at a time: the session
and login maps, the two message queues, a session's write queue and its mark, the bytes and
the count of a send buffer (not `m_dwPos` and `m_pSendBuffer`, which are read without the
mutex), the mark and the work memory of the compressor and the AgentServer's database. -/
theorem workers_race_free (server : Server) (events : List (Event τ Job)) {datum : Datum}
    {lock : Mutex} (guarded : datum.guard = some lock) :
    ((reached server events).touching datum).Subsingleton :=
  @Coherent.touching_subsingleton _ _ _ order _ (coherent_reached server events) datum lock guarded

/-- One worker is about to enter a connection in the session map, another has begun to. -/
theorem workers_race_free_accepts :
    let sys := reached .agent
      ([.begin false (.accept 0), .begin true (.accept 1)] ++ List.replicate 4 (.advance false 0) ++
        List.replicate 4 (.advance true 0))
    false ∈ sys.touching .sessions ∧ (sys.touching .sessions).Subsingleton := by
  constructor
  · exact ⟨_, rfl⟩
  · exact workers_race_free .agent _ rfl

end RanOnline.Servers.Locks
