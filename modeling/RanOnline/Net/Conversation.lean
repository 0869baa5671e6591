/-
What a server says on each of its connections.

Dispatch handles one message after the other, but every handler is a thread of
sections, and between two of them the I/O pool accepts, reads, writes and closes.
An exchange is a message for which dispatch has found a session, with what the
server notes while it handles it; a server that keeps to its answers sends on a
connection the answers to the exchanges of this connection and nothing else.
-/
import RanOnline.Net.Pipeline

namespace RanOnline.Net

open Memory StepRun Threads

variable {α ω β γ : Type}

/-! ### Exchanges -/

/-- `events` are the notes of the handler, oldest first. -/
structure Exchange (ω : Type) where
  conn : Nat
  msg : Message
  events : List ω
  deriving DecidableEq, Repr

/-- The handler of the newest exchange adds to its notes. -/
def annotate (events : List ω) : List (Exchange ω) → List (Exchange ω)
  | [] => []
  | exchange :: earlier => { exchange with events := exchange.events ++ events } :: earlier

/-- The exchanges of a history, newest first. -/
def exchanges : List (Observation ω) → List (Exchange ω)
  | [] => []
  | .begun c msg :: earlier => { conn := c, msg := msg, events := [] } :: exchanges earlier
  | .app event :: earlier => annotate [event] (exchanges earlier)
  | _ :: earlier => exchanges earlier

theorem annotate_nil (said : List (Exchange ω)) : annotate [] said = said := by
  cases said with
  | nil => rfl
  | cons exchange earlier => rw [annotate, List.append_nil]

/-- The exchanges of one connection, oldest first. -/
def conversation (c : Nat) (log : List (Observation ω)) : List (Exchange ω) :=
  ((exchanges log).filter fun exchange => exchange.conn = c).reverse

/-! ### Sections of a handler -/

/-- The callback takes a session out of m_sessions and puts none in. -/
theorem Shared.notify_sessions (onClose : UInt32 → α → α) (s : Shared α ω) (c : Nat)
    {clientId : UInt32} {conn : Nat}
    (found : (s.notify onClose c).sessions.lookup clientId = some conn) :
    s.sessions.lookup clientId = some conn := by
  unfold Shared.notify at found
  split at found
  · change (s.sessions.erase (s.conns c).clientId).lookup clientId = some conn at found
    by_cases gone : clientId = (s.conns c).clientId
    · rw [gone, AList.lookup_erase] at found
      cases found
    · rwa [AList.lookup_erase_ne gone] at found
  · exact found

/-- What one section does to the sending side of a session, with the frames that it
passes to Send. -/
inductive Session.Sends (lzo : Lzo) (before : Session) : Session → List Bytes → Prop
  | quiet (after : Session) (quiet : before.Quiet after) : Sends lzo before after []
  | frame (framed : Bytes) : Sends lzo before (before.send lzo framed).1 [framed]

theorem Session.Sends.sent {lzo : Lzo} {before after : Session} {frames : List Bytes}
    (sends : Session.Sends lzo before after frames) : after.sent = before.sent ++ frames := by
  cases sends with
  | quiet after quiet => rw [quiet.sent, List.append_nil]
  | frame framed => exact Session.send_sent lzo before framed

/-- A section notes these events, passes these frames to Send on one connection and
opens no session. -/
structure Says (lzo : Lzo) (c : Nat) (before after : Shared α ω) (events : List ω)
    (frames : List Bytes) : Prop where
  sends : ∀ other, Session.Sends lzo (before.conns other) (after.conns other)
    (if other = c then frames else [])
  noted : exchanges after.log = annotate events (exchanges before.log)
  sessions : ∀ clientId conn, after.sessions.lookup clientId = some conn →
    before.sessions.lookup clientId = some conn

namespace Says

variable (lzo : Lzo) (c : Nat)

theorem refl (s : Shared α ω) : Says lzo c s s [] [] := by
  constructor
  · intro other
    rw [ite_self]
    exact .quiet _ (.refl _)
  · rw [annotate_nil]
  · exact fun _clientId _conn found => found

theorem setConn {s : Shared α ω} {session : Session} {other : Nat}
    (quiet : (s.conns other).Quiet session) : Says lzo c s (s.setConn other session) [] [] := by
  refine { refl lzo c s with sends := ?_ }
  intro conn
  rw [ite_self]
  exact .quiet _ (Shared.setConn_quiet quiet conn)

theorem notify (onClose : UInt32 → α → α) (s : Shared α ω) (other : Nat) :
    Says lzo c s (s.notify onClose other) [] [] := by
  have sessions : ∀ clientId conn, (s.notify onClose other).sessions.lookup clientId = some conn →
      s.sessions.lookup clientId = some conn := fun _ _ => s.notify_sessions onClose other
  unfold Shared.notify at sessions ⊢
  split at sessions
  · rename_i leaving
    rw [if_pos leaving]
    have closed : Says lzo c s (s.onWriter other Writer.closeNotify) [] [] :=
      setConn lzo c (s.conns other).closeNotify_quiet
    exact { closed with sessions := sessions }
  · rename_i stays
    rw [if_neg stays]
    exact refl lzo c s

theorem app (s : Shared α ω) (app : α) (event : ω) :
    Says lzo c s { s with app := app, log := .app event :: s.log } [event] [] :=
  { refl lzo c s with noted := rfl }

theorem send (s : Shared α ω) (framed : Bytes) :
    Says lzo c s (s.setConn c ((s.conns c).send lzo framed).1) [] [framed] := by
  refine { refl lzo c s with sends := ?_ }
  intro other
  by_cases here : other = c
  · subst here
    rw [Shared.setConn_same, if_pos rfl]
    exact .frame framed
  · rw [s.setConn_other here, if_neg here]
    exact .quiet _ (.refl _)

end Says

theorem Says.sent {lzo : Lzo} {c : Nat} {before after : Shared α ω} {events : List ω}
    {frames : List Bytes} (spoken : Says lzo c before after events frames) (other : Nat) :
    (after.conns other).sent =
      (before.conns other).sent ++ if other = c then frames else [] :=
  (spoken.sends other).sent

/-! ### Threads -/

/-- Wherever the thread is interrupted, its sections note and send what the
postcondition says of its value. -/
def Tells (lzo : Lzo) (c : Nat) : Thread (Shared α ω) β → (β → List ω → List Bytes → Prop) → Prop
  | .ret value, post => post value [] []
  | .step act next, post =>
      ∀ s, ∃ events frames, Says lzo c s (act s) events frames ∧
        Tells lzo c (next s) fun value later more => post value (events ++ later) (frames ++ more)

section Rules

variable {lzo : Lzo} {c : Nat} {post : β → List ω → List Bytes → Prop}

theorem tells_pure {value : β} (holds : post value [] []) :
    Tells lzo c (pure value : Thread (Shared α ω) β) post := holds

theorem Tells.bind {thread : Thread (Shared α ω) γ} {rest : γ → Thread (Shared α ω) β}
    {middle : γ → List ω → List Bytes → Prop} (first : Tells lzo c thread middle)
    (second : ∀ value events frames, middle value events frames →
      Tells lzo c (rest value) fun result later more => post result (events ++ later) (frames ++ more)) :
    Tells lzo c (thread >>= rest) post := by
  induction thread generalizing middle post with
  | ret value => exact second value [] [] first
  | step act next ih =>
      intro s
      obtain ⟨events, frames, spoken, later⟩ := first s
      refine ⟨events, frames, spoken, ih s later ?_⟩
      intro value more further holds
      have continued := second value _ _ holds
      simp only [List.append_assoc] at continued
      exact continued

/-- A section that notes something, and what follows it. -/
theorem tells_section {body : Shared α ω → Shared α ω × γ}
    {rest : γ → Thread (Shared α ω) β}
    (done : ∀ s, ∃ events, Says lzo c s (body s).1 events [] ∧
      Tells lzo c (rest (body s).2) fun result later frames => post result (events ++ later) frames) :
    Tells lzo c (Thread.atomically body >>= rest) post := by
  intro s
  obtain ⟨events, spoken, later⟩ := done s
  exact ⟨events, [], spoken, later⟩

theorem tells_quiet {thread : Thread (Shared α ω) β}
    (guarantees : thread.Guarantees fun before after => Says lzo c before after [] [])
    (done : ∀ value, post value [] []) : Tells lzo c thread post := by
  induction thread with
  | ret value => exact done value
  | step act next ih =>
      intro s
      obtain ⟨spoken, later⟩ := guarantees s
      exact ⟨[], [], spoken, ih s later⟩

theorem quiet_closeSession (lzo : Lzo) (onClose : UInt32 → α → α) (c other : Nat) :
    (closeSession onClose other : Thread (Shared α ω) Unit).Guarantees
      fun before after => Says lzo c before after [] [] := by
  have writes : ∀ event : Writer.Event, (∀ bytes, event ≠ .enqueue bytes) →
      (Thread.update fun s : Shared α ω => s.onWriter other (Writer.step · event)).Guarantees
        fun before after => Says lzo c before after [] [] := by
    intro event plain
    apply Thread.guarantees_atomically
    intro s
    exact Says.setConn lzo c ((s.conns other).quiet_writer (Writer.enqueued_of_not_enqueue _ plain))
  unfold closeSession
  apply Thread.Guarantees.bind
  · apply Thread.guarantees_atomically
    intro s
    exact Says.setConn lzo c ((s.conns other).quiet_writer (Session.closeTest_enqueued _))
  · intro closed
    split
    · exact Thread.guarantees_pure _ _
    · apply Thread.Guarantees.bind (writes .closeMark fun _bytes => by simp)
      intro _marked
      apply Thread.Guarantees.bind (writes .closeClear fun _bytes => by simp)
      intro _cleared
      exact Thread.guarantees_atomically fun s => Says.notify lzo c onClose s other

theorem tells_closeSession {onClose : UInt32 → α → α} {other : Nat}
    {post : Unit → List ω → List Bytes → Prop} (done : post () [] []) :
    Tells lzo c (closeSession onClose other : Thread (Shared α ω) Unit) post :=
  tells_quiet (quiet_closeSession lzo onClose c other) fun _done => done

/-- A frame counts as sent also where the buffer refuses it and Send goes on to close. -/
theorem tells_sendTo {onClose : UInt32 → α → α} {framed : Bytes}
    {post : Unit → List ω → List Bytes → Prop} (done : post () [] [framed]) :
    Tells lzo c (sendTo lzo onClose c framed : Thread (Shared α ω) Unit) post := by
  intro s
  refine ⟨[], [framed], Says.send lzo c s framed, ?_⟩
  change Tells lzo c (ite _ _ _) _
  split
  · exact tells_closeSession done
  · exact tells_pure done

end Rules

/-- A server that answers every message in one of the ways that `answers` lists for
it and for what the handler notes on its way. -/
structure Talker (lzo : Lzo) (α ω : Type) extends GameServer α ω where
  answers : Nat → Message → List ω → List Bytes → Prop
  tells : ∀ c msg, Tells lzo c (handle c msg) fun _done events frames => answers c msg events frames

/-! ### Complete answers -/

section Spoken

variable (lzo : Lzo) (answers : Nat → Message → List ω → List Bytes → Prop)

def Exchange.Answered (exchange : Exchange ω) (frames : List Bytes) : Prop :=
  answers exchange.conn exchange.msg exchange.events frames

/-- On this connection the frames are answers to the exchanges, newest first, and
then the ones that follow them. -/
def Said (c : Nat) (said : List (Exchange ω)) (sent after : List Bytes) : Prop :=
  ∃ replies : List (List Bytes),
    List.Forall₂ (Exchange.Answered answers) (said.filter fun exchange => exchange.conn = c)
      replies ∧ sent = replies.reverse.flatten ++ after

/-- Every message is answered for which dispatch has found a session. -/
def Complete (s : Shared α ω) : Prop :=
  ∀ c, Said answers c (exchanges s.log) (s.conns c).sent []

/-- The thread is at work on the newest exchange and has sent these frames for it. -/
structure Answering (s : Shared α ω) (thread : Thread (Shared α ω) Unit)
    (exchange : Exchange ω) (earlier : List (Exchange ω)) (frames : List Bytes) : Prop where
  tells : Tells lzo exchange.conn thread fun _done later more =>
    answers exchange.conn exchange.msg (exchange.events ++ later) (frames ++ more)
  present : exchange.conn < s.accepted
  newest : exchanges s.log = exchange :: earlier
  said : ∀ c, Said answers c earlier (s.conns c).sent (if c = exchange.conn then frames else [])

variable {lzo} {answers}

/-- The answer to the newest exchange is complete. -/
theorem Answering.complete {s : Shared α ω} {exchange : Exchange ω}
    {earlier : List (Exchange ω)} {frames : List Bytes}
    (answering : Answering lzo answers s (.ret ()) exchange earlier frames) : Complete answers s := by
  have answered : answers exchange.conn exchange.msg (exchange.events ++ []) (frames ++ []) :=
    answering.tells
  rw [List.append_nil, List.append_nil] at answered
  intro c
  obtain ⟨replies, given, sent⟩ := answering.said c
  rw [answering.newest]
  by_cases here : exchange.conn = c
  · refine ⟨frames :: replies, ?_, ?_⟩
    · rw [List.filter_cons, if_pos (decide_eq_true here)]
      exact .cons answered given
    · rw [if_pos here.symm] at sent
      rw [sent, List.reverse_cons, List.flatten_append, List.flatten_singleton, List.append_nil]
  · refine ⟨replies, ?_, ?_⟩
    · rw [List.filter_cons, if_neg (by simpa using here)]
      exact given
    · rwa [if_neg (Ne.symm here)] at sent

/-- A section of the handler. -/
theorem Answering.step {s : Shared α ω} {act : Shared α ω → Shared α ω}
    {next : Shared α ω → Thread (Shared α ω) Unit} {exchange : Exchange ω}
    {earlier : List (Exchange ω)} {frames : List Bytes}
    (answering : Answering lzo answers s (.step act next) exchange earlier frames)
    (accepted : (act s).accepted = s.accepted) :
    ∃ events more, Says lzo exchange.conn s (act s) events more ∧
      Answering lzo answers (act s) (next s) { exchange with events := exchange.events ++ events }
        earlier (frames ++ more) := by
  obtain ⟨events, more, spoken, later⟩ := answering.tells s
  refine ⟨events, more, spoken, ?_⟩
  constructor
  · simp only [List.append_assoc]
    exact later
  · rw [accepted]
    exact answering.present
  · rw [spoken.noted, answering.newest, annotate]
  · intro c
    obtain ⟨replies, given, sent⟩ := answering.said c
    refine ⟨replies, given, ?_⟩
    change ((act s).conns c).sent = _ ++ if c = exchange.conn then frames ++ more else []
    rw [spoken.sent c, sent, List.append_assoc]
    by_cases here : c = exchange.conn
    · rw [if_pos here, if_pos here, if_pos here]
    · rw [if_neg here, if_neg here, if_neg here, List.append_nil]

end Spoken

/-! ### The pool is silent -/

/-- What m_sessions lists are accepted connections under their own ids, and nothing
was sent on a connection before its accept. -/
structure Opened (s : Shared α ω) : Prop where
  sessions : ∀ clientId c, s.sessions.lookup clientId = some c →
    c < s.accepted ∧ clientId = clientIdOf c
  absent : ∀ c, s.accepted ≤ c → (s.conns c).sent = []

theorem opened_start (app : α) : Opened (.start app : Shared α ω) := by
  constructor
  · intro clientId c found
    cases found
  · exact fun _c _absent => rfl

/-- The conversations look the same from both states. -/
structure Hushed (before after : Shared α ω) : Prop where
  sent : ∀ c, (after.conns c).sent = (before.conns c).sent
  noted : exchanges after.log = exchanges before.log
  accepted : before.accepted ≤ after.accepted

theorem Hushed.complete {answers : Nat → Message → List ω → List Bytes → Prop}
    {before after : Shared α ω} (hushed : Hushed before after)
    (complete : Complete answers before) : Complete answers after := by
  intro c
  rw [hushed.noted, hushed.sent]
  exact complete c

theorem Hushed.answering {lzo : Lzo} {answers : Nat → Message → List ω → List Bytes → Prop}
    {before after : Shared α ω} (hushed : Hushed before after)
    {thread : Thread (Shared α ω) Unit} {exchange : Exchange ω} {earlier : List (Exchange ω)}
    {frames : List Bytes} (answering : Answering lzo answers before thread exchange earlier frames) :
    Answering lzo answers after thread exchange earlier frames := by
  constructor
  · exact answering.tells
  · exact Nat.lt_of_lt_of_le answering.present hushed.accepted
  · rw [hushed.noted]
    exact answering.newest
  · intro c
    rw [hushed.sent]
    exact answering.said c

theorem Hushed.flushAll (lzo : Lzo) (s : Shared α ω) : Hushed s (s.flushAll lzo) := by
  constructor
  · intro c
    exact s.flushAll_keeps (fun session same => (Session.drain_sent lzo session).trans same) rfl
  · rfl
  · exact Nat.le_refl _

theorem Hushed.finish (lzo : Lzo) (server : NetServer α ω) (s : Shared α ω) :
    Hushed s (s.finish lzo server) := by
  unfold Shared.finish
  split
  · exact .flushAll lzo s
  · exact ⟨fun _c => rfl, rfl, Nat.le_refl _⟩

theorem Opened.hushed {onClose : UInt32 → α → α} {before after : Shared α ω}
    (opened : Opened before) (step : PoolStep onClose before after) : Hushed before after := by
  cases step with
  | accepted remote =>
      constructor
      · intro c
        by_cases fresh : c = before.accepted
        · rw [fresh, opened.absent _ (Nat.le_refl _)]
          simp only [Shared.accept, Function.update_self]
          rfl
        · simp only [Shared.accept, Function.update_of_ne fresh]
      · rfl
      · exact Nat.le_succ _
  | notified c leaving =>
      rw [Shared.notify_of_leaving leaving]
      constructor
      · intro other
        exact (Shared.setConn_quiet (before.conns c).closeNotify_quiet other).sent
      · rfl
      · exact Nat.le_refl _
  | inside c session recv quiet =>
      constructor
      · intro other
        exact (before.setConn_quiet quiet other).sent
      · rfl
      · exact Nat.le_refl _

theorem Opened.io {lzo : Lzo} {s : Shared α ω} (opened : Opened s) (inbound : Inbound lzo s)
    {onClose : UInt32 → α → α} {after : Shared α ω} (step : PoolStep onClose s after) :
    Opened after := by
  have hushed := opened.hushed step
  constructor
  · intro clientId c found
    cases step with
    | accepted remote =>
        have next : s.nextClientId + 1 = clientIdOf s.accepted := by
          rw [inbound.nextId, clientIdOf, UInt32.ofNat_add]
          rfl
        change (s.sessions.insert (s.nextClientId + 1) s.accepted).lookup clientId = _ at found
        change c < s.accepted + 1 ∧ _
        by_cases newest : clientId = s.nextClientId + 1
        · rw [newest, AList.lookup_insert] at found
          cases found
          exact ⟨Nat.lt_succ_self _, newest.trans next⟩
        · rw [AList.lookup_insert_ne newest] at found
          obtain ⟨present, own⟩ := opened.sessions clientId c found
          exact ⟨Nat.lt_succ_of_lt present, own⟩
    | notified other leaving =>
        have listed := s.notify_sessions onClose other found
        rw [Shared.notify_of_leaving leaving]
        exact opened.sessions clientId c listed
    | inside other session recv quiet => exact opened.sessions clientId c found
  · intro c absent
    rw [hushed.sent c]
    exact opened.absent c (Nat.le_trans hushed.accepted absent)

end RanOnline.Net
