/-
Echo end to end: what a client of the AuthServer gets back.

The framer admits messages up to 4108 bytes, and up to 32768 inside an envelope,
but the send buffer refuses a reply of more than 2048, and Send answers a refusal
with Close.
-/
import RanOnline.Servers.AuthLine

namespace RanOnline.Servers

open Memory Net Db StreamCut StepRun Threads Discipline

variable {D : Type}

/-! ### Sections of dispatch -/

section Sections

variable {lzo : Lzo} {server : NetServer (AuthApp D) Empty} {c : Nat}

theorem Watched.setConn {s : Shared (AuthApp D) Empty} {other : Nat} {session : Session}
    (watched : Watched lzo c (s.setConn other session))
    (silent : (s.conns other).Silent session) : Watched lzo c s := by
  have received : ((s.setConn other session).conns c).received = (s.conns c).received := by
    by_cases here : c = other
    · subst here
      rw [Shared.setConn_same, silent.received]
    · rw [Shared.setConn_other s here]
  exact watched.earlier watched.present (Nat.le_refl _) (received ▸ List.prefix_rfl)

/-- A section on the sending side of a session. -/
theorem LineInv.setConn {s : Shared (AuthApp D) Empty} (inv : LineInv lzo server c s)
    {other : Nat} {session : Session} (silent : (s.conns other).Silent session)
    (clientId : session.clientId = (s.conns other).clientId)
    (leaving : c = other → session.writer.Leaving)
    (closed : c = other → (s.conns c).writer.closed = true → session.writer.closed = true)
    (opened : c = other → Watched lzo c s → (∀ msg ∈ takenFrom c s, Fits msg) →
      session.writer.Open) :
    LineInv lzo server c (s.setConn other session) := by
  refine
    { recorded := inv.recorded.session clientId
      inbound := inv.inbound.setConn silent clientId
      traffic := inv.traffic.silent silent
      leaving := ?_
      gone := ?_
      opened := ?_ }
  · by_cases here : c = other
    · subst here
      rw [Shared.setConn_same]
      exact leaving rfl
    · rw [Shared.setConn_other s here]
      exact inv.leaving
  · intro goneId gone
    by_cases here : c = other
    · subst here
      rw [Shared.setConn_same]
      exact closed rfl (inv.gone goneId gone)
    · rw [Shared.setConn_other s here]
      exact inv.gone goneId gone
  · intro watched fits
    have earlier := watched.setConn silent
    by_cases here : c = other
    · subst here
      rw [Shared.setConn_same]
      exact opened rfl earlier fits
    · rw [Shared.setConn_other s here]
      exact inv.opened earlier fits

theorem LineInv.sent {s : Shared (AuthApp D) Empty} (inv : LineInv lzo server c s) (other : Nat)
    (framed : Bytes) : LineInv lzo server c (s.setConn other ((s.conns other).send lzo framed).1) := by
  have marks := (s.conns other).send_marks lzo framed
  apply inv.setConn ((s.conns other).send_silent lzo framed) (Session.send_clientId lzo _ framed)
  · intro here
    subst here
    exact inv.leaving.congr marks
  · intro here closed
    subst here
    exact Writer.closed_congr closed marks
  · intro here watched fits
    subst here
    exact (inv.opened watched fits).congr marks

/-- Close may start where a message that does not fit was taken. -/
theorem LineInv.tested {s : Shared (AuthApp D) Empty} (inv : LineInv lzo server c s) (other : Nat)
    (harmless : c = other → Watched lzo c s → ∃ msg ∈ takenFrom c s, ¬Fits msg) :
    LineInv lzo server c (s.onWriter other Writer.closeTest) := by
  refine inv.setConn ((s.conns other).silent_writer (s.conns other).writer.closeTest) rfl ?_ ?_ ?_
  · intro here
    subst here
    exact Writer.closeTest_leaving inv.leaving
  · intro here closed
    subst here
    exact Writer.step_closed closed .closeTest
  · intro here watched fits
    obtain ⟨msg, member, large⟩ := harmless here watched
    exact absurd (fits msg member) large

theorem LineInv.queried {s : Shared (AuthApp D) Empty} (inv : LineInv lzo server c s)
    (app : AuthApp D) : LineInv lzo server c { s with app := app } :=
  { inv with
    recorded := { inv.recorded with }
    inbound := { inv.inbound with }
    traffic := { inv.traffic with }
    opened := fun watched => inv.opened { watched with } }

/-- A section that touches no session. -/
theorem Echoed.congr {s later : Shared (AuthApp D) Empty} {done owed before : List Message}
    (echoed : Echoed lzo c done before s) (accepted : later.accepted = s.accepted)
    (conns : later.conns = s.conns) (split : takenFrom c later = done ++ owed) :
    Echoed lzo c done owed later := by
  have earlier : Watched lzo c later → Watched lzo c s := by
    intro watched
    have received : (later.conns c).received = (s.conns c).received := by rw [conns]
    exact watched.earlier (accepted ▸ watched.present) (Nat.le_of_eq accepted.symm)
      (received ▸ List.prefix_rfl)
  refine { split := split, carries := ?_, refused := ?_ }
  · intro watched
    rw [conns]
    exact echoed.carries (earlier watched)
  · intro watched
    rw [conns]
    exact echoed.refused (earlier watched)

theorem Echoed.elsewhere {s : Shared (AuthApp D) Empty} {done owed : List Message}
    (echoed : Echoed lzo c done owed s) {other : Nat} (different : c ≠ other) {session : Session}
    (silent : (s.conns other).Silent session) :
    Echoed lzo c done owed (s.setConn other session) := by
  refine { split := echoed.split, carries := ?_, refused := ?_ }
  · intro watched
    rw [Shared.setConn_other s different]
    exact echoed.carries (watched.setConn silent)
  · intro watched
    rw [Shared.setConn_other s different]
    exact echoed.refused (watched.setConn silent)

/-- Nothing is known of a connection that is not watched. -/
theorem Echoed.unwatched {s : Shared (AuthApp D) Empty} {done : List Message}
    (split : takenFrom c s = done) (unwatched : ¬Watched lzo c s) :
    Echoed lzo c done [] s :=
  { split := split.trans (List.append_nil done).symm
    carries := fun watched => absurd watched unwatched
    refused := fun watched => absurd watched unwatched }

end Sections

/-! ### Handlers -/

section Handlers

variable {lzo : Lzo} {odbc : OdbcDb D} {beyond : Message → Bytes}

/-- A handler of the AuthServer sends to the session of its message, may close it,
and has the database change. -/
theorem wp_authHandle {allowed : IoEvent → Prop} {inv : Shared (AuthApp D) Empty → Prop}
    {kept : ∀ ⦃s : Shared (AuthApp D) Empty⦄ (event : IoEvent), allowed event → inv s →
      inv (s.io lzo keepApp event)}
    {assertion : Shared (AuthApp D) Empty → Prop} {c : Nat} (closing : Closing allowed c)
    (stable : (pool lzo keepApp kept).Stable assertion)
    (sent : ∀ (framed : Bytes) (s : Shared (AuthApp D) Empty), inv s → assertion s →
      inv (s.setConn c ((s.conns c).send lzo framed).1) ∧
        assertion (s.setConn c ((s.conns c).send lzo framed).1))
    (tested : ∀ s : Shared (AuthApp D) Empty, inv s → assertion s →
      inv (s.onWriter c Writer.closeTest) ∧ assertion (s.onWriter c Writer.closeTest))
    (queried : ∀ (app : AuthApp D) (s : Shared (AuthApp D) Empty), inv s → assertion s →
      inv { s with app := app } ∧ assertion { s with app := app })
    (msg : Message) {s : Shared (AuthApp D) Empty} (holds : inv s) (known : assertion s) :
    (pool lzo keepApp kept).wp (authHandle lzo odbc beyond c msg) (fun _done => assertion) s := by
  have sends : ∀ (framed : Bytes) {s : Shared (AuthApp D) Empty}, inv s → assertion s →
      (pool lzo keepApp kept).wp (sendTo lzo keepApp c framed) (fun _done => assertion) s :=
    fun framed _s => wp_sendTo closing stable stable (sent framed) tested
  unfold authHandle
  split
  · unfold handleCertification
    split
    · exact Interference.wp_ret stable holds known
    · dsimp only
      split
      · exact Interference.wp_ret stable holds known
      · split
        · exact Interference.wp_ret stable holds known
        · apply Interference.wp_section stable holds known
          intro s holds known
          obtain ⟨holds, known⟩ := queried _ s holds known
          exact ⟨holds, sends _ holds known⟩
  · exact sends _ holds known

/-- The session of the watched connection takes a reply that fits. -/
theorem Echoed.send {c : Nat} {done : List Message}
    {msg : Message} {s : Shared (AuthApp D) Empty} (framed : msg.Framed) (fits : Fits msg)
    (echoed : Echoed lzo c done [msg] s) :
    Echoed lzo c (done ++ [msg]) [] (s.setConn c ((s.conns c).send lzo msg.bytes).1) := by
  have silent := (s.conns c).send_silent lzo msg.bytes
  have own : Framed msg.bytes :=
    { header := framed.header
      size := framed.size
      type := rfl }
  refine { split := ?_, carries := ?_, refused := ?_ }
  · rw [List.append_nil]
    exact echoed.split
  · intro watched allFit
    have earlier := echoed.carries (watched.setConn silent)
      fun other member => allFit other (List.mem_append_left _ member)
    rw [Shared.setConn_same, List.map_append]
    exact (earlier.send own fits).2
  · rintro watched ⟨other, member, large⟩
    have before : other ∈ done := by
      rcases List.mem_append.mp member with before | last
      · exact before
      · exact absurd fits (List.mem_singleton.mp last ▸ large)
    rw [Shared.setConn_same]
    exact Writer.closed_congr (echoed.refused (watched.setConn silent) ⟨other, before, large⟩)
      ((s.conns c).send_marks lzo msg.bytes)

/-- The closed session has refused a reply. -/
theorem Echoed.refuse {c : Nat} {done : List Message} {msg : Message}
    {s : Shared (AuthApp D) Empty} (split : takenFrom c s = done ++ [msg]) (large : ¬Fits msg)
    (closed : (s.conns c).writer.closed = true) : Echoed lzo c (done ++ [msg]) [] s :=
  { split := split.trans (List.append_nil _).symm
    carries := fun _watched fits =>
      absurd (fits msg (List.mem_append_right _ List.mem_cons_self)) large
    refused := fun _watched _some => closed }

end Handlers

/-! ### The loop -/

section Loop

variable (lzo : Lzo) (odbc : OdbcDb D) (beyond : Message → Bytes) (c : Nat)

/-- The pool of a run in which nothing fails on the connection. -/
def calmPool : Interference (Shared (AuthApp D) Empty) :=
  pool lzo keepApp (lineInv_kept lzo (authServer lzo odbc beyond) c)

variable {lzo odbc beyond c}

theorem stable_echoed (done owed : List Message) :
    (calmPool lzo odbc beyond c).Stable (Echoed lzo c done owed) := by
  intro s later inv echoed moved
  obtain ⟨event, _keeps, same⟩ := moved
  rw [same]
  exact echoed.io inv event

theorem stable_answered : (calmPool lzo odbc beyond c).Stable (AllAnswered lzo c) := by
  intro s later inv answered moved
  obtain ⟨event, _keeps, same⟩ := moved
  rw [same]
  exact answered.io inv event

theorem stable_takenFrom (messages : List Message) :
    (calmPool lzo odbc beyond c).Stable fun s => takenFrom c s = messages := by
  intro s later _inv taken moved
  obtain ⟨event, _keeps, same⟩ := moved
  rw [same, takenFrom_pooled (s.io_poolStep lzo keepApp event)]
  exact taken

theorem stable_unwatched : (calmPool lzo odbc beyond c).Stable fun s =>
    c < s.accepted ∧ ¬Watched lzo c s := by
  rintro s later _inv ⟨present, unwatched⟩ moved
  obtain ⟨event, _keeps, same⟩ := moved
  rw [same]
  exact ⟨Nat.lt_of_lt_of_le present (s.io_accepted lzo keepApp event),
    fun watched => unwatched (watched.io present)⟩

/-- The echo of a message of the connection: it is sent, or the connection closes. -/
theorem wp_echo_own {done : List Message} {msg : Message} (admitted : msg.Admitted)
    {s : Shared (AuthApp D) Empty} (inv : LineInv lzo (authServer lzo odbc beyond) c s)
    (echoed : Echoed lzo c done [msg] s) (present : c < s.accepted) :
    (calmPool lzo odbc beyond c).wp (echo lzo c msg)
      (fun _done => Echoed lzo c (done ++ [msg]) []) s := by
  have stable : (calmPool lzo odbc beyond c).Stable fun s =>
      Echoed lzo c done [msg] s ∧ c < s.accepted ∧ True :=
    (stable_echoed done [msg]).and (stable_session (fun _session => True) fun _moved _holds => trivial)
  unfold echo sendTo
  rw [admitted.framed.encode]
  refine Interference.wp_section stable inv ⟨echoed, present, trivial⟩ ?_
  rintro s inv ⟨echoed, present, _⟩
  have sent := LineInv.sent inv c msg.bytes
  refine ⟨sent, ?_⟩
  by_cases fits : Fits msg
  · have accepted : ((s.conns c).send lzo msg.bytes).2 = false :=
      ((s.conns c).send_of_small lzo fits).1
    split
    · rename_i refused
      rw [accepted] at refused
      cases refused
    · exact Interference.wp_ret (stable_echoed _ _) sent (echoed.send admitted.framed fits)
  · have bound : msg.bytes.length ≤ 32768 := admitted.bounded
    have refused : ((s.conns c).send lzo msg.bytes).2 = true :=
      ((s.conns c).send_of_large lzo (Nat.not_le.mp fits) (by omega)).1
    split
    · refine Interference.wp_mono ?_ (wp_closeSession_closed (closing_keepsOpen c c)
        (stable_takenFrom (done ++ [msg])) ?_ sent echoed.split present)
      · rintro _done later _inv ⟨split, _present, closed⟩
        exact Echoed.refuse split fits closed
      · intro s inv split
        refine ⟨LineInv.tested inv c fun _here _watched => ⟨msg, ?_, fits⟩, split⟩
        rw [split]
        exact List.mem_append_right _ List.mem_cons_self
    · rename_i accepted
      exact absurd refused accepted

/-- A handler at work for another connection. -/
theorem wp_authHandle_elsewhere {done : List Message} {other : Nat} (different : c ≠ other)
    (msg : Message) {s : Shared (AuthApp D) Empty}
    (inv : LineInv lzo (authServer lzo odbc beyond) c s) (echoed : Echoed lzo c done [] s) :
    (calmPool lzo odbc beyond c).wp (authHandle lzo odbc beyond other msg)
      (fun _done => Echoed lzo c done []) s := by
  apply wp_authHandle (closing_keepsOpen c other) (stable_echoed done []) _ _ _ msg inv echoed
  · intro framed s inv echoed
    exact ⟨LineInv.sent inv other framed,
      echoed.elsewhere different ((s.conns other).send_silent lzo framed)⟩
  · intro s inv echoed
    exact ⟨LineInv.tested inv other fun here => absurd here different,
      echoed.elsewhere different ((s.conns other).silent_writer _)⟩
  · intro app s inv echoed
    exact ⟨LineInv.queried inv app, echoed.congr rfl rfl echoed.split⟩

/-- A handler at work for the connection once it is no longer watched. -/
theorem wp_authHandle_unwatched {done : List Message} (msg : Message)
    {s : Shared (AuthApp D) Empty} (inv : LineInv lzo (authServer lzo odbc beyond) c s)
    (split : takenFrom c s = done) (present : c < s.accepted) (unwatched : ¬Watched lzo c s) :
    (calmPool lzo odbc beyond c).wp (authHandle lzo odbc beyond c msg)
      (fun _done => Echoed lzo c done []) s := by
  have stable : (calmPool lzo odbc beyond c).Stable fun s =>
      takenFrom c s = done ∧ c < s.accepted ∧ ¬Watched lzo c s :=
    (stable_takenFrom done).and stable_unwatched
  have still : ∀ (s : Shared (AuthApp D) Empty) (session : Session),
      (s.conns c).Silent session → ¬Watched lzo c s → ¬Watched lzo c (s.setConn c session) :=
    fun s session silent unwatched watched => unwatched (watched.setConn silent)
  refine Interference.wp_mono ?_ (wp_authHandle (closing_keepsOpen c c) stable ?_ ?_ ?_ msg inv
    ⟨split, present, unwatched⟩)
  · rintro _done later _inv ⟨split, _present, unwatched⟩
    exact Echoed.unwatched split unwatched
  · rintro framed s inv ⟨split, present, unwatched⟩
    exact ⟨LineInv.sent inv c framed, split, present,
      still s _ ((s.conns c).send_silent lzo framed) unwatched⟩
  · rintro s inv ⟨split, present, unwatched⟩
    exact ⟨LineInv.tested inv c fun _here watched => absurd watched unwatched, split, present,
      still s _ ((s.conns c).silent_writer _) unwatched⟩
  · rintro app s inv ⟨split, present, unwatched⟩
    exact ⟨LineInv.queried inv app, split, present,
      fun watched => unwatched { watched with }⟩

/-! ### Sections of OnUpdate -/

theorem LineInv.flip {server : NetServer (AuthApp D) Empty} {s : Shared (AuthApp D) Empty}
    (inv : LineInv lzo server c s) : LineInv lzo server c s.flip :=
  { inv with
    recorded := { inv.recorded with }
    inbound := inv.inbound.flip
    traffic := inv.traffic.flip
    opened := fun watched => inv.opened { watched with } }

theorem takenFrom_take (s : Shared (AuthApp D) Empty) (msg : Message) (recv : MsgManager) :
    takenFrom c (s.take msg recv) = takenFrom c s ++ ofClient (clientIdOf c) [msg] :=
  ofClient_append (clientIdOf c) (takenOf s.log) [msg]

theorem LineInv.take {server : NetServer (AuthApp D) Empty} {s : Shared (AuthApp D) Empty}
    (inv : LineInv lzo server c s) {msg : Message} {recv : MsgManager}
    (taken : s.recv.getMsg = some (msg, recv)) : LineInv lzo server c (s.take msg recv) := by
  refine
    { recorded :=
        { count := inv.recorded.count
          nextId := inv.recorded.nextId
          clientIds := inv.recorded.clientIds
          sessions := inv.recorded.sessions
          app := trivial
          order := ⟨trivial, inv.recorded.order⟩ }
      inbound := inv.inbound.take taken
      traffic := (inv.traffic.take taken).2
      leaving := inv.leaving
      gone := ?_
      opened := ?_ }
  · intro clientId gone
    exact inv.gone clientId ((List.mem_cons.mp gone).resolve_left (by simp))
  · intro watched fits
    rw [takenFrom_take] at fits
    exact inv.opened { watched with } fun other member => fits other (List.mem_append_left _ member)

theorem LineInv.begun {server : NetServer (AuthApp D) Empty} {s : Shared (AuthApp D) Empty}
    (inv : LineInv lzo server c s) {msg : Message} {other : Nat}
    (last : lastDispatch s.log = some (.taken msg))
    (found : s.sessions.lookup msg.clientId = some other) :
    LineInv lzo server c { s with log := .begun other msg :: s.log } := by
  refine
    { recorded :=
        { count := inv.recorded.count
          nextId := inv.recorded.nextId
          clientIds := inv.recorded.clientIds
          sessions := inv.recorded.sessions
          app := trivial
          order := ⟨⟨last, (inv.recorded.sessions _).symm.trans found⟩, inv.recorded.order⟩ }
      inbound := { inv.inbound with }
      traffic := { inv.traffic with }
      leaving := inv.leaving
      gone := ?_
      opened := fun watched => inv.opened { watched with } }
  intro clientId gone
  exact inv.gone clientId ((List.mem_cons.mp gone).resolve_left (by simp))

theorem Watched.flushAll {s : Shared (AuthApp D) Empty} (watched : Watched lzo c (s.flushAll lzo)) :
    Watched lzo c s :=
  watched.earlier watched.present (Nat.le_refl _)
    ((s.flushAll_silent lzo c).received ▸ List.prefix_rfl)

theorem LineInv.flushAll {server : NetServer (AuthApp D) Empty} {s : Shared (AuthApp D) Empty}
    (inv : LineInv lzo server c s) : LineInv lzo server c (s.flushAll lzo) := by
  have marks := s.flushAll_marks lzo c
  refine
    { recorded := { inv.recorded with clientIds := ?_ }
      inbound := inv.inbound.flushAll
      traffic := inv.traffic.flushAll lzo
      leaving := inv.leaving.congr marks
      gone := fun clientId gone => Writer.closed_congr (inv.gone clientId gone) marks
      opened := fun watched fits => (inv.opened watched.flushAll fits).congr marks }
  intro other present
  rw [s.flushAll_clientId]
  exact inv.recorded.clientIds other present

/-- The flush loop visits an open connection and empties its buffer. -/
theorem AllAnswered.flushAll {server : NetServer (AuthApp D) Empty}
    {s : Shared (AuthApp D) Empty} (inv : LineInv lzo server c s)
    (answered : AllAnswered lzo c s) : Delivered lzo c (s.flushAll lzo) := by
  refine { answered := { split := answered.split, carries := ?_, refused := ?_ }, flushed := ?_ }
  · intro watched fits
    have keeps : ∀ session : Session,
        Carries lzo.toLzoApi session ((takenFrom c s).map Message.bytes) →
          Carries lzo.toLzoApi (session.flush lzo) ((takenFrom c s).map Message.bytes) :=
      fun _session carries => carries.flush
    exact s.flushAll_keeps keeps (answered.carries watched.flushAll fits)
  · intro watched large
    exact Writer.closed_congr (answered.refused watched.flushAll large) (s.flushAll_marks lzo c)
  · intro watched fits
    have found := inv.found watched.flushAll (inv.opened watched.flushAll fits).closed
    exact Shared.flushAll_pending lzo found

/-! ### Dispatch -/

/-- A message without a session: its connection is closed, or it is not the watched
one. -/
theorem Echoed.missing {server : NetServer (AuthApp D) Empty} {s : Shared (AuthApp D) Empty}
    {done : List Message} {msg : Message} (inv : LineInv lzo server c s)
    (echoed : Echoed lzo c done (ofClient (clientIdOf c) [msg]) s)
    (absent : s.sessions.lookup msg.clientId = none) : AllAnswered lzo c s := by
  by_cases own : msg.clientId = clientIdOf c
  · have split := echoed.split
    rw [ofClient_own own] at split
    have closed : Watched lzo c s → (s.conns c).writer.closed = true := by
      intro watched
      by_contra still
      have found := inv.found watched (Bool.eq_false_iff.mpr still)
      rw [← own, absent] at found
      cases found
    rw [AllAnswered, split]
    refine { split := split.trans (List.append_nil _).symm, carries := ?_, refused := ?_ }
    · intro watched fits
      have opened := (inv.opened watched (split ▸ fits)).closed
      rw [closed watched] at opened
      cases opened
    · exact fun watched _some => closed watched
  · rw [ofClient_other own] at echoed
    exact echoed.answered

/-- The handler of a message whose session dispatch has found. -/
theorem wp_handle {done : List Message} {msg : Message} {other : Nat} (admitted : msg.Admitted)
    {s : Shared (AuthApp D) Empty} (inv : LineInv lzo (authServer lzo odbc beyond) c s)
    (echoed : Echoed lzo c done (ofClient (clientIdOf c) [msg]) s)
    (present : other < s.accepted) (ownId : msg.clientId = clientIdOf other) :
    (calmPool lzo odbc beyond c).wp (authHandle lzo odbc beyond other msg)
      (fun _done => AllAnswered lzo c) s := by
  have weaken : ∀ {messages : List Message} {thread : Thread (Shared (AuthApp D) Empty) Unit},
      (calmPool lzo odbc beyond c).wp thread (fun _done => Echoed lzo c messages []) s →
        (calmPool lzo odbc beyond c).wp thread (fun _done => AllAnswered lzo c) s :=
    Interference.wp_mono fun _done _later _inv echoed => echoed.answered
  by_cases here : c = other
  · subst here
    rw [ofClient_own ownId] at echoed
    by_cases watched : Watched lzo c s
    · have member : msg ∈ takenFrom c s := by
        rw [echoed.split]
        exact List.mem_append_right _ List.mem_cons_self
      have plain : authHandle lzo odbc beyond c msg = echo lzo c msg :=
        if_neg (inv.taken watched member).2
      rw [plain]
      exact weaken (wp_echo_own admitted inv echoed present)
    · exact weaken (wp_authHandle_unwatched msg inv rfl present watched)
  · by_cases sameId : msg.clientId = clientIdOf c
    · -- two connections share the client id, so neither of them is watched
      have unwatched : ¬Watched lzo c s := by
        intro watched
        exact here (watched.own other present (ownId.symm.trans sameId)).symm
      exact weaken (wp_authHandle_elsewhere here msg inv (Echoed.unwatched rfl unwatched))
    · rw [ofClient_other sameId] at echoed
      exact weaken (wp_authHandle_elsewhere here msg inv echoed)

theorem wp_dispatch_line {s : Shared (AuthApp D) Empty} {msg : Message} {recv : MsgManager}
    (inv : LineInv lzo (authServer lzo odbc beyond) c s) (answered : AllAnswered lzo c s)
    (taken : s.recv.getMsg = some (msg, recv)) :
    (calmPool lzo odbc beyond c).wp (dispatch (authServer lzo odbc beyond) msg)
      (fun _done => AllAnswered lzo c) (s.take msg recv) := by
  have admitted := (inv.traffic.take taken).1
  have echoed : Echoed lzo c (takenFrom c s) (ofClient (clientIdOf c) [msg]) (s.take msg recv) :=
    answered.congr rfl rfl (takenFrom_take s msg recv)
  have stable : (pool lzo (authServer lzo odbc beyond).onClose
      (lineInv_kept lzo (authServer lzo odbc beyond) c)).Stable fun later =>
      lastDispatch later.log = some (.taken msg) ∧
        Echoed lzo c (takenFrom c s) (ofClient (clientIdOf c) [msg]) later := by
    refine Interference.Stable.and ?_ (stable_echoed _ _)
    intro s later _inv last moved
    obtain ⟨event, _keeps, same⟩ := moved
    rw [same]
    exact lasting_pool (lasting_lastDispatch _) (s.io_poolStep lzo keepApp event) last
  refine wp_dispatch stable stable_answered ?_ ?_ (inv.take taken)
    ⟨Histories.previous_here rfl _, echoed⟩
  · rintro s inv ⟨_last, echoed⟩ absent
    exact echoed.missing inv absent
  · rintro s other inv ⟨last, echoed⟩ found
    have begun := LineInv.begun inv last found
    have opened := sessionsOf_accepted begun.recorded.order.2
      ((begun.recorded.sessions _).symm.trans found)
    rw [inv.recorded.count] at opened
    exact ⟨begun, wp_handle admitted begun (echoed.congr rfl rfl echoed.split) opened.1 opened.2⟩

/-- The loop of OnUpdate, seen from one connection. -/
def authLine (lzo : Lzo) (odbc : OdbcDb D) (beyond : Message → Bytes) (c : Nat) :
    LoopProof lzo (authServer lzo odbc beyond) where
  allowed := KeepsOpen c
  inv := LineInv lzo (authServer lzo odbc beyond) c
  idle := Delivered lzo c
  loop := AllAnswered lzo c
  kept := lineInv_kept lzo (authServer lzo odbc beyond) c
  idle_io := by
    intro s event _keeps inv delivered
    exact delivered.io inv event
  loop_io := by
    intro s event _keeps inv answered
    exact answered.io inv event
  flipped := by
    intro s inv delivered
    have answered := delivered.answered
    exact ⟨inv.flip, answered.congr rfl rfl answered.split⟩
  dispatched := by
    intro s msg recv inv answered taken
    exact ⟨inv.take taken, wp_dispatch_line inv answered taken⟩
  finished := by
    intro s inv answered _drained
    exact ⟨inv.flushAll, answered.flushAll inv⟩

end Loop

/-! ### End to end -/

/-- The messages that a session has received. -/
def decoded (lzo : Lzo) (session : Session) : List Message := (framerFeed lzo [] session.received).out

/-- A message as the peer sees it. -/
def wire (msg : Message) : UInt32 × Bytes := (msg.type, msg.payload)

/-- A connection with a client id of its own, whose client has sent nothing but
messages that the framer accepts and that ask for no certification. -/
structure EchoClient (lzo : Lzo) (c : Nat) (s : Shared (AuthApp D) Empty) : Prop where
  present : c < s.accepted
  own : ∀ other, other < s.accepted → (s.conns other).clientId = (s.conns c).clientId → other = c
  accepted : (framerFeed lzo [] (s.conns c).received).ok = true
  types : ∀ msg ∈ decoded lzo (s.conns c), msg.type ≠ netMsgAuthCertificationRequest

/-- OnUpdate has returned, and no message of the connection waits for dispatch. -/
structure Answered (c : Nat) (sys : System (AuthApp D) Empty) : Prop where
  idle : sys.tick.isIdle = true
  delivered : (sys.shared.conns c).delivering = []
  dispatched : ∀ msg ∈ sys.shared.recv.back ++ sys.shared.recv.front,
    msg.clientId ≠ (sys.shared.conns c).clientId

/-- Nobody closes the session, and the packets enqueued for its client decode to what
the client sent. -/
structure EchoesAll (lzo : Lzo) (session : Session) : Prop where
  opened : session.writer.Open
  accepted : (framerFeed lzo [] session.enqueuedBytes.flatten).ok = true
  messages : (framerFeed lzo [] session.enqueuedBytes.flatten).out.map wire =
    (decoded lzo session).map wire

theorem decoded_of_running {lzo : Lzo} {session : Session}
    (running : (session.parse lzo).stopped = none) :
    decoded lzo session = (session.parse lzo).messages := by
  change ((frameCutter lzo.toLzoApi).run ([] ++ session.received)).stopped = none at running
  rw [decoded, framerFeed_running lzo running]
  rfl

section EndToEnd

variable {lzo : Lzo} {server : NetServer (AuthApp D) Empty} {c : Nat}

theorem EchoClient.watched {s : Shared (AuthApp D) Empty} (client : EchoClient lzo c s)
    (inv : LineInv lzo server c s) : Watched lzo c s := by
  have running := framerFeed_ok client.accepted
  have types := client.types
  rw [decoded_of_running running] at types
  refine { present := client.present, own := ?_, stream := { accepted := running, types := types } }
  intro other bound same
  apply client.own other bound
  rw [inv.recorded.clientIds other bound, inv.recorded.clientIds c client.present]
  exact same

/-- What was taken and what still waits is what was received. -/
theorem LineInv.flow {s : Shared (AuthApp D) Empty} (inv : LineInv lzo server c s)
    (watched : Watched lzo c s) :
    takenFrom c s ++ (ofClient (clientIdOf c) (s.recv.back ++ s.recv.front) ++
      (s.conns c).delivering) = (decoded lzo (s.conns c)).map (stamp (clientIdOf c)) := by
  have running := watched.stream.accepted
  have lane := (inv.inbound.lanes c watched.present watched.own running).flow
  rw [Shared.passed, List.append_assoc, ofClient_append, List.append_assoc] at lane
  rw [decoded_of_running running]
  exact lane

theorem LineInv.fits_taken {s : Shared (AuthApp D) Empty} (inv : LineInv lzo server c s)
    (watched : Watched lzo c s) (fits : ∀ msg ∈ decoded lzo (s.conns c), Fits msg) :
    ∀ msg ∈ takenFrom c s, Fits msg := by
  intro msg member
  have received : msg ∈ (decoded lzo (s.conns c)).map (stamp (clientIdOf c)) := by
    rw [← inv.flow watched]
    exact List.mem_append_left _ member
  obtain ⟨original, present, same⟩ := List.mem_map.mp received
  rw [← same]
  exact fits original present

theorem LineInv.taken_all {sys : System (AuthApp D) Empty}
    (inv : LineInv lzo server c sys.shared) (watched : Watched lzo c sys.shared)
    (answered : Answered c sys) :
    takenFrom c sys.shared = (decoded lzo (sys.shared.conns c)).map (stamp (clientIdOf c)) := by
  have flow := inv.flow watched
  have clientId := inv.recorded.clientIds c watched.present
  have waiting : ofClient (clientIdOf c) (sys.shared.recv.back ++ sys.shared.recv.front) = [] := by
    apply List.filter_eq_nil_iff.mpr
    intro msg member
    rw [decide_eq_true_eq, ← clientId]
    exact answered.dispatched msg member
  rwa [waiting, answered.delivered, List.append_nil, List.append_nil] at flow

theorem wire_ofFrame {msg : Message} (framed : msg.Framed) :
    wire (Message.ofFrame msg.bytes) = wire msg := by
  change (wordAt msg.bytes 4, msg.payload) = (msg.type, msg.payload)
  rw [framed.type]

/-- Everything was taken, sent and flushed: the packets decode to what was received. -/
theorem Delivered.decodes {s : Shared (AuthApp D) Empty} (roundTrip : lzo.RoundTrip)
    (inv : LineInv lzo server c s) (delivered : Delivered lzo c s) (watched : Watched lzo c s)
    (all : takenFrom c s = (decoded lzo (s.conns c)).map (stamp (clientIdOf c)))
    (fits : ∀ msg ∈ takenFrom c s, Fits msg) : EchoesAll lzo (s.conns c) := by
  obtain ⟨messages, parsed, split, _rest⟩ :=
    (delivered.answered.carries watched fits).decode roundTrip
  rw [delivered.flushed watched fits, Cutter.run_of_wait _ (show innerCutter.cut [] = .wait from rfl),
    List.append_nil] at split
  have running : ((frameCutter lzo.toLzoApi).run ([] ++ (s.conns c).enqueuedBytes.flatten)).stopped =
      none := congrArg Parse.stopped parsed
  have fed := framerFeed_running lzo running
  refine { opened := inv.opened watched fits, accepted := congrArg FeedResult.ok fed, messages := ?_ }
  have out : (framerFeed lzo [] (s.conns c).enqueuedBytes.flatten).out = messages := by
    rw [fed]
    exact congrArg Parse.messages parsed
  rw [out, split, List.map_map, List.map_map]
  calc (takenFrom c s).map (wire ∘ Message.ofFrame ∘ Message.bytes)
      = (takenFrom c s).map wire :=
        List.map_congr_left fun msg member => wire_ofFrame (inv.taken watched member).1
    _ = (decoded lzo (s.conns c)).map (wire ∘ stamp (clientIdOf c)) := by
        rw [all, List.map_map]
    _ = (decoded lzo (s.conns c)).map wire := rfl

end EndToEnd

theorem authLine_start (lzo : Lzo) (odbc : OdbcDb D) (beyond : Message → Bytes) (db : D) (c : Nat) :
    (authLine lzo odbc beyond c).inv (.start { db := db }) ∧
      (authLine lzo odbc beyond c).idle (.start { db := db }) := by
  have absent : ¬Watched lzo c (.start { db := db } : Shared (AuthApp D) Empty) :=
    fun watched => absurd watched.present (Nat.not_lt_zero c)
  constructor
  · exact
      { recorded :=
          { count := rfl
            nextId := rfl
            clientIds := by
              intro other present
              cases present
            sessions := fun _clientId => rfl
            app := trivial
            order := trivial }
        inbound := inbound_start lzo _
        traffic :=
          { delivering := by
              intro other msg impossible
              cases impossible
            queued := by
              intro msg impossible
              cases impossible }
        leaving := Writer.leaving_new
        gone := by
          intro clientId impossible
          cases impossible
        opened := fun watched => absurd watched absent }
  · exact
      { answered := Echoed.unwatched rfl absent
        flushed := fun watched => absurd watched absent }

/-- Echo end to end, for every run in which neither a read nor a write on the
connection fails.  As long as every message received fits the send buffer, nobody
closes the connection.  Once all of them are answered, the client has been sent back
what it sent if and only if each of them fits. -/
theorem auth_echo_iff (lzo : Lzo) (roundTrip : lzo.RoundTrip) (odbc : OdbcDb D)
    (beyond : Message → Bytes) (db : D) (events : List Event) (c : Nat)
    (keeps : ∀ event, .io event ∈ events → KeepsOpen c event)
    (client : EchoClient lzo c (run (authStep lzo odbc beyond) (authStart db) events).shared) :
    ((∀ msg ∈ decoded lzo ((run (authStep lzo odbc beyond) (authStart db) events).shared.conns c),
        Fits msg) →
      ((run (authStep lzo odbc beyond) (authStart db) events).shared.conns c).writer.Open) ∧
    (Answered c (run (authStep lzo odbc beyond) (authStart db) events) →
      (EchoesAll lzo ((run (authStep lzo odbc beyond) (authStart db) events).shared.conns c) ↔
        ∀ msg ∈ decoded lzo ((run (authStep lzo odbc beyond) (authStart db) events).shared.conns c),
          Fits msg)) := by
  have permitted : ∀ event ∈ events, (authLine lzo odbc beyond c).Permitted event := by
    intro event member
    cases event with
    | io event => exact keeps event member
    | update => trivial
    | next => trivial
  obtain ⟨start, idle⟩ := authLine_start lzo odbc beyond db c
  have holds := (authLine lzo odbc beyond c).run_holds start idle permitted
  change (authLine lzo odbc beyond c).Holds
    (run (authStep lzo odbc beyond) (authStart db) events) at holds
  generalize run (authStep lzo odbc beyond) (authStart db) events = sys at client holds ⊢
  have inv : LineInv lzo (authServer lzo odbc beyond) c sys.shared := holds.inv
  have watched := client.watched inv
  refine ⟨fun fits => inv.opened watched (inv.fits_taken watched fits), ?_⟩
  intro answered
  have delivered : Delivered lzo c sys.shared := by
    have tick := holds.tick
    have idle := answered.idle
    cases phase : sys.tick with
    | idle =>
        rw [phase] at tick
        exact tick
    | draining =>
        rw [phase] at idle
        cases idle
    | running thread =>
        rw [phase] at idle
        cases idle
  have all := inv.taken_all watched answered
  constructor
  · intro echoes msg member
    by_contra large
    have taken : stamp (clientIdOf c) msg ∈ takenFrom c sys.shared := by
      rw [all]
      exact List.mem_map_of_mem member
    have closed := delivered.answered.refused watched ⟨_, taken, large⟩
    rw [echoes.opened.closed] at closed
    cases closed
  · intro fits
    exact delivered.decodes roundTrip inv watched all (inv.fits_taken watched fits)

/-- A run in which one client sends one message. -/
def echoRun (frame : Bytes) : System (AuthApp Script) Empty :=
  run (authStep literalLzo (scriptedDb 7) fun _msg => []) (authStart (.start []))
    (oneClient [frame] 9)

theorem keepsOpen_oneClient (frames : List Bytes) (sections : Nat) :
    ∀ event, .io event ∈ oneClient frames sections → KeepsOpen 0 event := by
  intro event member
  simp only [oneClient, List.mem_append, List.mem_cons, List.mem_replicate, List.not_mem_nil,
    Event.io.injEq, or_false, reduceCtorEq, and_false] at member
  rcases member with (same | same) | ⟨_some, same⟩
  · exact same ▸ ⟨nofun, nofun⟩
  · exact same ▸ ⟨nofun, nofun⟩
  · exact same ▸ ⟨nofun, nofun⟩

theorem echoClient_echoRun {frame : Bytes} (one : (echoRun frame).shared.accepted = 1)
    (accepted : (framerFeed literalLzo [] ((echoRun frame).shared.conns 0).received).ok = true)
    (types : ∀ msg ∈ decoded literalLzo ((echoRun frame).shared.conns 0),
      msg.type ≠ netMsgAuthCertificationRequest) :
    EchoClient literalLzo 0 (echoRun frame).shared := by
  refine { present := by rw [one]; exact Nat.one_pos, own := ?_, accepted := accepted, types := types }
  intro other bound _same
  rw [one] at bound
  omega

theorem auth_echo_iff_small :
    EchoesAll literalLzo ((echoRun (encodeMessage 101 [1, 2, 3])).shared.conns 0) := by
  have client : EchoClient literalLzo 0 (echoRun (encodeMessage 101 [1, 2, 3])).shared :=
    echoClient_echoRun (by decide +kernel) (by decide +kernel) (by decide +kernel)
  have fits : ∀ msg ∈ decoded literalLzo ((echoRun (encodeMessage 101 [1, 2, 3])).shared.conns 0),
      Fits msg := by decide +kernel
  have answered : Answered 0 (echoRun (encodeMessage 101 [1, 2, 3])) :=
    { idle := by decide +kernel
      delivered := by decide +kernel
      dispatched := by decide +kernel }
  unfold echoRun at client fits answered ⊢
  exact ((auth_echo_iff literalLzo literalLzo_roundTrip (scriptedDb 7) _ _ _ 0
    (keepsOpen_oneClient _ _) client).2 answered).mpr fits

/-- A message of 2049 bytes, which the framer admits and addMsg refuses. -/
def largeFrame : Bytes := encodeMessage 101 (List.replicate 2041 0)

theorem auth_echo_refused :
    (∀ event, .io event ∈ oneClient [largeFrame] 9 → KeepsOpen 0 event) ∧
      EchoClient literalLzo 0 (echoRun largeFrame).shared ∧ Answered 0 (echoRun largeFrame) ∧
      ¬EchoesAll literalLzo ((echoRun largeFrame).shared.conns 0) := by
  refine ⟨keepsOpen_oneClient _ _, ?_, ?_, ?_⟩
  · exact echoClient_echoRun (by decide +kernel) (by decide +kernel) (by decide +kernel)
  · exact
      { idle := by decide +kernel
        delivered := by decide +kernel
        dispatched := by decide +kernel }
  · intro echoes
    exact absurd echoes.opened.closed (by decide +kernel)

end RanOnline.Servers
