/-
How a connection comes to be closed, seen from outside its write side: the marks
that Close leaves, and the steps that can set them.
-/
import RanOnline.Net.Inbound

namespace RanOnline.Net

open Memory Threads Histories

variable {α ω : Type}

namespace Writer

/-- What the callers of Close change. -/
def marks (w : Writer) : Bool × Nat × Nat × Nat := (w.closed, w.testing, w.clearing, w.notifying)

/-- m_closed is not set, and nobody is about to set it. -/
structure Open (w : Writer) : Prop where
  closed : w.closed = false
  testing : w.testing = 0

/-- Whoever clears the queue or calls m_onClose has set m_closed before. -/
def Leaving (w : Writer) : Prop := w.clearing ≠ 0 ∨ w.notifying ≠ 0 → w.closed = true

theorem open_new : new.Open :=
  { closed := rfl
    testing := rfl }

theorem leaving_new : new.Leaving := by
  intro impossible
  rcases impossible with clearing | notifying
  · exact absurd rfl clearing
  · exact absurd rfl notifying

theorem Open.congr {before after : Writer} (kept : before.Open)
    (same : after.marks = before.marks) : after.Open := by
  simp only [marks, Prod.mk.injEq] at same
  exact
    { closed := same.1.trans kept.closed
      testing := same.2.1.trans kept.testing }

theorem Leaving.congr {before after : Writer} (leaving : before.Leaving)
    (same : after.marks = before.marks) : after.Leaving := by
  simp only [marks, Prod.mk.injEq] at same
  rw [Leaving, same.1, same.2.2.1, same.2.2.2]
  exact leaving

theorem closed_congr {before after : Writer} (closed : before.closed = true)
    (same : after.marks = before.marks) : after.closed = true :=
  (congrArg Prod.fst same).trans closed

theorem closeTest_closed {w : Writer} (closed : w.closed = true) : w.closeTest = w := by
  rw [closeTest, if_pos closed]

theorem fail_marks (w : Writer) (index : Nat) :
    (w.fail index).marks = w.marks ∨ (w.fail index).marks = w.closeTest.marks := by
  unfold fail
  split
  · exact Or.inl rfl
  · right
    simp only [closeTest]
    split <;> rfl

/-- m_closed is never reset. -/
theorem step_closed {w : Writer} (closed : w.closed = true) (event : Event) :
    (w.step event).closed = true := by
  cases event with
  | enqueue bytes => exact closed
  | pick =>
      simp only [step, pick]
      split
      · exact closed
      · split <;> exact closed
  | launch index =>
      simp only [step, launch]
      split <;> exact closed
  | succeed index =>
      simp only [step, succeed]
      split <;> exact closed
  | fail index =>
      rcases w.fail_marks index with same | same
      · exact closed_congr closed same
      · rw [closeTest_closed closed] at same
        exact closed_congr closed same
  | closeTest =>
      change w.closeTest.closed = true
      rw [closeTest_closed closed]
      exact closed
  | closeMark =>
      simp only [step, closeMark]
      split
      · exact closed
      · rfl
  | closeClear =>
      simp only [step, closeClear]
      split <;> exact closed
  | closeNotify =>
      simp only [step, closeNotify]
      split <;> exact closed

theorem closeTest_leaving {w : Writer} (leaving : w.Leaving) : w.closeTest.Leaving := by
  unfold closeTest
  split <;> exact leaving

theorem step_leaving {w : Writer} (leaving : w.Leaving) (event : Event) :
    (w.step event).Leaving := by
  cases event with
  | enqueue bytes => exact leaving
  | pick =>
      simp only [step, pick]
      split
      · exact leaving
      · split <;> exact leaving
  | launch index =>
      simp only [step, launch]
      split <;> exact leaving
  | succeed index =>
      simp only [step, succeed]
      split <;> exact leaving
  | fail index =>
      rcases w.fail_marks index with same | same
      · exact leaving.congr same
      · exact (closeTest_leaving leaving).congr same
  | closeTest => exact closeTest_leaving leaving
  | closeMark =>
      simp only [step, closeMark]
      split
      · exact leaving
      · exact fun _counts => rfl
  | closeClear =>
      simp only [step, closeClear]
      split
      · exact leaving
      · rename_i clearing counted
        exact fun _counts => leaving (Or.inl (by rw [counted]; omega))
  | closeNotify =>
      simp only [step, closeNotify]
      split
      · exact leaving
      · rename_i notifying counted
        exact fun _counts => leaving (Or.inr (by rw [counted]; omega))

/-- A thread that has found m_closed unset will set it. -/
def Doomed (w : Writer) : Prop := w.testing ≠ 0 ∨ w.closed = true

theorem closeTest_doomed (w : Writer) : w.closeTest.Doomed := by
  unfold closeTest
  split
  · rename_i closed
    exact Or.inr closed
  · exact Or.inl (Nat.succ_ne_zero _)

theorem closeMark_closed {w : Writer} (doomed : w.Doomed) : w.closeMark.closed = true := by
  rcases doomed with testing | closed
  · obtain ⟨rest, counted⟩ := Nat.exists_eq_succ_of_ne_zero testing
    simp only [closeMark, counted]
  · exact step_closed closed .closeMark

theorem step_doomed {w : Writer} (doomed : w.Doomed) (event : Event) : (w.step event).Doomed := by
  rcases doomed with testing | closed
  · cases event with
    | enqueue bytes => exact Or.inl testing
    | pick =>
        simp only [step, pick]
        split
        · exact Or.inl testing
        · split <;> exact Or.inl testing
    | launch index =>
        simp only [step, launch]
        split <;> exact Or.inl testing
    | succeed index =>
        simp only [step, succeed]
        split <;> exact Or.inl testing
    | fail index =>
        simp only [step, fail]
        split
        · exact Or.inl testing
        · exact closeTest_doomed _
    | closeTest => exact w.closeTest_doomed
    | closeMark => exact Or.inr (closeMark_closed (Or.inl testing))
    | closeClear =>
        simp only [step, closeClear]
        split <;> exact Or.inl testing
    | closeNotify =>
        simp only [step, closeNotify]
        split <;> exact Or.inl testing
  · exact Or.inr (step_closed closed event)

/-- Without a thread in Close, only a failed write starts one. -/
theorem step_open {w : Writer} (kept : w.Open) {event : Event} (pooled : event.pooled = true)
    (succeeds : ∀ index, event ≠ .fail index) : (w.step event).Open := by
  have closed := kept.closed
  have testing := kept.testing
  cases event with
  | enqueue => cases pooled
  | closeTest => cases pooled
  | closeNotify => cases pooled
  | fail index => exact absurd rfl (succeeds index)
  | pick =>
      simp only [step, pick]
      split
      · exact kept
      · split <;> exact { closed := closed, testing := testing }
  | launch index =>
      simp only [step, launch]
      split <;> exact { closed := closed, testing := testing }
  | succeed index =>
      simp only [step, succeed]
      split <;> exact { closed := closed, testing := testing }
  | closeMark =>
      simp only [step, closeMark]
      split
      · exact kept
      · rename_i counted
        rw [testing] at counted
        cases counted
  | closeClear =>
      simp only [step, closeClear]
      split <;> exact { closed := closed, testing := testing }

end Writer

/-! ### Send and Flush -/

theorem Session.drain_marks (lzo : Lzo) (s : Session) :
    (s.drain lzo).writer.marks = s.writer.marks := by
  simp only [Session.drain]
  split <;> rfl

theorem Session.send_marks (lzo : Lzo) (s : Session) (framed : Bytes) :
    (s.send lzo framed).1.writer.marks = s.writer.marks := by
  simp only [Session.send]
  split
  · rfl
  · rfl
  · exact Session.drain_marks lzo _
  · exact Session.drain_marks lzo _

theorem Shared.flushAll_marks (lzo : Lzo) (s : Shared α ω) (c : Nat) :
    ((s.flushAll lzo).conns c).writer.marks = (s.conns c).writer.marks :=
  s.flushAll_keeps (fun session => (Session.drain_marks lzo session).trans) rfl

/-! ### The pool and one connection -/

/-- What a step of the pool does to a connection that exists. -/
structure Session.Pooled (before after : Session) : Prop where
  quiet : before.Quiet after
  received : before.received <+: after.received
  writer : after.writer = before.writer ∨ ∃ event, after.writer = before.writer.step event

namespace Session

theorem Pooled.refl (s : Session) : s.Pooled s :=
  { quiet := .refl s
    received := List.prefix_rfl
    writer := Or.inl rfl }

theorem Pooled.closed {before after : Session} (pooled : before.Pooled after)
    (closed : before.writer.closed = true) : after.writer.closed = true := by
  rcases pooled.writer with same | ⟨event, same⟩
  · rwa [same]
  · rw [same]
    exact Writer.step_closed closed event

theorem Pooled.leaving {before after : Session} (pooled : before.Pooled after)
    (leaving : before.writer.Leaving) : after.writer.Leaving := by
  rcases pooled.writer with same | ⟨event, same⟩
  · rwa [same]
  · rw [same]
    exact Writer.step_leaving leaving event

theorem read_pooled (lzo : Lzo) (s : Session) (chunk : Bytes) : s.Pooled (s.read lzo chunk) := by
  refine { quiet := s.read_quiet lzo chunk, received := ?_, writer := ?_ }
  · simp only [read]
    split
    · split <;> exact List.prefix_append _ _
    · exact List.prefix_rfl
  · simp only [read]
    split
    · split
      · exact Or.inl rfl
      · exact Or.inr ⟨.closeTest, rfl⟩
    · exact Or.inl rfl

theorem readError_pooled (s : Session) : s.Pooled s.readError := by
  refine { quiet := s.readError_quiet, received := ?_, writer := ?_ }
  · simp only [readError]
    split <;> exact List.prefix_rfl
  · simp only [readError]
    split
    · exact Or.inr ⟨.closeTest, rfl⟩
    · exact Or.inl rfl

theorem deliver_pooled {s later : Session} {msg : Message}
    (delivered : s.deliver = some (msg, later)) : s.Pooled later := by
  refine { quiet := deliver_quiet delivered, received := ?_, writer := ?_ }
  · unfold deliver at delivered
    split at delivered
    · cases delivered
    · cases delivered
      exact List.prefix_rfl
  · unfold deliver at delivered
    split at delivered
    · cases delivered
    · cases delivered
      exact Or.inl rfl

theorem writer_pooled (s : Session) {event : Writer.Event} (pooled : event.pooled = true) :
    s.Pooled { s with writer := s.writer.step event } :=
  { quiet := by
      apply s.quiet_writer
      apply s.writer.enqueued_of_not_enqueue
      intro bytes same
      rw [same] at pooled
      cases pooled
    received := List.prefix_rfl
    writer := Or.inr ⟨event, rfl⟩ }

end Session

theorem Shared.setConn_pooled {s : Shared α ω} {c : Nat} {session : Session}
    (pooled : (s.conns c).Pooled session) (other : Nat) :
    (s.conns other).Pooled ((s.setConn c session).conns other) := by
  by_cases here : other = c
  · subst here
    rw [setConn_same]
    exact pooled
  · rw [setConn_other s here]
    exact .refl _

/-- A step of the pool is one of a session that exists, or the accept of it. -/
theorem Shared.io_pooled (lzo : Lzo) (onClose : UInt32 → α → α) (s : Shared α ω) (event : IoEvent)
    (c : Nat) : (s.conns c).Pooled ((s.io lzo onClose event).conns c) ∨
      ∃ remote, event = .accept remote ∧ c = s.accepted := by
  cases event with
  | accept remote =>
      by_cases new : c = s.accepted
      · exact Or.inr ⟨remote, rfl, new⟩
      · left
        have same : (s.accept remote).conns c = s.conns c := Function.update_of_ne new ..
        change (s.conns c).Pooled ((s.accept remote).conns c)
        rw [same]
        exact .refl _
  | read other chunk => exact Or.inl (setConn_pooled ((s.conns other).read_pooled lzo chunk) c)
  | readError other => exact Or.inl (setConn_pooled (s.conns other).readError_pooled c)
  | endpoint other remote =>
      refine Or.inl (setConn_pooled ?_ c)
      exact
        { quiet := { clientId := rfl, out := rfl, enqueued := rfl, sent := rfl }
          received := List.prefix_rfl
          writer := Or.inl rfl }
  | deliver other =>
      left
      simp only [Shared.io]
      split
      · exact .refl _
      · rename_i msg session delivered
        exact setConn_pooled (Session.deliver_pooled delivered) c
  | write other event =>
      left
      simp only [Shared.io]
      split
      · rename_i pooled
        exact setConn_pooled ((s.conns other).writer_pooled pooled) c
      · exact .refl _
  | notify other =>
      left
      simp only [Shared.io, Shared.notify]
      split
      · refine setConn_pooled ?_ c
        exact
          { quiet := (s.conns other).closeNotify_quiet
            received := List.prefix_rfl
            writer := Or.inr ⟨.closeNotify, rfl⟩ }
      · exact .refl _

theorem Shared.io_accepted (lzo : Lzo) (onClose : UInt32 → α → α) (s : Shared α ω)
    (event : IoEvent) : s.accepted ≤ (s.io lzo onClose event).accepted := by
  have step := s.io_poolStep lzo onClose event
  generalize s.io lzo onClose event = later at step
  cases step with
  | accepted remote => exact Nat.le_succ _
  | notified c leaving =>
      rw [Shared.notify_of_leaving leaving]
      exact Nat.le_refl _
  | inside c session recv quiet => exact Nat.le_refl _

/-! ### Close closes -/

section Close

variable {lzo : Lzo} {onClose : UInt32 → α → α} {allowed : IoEvent → Prop}
  {inv : Shared α ω → Prop}
  {kept : ∀ ⦃s : Shared α ω⦄ (event : IoEvent), allowed event → inv s →
    inv (s.io lzo onClose event)}

/-- What every step of a session keeps stays true of a connection that exists. -/
theorem stable_session (property : Session → Prop) {c : Nat}
    (keeps : ∀ {before after : Session}, before.Pooled after → property before → property after) :
    (pool lzo onClose kept).Stable fun s => c < s.accepted ∧ property (s.conns c) := by
  intro s later _inv holds moved
  obtain ⟨event, _permitted, same⟩ := moved
  rw [same]
  refine ⟨Nat.lt_of_lt_of_le holds.1 (s.io_accepted lzo onClose event), ?_⟩
  rcases s.io_pooled lzo onClose event c with pooled | ⟨remote, _accept, new⟩
  · exact keeps pooled holds.2
  · exact absurd holds.1 (by omega)

/-- When Close returns, m_closed is set, by this thread or by another. -/
theorem wp_closeSession_closed {c : Nat} (closing : Closing allowed c)
    {assertion : Shared α ω → Prop} (stable : (pool lzo onClose kept).Stable assertion)
    (tested : ∀ s : Shared α ω, inv s → assertion s →
      inv (s.onWriter c Writer.closeTest) ∧ assertion (s.onWriter c Writer.closeTest))
    {s : Shared α ω} (holds : inv s) (known : assertion s) (present : c < s.accepted) :
    (pool lzo onClose kept).wp (closeSession onClose c)
      (fun _done later => assertion later ∧ c < later.accepted ∧
        (later.conns c).writer.closed = true) s := by
  have stableHere : (pool lzo onClose kept).Stable fun s =>
      assertion s ∧ c < s.accepted ∧ True :=
    stable.and (stable_session (fun _session => True) fun _pooled _holds => trivial)
  have stableDoomed : (pool lzo onClose kept).Stable fun s =>
      assertion s ∧ c < s.accepted ∧ (s.conns c).writer.Doomed := by
    apply stable.and
    apply stable_session fun session => session.writer.Doomed
    intro before after pooled doomed
    rcases pooled.writer with same | ⟨event, same⟩
    · rwa [same]
    · rw [same]
      exact Writer.step_doomed doomed event
  have stableClosed : (pool lzo onClose kept).Stable fun s =>
      assertion s ∧ c < s.accepted ∧ (s.conns c).writer.closed = true :=
    stable.and (stable_session (fun session => session.writer.closed = true)
      fun pooled closed => pooled.closed closed)
  refine Interference.wp_section stableHere holds ⟨known, present, trivial⟩ ?_
  intro s holds here
  obtain ⟨holds, known⟩ := tested s holds here.1
  have same : (s.onWriter c Writer.closeTest).conns c =
      { s.conns c with writer := (s.conns c).writer.closeTest } := s.setConn_same c _
  refine ⟨holds, ?_⟩
  split
  · rename_i closed
    refine Interference.wp_ret stableClosed holds ⟨known, here.2.1, ?_⟩
    rw [same]
    exact Writer.step_closed closed .closeTest
  · have doomed : ((s.onWriter c Writer.closeTest).conns c).writer.Doomed := by
      rw [same]
      exact Writer.closeTest_doomed _
    refine Interference.wp_section stableDoomed holds ⟨known, here.2.1, doomed⟩ ?_
    intro s holds doomed
    have marked : ((s.onWriter c Writer.closeMark).conns c).writer.closed = true := by
      rw [Shared.onWriter, Shared.setConn_same]
      exact Writer.closeMark_closed doomed.2.2
    have marking := kept (.write c .closeMark) closing.mark holds
    have known := stable holds doomed.1 ⟨.write c .closeMark, closing.mark, rfl⟩
    refine ⟨marking, Interference.wp_section stableClosed marking ⟨known, doomed.2.1, marked⟩ ?_⟩
    intro s holds closed
    have cleared := stableClosed holds closed ⟨.write c .closeClear, closing.clear, rfl⟩
    have clearing := kept (.write c .closeClear) closing.clear holds
    refine ⟨clearing, Interference.wp_last stableClosed clearing cleared (fun _done => stableClosed) ?_⟩
    intro s holds closed
    exact ⟨kept (.notify c) closing.notify holds,
      stableClosed holds closed ⟨.notify c, closing.notify, rfl⟩⟩

end Close

end RanOnline.Net
