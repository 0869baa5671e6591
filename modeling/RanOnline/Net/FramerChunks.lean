/-
The framer under arbitrary cuts of its input.

TCP hands a stream over in pieces of its own choosing.  What MessageFramer makes
of it is compared here between the pieces and the stream as a whole.
-/
import RanOnline.Net.Framer

namespace RanOnline.Net

open Memory StreamCut

/-- One `feed` after another, as long as each of them returns true. -/
def feedChunks (lzo : LzoApi) : Bytes → List Bytes → Checked FeedResult
  | mBuf, [] => pure { ok := true, out := [], buf := mBuf }
  | mBuf, chunk :: chunks => do
      let first ← feed lzo mBuf chunk
      if first.ok then
        let later ← feedChunks lzo first.buf chunks
        pure { later with out := first.out ++ later.out }
      else pure first

/-- The verdict, the messages and, on success, the bytes kept for the next call. -/
def FeedResult.observed (result : FeedResult) : Bool × List Message × Option Bytes :=
  (result.ok, result.out, if result.ok then some result.buf else none)

def parseObserved (parse : Parse UInt8 Message FeedStop) :
    Checked (Bool × List Message × Option Bytes) :=
  match parse.stopped with
  | none => .ok (true, parse.messages, some parse.rest)
  | some .protocolError => .ok (false, parse.messages, none)
  | some (.fault fault) => .error fault

theorem parseObserved_congr {left right : Parse UInt8 Message FeedStop}
    (messages : left.messages = right.messages) (stopped : left.stopped = right.stopped)
    (rest : left.stopped = none → left.rest = right.rest) :
    parseObserved left = parseObserved right := by
  simp only [parseObserved, messages, ← stopped]
  cases stop : left.stopped with
  | none => rw [rest stop]
  | some reason => cases reason <;> rfl

theorem feed_observed (lzo : LzoApi) (mBuf data : Bytes) :
    (feed lzo mBuf data).map FeedResult.observed =
      parseObserved ((frameCutter lzo).run (mBuf ++ data)) := by
  rw [feed_eq]
  simp only [feedOutcome, parseObserved]
  cases ((frameCutter lzo).run (mBuf ++ data)).stopped with
  | none => rfl
  | some reason => cases reason <;> rfl

private def observedAfter (earlier : List Message)
    (observed : Bool × List Message × Option Bytes) : Bool × List Message × Option Bytes :=
  (observed.1, earlier ++ observed.2.1, observed.2.2)

private theorem parseObserved_after (earlier : List Message)
    (parse : Parse UInt8 Message FeedStop) :
    parseObserved (parse.after earlier) = (parseObserved parse).map (observedAfter earlier) := by
  simp only [parseObserved, Parse.after_stopped, Parse.after_messages, Parse.after_rest]
  cases parse.stopped with
  | none => rfl
  | some reason => cases reason <;> rfl

theorem feedChunks_observed (lzo : LzoApi) (chunks : List Bytes) (mBuf : Bytes) :
    (feedChunks lzo mBuf chunks).map FeedResult.observed =
      parseObserved ((frameCutter lzo).feedAll mBuf chunks) := by
  induction chunks generalizing mBuf with
  | nil => rfl
  | cons chunk chunks ih =>
      simp only [feedChunks, feed_eq, feedOutcome, Cutter.feedAll]
      cases stop : ((frameCutter lzo).run (mBuf ++ chunk)).stopped with
      | some reason =>
          simp only [parseObserved, stop]
          cases reason <;> rfl
      | none =>
          simp only [ok_bind, if_true, parseObserved_after, ← ih]
          cases feedChunks lzo ((frameCutter lzo).run (mBuf ++ chunk)).rest chunks <;> rfl

theorem feedChunks_eq_feed (lzo : LzoApi) (mBuf : Bytes) (chunks : List Bytes)
    (waiting : chunks = [] → (frameCutter lzo).cut mBuf = .wait) :
    (feedChunks lzo mBuf chunks).map FeedResult.observed =
      (feed lzo mBuf chunks.flatten).map FeedResult.observed := by
  rw [feedChunks_observed, feed_observed]
  have agree := Cutter.feedAll_eq (frameCutter_stable lzo) chunks mBuf waiting
  exact parseObserved_congr agree.1 agree.2.1 agree.2.2

/-- A stream that the framer uses up is used up however it is cut. -/
theorem feedChunks_of_run (lzo : LzoApi) {chunks : List Bytes} {messages : List Message}
    (parsed : (frameCutter lzo).run chunks.flatten =
      { messages := messages, stopped := none, rest := [] }) :
    feedChunks lzo [] chunks = .ok { ok := true, out := messages, buf := [] } := by
  have observed := feedChunks_eq_feed lzo [] chunks (fun _none => rfl)
  rw [feed_observed, List.nil_append, parsed] at observed
  change (feedChunks lzo [] chunks).map FeedResult.observed = .ok (true, messages, some [])
    at observed
  cases outcome : feedChunks lzo [] chunks with
  | error fault =>
      rw [outcome] at observed
      cases observed
  | ok result =>
      rw [outcome] at observed
      obtain ⟨ok, out, buf⟩ := result
      cases ok with
      | false => cases observed
      | true =>
          cases observed
          rfl

/-- A stream on which the framer does not stop, with a part of a frame at its end. -/
theorem feedChunks_of_running (lzo : LzoApi) {chunks : List Bytes}
    (running : ((frameCutter lzo).run chunks.flatten).stopped = none) :
    feedChunks lzo [] chunks =
      .ok { ok := true
            out := ((frameCutter lzo).run chunks.flatten).messages
            buf := ((frameCutter lzo).run chunks.flatten).rest } := by
  have observed := feedChunks_eq_feed lzo [] chunks (fun _none => rfl)
  rw [feed_observed, List.nil_append, parseObserved, running] at observed
  cases outcome : feedChunks lzo [] chunks with
  | error fault =>
      rw [outcome] at observed
      cases observed
  | ok result =>
      rw [outcome] at observed
      obtain ⟨ok, out, buf⟩ := result
      cases ok with
      | false => cases observed
      | true =>
          cases observed
          rfl

/-- Cutting the input of the framer anywhere changes neither its verdict, nor its
messages, nor what it keeps: for two pieces from any m_buf, and for any number of
pieces from a fresh framer. -/
theorem feed_chunk_independent (lzo : LzoApi) :
    (∀ mBuf a b : Bytes,
      (feedChunks lzo mBuf [a, b]).map FeedResult.observed =
        (feed lzo mBuf (a ++ b)).map FeedResult.observed) ∧
    (∀ chunks : List Bytes,
      (feedChunks lzo [] chunks).map FeedResult.observed =
        (feed lzo [] chunks.flatten).map FeedResult.observed) := by
  constructor
  · intro mBuf a b
    have pair := feedChunks_eq_feed lzo mBuf [a, b]
      (by intro impossible; cases impossible)
    rwa [List.flatten_cons, List.flatten_cons, List.flatten_nil, List.append_nil] at pair
  · intro chunks
    exact feedChunks_eq_feed lzo [] chunks (fun _none => rfl)

end RanOnline.Net
