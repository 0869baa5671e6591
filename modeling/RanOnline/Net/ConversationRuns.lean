/-
The conversations of a running server.

Every state of every run is between two messages or at work on the newest
exchange; on each connection the messages that dispatch begins are the ones that
GetMsg gives out under its id.
-/
import RanOnline.Net.Conversation

namespace RanOnline.Net

open Memory StepRun Threads

variable {α ω : Type}

/-! ### From GetMsg to the handler -/

/-- The messages of one connection that dispatch has begun, oldest first. -/
def begunOn (c : Nat) (said : List (Exchange ω)) : List Message :=
  (said.filter fun exchange => exchange.conn = c).reverse.map Exchange.msg

theorem begunOn_annotate (c : Nat) (events : List ω) (said : List (Exchange ω)) :
    begunOn c (annotate events said) = begunOn c said := by
  cases said with
  | nil => rfl
  | cons exchange earlier =>
      simp only [begunOn, annotate, List.filter_cons]
      by_cases here : exchange.conn = c
      · simp only [here, decide_true, if_true, List.reverse_cons, List.map_append]
        rfl
      · simp only [here, decide_false, Bool.false_eq_true, if_false]

theorem begunOn_here (c : Nat) (msg : Message) (events : List ω) (earlier : List (Exchange ω)) :
    begunOn c ({ conn := c, msg := msg, events := events } :: earlier) =
      begunOn c earlier ++ [msg] := by
  rw [begunOn, List.filter_cons, if_pos (decide_eq_true rfl), List.reverse_cons, List.map_append]
  rfl

theorem begunOn_other {c conn : Nat} (other : conn ≠ c) (msg : Message) (events : List ω)
    (earlier : List (Exchange ω)) :
    begunOn c ({ conn := conn, msg := msg, events := events } :: earlier) = begunOn c earlier := by
  rw [begunOn, List.filter_cons, if_neg (by simpa using other)]
  rfl

/-- What GetMsg has given out under the id of a connection is what dispatch has begun
for it; `called` is the message that dispatch has not looked up yet. -/
structure Heard (s : Shared α ω) (called : List Message) : Prop where
  known : ∀ exchange ∈ exchanges s.log, exchange.conn < s.accepted
  fromTaken : ∀ msg ∈ called, msg ∈ takenOf s.log
  begins : ∀ c, c < s.accepted → OwnId s c →
    begunOn c (exchanges s.log) <+: ofClient (clientIdOf c) (takenOf s.log)
  all : ∀ c, OwnId s c → s.sessions.lookup (clientIdOf c) = some c →
    begunOn c (exchanges s.log) ++ ofClient (clientIdOf c) called =
      ofClient (clientIdOf c) (takenOf s.log)

theorem heard_start (app : α) : Heard (.start app : Shared α ω) [] := by
  constructor
  · intro exchange impossible
    cases impossible
  · intro msg impossible
    cases impossible
  · intro c absent
    cases absent
  · intro c _own found
    cases found

theorem ofClient_strangers {clientId : UInt32} {messages : List Message}
    (strangers : ∀ msg ∈ messages, msg.clientId ≠ clientId) : ofClient clientId messages = [] := by
  rw [ofClient, List.filter_eq_nil_iff]
  intro msg member
  simpa using strangers msg member

theorem begunOn_unknown {s : Shared α ω} {called : List Message} (heard : Heard s called) {c : Nat}
    (absent : s.accepted ≤ c) : begunOn c (exchanges s.log) = [] := by
  rw [begunOn, List.map_eq_nil_iff, List.reverse_eq_nil_iff, List.filter_eq_nil_iff]
  intro exchange member here
  have present := heard.known exchange member
  rw [decide_eq_true_eq] at here
  omega

/-- A step that takes no message and begins none. -/
theorem Heard.kept {before after : Shared α ω} {called : List Message} (heard : Heard before called)
    (begun : ∀ c, begunOn c (exchanges after.log) = begunOn c (exchanges before.log))
    (known : ∀ exchange ∈ exchanges after.log, exchange.conn < before.accepted)
    (taken : takenOf after.log = takenOf before.log) (accepted : after.accepted = before.accepted)
    (sessions : ∀ clientId c, after.sessions.lookup clientId = some c →
      before.sessions.lookup clientId = some c) : Heard after called := by
  constructor
  · rw [accepted]
    exact known
  · rw [taken]
    exact heard.fromTaken
  · intro c present own
    rw [accepted] at present
    rw [begun, taken]
    apply heard.begins c present
    rwa [OwnId, accepted] at own
  · intro c own found
    rw [begun, taken]
    apply heard.all c _ (sessions _ _ found)
    rwa [OwnId, accepted] at own

theorem Heard.spoken {before after : Shared α ω} {called : List Message}
    (heard : Heard before called) {c : Nat} {events : List ω} {frames : List Bytes}
    (spoken : Says lzo c before after events frames) (outward : before.Outward after) :
    Heard after called := by
  apply heard.kept _ _ outward.taken outward.accepted spoken.sessions
  · intro other
    rw [spoken.noted, begunOn_annotate]
  · intro exchange member
    rw [spoken.noted] at member
    cases said : exchanges before.log with
    | nil =>
        rw [said] at member
        cases member
    | cons newest earlier =>
        rw [said] at member
        rcases List.mem_cons.mp member with same | older
        · rw [same]
          exact heard.known newest (by rw [said]; exact List.mem_cons_self)
        · exact heard.known exchange (by rw [said]; exact List.mem_cons_of_mem _ older)

theorem Heard.io {lzo : Lzo} {s : Shared α ω} {called : List Message} (heard : Heard s called)
    (inbound : Inbound lzo s) {onClose : UInt32 → α → α} {after : Shared α ω}
    (step : PoolStep onClose s after) : Heard after called := by
  cases step with
  | notified c leaving =>
      exact heard.spoken (Says.notify lzo c onClose s c) (.notify onClose s c)
  | inside c session recv quiet =>
      exact heard.kept (fun _c => rfl) heard.known rfl rfl fun _clientId _c found => found
  | accepted remote =>
      have earlier : ∀ c, c ≠ s.accepted → c < s.accepted + 1 → c < s.accepted := by omega
      have before : ∀ c, OwnId (s.accept remote) c → OwnId s c :=
        fun c own other present => own other (Nat.lt_succ_of_lt present)
      constructor
      · intro exchange member
        exact Nat.lt_succ_of_lt (heard.known exchange member)
      · exact heard.fromTaken
      · intro c present own
        by_cases newest : c = s.accepted
        · rw [newest]
          change begunOn _ (exchanges s.log) <+: _
          rw [begunOn_unknown heard (Nat.le_refl _)]
          exact List.nil_prefix
        · exact heard.begins c (earlier c newest present) (before c own)
      · intro c own found
        change (s.sessions.insert (s.nextClientId + 1) s.accepted).lookup (clientIdOf c) = _
          at found
        by_cases newest : c = s.accepted
        · have strangers : ∀ msg ∈ takenOf s.log, msg.clientId ≠ clientIdOf c := by
            intro msg member same
            have passed : msg ∈ s.passed := by
              rw [Shared.passed, List.append_assoc]
              exact List.mem_append_left _ member
            obtain ⟨other, present, stamped⟩ := inbound.known msg passed
            have equal := own other (Nat.lt_succ_of_lt present) (stamped.symm.trans same)
            omega
          change begunOn c (exchanges s.log) ++ _ = ofClient (clientIdOf c) (takenOf s.log)
          rw [begunOn_unknown heard (Nat.le_of_eq newest.symm),
            ofClient_strangers strangers,
            ofClient_strangers fun msg member => strangers msg (heard.fromTaken msg member)]
          rfl
        · apply heard.all c (before c own)
          by_cases next : clientIdOf c = s.nextClientId + 1
          · rw [next, AList.lookup_insert] at found
            cases found
            exact absurd rfl newest
          · rwa [AList.lookup_insert_ne next] at found

theorem Heard.take {s : Shared α ω} (heard : Heard s []) (msg : Message) (recv : MsgManager) :
    Heard (s.take msg recv) [msg] := by
  constructor
  · exact heard.known
  · intro other member
    rw [List.mem_singleton.mp member]
    exact List.mem_append_right _ List.mem_cons_self
  · intro c present own
    change begunOn c (exchanges s.log) <+: ofClient _ (takenOf s.log ++ [msg])
    rw [ofClient_append]
    exact (heard.begins c present own).trans (List.prefix_append _ _)
  · intro c own found
    have before := heard.all c own found
    change begunOn c (exchanges s.log) ++ _ = ofClient _ (takenOf s.log ++ [msg])
    rw [ofClient_append, ← before]
    change _ = _ ++ [] ++ _
    rw [List.append_nil]

/-- Dispatch finds no session for the message, or it begins with it. -/
theorem Heard.lookup {s : Shared α ω} {msg : Message} (heard : Heard s [msg]) (opened : Opened s) :
    Heard (lookupSession msg s).1 [] := by
  unfold lookupSession
  cases found : s.sessions.lookup msg.clientId with
  | none =>
      constructor
      · exact heard.known
      · intro other impossible
        cases impossible
      · exact heard.begins
      · intro c own listed
        have before := heard.all c own listed
        rwa [ofClient_other] at before
        intro same
        rw [same, listed] at found
        cases found
  | some conn =>
      obtain ⟨present, stamped⟩ := opened.sessions _ _ found
      rw [stamped] at found
      have grown : OwnId s conn → begunOn conn (exchanges s.log) ++ [msg] =
          ofClient (clientIdOf conn) (takenOf s.log) := by
        intro own
        rw [← heard.all conn own found, ofClient_own stamped]
      constructor
      · intro exchange member
        rcases List.mem_cons.mp member with newest | earlier
        · rw [newest]
          exact present
        · exact heard.known exchange earlier
      · intro other impossible
        cases impossible
      · intro c existing own
        change begunOn c ({ conn := conn, msg := msg, events := [] } :: exchanges s.log) <+:
          ofClient (clientIdOf c) (takenOf s.log)
        by_cases here : conn = c
        · subst here
          have begun := (begunOn_here conn msg [] (exchanges s.log)).trans (grown own)
          exact prefix_of_same begun.symm
        · rw [begunOn_other here]
          exact heard.begins c existing own
      · intro c own listed
        change begunOn c ({ conn := conn, msg := msg, events := [] } :: exchanges s.log) ++ [] = _
        rw [List.append_nil]
        by_cases here : conn = c
        · subst here
          rw [begunOn_here]
          exact grown own
        · have before := heard.all c own listed
          rw [ofClient_other, List.append_nil] at before
          · rw [begunOn_other here]
            exact before
          · intro same
            rw [← stamped, same] at found
            exact here (Option.some.inj (found.symm.trans listed))

/-! ### Runs -/

section Runs

variable {lzo : Lzo}

/-- No handler is at work; `called` is what dispatch has still to look up. -/
structure Between (server : Talker lzo α ω) (s : Shared α ω) (called : List Message) : Prop where
  complete : Complete server.answers s
  heard : Heard s called

/-- Where the tick stands in the conversations. -/
inductive Tick.Speaks (server : Talker lzo α ω) (s : Shared α ω) : Tick α ω → Prop
  | idle (between : Between server s []) : Speaks server s .idle
  | draining (between : Between server s []) : Speaks server s .draining
  | called (msg : Message) (between : Between server s [msg]) :
      Speaks server s (.running (dispatch server.toNetServer msg))
  | missed (between : Between server s []) : Speaks server s (.running (.ret ()))
  | answering (thread : Thread (Shared α ω) Unit) (exchange : Exchange ω)
      (earlier : List (Exchange ω)) (frames : List Bytes) (heard : Heard s [])
      (answers : Answering lzo server.answers s thread exchange earlier frames) :
      Speaks server s (.running thread)

structure Spoken (server : Talker lzo α ω) (sys : System α ω) : Prop where
  opened : Opened sys.shared
  tick : sys.tick.Speaks server sys.shared

theorem spoken_start (server : Talker lzo α ω) (app : α) : Spoken server (.start app) := by
  constructor
  · exact opened_start app
  · apply Tick.Speaks.idle
    constructor
    · exact fun _c => ⟨[], .nil, rfl⟩
    · exact heard_start app

theorem Between.kept {server : Talker lzo α ω} {before after : Shared α ω} {called : List Message}
    (between : Between server before called) (hushed : Hushed before after)
    (heard : Heard after called) : Between server after called :=
  { complete := hushed.complete between.complete
    heard := heard }

theorem Spoken.io {server : Talker lzo α ω} {sys : System α ω}
    (spoken : Spoken server sys) (inbound : Inbound lzo sys.shared) (event : IoEvent) :
    Spoken server { sys with shared := sys.shared.io lzo server.onClose event } := by
  have step := sys.shared.io_poolStep lzo server.onClose event
  have hushed := spoken.opened.hushed step
  obtain ⟨shared, tick⟩ := sys
  constructor
  · exact spoken.opened.io inbound step
  · cases spoken.tick with
    | idle between => exact .idle (between.kept hushed (between.heard.io inbound step))
    | draining between => exact .draining (between.kept hushed (between.heard.io inbound step))
    | called msg between => exact .called msg (between.kept hushed (between.heard.io inbound step))
    | missed between => exact .missed (between.kept hushed (between.heard.io inbound step))
    | answering thread exchange earlier frames heard answers =>
        exact .answering thread exchange earlier frames (heard.io inbound step)
          (hushed.answering answers)

/-- The end of the tick flushes, which sends nothing and begins nothing. -/
theorem Heard.finish {s : Shared α ω} (heard : Heard s []) (lzo : Lzo) (server : NetServer α ω) :
    Heard (s.finish lzo server) [] := by
  unfold Shared.finish
  split
  · exact heard.kept (fun _c => rfl) heard.known rfl rfl fun _clientId _c found => found
  · exact heard

theorem Opened.kept {before after : Shared α ω} (opened : Opened before)
    (sessions : ∀ clientId c, after.sessions.lookup clientId = some c →
      before.sessions.lookup clientId = some c)
    (accepted : after.accepted = before.accepted)
    (sent : ∀ c, before.accepted ≤ c → (after.conns c).sent = (before.conns c).sent) :
    Opened after := by
  constructor
  · intro clientId c found
    rw [accepted]
    exact opened.sessions clientId c (sessions clientId c found)
  · intro c absent
    rw [accepted] at absent
    rw [sent c absent]
    exact opened.absent c absent

theorem Opened.finish {s : Shared α ω} (opened : Opened s) (lzo : Lzo) (server : NetServer α ω) :
    Opened (s.finish lzo server) := by
  have hushed := Hushed.finish lzo server s
  refine opened.kept ?_ (Shared.Outward.finish lzo server s).accepted fun c _absent =>
    hushed.sent c
  intro clientId c found
  unfold Shared.finish at found
  split at found
  · exact found
  · exact found

/-- Dispatch returns, or it calls the handler. -/
theorem Between.lookup {server : Talker lzo α ω} {s : Shared α ω} {msg : Message}
    (between : Between server s [msg]) (opened : Opened s) :
    Spoken server
      { shared := (lookupSession msg s).1
        tick := .running (match (lookupSession msg s).2 with
          | none => pure ()
          | some c => server.handle c msg) } := by
  have heard := between.heard.lookup opened
  unfold lookupSession at heard ⊢
  cases found : s.sessions.lookup msg.clientId with
  | none =>
      rw [found] at heard
      exact ⟨opened, .missed ⟨between.complete, heard⟩⟩
  | some c =>
      rw [found] at heard
      constructor
      · exact opened.kept (fun _clientId _c listed => listed) rfl fun _c _absent => rfl
      · apply Tick.Speaks.answering _ { conn := c, msg := msg, events := [] } (exchanges s.log) []
          heard
        constructor
        · exact server.tells c msg
        · exact (opened.sessions _ _ found).1
        · rfl
        · intro other
          rw [ite_self]
          exact between.complete other

theorem Answering.spoken {server : Talker lzo α ω} {s : Shared α ω} {act : Shared α ω → Shared α ω}
    {next : Shared α ω → Thread (Shared α ω) Unit} {exchange : Exchange ω}
    {earlier : List (Exchange ω)} {frames : List Bytes}
    (answers : Answering lzo server.answers s (.step act next) exchange earlier frames)
    (opened : Opened s) (heard : Heard s []) (outward : s.Outward (act s)) :
    Spoken server
      { shared := act s
        tick := .running (next s) } := by
  obtain ⟨events, more, told, continues⟩ := answers.step outward.accepted
  constructor
  · refine opened.kept told.sessions outward.accepted ?_
    intro c absent
    have other : c ≠ exchange.conn := by
      have present := answers.present
      omega
    rw [told.sent c, if_neg other, List.append_nil]
  · exact .answering _ _ _ _ (heard.spoken told outward) continues

theorem Spoken.next {server : Talker lzo α ω} {sys : System α ω}
    {inserted : List (Nat × Message)} (spoken : Spoken server sys) (flow : Flow lzo sys inserted) :
    Spoken server (sys.advance lzo server.toNetServer) := by
  obtain ⟨shared, tick⟩ := sys
  have opened : Opened shared := spoken.opened
  cases spoken.tick with
  | idle between => exact spoken
  | draining between =>
      simp only [System.advance]
      split
      · constructor
        · exact opened.finish lzo _
        · exact .idle (between.kept (.finish lzo _ _) (between.heard.finish lzo _))
      · rename_i msg recv taken
        constructor
        · exact opened.kept (fun _clientId _c found => found) rfl fun _c _absent => rfl
        · apply Tick.Speaks.called
          constructor
          · exact between.complete
          · exact between.heard.take msg recv
  | called msg between => exact between.lookup opened
  | missed between => exact ⟨opened, .draining between⟩
  | answering thread exchange earlier frames heard answers =>
      cases thread with
      | ret value => exact ⟨opened, .draining ⟨answers.complete, heard⟩⟩
      | step act next => exact answers.spoken opened heard (flow.tick shared).1

theorem Spoken.step {server : Talker lzo α ω} {sys : System α ω}
    {inserted : List (Nat × Message)} (spoken : Spoken server sys) (flow : Flow lzo sys inserted)
    (event : Event) : Spoken server (sys.step lzo server.toNetServer event) := by
  cases event with
  | io event => exact spoken.io flow.inbound event
  | next => exact spoken.next flow
  | update =>
      obtain ⟨shared, tick⟩ := sys
      cases spoken.tick with
      | idle between =>
          constructor
          · exact spoken.opened.kept (fun _clientId _c found => found) rfl fun _c _absent => rfl
          · apply Tick.Speaks.draining
            apply between.kept
            · exact ⟨fun _c => rfl, rfl, Nat.le_refl _⟩
            · exact between.heard.kept (fun _c => rfl) between.heard.known rfl rfl
                fun _clientId _c found => found
      | draining between => exact spoken
      | called msg between => exact spoken
      | missed between => exact spoken
      | answering thread exchange earlier frames heard answers => exact spoken

theorem reached_spoken (server : Talker lzo α ω) (app : α) (events : List Event) :
    Spoken server (reached lzo server.toGameServer app events) := by
  induction events using List.reverseRecOn with
  | nil => exact spoken_start server app
  | append_singleton events event ih =>
      rw [reached, run_snoc]
      exact ih.step (reached_flow events) event

/-- No handler is at work. -/
def Tick.isBetween : Tick α ω → Bool
  | .idle | .draining => true
  | .running _thread => false

theorem Tick.isBetween_of_idle (tick : Tick α ω) (idle : tick.isIdle = true) :
    tick.isBetween = true := by
  cases tick with
  | idle => rfl
  | draining => rfl
  | running thread => cases idle

/-- On every connection the frames passed to Send are, in order, answers to the
messages that dispatch has begun for it, and those are the messages that GetMsg has
given out for it as long as its session is open.  While a handler runs, the frames
that are still to be completed are on the connection whose message it handles. -/
structure Conversed (server : Talker lzo α ω) (sys : System α ω) : Prop where
  between : sys.tick.isBetween = true → ∀ c, ∃ replies : List (List Bytes),
    List.Forall₂ (Exchange.Answered server.answers) (conversation c sys.shared.log) replies ∧
      (sys.shared.conns c).sent = replies.flatten
  asked : sys.tick.isBetween = true → ∀ c, OwnId sys.shared c →
    sys.shared.sessions.lookup (clientIdOf c) = some c →
      (conversation c sys.shared.log).map Exchange.msg =
        ofClient (clientIdOf c) (takenOf sys.shared.log)
  during : ∀ c, (∃ replies : List (List Bytes),
      List.Forall₂ (Exchange.Answered server.answers) (conversation c sys.shared.log) replies ∧
        (sys.shared.conns c).sent = replies.flatten) ∨
    ∃ (before : List (Exchange ω)) (exchange : Exchange ω) (replies : List (List Bytes))
      (frames : List Bytes), conversation c sys.shared.log = before ++ [exchange] ∧
        (exchanges sys.shared.log).head? = some exchange ∧
        List.Forall₂ (Exchange.Answered server.answers) before replies ∧
        (sys.shared.conns c).sent = replies.flatten ++ frames

theorem Said.replies {answers : Nat → Message → List ω → List Bytes → Prop} {c : Nat}
    {said : List (Exchange ω)} {sent after : List Bytes} (holds : Said answers c said sent after) :
    ∃ replies : List (List Bytes),
      List.Forall₂ (Exchange.Answered answers)
        (said.filter fun exchange => exchange.conn = c).reverse replies ∧
        sent = replies.flatten ++ after := by
  obtain ⟨replies, given, sent⟩ := holds
  exact ⟨replies.reverse, List.forall₂_reverse_iff.mpr given, sent⟩

theorem Complete.replies {answers : Nat → Message → List ω → List Bytes → Prop} {s : Shared α ω}
    (complete : Complete answers s) (c : Nat) :
    ∃ replies : List (List Bytes),
      List.Forall₂ (Exchange.Answered answers) (conversation c s.log) replies ∧
        (s.conns c).sent = replies.flatten := by
  obtain ⟨replies, given, sent⟩ := (complete c).replies
  rw [List.append_nil] at sent
  exact ⟨replies, given, sent⟩

theorem Spoken.between {server : Talker lzo α ω} {sys : System α ω} (spoken : Spoken server sys)
    (idle : sys.tick.isBetween = true) : Between server sys.shared [] := by
  obtain ⟨shared, tick⟩ := sys
  cases spoken.tick with
  | idle between => exact between
  | draining between => exact between
  | called msg between => cases idle
  | missed between => cases idle
  | answering thread exchange earlier frames heard answers => cases idle

theorem Spoken.during {server : Talker lzo α ω} {sys : System α ω} (spoken : Spoken server sys) :
    Complete server.answers sys.shared ∨
      ∃ thread exchange earlier frames,
        Answering lzo server.answers sys.shared thread exchange earlier frames := by
  obtain ⟨shared, tick⟩ := sys
  cases spoken.tick with
  | idle between => exact Or.inl between.complete
  | draining between => exact Or.inl between.complete
  | called msg between => exact Or.inl between.complete
  | missed between => exact Or.inl between.complete
  | answering thread exchange earlier frames heard answers =>
      exact Or.inr ⟨thread, exchange, earlier, frames, answers⟩

theorem Spoken.conversed {server : Talker lzo α ω} {sys : System α ω}
    (spoken : Spoken server sys) : Conversed server sys := by
  constructor
  · intro idle
    exact (spoken.between idle).complete.replies
  · intro idle c own found
    have all := (spoken.between idle).heard.all c own found
    change begunOn c (exchanges sys.shared.log) ++ [] = _ at all
    rwa [List.append_nil] at all
  · intro c
    rcases spoken.during with complete | ⟨thread, exchange, earlier, frames, answering⟩
    · exact Or.inl (complete.replies c)
    · obtain ⟨replies, given, sent⟩ := (answering.said c).replies
      by_cases here : exchange.conn = c
      · right
        refine ⟨_, exchange, replies, frames, ?_, ?_, given, ?_⟩
        · rw [conversation, answering.newest, List.filter_cons, if_pos (decide_eq_true here),
            List.reverse_cons]
        · rw [answering.newest, List.head?_cons]
        · rwa [if_pos here.symm] at sent
      · left
        refine ⟨replies, ?_, ?_⟩
        · rw [conversation, answering.newest, List.filter_cons, if_neg (by simpa using here)]
          exact given
        · rwa [if_neg (Ne.symm here), List.append_nil] at sent

/-! ### Answers that are still being given -/

/-- The frames answer the exchange, with what its handler has still to note. -/
def Exchange.Promised (answers : Nat → Message → List ω → List Bytes → Prop)
    (exchange : Exchange ω) (frames : List Bytes) : Prop :=
  ∃ later, answers exchange.conn exchange.msg (exchange.events ++ later) frames

/-- A thread that could run on alone would keep its promise. -/
theorem Tells.finishes {β : Type} {c : Nat} {thread : Thread (Shared α ω) β}
    {post : β → List ω → List Bytes → Prop} (tells : Tells lzo c thread post) (s : Shared α ω) :
    ∃ value events frames, post value events frames := by
  induction thread generalizing post with
  | ret value => exact ⟨value, [], [], tells⟩
  | step act next ih =>
      obtain ⟨events, frames, _spoken, later⟩ := tells s
      obtain ⟨value, noted, more, holds⟩ := ih s later
      exact ⟨value, _, _, holds⟩

/-- What has been sent on a connection is the first part of answers to all that dispatch
has begun for it. -/
theorem Spoken.promised {server : Talker lzo α ω} {sys : System α ω} (spoken : Spoken server sys)
    (c : Nat) :
    ∃ replies : List (List Bytes),
      List.Forall₂ (Exchange.Promised server.answers) (conversation c sys.shared.log) replies ∧
        (sys.shared.conns c).sent <+: replies.flatten := by
  have kept {said : List (Exchange ω)} {replies : List (List Bytes)}
      (given : List.Forall₂ (Exchange.Answered server.answers) said replies) :
      List.Forall₂ (Exchange.Promised server.answers) said replies := by
    refine given.imp ?_
    intro exchange frames answered
    refine ⟨[], ?_⟩
    rw [List.append_nil]
    exact answered
  rcases spoken.during with complete | ⟨thread, exchange, earlier, frames, answering⟩
  · obtain ⟨replies, given, sent⟩ := complete.replies c
    exact ⟨replies, kept given, [], by rw [List.append_nil, sent]⟩
  · obtain ⟨replies, given, sent⟩ := (answering.said c).replies
    rw [conversation, answering.newest, List.filter_cons]
    by_cases here : exchange.conn = c
    · obtain ⟨_done, noted, more, holds⟩ := answering.tells.finishes sys.shared
      rw [if_pos (decide_eq_true here), List.reverse_cons]
      rw [if_pos here.symm] at sent
      refine ⟨replies ++ [frames ++ more],
        List.rel_append (kept given) (.cons ⟨noted, holds⟩ .nil), ?_⟩
      rw [sent, List.flatten_append, List.flatten_singleton, ← List.append_assoc]
      exact List.prefix_append _ _
    · rw [if_neg (by simpa using here)]
      rw [if_neg (Ne.symm here), List.append_nil] at sent
      exact ⟨replies, kept given, [], by rw [List.append_nil, sent]⟩

end Runs

end RanOnline.Net
