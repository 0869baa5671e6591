/-
What a certification is answered from, row by row.

ProcessCertificationForAuth reads three columns of each row and keeps those of the
last one.  GetCollect clears its output first, so that nothing of an earlier row or
request is left; only a UniqKey that does not fit its buffer is read wrongly.
-/
import RanOnline.Db.ColumnLog
import RanOnline.Db.OdbcRows
import RanOnline.Servers.AuthAnswer
import RanOnline.Servers.ShownDb

namespace RanOnline.Servers

open Memory Net Db Methods

variable {W : Type} {driver : Driver W}

/-! ### One row -/

/-- The result has the values of the row, zero or nothing where it has none. -/
structure RowHeld (cols : List (Bytes × Nat)) (row : List Answer) (res : CertResult) : Prop where
  certification : res.certification = columnLong cols row "Certification"
  sessionSvrId : res.sessionSvrId = columnLong cols row "SessionSvrID"
  newUniqKey : res.newUniqKey = heldText (columnText cols row "UniqKey")

private theorem columns_differ :
    Object.lower (Object.text "Certification") ≠ Object.lower (Object.text "SessionSvrID") := by
  decide +kernel

theorem columnLong_append_left {cols : List (Bytes × Nat)} (first : List Answer)
    {second : List Answer} {column : String}
    (nothing : ∀ idx, cols.lookup (Object.lower (Object.text column)) = some idx →
      second.findSome? (Answer.longAt idx) = none) :
    columnLong cols (first ++ second) column = columnLong cols first column := by
  unfold columnLong
  cases found : cols.lookup (Object.lower (Object.text column)) with
  | none => rfl
  | some idx => simp only [List.findSome?_append, nothing idx found, Option.or_none]

theorem columnLong_append_right {cols : List (Bytes × Nat)} {first : List Answer}
    (second : List Answer) {column : String}
    (nothing : ∀ idx, cols.lookup (Object.lower (Object.text column)) = some idx →
      first.findSome? (Answer.longAt idx) = none) :
    columnLong cols (first ++ second) column = columnLong cols second column := by
  unfold columnLong
  cases found : cols.lookup (Object.lower (Object.text column)) with
  | none => rfl
  | some idx => simp only [List.findSome?_append, nothing idx found, Option.none_or]

theorem columnText_append {cols : List (Bytes × Nat)} (before row after : List Answer)
    (column : String) (nothingBefore : ∀ idx, before.findSome? (Answer.textAt idx) = none)
    (nothingAfter : ∀ idx, after.findSome? (Answer.textAt idx) = none) :
    columnText cols (before ++ (row ++ after)) column = columnText cols row column := by
  unfold columnText
  cases cols.lookup (Object.lower (Object.text column)) with
  | none => rfl
  | some idx =>
      simp only [List.findSome?_append, nothingBefore idx, nothingAfter idx, Option.none_or,
        Option.or_none]

private theorem longs_no_text {answers : List Answer}
    (longs : ∀ answer ∈ answers, ∃ idx r value, answer = .gotLong idx r value) (idx : Nat) :
    answers.findSome? (Answer.textAt idx) = none := by
  apply List.findSome?_eq_none_iff.mpr
  intro answer member
  obtain ⟨col, r, value, rfl⟩ := longs answer member
  rfl

/-- The reads of one pass make the values of the row; what is fetched behind them
adds none. -/
theorem rowHeld_reads {cols : List (Bytes × Nat)} (distinct : DistinctCols cols)
    {sessions certs keys tail : List Answer} {res : CertResult}
    (sessionValue : res.sessionSvrId = columnLong cols sessions "SessionSvrID")
    (certValue : res.certification = columnLong cols certs "Certification")
    (keyValue : res.newUniqKey = heldText (columnText cols keys "UniqKey"))
    (sessionOthers : ∀ idx, cols.lookup (Object.lower (Object.text "SessionSvrID")) ≠ some idx →
      sessions.findSome? (Answer.longAt idx) = none)
    (certOthers : ∀ idx, cols.lookup (Object.lower (Object.text "Certification")) ≠ some idx →
      certs.findSome? (Answer.longAt idx) = none)
    (sessionLongs : ∀ answer ∈ sessions, ∃ idx r value, answer = .gotLong idx r value)
    (certLongs : ∀ answer ∈ certs, ∃ idx r value, answer = .gotLong idx r value)
    (keyLongs : ∀ idx, keys.findSome? (Answer.longAt idx) = none)
    (tailFetched : ∀ answer ∈ tail, ∃ r, answer = .fetched r) :
    RowHeld cols (sessions ++ (certs ++ (keys ++ tail))) res := by
  have tailNothing : ∀ idx, tail.findSome? (Answer.longAt idx) = none := by
    intro idx
    apply List.findSome?_eq_none_iff.mpr
    intro answer member
    obtain ⟨r, rfl⟩ := tailFetched answer member
    rfl
  have tailNoText : ∀ idx, tail.findSome? (Answer.textAt idx) = none := by
    intro idx
    apply List.findSome?_eq_none_iff.mpr
    intro answer member
    obtain ⟨r, rfl⟩ := tailFetched answer member
    rfl
  have behind : ∀ idx, (keys ++ tail).findSome? (Answer.longAt idx) = none := by
    intro idx
    rw [List.findSome?_append, keyLongs, tailNothing]
    rfl
  constructor
  · rw [columnLong_append_right, columnLong_append_left, certValue]
    · exact fun idx _found => behind idx
    · intro idx found
      apply sessionOthers
      intro same
      exact distinct.ne columns_differ found same rfl
  · rw [columnLong_append_left, sessionValue]
    intro idx found
    rw [List.findSome?_append, behind, Option.or_none]
    apply certOthers
    intro same
    exact distinct.ne columns_differ same found rfl
  · rw [← List.append_assoc, columnText_append, keyValue]
    · intro idx
      rw [List.findSome?_append, longs_no_text sessionLongs, longs_no_text certLongs]
      rfl
    · exact tailNoText

/-- One pass of the loop. -/
theorem certRow_held (db : Object (Logged W)) (distinct : DistinctCols db.cols) :
    ∃ row, RowHeld db.cols row (certRow (Object.odbcDb driver.logged) db).1 ∧
      (∀ answer ∈ row, answer.begins = false) ∧
      (certRow (Object.odbcDb driver.logged) db).2.2.cols = db.cols ∧
      (((certRow (Object.odbcDb driver.logged) db).2.1 = false ∧
          (certRow (Object.odbcDb driver.logged) db).2.2.log = db.log ++ row) ∨
        ((certRow (Object.odbcDb driver.logged) db).2.1 = true ∧ ∃ r, r.ok = true ∧
          (certRow (Object.odbcDb driver.logged) db).2.2.log = db.log ++ row ++ [.fetched r])) := by
  obtain ⟨sessions, sessionReads, sessionValue, sessionOthers, sessionLongs⟩ :=
    @Object.getCollect_reads W driver "SessionSvrID" db
  obtain ⟨certs, certReads, certValue, certOthers, certLongs⟩ :=
    @Object.getCollect_reads W driver "Certification"
      (Object.getCollect driver.logged "SessionSvrID" db).2
  obtain ⟨keys, keyReads, keyValue, keyLongs⟩ :=
    @Object.getCollectString_reads W driver "UniqKey"
      (Object.getCollect driver.logged "Certification"
        (Object.getCollect driver.logged "SessionSvrID" db).2).2
  obtain ⟨nextCols, fetched⟩ := @Object.next_log W driver
    (Object.getCollectString driver.logged "UniqKey"
      (Object.getCollect driver.logged "Certification"
        (Object.getCollect driver.logged "SessionSvrID" db).2).2).2
  have reads := sessionReads.trans (certReads.trans keyReads)
  have sameCols := sessionReads.cols
  have certCols := certReads.cols.trans sameCols
  rw [sameCols] at certValue certOthers
  rw [certCols] at keyValue
  have held : ∀ tail : List Answer, (∀ answer ∈ tail, ∃ r, answer = .fetched r) →
      RowHeld db.cols (sessions ++ (certs ++ (keys ++ tail)))
        (certRow (Object.odbcDb driver.logged) db).1 :=
    fun tail tailFetched =>
      rowHeld_reads distinct sessionValue certValue keyValue sessionOthers certOthers sessionLongs
        certLongs keyLongs tailFetched
  have finalCols := nextCols.trans reads.cols
  have nothing := held [] (fun answer impossible => nomatch impossible)
  rw [List.append_nil] at nothing
  rcases fetched with ⟨r, logged, answered⟩ | ⟨logged, answered⟩
  · cases began : r.ok with
    | false =>
        rw [began] at answered
        refine ⟨sessions ++ (certs ++ (keys ++ [.fetched r])), held _ ?_, ?_, finalCols,
          Or.inl ⟨answered, ?_⟩⟩
        · intro answer member
          exact ⟨r, List.mem_singleton.mp member⟩
        · intro answer member
          simp only [← List.append_assoc] at member
          rcases List.mem_append.mp member with inReads | last
          · rw [List.append_assoc] at inReads
            exact reads.quiet answer inReads
          · rw [List.mem_singleton.mp last]
            exact began
        · refine logged.trans ?_
          rw [reads.log]
          simp only [List.append_assoc]
    | true =>
        rw [began] at answered
        refine ⟨_, nothing, reads.quiet, finalCols, Or.inr ⟨answered, r, began, ?_⟩⟩
        refine logged.trans ?_
        rw [reads.log]
  · exact ⟨_, nothing, reads.quiet, finalCols, Or.inl ⟨answered, logged.trans reads.log⟩⟩

/-! ### All rows -/

/-- The loop starts on a row and ends with the values of the last one. -/
theorem certRows_held (db : Object (Logged W)) {before : List Answer} {first : Answer}
    (logged : db.log = before ++ [first]) (begun : first.begins = true)
    (distinct : DistinctCols db.cols) :
    ∃ row, lastRow (certRows (Object.odbcDb driver.logged) db).2.log = some row ∧
      RowHeld db.cols row (certRows (Object.odbcDb driver.logged) db).1 := by
  induction db using certRows.induct (Object.odbcDb driver.logged) generalizing before first with
  | case1 db more ih =>
      obtain ⟨row, _held, _quiet, cols, outcome⟩ := @certRow_held W driver db distinct
      rw [certRows_more more]
      rcases outcome with ⟨ended, _log⟩ | ⟨_more, r, fetched, log⟩
      · rw [ended] at more
        cases more
      · rw [← cols] at distinct ⊢
        exact ih log fetched distinct
  | case2 db ended =>
      obtain ⟨row, held, quiet, cols, outcome⟩ := @certRow_held W driver db distinct
      rw [certRows_ended ended]
      rcases outcome with ⟨_ended, log⟩ | ⟨more, _further⟩
      · refine ⟨row, ?_, ?_⟩
        · rw [log, logged, List.append_assoc]
          exact lastRow_append before row begun quiet
        · exact held
      · exact absurd more ended

/-! ### The whole request -/

/-- What a driver keeps besides is that of the procedure. -/
theorem certCall_runs {V ι : Type} {above : Driver V} {part : V → ι} {value : ι}
    {post : Bool → Object V → Prop} (r : CertRequest)
    (runs : Triple (fun db : Object V => Object.shown part db = value)
      (Object.executeStoredProcedure above "dbo.sp_CertificationUniqKey") post) :
    Triple (fun db : Object V => Object.shown part db = value)
      (certCall (Object.odbcDb above) r) post := by
  have cleared : Leaves (Object.shown part) (Object.clearParams : Method V Unit) :=
    leaves_modify fun _db => rfl
  unfold certCall
  refine Triple.bind (cleared.triple value) ?_
  intro _cleared
  refine Triple.bind ((Object.leaves_shown_addParam _).triple value) ?_
  intro _country
  refine Triple.bind ((Object.leaves_shown_addParam _).triple value) ?_
  intro _serverType
  refine Triple.bind ((Object.leaves_shown_addParam _).triple value) ?_
  intro _ip
  refine Triple.bind ((Object.leaves_shown_addParam _).triple value) ?_
  intro _port
  refine Triple.bind ((Object.leaves_shown_addParam _).triple value) ?_
  intro _uniqKey
  refine Triple.bind ((Object.leaves_shown_addParam _).triple value) ?_
  intro _isSessionSvr
  exact runs

/-- Every value is zero or nothing. -/
structure NothingHeld (res : CertResult) : Prop where
  certification : res.certification = 0
  sessionSvrId : res.sessionSvrId = 0
  newUniqKey : res.newUniqKey = []

/-- The result of a request over a logged driver, by what the log says of its rows. -/
theorem certification_held (r : CertRequest) (db : Object (Logged W)) (empty : db.log = []) :
    let answered := processCertificationForAuth (Object.odbcDb driver.logged) r db
    (lastRow answered.2.log = none ∧ NothingHeld answered.1) ∨
      ((certCall (Object.odbcDb driver.logged) r db).1 = true ∧
        ∃ row, lastRow answered.2.log = some row ∧
          RowHeld (certCall (Object.odbcDb driver.logged) r db).2.cols row answered.1) := by
  have executed : Object.Executed (certCall (Object.odbcDb driver.logged) r db).1
      (certCall (Object.odbcDb driver.logged) r db).2 :=
    certCall_runs r (Object.executeStoredProcedure_executed _) db empty
  simp only [processCertificationForAuth_eq]
  by_cases failed : (certCall (Object.odbcDb driver.logged) r db).1 = false
  · rw [if_pos failed]
    rw [Object.Executed, failed] at executed
    refine Or.inl ⟨?_, rfl, rfl, rfl⟩
    rw [show (certCall (Object.odbcDb driver.logged) r db).2.log = [] from executed]
    rfl
  · rw [if_neg failed]
    rw [Bool.not_eq_false] at failed
    rw [Object.Executed, failed, if_pos rfl] at executed
    obtain ⟨first, logged, ended, distinct⟩ := executed
    by_cases eof : (Object.odbcDb driver.logged).getEOF
        (certCall (Object.odbcDb driver.logged) r db).2 = true
    · rw [if_pos eof]
      replace eof := ended.symm.trans eof
      refine Or.inl ⟨?_, rfl, rfl, rfl⟩
      rw [logged]
      apply lastRow_none
      intro answer member
      rw [List.mem_singleton.mp member]
      exact Bool.not_eq_true' _ ▸ eof
    · rw [if_neg eof]
      refine Or.inr ⟨failed, @certRows_held W driver _ [] _ logged ?_ distinct⟩
      change first.ok = true
      cases value : first.ok with
      | false =>
          rw [value] at ended
          exact absurd ended eof
      | true => rfl

/-! ### The log of a request -/

theorem processCertificationForAuth_logged (r : CertRequest) :
    Mirrors Object.unlogged (processCertificationForAuth (Object.odbcDb driver.logged) r)
      (processCertificationForAuth (Object.odbcDb driver) r) :=
  mirrors_processCertificationForAuth (Object.odbcDb_shows driver.logged_shows) r

/-- What the driver answers to SQLFetch and SQLGetData during the request. -/
def requestLog (driver : Driver W) (r : CertRequest) (db : Object W) : List Answer :=
  (processCertificationForAuth (Object.odbcDb driver.logged) r db.withLog).2.log

/-- What it answers to SQLDescribeCol behind the call of the request. -/
def requestNames (driver : Driver W) (r : CertRequest) (db : Object W) : List ColumnName :=
  Object.shown Prod.snd (certCall (Object.odbcDb driver.describing) r db.undescribed).2

/-- The columns of the result set. -/
def requestCols (driver : Driver W) (r : CertRequest) (db : Object W) : List (Bytes × Nat) :=
  columnsOf (requestNames driver r db)

theorem requestCols_logged {r : CertRequest} {db : Object W}
    (executed : (certCall (Object.odbcDb driver.logged) r db.withLog).1 = true) :
    (certCall (Object.odbcDb driver.logged) r db.withLog).2.cols = requestCols driver r db := by
  obtain ⟨logged, sameLogged⟩ :=
    mirrors_certCall (Object.odbcDb_shows driver.logged_shows) r db.withLog
  obtain ⟨described, sameDescribed⟩ :=
    mirrors_certCall (Object.odbcDb_shows driver.describing_shows) r db.undescribed
  have mapped : (certCall (Object.odbcDb driver.describing) r db.undescribed).1 = true →
      Object.Mapped (certCall (Object.odbcDb driver.describing) r db.undescribed).2 :=
    certCall_runs r (Object.executeStoredProcedure_mapped _) db.undescribed rfl
  have succeeded := described.trans (logged.symm.trans executed)
  calc
    (certCall (Object.odbcDb driver.logged) r db.withLog).2.cols
        = (certCall (Object.odbcDb driver) r db).2.cols := congrArg Object.cols sameLogged
    _ = (certCall (Object.odbcDb driver.describing) r db.undescribed).2.cols :=
        (congrArg Object.cols sameDescribed).symm
    _ = requestCols driver r db := mapped succeeded

/-- Without a row there is nothing in the result, and with one the last row is. -/
theorem requestLog_held (r : CertRequest) (db : Object W) :
    (lastRow (requestLog driver r db) = none ∧
        NothingHeld (processCertificationForAuth (Object.odbcDb driver) r db).1) ∨
      ∃ row, lastRow (requestLog driver r db) = some row ∧
        RowHeld (requestCols driver r db) row
          (processCertificationForAuth (Object.odbcDb driver) r db).1 := by
  have same := (@processCertificationForAuth_logged W driver r db.withLog).1
  have held := @certification_held W driver r db.withLog rfl
  simp only [same] at held
  rcases held with nothing | ⟨executed, row, last, held⟩
  · exact Or.inl nothing
  · rw [requestCols_logged executed] at held
    exact Or.inr ⟨row, last, held⟩

/-- No copy reads past its buffer, and the result is the last row that was fetched. -/
structure LastRowAnswered (log : List Answer) (cols : List (Bytes × Nat)) (res : CertResult) :
    Prop where
  inside : ∀ answer ∈ log, ∀ idx text, answer.textAt idx = some text →
    ∃ copied, bufferText text = .ok copied
  nothing : lastRow log = none → NothingHeld res
  certification : ∀ row, lastRow log = some row →
    res.certification = columnLong cols row "Certification"
  sessionSvrId : ∀ row, lastRow log = some row →
    res.sessionSvrId = columnLong cols row "SessionSvrID"
  noKey : ∀ row, lastRow log = some row → columnText cols row "UniqKey" = none →
    res.newUniqKey = []
  key : ∀ row, lastRow log = some row → ∀ text, columnText cols row "UniqKey" = some text →
    ∀ value, ColumnText text value → res.newUniqKey = value

/-- A certification is answered from the last row, whatever the database does, exactly
when every UniqKey is reported within the buffer and that of the last row is shorter
than it. -/
theorem certification_last_row_iff (driver : Driver W) (r : CertRequest) (db : Object W) :
    LastRowAnswered (requestLog driver r db) (requestCols driver r db)
        (processCertificationForAuth (Object.odbcDb driver) r db).1 ↔
      (∀ answer ∈ requestLog driver r db, ∀ idx text, answer.textAt idx = some text →
        InBuffer text) ∧
      ∀ row, lastRow (requestLog driver r db) = some row →
        ∀ text, columnText (requestCols driver r db) row "UniqKey" = some text →
          ∀ value, ColumnText text value → value.length < 4096 := by
  have reads : (∀ answer ∈ requestLog driver r db, ∀ idx text, answer.textAt idx = some text →
      ∃ copied, bufferText text = .ok copied) ↔
      ∀ answer ∈ requestLog driver r db, ∀ idx text, answer.textAt idx = some text →
        InBuffer text := by
    simp only [bufferText_ok_iff]
  have held := @requestLog_held W driver r db
  constructor
  · intro answered
    refine ⟨reads.mp answered.inside, ?_⟩
    rcases held with ⟨noRow, _nothing⟩ | ⟨row, last, held⟩
    · intro row last
      rw [noRow] at last
      cases last
    · intro other lastOther text delivered
      rw [last] at lastOther
      cases lastOther
      have kept := held.newUniqKey
      rw [delivered] at kept
      refine (bufferText_iff text _ ?_).mp (answered.key row last text delivered)
      intro copied read
      rw [kept, heldText, read]
  · intro holds
    rcases holds with ⟨inside, short⟩
    rcases held with ⟨noRow, nothing⟩ | ⟨row, last, held⟩
    · constructor
      · exact reads.mpr inside
      · exact fun _none => nothing
      all_goals
        intro row last
        rw [noRow] at last
        cases last
    · have same : ∀ other, lastRow (requestLog driver r db) = some other → other = row := by
        intro other lastOther
        exact Option.some.inj (lastOther.symm.trans last)
      constructor
      · exact reads.mpr inside
      · intro noRow
        rw [last] at noRow
        cases noRow
      · intro other lastOther
        rw [same other lastOther]
        exact held.certification
      · intro other lastOther
        rw [same other lastOther]
        exact held.sessionSvrId
      · intro other lastOther missing
        rw [same other lastOther] at missing
        rw [held.newUniqKey, missing]
        rfl
      · intro other lastOther text delivered
        have fits := short other lastOther text delivered
        rw [same other lastOther] at delivered
        refine (bufferText_iff text _ ?_).mpr fits
        intro copied read
        rw [held.newUniqKey, delivered, heldText, read]

/-- One row, of a UniqKey that has 5000 bytes. -/
def longKeyDriver : Driver Bool :=
  oneRowDriver [] (Object.text "UniqKey") 5000 fun _index => 65

def gameServer : CertRequest :=
  { country := 1
    serverType := 3
    ip := [49]
    port := 5001
    uniqKey := [107]
    isSessionSvr := 0 }

/-- The copy of its UniqKey runs past the buffer. -/
theorem certification_reads_past :
    ¬LastRowAnswered (requestLog longKeyDriver gameServer { Object.new false with conn := true })
      (requestCols longKeyDriver gameServer { Object.new false with conn := true })
      (processCertificationForAuth (Object.odbcDb longKeyDriver) gameServer
        { Object.new false with conn := true }).1 := by
  have reported : (requestLog longKeyDriver gameServer
      { Object.new false with conn := true }).findSome?
        (fun answer => (answer.textAt 1).map Prod.fst) = some 5000 := by
    rw [requestLog, processCertificationForAuth_eq, if_neg (by decide +kernel),
      if_neg (by decide +kernel), certRows_ended (by decide +kernel)]
    decide +kernel
  intro answered
  obtain ⟨answer, member, long⟩ := List.exists_of_findSome?_eq_some reported
  obtain ⟨text, delivered, length⟩ := Option.map_eq_some_iff.mp long
  have inside := (bufferText_ok_iff text).mp (answered.inside answer member 1 text delivered)
  have bound := inside.1
  rw [length] at bound
  exact absurd bound (by decide)

end RanOnline.Servers
