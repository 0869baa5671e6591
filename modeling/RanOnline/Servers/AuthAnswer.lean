/-
What a client reads out of a certification answer.

The six fields of the answer are joined, encrypted, written in hexadecimal and
copied into the 501 bytes of szAuthData.  The copy cuts a longer text, and what is
left of it is no longer a whole number of cipher blocks.
-/
import RanOnline.Lib.Text
import RanOnline.Servers.AuthServer

namespace RanOnline.Servers

open Memory CString Net Db Threads

/-! ### The request that is answered -/

/-- The request that dispatch parses from a message, where it goes on to answer it. -/
def answeredRequest (msg : Message) (beyond : Bytes) : Option CertRequest :=
  if msg.payloadSize < gAuthInfoSize then none
  else if decryptAuthData (requestAuthData msg beyond) = [] then none
  else CertRequest.parse (decryptAuthData (requestAuthData msg beyond))

/-- dispatch answers such a request with certAnswer, and no other one. -/
theorem handleCertification_eq {D : Type} (lzo : Lzo) (odbc : OdbcDb D)
    (beyond : Message → Bytes) (c : Nat) (msg : Message) :
    handleCertification lzo odbc beyond c msg =
      match answeredRequest msg (beyond msg) with
      | none => pure ()
      | some req =>
          (do
            let res ← Thread.atomically (authQuery (processCertificationForAuth odbc req))
            sendTo lzo keepApp c
              (encodeMessage netMsgAuthCertificationAns (certAnswer req res))) := by
  simp only [handleCertification, answeredRequest]
  split
  · rfl
  · split <;> rfl

/-! ### The row that is answered with -/

section Row

variable {D : Type} (odbc : OdbcDb D)

/-- The call of sp_CertificationUniqKey. -/
def certCall (r : CertRequest) : StateM D Bool := do
  odbc.clearParams
  odbc.appendIParamInteger "@country" r.country
  odbc.appendIParamInteger "@servertype" r.serverType
  odbc.appendIParamVarchar "@serverip" r.ip r.ip.length
  odbc.appendIParamInteger "@serverport" r.port
  odbc.appendIParamVarchar "@uniqKey" r.uniqKey r.uniqKey.length
  odbc.appendIParamInteger "@IsSessionSvr" r.isSessionSvr
  odbc.executeStoredProcedure "dbo.sp_CertificationUniqKey"

/-- UniqKey and Certification of the last row; an empty key and zero where the call
fails or returns no row. -/
def returnedRow (r : CertRequest) (db : D) : Bytes × Int :=
  let called := certCall odbc r db
  if called.1 = false ∨ odbc.getEOF called.2 = true then ([], 0)
  else
    let row := (certRows odbc called.2).1
    (row.newUniqKey, row.certification)

theorem processCertificationForAuth_eq (r : CertRequest) (db : D) :
    processCertificationForAuth odbc r db =
      if (certCall odbc r db).1 = false then (.new, (certCall odbc r db).2)
      else if odbc.getEOF (certCall odbc r db).2 = true then
        ({ CertResult.new with ok := true }, (certCall odbc r db).2)
      else certRows odbc (certCall odbc r db).2 := by
  have call : processCertificationForAuth odbc r db =
      (do
        if !(certCall odbc r db).1 then return .new
        if odbc.getEOF (← get) then return { CertResult.new with ok := true }
        certRows odbc : StateM D CertResult) (certCall odbc r db).2 := rfl
  rw [call]
  cases (certCall odbc r db).1 with
  | false => rfl
  | true =>
      simp only [Bool.not_true, Bool.true_eq_false, Bool.false_eq_true, if_false]
      change (if odbc.getEOF (certCall odbc r db).2 = true then
        (pure { CertResult.new with ok := true } : StateM D CertResult) else certRows odbc)
          (certCall odbc r db).2 = _
      split <;> rfl

theorem returnedRow_eq (r : CertRequest) (db : D) :
    returnedRow odbc r db = ((processCertificationForAuth odbc r db).1.newUniqKey,
      (processCertificationForAuth odbc r db).1.certification) := by
  rw [processCertificationForAuth_eq]
  simp only [returnedRow]
  by_cases failed : (certCall odbc r db).1 = false
  · rw [if_pos (Or.inl failed), if_pos failed]
    rfl
  · by_cases empty : odbc.getEOF (certCall odbc r db).2 = true
    · rw [if_pos (Or.inr empty), if_neg failed, if_pos empty]
      rfl
    · rw [if_neg (not_or.mpr ⟨failed, empty⟩), if_neg failed, if_neg empty]

end Row

/-! ### What the client reads -/

/-- szAuthData of a G_AUTH_INFO, as a C string. -/
def answerAuthData (answer : Bytes) : Bytes := cString ((answer.drop 91).take 501)

/-- The fields that a client finds in an answer. -/
def readFields (answer : Bytes) : List Bytes :=
  splitFields (decryptAuthData (answerAuthData answer)) comma

/-- The fields that the answer is made of. -/
def answerFields (req : CertRequest) (row : Bytes × Int) : List Bytes :=
  [decimal req.country, decimal req.serverType, req.ip, decimal req.port, row.1, decimal row.2]

def fieldsLength (fields : List Bytes) : Nat := (fields.map List.length).sum

/-- A text without a NUL is read up to the first one behind it. -/
theorem cString_append {text : Bytes} (plain : (0 : UInt8) ∉ text) (rest : Bytes) :
    cString (text ++ rest) = text ++ cString rest := by
  apply List.takeWhile_append_of_pos
  intro b member
  rw [decide_eq_true_eq]
  intro zero
  exact plain (zero ▸ member)

theorem cString_of_plain {text : Bytes} (plain : (0 : UInt8) ∉ text) (rest : Bytes) :
    cString (text ++ 0 :: rest) = text := by
  rw [cString_append plain, cString, List.takeWhile_cons_of_neg (by decide), List.append_nil]

/-- strncpy leaves as much of a text as fits, and a NUL behind it. -/
theorem strncpyField_of_plain {size : Nat} {text : Bytes} (plain : (0 : UInt8) ∉ text) :
    strncpyField (size + 1) text =
      text.take size ++ 0 :: List.replicate (size - (text.take size).length) 0 := by
  have same : cString text = text := by
    have whole := cString_append plain []
    rwa [List.append_nil, show cString [] = [] from rfl, List.append_nil] at whole
  have left : size + 1 - (text.take size).length = size - (text.take size).length + 1 := by
    have bound := List.length_take_le size text
    omega
  rw [strncpyField, same, Nat.add_sub_cancel, left, List.replicate_succ]

theorem hexEncode_plain (bytes : Bytes) : (0 : UInt8) ∉ hexEncode bytes := by
  have every : ∀ value < 16, hexDigit value ≠ 0 := by decide
  intro member
  obtain ⟨byte, _present, digit⟩ := List.mem_flatMap.mp member
  have bound := byte.toNat_lt
  rw [hexByte, List.mem_pair] at digit
  rcases digit with high | low
  · exact every (byte.toNat / 16) (by omega) high.symm
  · exact every (byte.toNat % 16) (by omega) low.symm

theorem encryptAuthData_plain (plaintext : Bytes) : (0 : UInt8) ∉ encryptAuthData plaintext :=
  hexEncode_plain (cipherText plaintext)

theorem answerAuthData_certAnswer (req : CertRequest) (res : CertResult) :
    answerAuthData (certAnswer req res) = (encryptAuthData (certPlain req res)).take 500 := by
  have field : ((certAnswer req res).drop 91).take 501 =
      strncpyField 501 (encryptAuthData (certPlain req res)) := by
    have size : ∀ length text, (strncpyField (length + 1) text).length = length + 1 := by
      intro length text
      have bound := List.length_take_le length (cString text)
      rw [strncpyField, List.length_append, List.length_replicate, Nat.add_sub_cancel]
      omega
    have before : (writeLE32 (UInt32.ofInt req.serverType) ++ writeLE32 (UInt32.ofInt req.country) ++
        strncpyField 21 req.ip ++ List.replicate 3 0 ++ writeLE32 (UInt32.ofInt req.port) ++
        writeLE32 (UInt32.ofInt (if req.serverType = serverSession then res.sessionSvrId else 0)) ++
        List.replicate 51 0).length = 91 := by
      simp only [List.length_append, List.length_replicate, size 20]
      rfl
    rw [certAnswer, List.append_assoc _ _ (List.replicate 3 0), List.drop_left' before,
      List.take_left' (size 500 _)]
  have plain := encryptAuthData_plain (certPlain req res)
  rw [answerAuthData, field, strncpyField_of_plain plain]
  exact cString_of_plain (fun member => plain (List.mem_of_mem_take member)) _

theorem certPlain_length (req : CertRequest) (res : CertResult) :
    (certPlain req res).length =
      fieldsLength (answerFields req (res.newUniqKey, res.certification)) + 5 := by
  simp only [certPlain, answerFields, fieldsLength, List.intercalate, List.intersperse,
    List.flatten_cons, List.flatten_nil, List.length_append, List.length_cons, List.length_nil,
    List.map_cons, List.map_nil, List.sum_cons, List.sum_nil]
  omega

/-- A ciphertext that is cut after 500 digits is no longer made of whole blocks. -/
theorem decryptAuthData_cut {hex : Bytes} (long : 500 ≤ hex.length) :
    decryptAuthData (hex.take 500) = [] := by
  have length : (hex.take 500).length = 500 := by
    rw [List.length_take]
    omega
  have ragged : (hexDecode (hex.take 500)).length % 8 ≠ 0 := by
    rw [hexDecode, length, if_neg (by decide), hexPairs_length, length]
    decide
  simp only [decryptAuthData, ragged, ne_eq, not_false_eq_true, or_true, if_true]

theorem not_mem_of_mem_splitOn {d : UInt8} (s : Bytes) :
    ∀ field ∈ s.splitOn d, d ∉ field := by
  induction s with
  | nil =>
      intro field member
      rw [List.splitOn_nil, List.mem_singleton] at member
      rw [member]
      exact List.not_mem_nil
  | cons b s ih =>
      rw [List.splitOn_cons_eq_if_modifyHead]
      intro field member
      split at member
      · rcases List.mem_cons.mp member with empty | later
        · rw [empty]
          exact List.not_mem_nil
        · exact ih field later
      · rename_i other
        cases fields : s.splitOn d with
        | nil => exact absurd fields (List.splitOn_ne_nil d s)
        | cons first rest =>
            rw [fields] at ih member
            rcases List.mem_cons.mp member with head | later
            · rw [head, List.mem_cons, not_or]
              refine ⟨?_, ih first List.mem_cons_self⟩
              intro same
              exact other (by rw [same]; exact beq_self_eq_true b)
            · exact ih field (List.mem_cons_of_mem _ later)

/-- The IP of a request was cut out between two commas. -/
theorem parse_ip_plain {decrypted : Bytes} {req : CertRequest}
    (parsed : CertRequest.parse decrypted = some req) : comma ∉ req.ip := by
  unfold CertRequest.parse at parsed
  split at parsed
  · rename_i country serverType ip port uniqKey more fields
    cases parsed
    apply not_mem_of_mem_splitOn decrypted
    change ip ∈ splitFields decrypted comma
    rw [fields]
    simp
  · cases parsed

theorem decimal_plain (value : Int) : comma ∉ decimal value := by
  intro member
  have digit := Text.toString_isDecimal value comma member
  revert digit
  decide

/-- An answer that is too long decrypts to nothing. -/
theorem readFields_long {req : CertRequest} {res : CertResult}
    (long : 242 < fieldsLength (answerFields req (res.newUniqKey, res.certification))) :
    readFields (certAnswer req res) = [[]] := by
  have length := certPlain_length req res
  have hexLength := encryptAuthData_length (certPlain req res)
  rw [readFields, answerAuthData_certAnswer, decryptAuthData_cut (by omega)]
  rfl

/-! ### Requests as a client sends them -/

/-- A request that has nothing but szAuthData. -/
def certRequest (plaintext : Bytes) : Message :=
  { type := netMsgAuthCertificationRequest
    clientId := 0
    bytes := encodeMessage netMsgAuthCertificationRequest
      (List.replicate 91 0 ++ (strncpyField 501 (encryptAuthData plaintext) ++
        List.replicate 3 0)) }

theorem requestAuthData_certRequest {plaintext : Bytes} (fits : plaintext.length ≤ 247)
    (beyond : Bytes) :
    requestAuthData (certRequest plaintext) beyond = encryptAuthData plaintext := by
  have plain := encryptAuthData_plain plaintext
  have length := encryptAuthData_length plaintext
  have field : (certRequest plaintext).bytes.drop 99 =
      strncpyField 501 (encryptAuthData plaintext) ++ List.replicate 3 0 := rfl
  rw [requestAuthData, field, strncpyField_of_plain plain, List.take_of_length_le (by omega),
    List.append_assoc, List.append_assoc, List.cons_append, cString_of_plain plain]

theorem answeredRequest_certRequest {plaintext : Bytes} (nonempty : plaintext ≠ [])
    (fits : plaintext.length ≤ 247) (beyond : Bytes) :
    answeredRequest (certRequest plaintext) beyond = CertRequest.parse plaintext := by
  have size : (certRequest plaintext).payloadSize = gAuthInfoSize := by
    have plain := encryptAuthData_plain plaintext
    have bound := List.length_take_le 500 (encryptAuthData plaintext)
    rw [← Message.payload_length, certRequest, Message.payload, encodeMessage_payload,
      strncpyField_of_plain plain]
    simp only [List.length_append, List.length_replicate, List.length_cons]
    unfold gAuthInfoSize
    change 91 + (((encryptAuthData plaintext).take 500).length +
      (500 - ((encryptAuthData plaintext).take 500).length + 1) + 3) = 595
    omega
  rw [answeredRequest, requestAuthData_certRequest fits,
    decryptAuthData_of_hexDecode (hexDecode_encryptAuthData plaintext), size,
    if_neg (Nat.lt_irrefl _), if_neg nonempty]

/-- `1,1,9...9,1,` with an IP of the given length. -/
def csvRequest (ipLength : Nat) : Bytes :=
  [49, comma, 49, comma] ++ List.replicate ipLength 57 ++ [comma, 49, comma]

def longIp (ipLength : Nat) : CertRequest :=
  { country := 1
    serverType := 1
    ip := List.replicate ipLength 57
    port := 1
    uniqKey := []
    isSessionSvr := 0 }

/-! ### When an answer can be read -/

/-- The answer to a request can be read exactly where its six fields have at most 242
bytes, which with the commas are 247. -/
theorem cert_answer_readable_iff {D : Type} (odbc : OdbcDb D) (db : D) (beyond : Bytes)
    (msg : Message) {req : CertRequest} (asked : answeredRequest msg beyond = some req)
    (plainKey : comma ∉ (returnedRow odbc req db).1) :
    readFields (certAnswer req (processCertificationForAuth odbc req db).1) =
        answerFields req (returnedRow odbc req db) ↔
      fieldsLength (answerFields req (returnedRow odbc req db)) ≤ 242 := by
  have plainIp : comma ∉ req.ip := by
    unfold answeredRequest at asked
    split at asked
    · cases asked
    · split at asked
      · cases asked
      · exact parse_ip_plain asked
  rw [returnedRow_eq] at plainKey ⊢
  generalize (processCertificationForAuth odbc req db).1 = res at plainKey ⊢
  constructor
  · intro read
    by_contra long
    rw [readFields_long (Nat.not_le.mp long)] at read
    have count := congrArg List.length read
    change 1 = 6 at count
    omega
  · intro short
    have length := certPlain_length req res
    have hexLength := encryptAuthData_length (certPlain req res)
    rw [readFields, answerAuthData_certAnswer, List.take_of_length_le (by omega),
      decryptAuthData_of_hexDecode (hexDecode_encryptAuthData (certPlain req res))]
    apply List.splitOn_intercalate
    · intro field member
      simp only [List.mem_cons, List.not_mem_nil, or_false] at member
      rcases member with rfl | rfl | rfl | rfl | rfl | rfl
      · exact decimal_plain _
      · exact decimal_plain _
      · exact plainIp
      · exact decimal_plain _
      · exact plainKey
      · exact decimal_plain _
    · exact List.cons_ne_nil _ _

theorem cert_answer_readable_iff_short :
    readFields (certAnswer (longIp 9) (processCertificationForAuth (scriptedDb 7) (longIp 9)
        (.start [])).1) =
      answerFields (longIp 9) (returnedRow (scriptedDb 7) (longIp 9) (.start [])) :=
  (cert_answer_readable_iff (scriptedDb 7) (.start []) [] (certRequest (csvRequest 9))
    ((answeredRequest_certRequest (by decide) (by decide) []).trans (by decide +kernel))
    (by decide +kernel)).mpr (by decide +kernel)

/-- The request itself fits szAuthData, but its answer does not. -/
theorem cert_answer_unreadable :
    answeredRequest (certRequest (csvRequest 239)) [] = some (longIp 239) ∧
      comma ∉ (returnedRow (scriptedDb 7) (longIp 239) (.start [])).1 ∧
      readFields (certAnswer (longIp 239) (processCertificationForAuth (scriptedDb 7) (longIp 239)
          (.start [])).1) ≠
        answerFields (longIp 239) (returnedRow (scriptedDb 7) (longIp 239) (.start [])) := by
  refine ⟨?_, by decide +kernel, ?_⟩
  · exact (answeredRequest_certRequest (by decide +kernel) (by decide +kernel) []).trans
      (by decide +kernel)
  · rw [readFields_long (by decide +kernel)]
    decide +kernel

end RanOnline.Servers
