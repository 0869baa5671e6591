/-
OdbcDb (db/odbc_db.h, odbc_db.cpp) over an ODBC driver: the connection, the
accumulated parameters, the execution of statements and procedures and the cursor.

Diagnostic texts (m_err) are left out: the servers only log them.
-/
import RanOnline.Db.Driver
import RanOnline.Db.OdbcDb
import RanOnline.Lib.CString
import RanOnline.Net.Packet

namespace RanOnline.Db

open Memory Net

/-- Where the addresses lead that the statement was given by SQLBindParameter (`buf.data()` and
`&ind` of every parameter), from SQLExecute on: a driver writes for a statement that was executed.
Once m_params is cleared or grows, the buffers are freed and the elements gone or moved; the
numbers are those of the outputs. -/
inductive Bindings
  | none
  | intact
  | dangling (outputs : List UInt16)
  deriving DecidableEq, Repr

/-- m_env, m_conn and m_stmt are true where the handle is not SQL_NULL_HANDLE.
`written` and `strayed` are history: what the driver has written since the last SQLExecute, and
whether it ever wrote to an address that leads nowhere any more, after which C++ promises
nothing of the object. -/
structure Object (W : Type) where
  driver : W
  env : Bool
  conn : Bool
  stmt : Bool
  eof : Bool
  resultsDrained : Bool
  paramsExecuted : Bool
  cols : List (Bytes × Nat)
  params : List Param
  bindings : Bindings
  written : List Written
  strayed : Bool

abbrev Method (W : Type) := StateM (Object W)

/-- The copy out of a buffer: by the indicator, or up to the NUL where it is no length; the
fault is that of a read past the buffer. -/
def copyText (buf : Block) (ind : Int) : Checked Bytes := do
  let length ← if ind = sqlNts ∨ ind < 0 then CString.strlen buf 0 else .ok ind.toNat
  buf.readRange 0 length

namespace Object

def new {W : Type} (driver : W) : Object W :=
  { driver := driver
    env := false
    conn := false
    stmt := false
    eof := true
    resultsDrained := false
    paramsExecuted := false
    cols := []
    params := []
    bindings := .none
    written := []
    strayed := false }

/-- std::tolower of every character. -/
def lower (text : Bytes) : Bytes := text.map fun c => if 65 ≤ c ∧ c ≤ 90 then c + 32 else c

def text (literal : String) : Bytes := literal.toUTF8.toList

def intBytes (value : Int) : Bytes := writeLE32 (UInt32.ofInt value)

def intOf (buf : Bytes) : Int := (wordAt buf 0).toInt32.toInt

/-- The low bytes of a number in two's complement, the least significant first. -/
def littleEndian (width : Nat) (value : Int) : Bytes :=
  (List.range width).map fun i => UInt8.ofNat (value / 2 ^ (8 * i) % 256).toNat

def longLongOf (buf : Bytes) : Int :=
  (UInt64.ofNat ((buf.take 8).foldr (fun byte rest => byte.toNat + 256 * rest) 0)).toInt64.toInt

section Methods

variable {W : Type}

def call {α : Type} (body : StateM W α) : Method W α := fun db =>
  ((body db.driver).1, { db with driver := (body db.driver).2 })

/-- A branch without an else. -/
def whenSet (flag : Object W → Bool) (body : Method W Unit) : Method W Unit := fun db =>
  if flag db then body db else ((), db)

/-! ### Parameters -/

/-- The return value is bound first, the others in append order. -/
def bindOrder (params : List Param) : List Param :=
  params.filter Param.isReturn ++ params.filter fun param => !param.isReturn

/-- The numbers of the outputs among parameters that are bound from this number on. -/
def outputNumbers : UInt16 → List Param → List UInt16
  | _, [] => []
  | number, param :: rest =>
      match param.ioType with
      | .input => outputNumbers (number + 1) rest
      | .output => number :: outputNumbers (number + 1) rest

/-- What becomes of the bindings where m_params, with these parameters, is cleared or grows. -/
def givenUp (params : List Param) : Bindings → Bindings
  | .none => .none
  | .intact => .dangling (outputNumbers 1 (bindOrder params))
  | .dangling outputs => .dangling outputs

/-- The object with these parameters in place of its own, and no procedure run with them. -/
def withParams (params : List Param) (db : Object W) : Object W :=
  { db with
    params := params
    paramsExecuted := false
    bindings := givenUp db.params db.bindings }

def beginParam : Method W Unit :=
  modify fun db => if db.paramsExecuted then withParams [] db else db

def clearParams : Method W Unit := modify (withParams [])

def findParam (db : Object W) (name : Bytes) : Option Param :=
  db.params.find? fun p => lower p.name = lower name

def addParam (param : Param) : Method W Unit := do
  beginParam
  modify fun db =>
    { db with
      params := db.params ++ [param]
      bindings := givenUp db.params db.bindings }

/-- fillInput: the value bytes, with their number. -/
def inputParam (name : Bytes) (cType : CType) (sqlType : SqlType) (columnSize : Nat)
    (value : Bytes) : Param :=
  { name := name
    ioType := .input
    isReturn := false
    cType := cType
    sqlType := sqlType
    columnSize := columnSize
    decimalDigits := 0
    buf := value
    ind := value.length }

/-- fillOutput: a zeroed buffer, NULL until the driver writes it. -/
def outputParam (name : Bytes) (isReturn : Bool) (cType : CType) (sqlType : SqlType)
    (columnSize capacity : Nat) : Param :=
  { name := name
    ioType := .output
    isReturn := isReturn
    cType := cType
    sqlType := sqlType
    columnSize := columnSize
    decimalDigits := 0
    buf := List.replicate capacity 0
    ind := sqlNullData }

/-- The buffer holds a NUL more than the indicator counts. -/
def varcharParam (name : Bytes) (value : Bytes) (size : Int) : Param :=
  { inputParam name .char .varchar
      (if 0 < size then size.toNat else if value.isEmpty then 1 else value.length) value with
    buf := value ++ [0] }

def appendIParamInteger (name : String) (value : Int) : Method W Unit :=
  addParam (inputParam (text name) .slong .integer 10 (intBytes value))

def appendOParamInteger (name : String) : Method W Unit :=
  addParam (outputParam (text name) false .slong .integer 10 4)

def appendRParamInteger : Method W Unit :=
  addParam (outputParam (text "RETURN_VALUE") true .slong .integer 10 4)

def appendIParamBigint (name : String) (value : Int64) : Method W Unit :=
  addParam (inputParam (text name) .sbigint .bigint 19 (littleEndian 8 value.toInt))

def appendOParamBigint (name : String) : Method W Unit :=
  addParam (outputParam (text name) false .sbigint .bigint 19 8)

def appendIParamTinyint (name : String) (value : UInt8) : Method W Unit :=
  addParam (inputParam (text name) .utinyint .tinyint 3 [value])

def appendOParamTinyint (name : String) : Method W Unit :=
  addParam (outputParam (text name) false .utinyint .tinyint 3 1)

/-- The same two bytes as a short. -/
def appendIParamSmall (name : String) (value : UInt16) : Method W Unit :=
  addParam (inputParam (text name) .sshort .smallint 5 (littleEndian 2 value.toNat))

def appendOParamSmall (name : String) : Method W Unit :=
  addParam (outputParam (text name) false .sshort .smallint 5 2)

def appendIParamVarchar (name : String) (value : Bytes) (size : Int) : Method W Unit :=
  addParam (varcharParam (text name) value size)

/-- The buffer has room for the NUL of the driver. -/
def appendOParamVarchar (name : String) (size : Int) : Method W Unit :=
  let capacity := if 0 < size then size.toNat else 256
  addParam (outputParam (text name) false .char .varchar capacity (capacity + 1))

/-- A double is the word with its bits. -/
def appendIParamFloat (name : String) (bits : UInt64) : Method W Unit :=
  addParam (inputParam (text name) .double .double 15 (littleEndian 8 bits.toNat))

def appendOParamFloat (name : String) : Method W Unit :=
  addParam (outputParam (text name) false .double .double 15 8)

/-! ### What the driver writes -/

/-- The value in a fixed buffer. -/
def overwrite (buf bytes : Bytes) : Bytes :=
  bytes.take buf.length ++ buf.drop bytes.length

/-- What the writes to one parameter make of its buffer and indicator. -/
def filled (written : List Written) (number : UInt16) (value : Bytes × Int) : Bytes × Int :=
  written.foldl (fun value write =>
    if write.number = number then (overwrite value.1 write.bytes, write.ind) else value) value

def receive (written : List Written) (number : UInt16) (param : Param) : Param :=
  match param.ioType with
  | .input => param
  | .output =>
      { param with
        buf := (filled written number (param.buf, param.ind)).1
        ind := (filled written number (param.buf, param.ind)).2 }

/-- The next number of a return value and that of any other parameter. -/
def receiveFrom (written : List Written) : UInt16 → UInt16 → List Param → List Param
  | _, _, [] => []
  | returning, other, param :: rest =>
      if param.isReturn then
        receive written returning param :: receiveFrom written (returning + 1) other rest
      else receive written other param :: receiveFrom written returning (other + 1) rest

/-- Return values have the first numbers and the others follow in append order. -/
def received (written : List Written) (params : List Param) : List Param :=
  receiveFrom written 1 (UInt16.ofNat (1 + params.countP Param.isReturn)) params

/-- The driver reaches the parameters through their addresses only. -/
def reached (written : List Written) (params : List Param) : Bindings → List Param
  | .intact => received written params
  | .none | .dangling _ => params

/-- One of the writes goes to an address that leads nowhere any more. -/
def stray (written : List Written) : Bindings → Bool
  | .none | .intact => false
  | .dangling outputs => written.any fun write => outputs.contains write.number

def deliver (written : List Written) : Method W Unit :=
  modify fun db =>
    { db with
      params := reached written db.params db.bindings
      written := db.written ++ written
      strayed := db.strayed || stray written db.bindings }

variable (driver : Driver W)

/-! ### Statements -/

def freeStmt : Method W Unit := do
  whenSet Object.stmt do
    call (driver.freeHandle .stmt)
    modify fun db => { db with stmt := false, bindings := .none }
  modify fun db => { db with cols := [], eof := true, resultsDrained := false }

def allocStmt : Method W Bool := do
  let allocated ← call (driver.allocHandle .stmt)
  modify fun db => { db with stmt := allocated }
  return allocated

def execDirect (sql : Bytes) : Method W Bool := do
  if !(← get).conn then return false
  freeStmt driver
  if !(← allocStmt driver) then return false
  let r ← call (driver.execDirect sql)
  return r.ok || r = .noData

def describeCols : List Nat → Method W Unit
  | [] => pure ()
  | i :: rest => do
      match ← call (driver.describeCol i) with
      | some name => modify fun db => { db with cols := (lower name, i) :: db.cols }
      | none => pure ()
      describeCols rest

def buildColumnMap : Method W Unit := do
  modify fun db => { db with cols := [] }
  match ← call driver.numResultCols with
  | some cols => describeCols driver (List.range' 1 cols)
  | none => pure ()

def fetchRow : Method W Bool := do
  let r ← call driver.fetch
  modify fun db => { db with eof := !r.ok }
  return r.ok

def execute (sql : Bytes) : Method W Bool := do
  if !(← execDirect driver sql) then return false
  buildColumnMap driver
  let _positioned ← fetchRow driver
  return true

/-- The call escape: `{ ? = call sp (?,?) }`. -/
def callText (params : List Param) (sp : String) : Bytes :=
  let markers := params.countP fun param => !param.isReturn
  text "\x7b " ++ (if params.any Param.isReturn then text "? = " else []) ++ text ("call " ++ sp) ++
    (if 0 < markers then
      text " (" ++ ((List.range markers).flatMap fun i => text (if i = 0 then "?" else ",?")) ++
        text ")"
    else []) ++ text " \x7d"

def bindAll : UInt16 → List Param → Method W Bool
  | _, [] => pure true
  | number, param :: rest => do
      if !(← call (driver.bindParameter number param)) then return false
      bindAll (number + 1) rest

def execCall (sp : String) : Method W Bool := do
  if !(← get).conn then return false
  freeStmt driver
  if !(← allocStmt driver) then return false
  let params := (← get).params
  if !(← call (driver.prepare (callText params sp))) then return false
  if !(← bindAll driver 1 (bindOrder params)) then return false
  modify fun db => { db with bindings := .intact, written := [] }
  let (r, written) ← call driver.execute
  deliver written
  if !(r.ok || r = .noData) then return false
  buildColumnMap driver
  let _positioned ← fetchRow driver
  modify fun db => { db with resultsDrained := false, paramsExecuted := true }
  return true

def executeStoredProcedure (sp : String) : Method W Bool := do
  if (← get).params.isEmpty then execute driver (text ("EXEC " ++ sp))
  else execCall driver sp

def next : Method W Bool := do
  if !(← get).stmt then
    modify fun db => { db with eof := true }
    return false
  else fetchRow driver

/-! ### Values -/

def colIndex (db : Object W) (column : String) : Option Nat :=
  db.cols.lookup (lower (text column))

def getCollect (column : String) : Method W (Option Int) := do
  match colIndex (← get) column with
  | none => return none
  | some idx =>
      let (r, value) ← call (driver.getDataLong idx)
      return if r.ok then value else none

/-- The value in `char buf[4096]`. -/
def getCollectString (column : String) : Method W (Checked (Option Bytes)) := do
  match colIndex (← get) column with
  | none => return .ok none
  | some idx =>
      let (r, ind, byteAt) ← call (driver.getDataChar idx 4096)
      if !r.ok then return .ok none
      if ind = sqlNullData then return .ok none
      return (copyText { size := 4096, byteAt := byteAt } ind).map some

/-- `while (SQLMoreResults(m_stmt) == SQL_SUCCESS) {}`. -/
def skipResults : Nat → Method W Unit
  | 0 => pure ()
  | fuel + 1 => do
      let (r, written) ← call driver.moreResults
      deliver written
      if r = .success then skipResults fuel

def drainResults : Method W Unit := do
  whenSet Object.stmt do
    skipResults driver (driver.resultsLeft (← get).driver + 1)
  modify fun db => { db with resultsDrained := true, eof := true }

/-- The int in a buffer, by its indicator and size. -/
def intValue (value : Bytes × Int) : Option Int :=
  if value.2 = sqlNullData then none
  else if value.1.length < 4 then none
  else some (intOf value.1)

def readParam (db : Object W) (name : String) : Option Int :=
  match findParam db (text name) with
  | none => none
  | some param => intValue (param.buf, param.ind)

def getParam (name : String) : Method W (Option Int) := do
  whenSet (fun db => !db.resultsDrained) (drainResults driver)
  return readParam (← get) name

/-- The long long in a buffer. -/
def longLongValue (value : Bytes × Int) : Option Int :=
  if value.2 = sqlNullData then none
  else if value.1.length < 8 then none
  else some (longLongOf value.1)

/-- The text in a buffer; the fault is that of a search for its NUL past the buffer. -/
def stringValue (value : Bytes × Int) : Checked (Option Bytes) :=
  if value.2 = sqlNullData then .ok none
  else do
    let length ← if 0 ≤ value.2 then .ok value.2.toNat else CString.strlen (.ofBytes value.1) 0
    .ok (some (value.1.take (min length value.1.length)))

/-- The body of the overloads of GetParam: what they make of a parameter, and of none. -/
def getParamAs {α : Type} (value : Bytes × Int → α) (unknown : α) (name : String) :
    Method W α := do
  whenSet (fun db => !db.resultsDrained) (drainResults driver)
  return ((findParam (← get) (text name)).map fun param => value (param.buf, param.ind)).getD unknown

def getParamLongLong (name : String) : Method W (Option Int) :=
  getParamAs driver longLongValue none name

def getParamString (name : String) : Method W (Checked (Option Bytes)) :=
  getParamAs driver stringValue (.ok none) name

/-! ### The connection -/

def isOpened (db : Object W) : Bool := db.conn

def close : Method W Unit := do
  freeStmt driver
  modify (withParams [])
  whenSet Object.conn do
    call driver.disconnect
    call (driver.freeHandle .dbc)
    modify fun db => { db with conn := false }
  whenSet Object.env do
    call (driver.freeHandle .env)
    modify fun db => { db with env := false }

/-- Open. -/
def connect (connStr : Bytes) : Method W Bool := do
  let env ← call (driver.allocHandle .env)
  modify fun db => { db with env := env }
  if !env then return false
  call driver.setEnvAttr
  let conn ← call (driver.allocHandle .dbc)
  modify fun db => { db with conn := conn }
  if !conn then
    close driver
    return false
  if !(← call (driver.driverConnect connStr)) then
    close driver
    return false
  return true

end Methods

end Object

end RanOnline.Db
