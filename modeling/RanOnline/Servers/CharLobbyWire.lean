/-
The wire format of a character card, read back by a MessagePack decoder.

`value` is what a structure means as a MessagePack value, its members in the order
of their declaration; `ofValue` is what a client makes of such a value, with a range
check for every member.
-/
import RanOnline.Servers.AgentMsg
import RanOnline.Servers.CharLobby

namespace RanOnline.Servers

open Memory Net MessagePack

/-! ### Values -/

def GlPaData.value (data : GlPaData) : Value := .array [.int data.dwData.toNat]

def GlLlData.value (data : GlLlData) : Value :=
  .array [.int data.lnData1.toInt, .int data.lnData2.toInt]

def CharStats.value (stats : CharStats) : Value :=
  .array [.int stats.wPow.toNat, .int stats.wStr.toNat, .int stats.wSpi.toNat,
    .int stats.wDex.toNat, .int stats.wInt.toNat, .int stats.wSta.toNat]

def NativeId.value (id : NativeId) : Value := .array [.int id.dwID.toNat]

def ItemLoby.value (item : ItemLoby) : Value :=
  .array [item.sNativeID.value, item.nidDISGUISE.value, .int item.dwMainColor.toNat,
    .int item.dwSubColor.toNat, .int item.cDAMAGE.toNat, .int item.cDEFENSE.toNat]

def CharInfoLobby.members (info : CharInfoLobby) : List Value :=
  [.int info.dwCharID.toNat, .int info.clubDbNum.toNat, .int info.emClass.toNat,
    .int info.wSchool.toNat, .int info.wHair.toNat, .int info.wFace.toNat, .int info.wSex.toNat,
    .int info.wHairColor.toNat, info.sHP.value, info.sExperience.value, .int info.nBright.toInt,
    .int info.wLevel.toNat, info.sStats.value, .array (info.putOnItems.map ItemLoby.value),
    info.sSaveMapID.value, .int info.clubRank.toNat, .str info.chaName, .str info.clubName,
    .bool info.lock, .bool info.bRanMobile]

def CharInfoLobby.value (info : CharInfoLobby) : Value := .array info.members

/-- NET_LOBBY_CHARINFO_AC around a card. -/
def lobbyCharInfoAc (info : CharInfoLobby) : Value := .array [info.value]

/-! ### What a client makes of a value -/

def asNat (limit : Nat) : Value → Option Nat
  | .int number => if 0 ≤ number ∧ number < limit then some number.toNat else none
  | _ => none

def asUInt8 (value : Value) : Option UInt8 := (asNat (2 ^ 8) value).map UInt8.ofNat

def asUInt16 (value : Value) : Option UInt16 := (asNat (2 ^ 16) value).map UInt16.ofNat

def asUInt32 (value : Value) : Option UInt32 := (asNat (2 ^ 32) value).map UInt32.ofNat

def asInt32 : Value → Option Int32
  | .int number =>
      if -2 ^ 31 ≤ number ∧ number < 2 ^ 31 then some (Int32.ofInt number) else none
  | _ => none

def asInt64 : Value → Option Int64
  | .int number =>
      if -2 ^ 63 ≤ number ∧ number < 2 ^ 63 then some (Int64.ofInt number) else none
  | _ => none

def asStr : Value → Option Bytes
  | .str bytes => some bytes
  | _ => none

def asBool : Value → Option Bool
  | .bool value => some value
  | _ => none

def GlPaData.ofValue : Value → Option GlPaData
  | .array [dwData] => do return { dwData := ← asUInt32 dwData }
  | _ => none

def GlLlData.ofValue : Value → Option GlLlData
  | .array [lnData1, lnData2] => do
      return { lnData1 := ← asInt64 lnData1, lnData2 := ← asInt64 lnData2 }
  | _ => none

def CharStats.ofValue : Value → Option CharStats
  | .array [wPow, wStr, wSpi, wDex, wInt, wSta] => do
      return { wPow := ← asUInt16 wPow
               wStr := ← asUInt16 wStr
               wSpi := ← asUInt16 wSpi
               wDex := ← asUInt16 wDex
               wInt := ← asUInt16 wInt
               wSta := ← asUInt16 wSta }
  | _ => none

def NativeId.ofValue : Value → Option NativeId
  | .array [dwID] => do return { dwID := ← asUInt32 dwID }
  | _ => none

def ItemLoby.ofValue : Value → Option ItemLoby
  | .array [sNativeID, nidDISGUISE, dwMainColor, dwSubColor, cDAMAGE, cDEFENSE] => do
      return { sNativeID := ← NativeId.ofValue sNativeID
               nidDISGUISE := ← NativeId.ofValue nidDISGUISE
               dwMainColor := ← asUInt32 dwMainColor
               dwSubColor := ← asUInt32 dwSubColor
               cDAMAGE := ← asUInt8 cDAMAGE
               cDEFENSE := ← asUInt8 cDEFENSE }
  | _ => none

def CharInfoLobby.ofValue : Value → Option CharInfoLobby
  | .array [dwCharID, clubDbNum, emClass, wSchool, wHair, wFace, wSex, wHairColor, sHP,
      sExperience, nBright, wLevel, sStats, .array putOnItems, sSaveMapID, clubRank, chaName,
      clubName, lock, bRanMobile] => do
      return { dwCharID := ← asUInt32 dwCharID
               clubDbNum := ← asUInt32 clubDbNum
               emClass := ← asUInt32 emClass
               wSchool := ← asUInt16 wSchool
               wHair := ← asUInt16 wHair
               wFace := ← asUInt16 wFace
               wSex := ← asUInt16 wSex
               wHairColor := ← asUInt16 wHairColor
               sHP := ← GlPaData.ofValue sHP
               sExperience := ← GlLlData.ofValue sExperience
               nBright := ← asInt32 nBright
               wLevel := ← asUInt16 wLevel
               sStats := ← CharStats.ofValue sStats
               putOnItems := ← putOnItems.mapM ItemLoby.ofValue
               sSaveMapID := ← NativeId.ofValue sSaveMapID
               clubRank := ← asUInt32 clubRank
               chaName := ← asStr chaName
               clubName := ← asStr clubName
               lock := ← asBool lock
               bRanMobile := ← asBool bRanMobile }
  | _ => none

/-- The card out of NET_LOBBY_CHARINFO_AC. -/
def charInfoOfValue : Value → Option CharInfoLobby
  | .array [data] => CharInfoLobby.ofValue data
  | _ => none

/-! ### A client recovers every member -/

theorem asNat_of_lt {limit number : Nat} (fits : number < limit) :
    asNat limit (.int number) = some number := by
  have inside : (0 : Int) ≤ number ∧ (number : Int) < limit := by omega
  rw [asNat, if_pos inside, Int.toNat_natCast]

@[simp] theorem asUInt8_toNat (number : UInt8) : asUInt8 (.int number.toNat) = some number := by
  rw [asUInt8, asNat_of_lt number.toNat_lt, Option.map_some, UInt8.ofNat_toNat]

@[simp] theorem asUInt16_toNat (number : UInt16) :
    asUInt16 (.int number.toNat) = some number := by
  rw [asUInt16, asNat_of_lt number.toNat_lt, Option.map_some, UInt16.ofNat_toNat]

@[simp] theorem asUInt32_toNat (number : UInt32) :
    asUInt32 (.int number.toNat) = some number := by
  rw [asUInt32, asNat_of_lt number.toNat_lt, Option.map_some, UInt32.ofNat_toNat]

@[simp] theorem asInt32_toInt (number : Int32) : asInt32 (.int number.toInt) = some number := by
  rw [asInt32, if_pos ⟨number.le_toInt, number.toInt_lt⟩, Int32.ofInt_toInt]

@[simp] theorem asInt64_toInt (number : Int64) : asInt64 (.int number.toInt) = some number := by
  rw [asInt64, if_pos ⟨number.le_toInt, number.toInt_lt⟩, Int64.ofInt_toInt]

@[simp] theorem GlPaData.ofValue_value (data : GlPaData) : ofValue data.value = some data := by
  simp only [ofValue, value, asUInt32_toNat]
  rfl

@[simp] theorem GlLlData.ofValue_value (data : GlLlData) : ofValue data.value = some data := by
  simp only [ofValue, value, asInt64_toInt]
  rfl

@[simp] theorem CharStats.ofValue_value (stats : CharStats) :
    ofValue stats.value = some stats := by
  simp only [ofValue, value, asUInt16_toNat]
  rfl

@[simp] theorem NativeId.ofValue_value (id : NativeId) : ofValue id.value = some id := by
  simp only [ofValue, value, asUInt32_toNat]
  rfl

@[simp] theorem ItemLoby.ofValue_value (item : ItemLoby) : ofValue item.value = some item := by
  simp only [ofValue, value, NativeId.ofValue_value, asUInt32_toNat, asUInt8_toNat]
  rfl

@[simp] theorem mapM_itemLoby (items : List ItemLoby) :
    (items.map ItemLoby.value).mapM ItemLoby.ofValue = some items := by
  induction items with
  | nil => rfl
  | cons item items ih =>
      rw [List.map_cons, List.mapM_cons, ItemLoby.ofValue_value, ih]
      rfl

theorem charInfoOfValue_lobby (info : CharInfoLobby) :
    charInfoOfValue (lobbyCharInfoAc info) = some info := by
  simp only [charInfoOfValue, lobbyCharInfoAc, CharInfoLobby.ofValue, CharInfoLobby.value,
    CharInfoLobby.members, asUInt32_toNat, asUInt16_toNat, asInt32_toInt, GlPaData.ofValue_value,
    GlLlData.ofValue_value, CharStats.ofValue_value, NativeId.ofValue_value, mapM_itemLoby, asStr,
    asBool]
  rfl

/-! ### Pack writes the value -/

section Pack

variable (depth : Nat)

theorem encodes_uint (v : UInt64) : Encodes (depth + 1) (.int v.toNat) (Packer.uint v) :=
  (Packer.headAs_uint v).encodes depth

theorem encodes_uint32 (v : UInt32) :
    Encodes (depth + 1) (.int v.toNat) (Packer.uint v.toUInt64) := encodes_uint depth v.toUInt64

theorem encodes_uint16 (v : UInt16) :
    Encodes (depth + 1) (.int v.toNat) (Packer.uint v.toUInt64) := encodes_uint depth v.toUInt64

theorem encodes_uint8 (v : UInt8) :
    Encodes (depth + 1) (.int v.toNat) (Packer.uint v.toUInt64) := encodes_uint depth v.toUInt64

theorem encodes_int (v : Int64) : Encodes (depth + 1) (.int v.toInt) (Packer.int v) :=
  (Packer.headAs_int v).encodes depth

theorem encodes_int32 (v : Int32) : Encodes (depth + 1) (.int v.toInt) (Packer.int v.toInt64) := by
  have encoded := encodes_int depth v.toInt64
  rwa [Int32.toInt_toInt64] at encoded

theorem encodes_str {s : Bytes} (fits : s.length < 2 ^ 32) :
    Encodes (depth + 1) (.str s) (Packer.str s) := (Packer.headAs_str fits).encodes depth

theorem encodes_bool (b : Bool) : Encodes (depth + 1) (.bool b) (Packer.bool b) :=
  (Packer.headAs_bool b).encodes depth

variable {depth}

/-- An array behind the number of its elements. -/
theorem encodes_array {values : List Value} {parts : List Bytes} (count : UInt32)
    (encoded : List.Forall₂ (Encodes depth) values parts) (counted : values.length = count.toNat) :
    Encodes (depth + 1) (.array values) (Packer.array count ++ parts.flatten) := by
  apply Encodes.array _ encoded
  rw [counted]
  exact Packer.headAs_array count

variable (depth)

theorem GlPaData.encodes (data : GlPaData) : Encodes (depth + 2) data.value data.pack := by
  have encoded := encodes_array 1 (.cons (encodes_uint32 depth data.dwData) .nil) rfl
  rwa [List.flatten_cons, List.flatten_nil, List.append_nil] at encoded

theorem GlLlData.encodes (data : GlLlData) : Encodes (depth + 2) data.value data.pack := by
  have encoded := encodes_array 2 (.cons (encodes_int depth data.lnData1)
    (.cons (encodes_int depth data.lnData2) .nil)) rfl
  rwa [List.flatten_cons, List.flatten_cons, List.flatten_nil, List.append_nil,
    ← List.append_assoc] at encoded

theorem CharStats.encodes (stats : CharStats) : Encodes (depth + 2) stats.value stats.pack :=
  encodes_array 6 (.cons (encodes_uint16 depth stats.wPow) (.cons (encodes_uint16 depth stats.wStr)
    (.cons (encodes_uint16 depth stats.wSpi) (.cons (encodes_uint16 depth stats.wDex)
      (.cons (encodes_uint16 depth stats.wInt) (.cons (encodes_uint16 depth stats.wSta) .nil))))))
    rfl

theorem NativeId.encodes (id : NativeId) : Encodes (depth + 2) id.value id.pack := by
  have encoded := encodes_array 1 (.cons (encodes_uint32 depth id.dwID) .nil) rfl
  rwa [List.flatten_cons, List.flatten_nil, List.append_nil] at encoded

theorem ItemLoby.encodes (item : ItemLoby) : Encodes (depth + 3) item.value item.pack := by
  have encoded := encodes_array 6 (.cons (item.sNativeID.encodes depth)
    (.cons (item.nidDISGUISE.encodes depth)
      (.cons (encodes_uint32 (depth + 1) item.dwMainColor)
        (.cons (encodes_uint32 (depth + 1) item.dwSubColor)
          (.cons (encodes_uint8 (depth + 1) item.cDAMAGE)
            (.cons (encodes_uint8 (depth + 1) item.cDEFENSE) .nil)))))) rfl
  simp only [List.flatten_cons, List.flatten_nil, List.append_nil] at encoded
  simp only [ItemLoby.pack, List.append_assoc]
  exact encoded

theorem encodes_items (items : List ItemLoby) (fits : items.length < 2 ^ 32) :
    Encodes (depth + 4) (.array (items.map ItemLoby.value))
      (Packer.array (UInt32.ofNat items.length) ++ items.flatMap ItemLoby.pack) := by
  have encoded : List.Forall₂ (Encodes (depth + 3)) (items.map ItemLoby.value)
      (items.map ItemLoby.pack) := by
    induction items with
    | nil => exact .nil
    | cons item items ih =>
        rw [List.length_cons] at fits
        exact .cons (item.encodes depth) (ih (by omega))
  apply encodes_array _ encoded
  rw [List.length_map, UInt32.toNat_ofNat', Nat.mod_eq_of_lt fits]

theorem CharInfoLobby.encodes (info : CharInfoLobby) (items : info.putOnItems.length < 2 ^ 32)
    (chaName : info.chaName.length < 2 ^ 32) (clubName : info.clubName.length < 2 ^ 32) :
    Encodes (depth + 5) info.value info.pack := by
  have encoded := encodes_array 20
    (.cons (encodes_uint32 (depth + 3) info.dwCharID)
    (.cons (encodes_uint32 (depth + 3) info.clubDbNum)
    (.cons (encodes_uint32 (depth + 3) info.emClass)
    (.cons (encodes_uint16 (depth + 3) info.wSchool)
    (.cons (encodes_uint16 (depth + 3) info.wHair)
    (.cons (encodes_uint16 (depth + 3) info.wFace)
    (.cons (encodes_uint16 (depth + 3) info.wSex)
    (.cons (encodes_uint16 (depth + 3) info.wHairColor)
    (.cons (info.sHP.encodes (depth + 2))
    (.cons (info.sExperience.encodes (depth + 2))
    (.cons (encodes_int32 (depth + 3) info.nBright)
    (.cons (encodes_uint16 (depth + 3) info.wLevel)
    (.cons (info.sStats.encodes (depth + 2))
    (.cons (encodes_items depth info.putOnItems items)
    (.cons (info.sSaveMapID.encodes (depth + 2))
    (.cons (encodes_uint32 (depth + 3) info.clubRank)
    (.cons (encodes_str (depth + 3) chaName)
    (.cons (encodes_str (depth + 3) clubName)
    (.cons (encodes_bool (depth + 3) info.lock)
    (.cons (encodes_bool (depth + 3) info.bRanMobile) .nil)))))))))))))))))))) rfl
  simp only [List.flatten_cons, List.flatten_nil, List.append_nil, List.append_assoc] at encoded
  unfold CharInfoLobby.pack
  simp only [List.append_assoc]
  exact encoded

end Pack

theorem encodes_lobbyCharInfoAc (info : CharInfoLobby) (items : info.putOnItems.length < 2 ^ 32)
    (chaName : info.chaName.length < 2 ^ 32) (clubName : info.clubName.length < 2 ^ 32) :
    Encodes 6 (lobbyCharInfoAc info) (packLobbyCharInfoAc info) := by
  have encoded := encodes_array 1 (.cons (info.encodes 0 items chaName clubName) .nil) rfl
  rwa [List.flatten_cons, List.flatten_nil, List.append_nil] at encoded

theorem packLobbyCharInfoAc_length (info : CharInfoLobby) :
    5 ≤ (packLobbyCharInfoAc info).length := by
  have header : (Packer.array 1 ++ Packer.array 20).length = 4 := rfl
  have last : (Packer.bool info.bRanMobile).length = 1 := rfl
  rw [List.length_append] at header
  unfold packLobbyCharInfoAc CharInfoLobby.pack
  simp only [List.length_append]
  omega

/-- m_DataSize of the NET_MSG_PACK body. -/
def packDataSize (body : Bytes) : Nat := (wordAt body 4).toNat

theorem packBody_dataSize (mpbuf : Bytes) (fits : mpbuf.length < 2 ^ 32) :
    packDataSize (packBody mpbuf) = mpbuf.length := by
  have word : wordAt (packBody mpbuf) 4 = UInt32.ofNat mpbuf.length := by
    rw [packBody, List.append_assoc]
    exact (wordAt_append_right (writeLE32 0) _ 0).trans (wordAt_writeLE32 _ _)
  rw [packDataSize, word, UInt32.toNat_ofNat', Nat.mod_eq_of_lt fits]

theorem packBody_data (mpbuf : Bytes) : (packBody mpbuf).drop 8 = mpbuf := rfl

/-- The character card on the wire: one object with nothing behind it, from which a
client recovers the card, inside a body that announces its size. -/
theorem charInfo_wire (info : CharInfoLobby) (items : info.putOnItems.length < 2 ^ 32)
    (chaName : info.chaName.length < 2 ^ 32) (clubName : info.clubName.length < 2 ^ 32) :
    decode (packLobbyCharInfoAc info) = some (.array [.array info.members], []) ∧
      info.members.length = 20 ∧
      charInfoOfValue (.array [.array info.members]) = some info ∧
      ((packLobbyCharInfoAc info).length < 2 ^ 32 - 16 →
        packDataSize (packBody (packLobbyCharInfoAc info)) =
            ((packBody (packLobbyCharInfoAc info)).drop 8).length ∧
          (packBody (packLobbyCharInfoAc info)).drop 8 = packLobbyCharInfoAc info) := by
  refine ⟨?_, rfl, charInfoOfValue_lobby info, ?_⟩
  · have length := packLobbyCharInfoAc_length info
    exact (encodes_lobbyCharInfoAc info items chaName clubName).decode (by omega)
  · intro small
    rw [packBody_data]
    exact ⟨packBody_dataSize _ (by omega), rfl⟩

/-- The default constructor. -/
def CharInfoLobby.new : CharInfoLobby :=
  { dwCharID := 0
    clubDbNum := 0
    emClass := 0
    wSchool := 0
    wHair := 0
    wFace := 0
    wSex := 0
    wHairColor := 0
    sHP := { dwData := 0 }
    sExperience := { lnData1 := 0, lnData2 := 0 }
    nBright := 0
    wLevel := 1
    sStats := { wPow := 0, wStr := 0, wSpi := 0, wDex := 0, wInt := 0, wSta := 0 }
    putOnItems := List.replicate slotTsize .empty
    sSaveMapID := { dwID := 0 }
    clubRank := 0
    chaName := []
    clubName := []
    lock := false
    bRanMobile := false }

theorem charInfo_wire_new :
    decode (packLobbyCharInfoAc .new) = some (.array [.array CharInfoLobby.new.members], []) ∧
      packDataSize (packBody (packLobbyCharInfoAc .new)) =
        ((packBody (packLobbyCharInfoAc .new)).drop 8).length := by
  have wire := charInfo_wire .new (by decide) (by decide) (by decide)
  exact ⟨wire.1, (wire.2.2.2 (by decide +kernel)).1⟩

end RanOnline.Servers
