/-
The character card of the lobby (servers/agentserver/char_lobby.h).
-/
import RanOnline.Net.MsgpackMin

namespace RanOnline.Servers

open Memory Net

structure GlPaData where
  dwData : UInt32
  deriving DecidableEq, Repr

def GlPaData.pack (data : GlPaData) : Bytes :=
  Packer.array 1 ++ Packer.uint data.dwData.toUInt64

structure GlLlData where
  lnData1 : Int64
  lnData2 : Int64
  deriving DecidableEq, Repr

def GlLlData.pack (data : GlLlData) : Bytes :=
  Packer.array 2 ++ Packer.int data.lnData1 ++ Packer.int data.lnData2

structure CharStats where
  wPow : UInt16
  wStr : UInt16
  wSpi : UInt16
  wDex : UInt16
  wInt : UInt16
  wSta : UInt16
  deriving DecidableEq, Repr

def CharStats.pack (stats : CharStats) : Bytes :=
  Packer.array 6 ++
    [stats.wPow, stats.wStr, stats.wSpi, stats.wDex, stats.wInt, stats.wSta].flatMap
      fun stat => Packer.uint stat.toUInt64

structure NativeId where
  dwID : UInt32
  deriving DecidableEq, Repr

def NativeId.pack (id : NativeId) : Bytes := Packer.array 1 ++ Packer.uint id.dwID.toUInt64

structure ItemLoby where
  sNativeID : NativeId
  nidDISGUISE : NativeId
  dwMainColor : UInt32
  dwSubColor : UInt32
  cDAMAGE : UInt8
  cDEFENSE : UInt8
  deriving DecidableEq, Repr

def ItemLoby.empty : ItemLoby :=
  { sNativeID := { dwID := 0 }
    nidDISGUISE := { dwID := 0 }
    dwMainColor := 0
    dwSubColor := 0
    cDAMAGE := 0
    cDEFENSE := 0 }

def ItemLoby.pack (item : ItemLoby) : Bytes :=
  Packer.array 6 ++ item.sNativeID.pack ++ item.nidDISGUISE.pack ++
    Packer.uint item.dwMainColor.toUInt64 ++ Packer.uint item.dwSubColor.toUInt64 ++
    Packer.uint item.cDAMAGE.toUInt64 ++ Packer.uint item.cDEFENSE.toUInt64

def slotTsize : Nat := 20

structure CharInfoLobby where
  dwCharID : UInt32
  clubDbNum : UInt32
  emClass : UInt32
  wSchool : UInt16
  wHair : UInt16
  wFace : UInt16
  wSex : UInt16
  wHairColor : UInt16
  sHP : GlPaData
  sExperience : GlLlData
  nBright : Int32
  wLevel : UInt16
  sStats : CharStats
  putOnItems : List ItemLoby
  sSaveMapID : NativeId
  clubRank : UInt32
  chaName : Bytes
  clubName : Bytes
  lock : Bool
  bRanMobile : Bool
  deriving DecidableEq, Repr

def CharInfoLobby.pack (info : CharInfoLobby) : Bytes :=
  Packer.array 20 ++ Packer.uint info.dwCharID.toUInt64 ++ Packer.uint info.clubDbNum.toUInt64 ++
    Packer.uint info.emClass.toUInt64 ++ Packer.uint info.wSchool.toUInt64 ++
    Packer.uint info.wHair.toUInt64 ++ Packer.uint info.wFace.toUInt64 ++
    Packer.uint info.wSex.toUInt64 ++ Packer.uint info.wHairColor.toUInt64 ++
    info.sHP.pack ++ info.sExperience.pack ++ Packer.int info.nBright.toInt64 ++
    Packer.uint info.wLevel.toUInt64 ++ info.sStats.pack ++
    Packer.array (UInt32.ofNat info.putOnItems.length) ++
    info.putOnItems.flatMap ItemLoby.pack ++ info.sSaveMapID.pack ++
    Packer.uint info.clubRank.toUInt64 ++ Packer.str info.chaName ++ Packer.str info.clubName ++
    Packer.bool info.lock ++ Packer.bool info.bRanMobile

/-- NET_LOBBY_CHARINFO_AC. -/
def packLobbyCharInfoAc (data : CharInfoLobby) : Bytes := Packer.array 1 ++ data.pack

end RanOnline.Servers
