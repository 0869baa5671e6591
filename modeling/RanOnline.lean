import RanOnline.Db.BoundAddresses
import RanOnline.Db.ColumnLog
import RanOnline.Db.Driver
import RanOnline.Db.DriverCalls
import RanOnline.Db.DriverLog
import RanOnline.Db.DriverMirror
import RanOnline.Db.HandleLedger
import RanOnline.Db.OdbcCalls
import RanOnline.Db.OdbcDb
import RanOnline.Db.OdbcDrain
import RanOnline.Db.OdbcFrames
import RanOnline.Db.OdbcMarkers
import RanOnline.Db.OdbcObject
import RanOnline.Db.OdbcParams
import RanOnline.Db.OdbcRows
import RanOnline.Db.OdbcText
import RanOnline.Db.StatementTexts
import RanOnline.Db.VarcharLog
import RanOnline.Lib.AsyncOps
import RanOnline.Lib.BlockMode
import RanOnline.Lib.CString
import RanOnline.Lib.History
import RanOnline.Lib.LockOrder
import RanOnline.Lib.Memory
import RanOnline.Lib.MessagePack
import RanOnline.Lib.Method
import RanOnline.Lib.Schedule
import RanOnline.Lib.Segments
import RanOnline.Lib.StepRun
import RanOnline.Lib.StreamCut
import RanOnline.Lib.Text
import RanOnline.Lib.Thread
import RanOnline.Lib.Word32
import RanOnline.Net.AcceptLoop
import RanOnline.Net.Amplification
import RanOnline.Net.AppInvariant
import RanOnline.Net.ClientView
import RanOnline.Net.Closing
import RanOnline.Net.Conversation
import RanOnline.Net.ConversationLive
import RanOnline.Net.ConversationRuns
import RanOnline.Net.ConversationWire
import RanOnline.Net.Framer
import RanOnline.Net.FramerBounds
import RanOnline.Net.FramerChunks
import RanOnline.Net.FramerEmitted
import RanOnline.Net.FramerGrammar
import RanOnline.Net.FramerWire
import RanOnline.Net.Inbound
import RanOnline.Net.Lifecycle
import RanOnline.Net.Locks
import RanOnline.Net.MinLzo
import RanOnline.Net.Moves
import RanOnline.Net.MsgpackCanonical
import RanOnline.Net.MsgpackMin
import RanOnline.Net.NetServer
import RanOnline.Net.Packet
import RanOnline.Net.Pipeline
import RanOnline.Net.PipelineLive
import RanOnline.Net.SendMsgBuffer
import RanOnline.Net.SendMsgBufferRuns
import RanOnline.Net.ServerHistory
import RanOnline.Net.Session
import RanOnline.Net.SessionChunks
import RanOnline.Net.SessionDelivery
import RanOnline.Net.StopLive
import RanOnline.Net.UpdateTick
import RanOnline.Net.WireLive
import RanOnline.Net.WriteQueue
import RanOnline.Net.WriteQueueLive
import RanOnline.Servers.AgentHistory
import RanOnline.Servers.AgentIds
import RanOnline.Servers.AgentLogins
import RanOnline.Servers.AgentMsg
import RanOnline.Servers.AgentPin
import RanOnline.Servers.AgentPinMode
import RanOnline.Servers.AgentServer
import RanOnline.Servers.AuthAnswer
import RanOnline.Servers.AuthCanonical
import RanOnline.Servers.AuthCrypto
import RanOnline.Servers.AuthEcho
import RanOnline.Servers.AuthLine
import RanOnline.Servers.AuthServer
import RanOnline.Servers.BoundFields
import RanOnline.Servers.CertRows
import RanOnline.Servers.CharLobby
import RanOnline.Servers.CharLobbyWire
import RanOnline.Servers.CharRows
import RanOnline.Servers.ClientViews
import RanOnline.Servers.Conversations
import RanOnline.Servers.EchoServers
import RanOnline.Servers.FieldReads
import RanOnline.Servers.GameServers
import RanOnline.Servers.Handles
import RanOnline.Servers.Locks
import RanOnline.Servers.LoginAnswer
import RanOnline.Servers.Moves
import RanOnline.Servers.PinAnswer
import RanOnline.Servers.QueryTexts
import RanOnline.Servers.ShownDb
import RanOnline.Servers.Startup
import RanOnline.Servers.Tick
import RanOnline.Servers.WritesInPlace
