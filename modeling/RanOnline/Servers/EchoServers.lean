/-
The servers whose handlers are not ported yet (servers/loginserver,
servers/sessionserver, servers/fieldserver): dispatch sends every message back, and
OnUpdate returns without a Flush.
-/
import RanOnline.Net.NetServer

namespace RanOnline.Servers

open Net Threads

section Echo

variable {α ω : Type} (lzo : Lzo)

/-- An m_onClose callback that erases the session and nothing else. -/
def keepApp (_clientId : UInt32) (app : α) : α := app

/-- The reply of dispatch to a message that has no handler. -/
def echo (c : Nat) (msg : Message) : Thread (Shared α ω) Unit :=
  sendTo lzo keepApp c (encodeMessage msg.type msg.payload)

def echoServer : NetServer Unit Empty :=
  { handle := echo lzo
    flushes := false
    onClose := keepApp }

def loginServer : NetServer Unit Empty := echoServer lzo

def sessionServer : NetServer Unit Empty := echoServer lzo

def fieldServer : NetServer Unit Empty := echoServer lzo

end Echo

end RanOnline.Servers
