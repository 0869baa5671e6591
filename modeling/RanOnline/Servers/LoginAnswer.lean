/-
What a login answers, from the driver's answers to m_loginSessions and the reply.

The return code of gs_user_verify decides first and the row of GSUserInfo second;
a failure of the second takes back the success of the first.  A code that comes behind a
result with a diagnostic is not read, and the login fails.
-/
import RanOnline.Db.OdbcDrain
import RanOnline.Db.OdbcRows
import RanOnline.Servers.PinAnswer

namespace RanOnline.Servers

open Memory Net Db Threads Methods

/-! ### The result codes -/

section Query

variable {D : Type} (odbc : OdbcDb D)

end Query

/-! ### dbo.gs_user_verify -/

section Verify

variable {W : Type} (driver : Driver W) (username password ip : Bytes)

variable {driver username password ip}

end Verify

/-! ### A run of dispatch -/

section Dispatch

variable {W : Type} (lzo : Lzo) (driver : Driver W) (c : Nat) (msg : Message)
  (env : Nat → AgentState (Object W) → AgentState (Object W)) (s : AgentState (Object W))

/-- What the section hands to Send of the session. -/
def handed (pair : AgentState (Object W) × AgentState (Object W)) : List Bytes :=
  (pair.2.conns c).sent.drop (pair.1.conns c).sent.length

variable {lzo driver c msg env s}

end Dispatch

end RanOnline.Servers
