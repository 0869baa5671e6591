/-
Where the outputs of the AgentServer's and the AuthServer's procedures are written
(agent_server.cpp, auth_server.cpp).

A handler runs a procedure and reads its outputs in one section, so no parameter is appended
between the two, and the driver never writes to an address that was given up.
-/
import RanOnline.Db.BoundAddresses
import RanOnline.Servers.QueryTexts
import RanOnline.Servers.Startup

namespace RanOnline.Servers

open Memory Net Db StepRun Methods Threads

variable {W : Type} {driver : Driver W}

namespace DbServer

theorem onStart_inPlace {s : DbServer W} (inPlace : s.db.InPlace) :
    (s.onStart driver).2.db.InPlace := by
  have opened := @Object.connect_inPlace W driver s.dbConn s.db inPlace
  have probed := @Object.execute_inPlace W driver probeQuery _ opened.toTied
  unfold onStart
  split
  · exact inPlace
  · dsimp only
    split
    · split
      · unfold readFirstTable
        split
        · exact probed
        · exact (Object.leaves_getCollectString Object.beyond_inPlace "name").keeps _ probed
      · exact probed
    · exact opened

end DbServer

/-! ### Runs -/

theorem agent_inPlace (lzo : Lzo) {db : Object W} (inPlace : db.InPlace) (dbReady : Bool)
    (events : List Event) :
    (run (agentStep lzo (Object.odbcDb driver)) (agentStart db dbReady)
      events).shared.app.db.InPlace := by
  have allowed : AgentTexts (Object.addresses driver) :=
    { named := fun _user _clean => trivial
      verify := trivial
      lists := trivial
      details := trivial
      checks := trivial }
  apply (agent_keepsApp lzo allowed).run
  exact inPlace

theorem auth_inPlace (lzo : Lzo) (beyond : Message → Bytes) {db : Object W}
    (inPlace : db.InPlace) (events : List Event) :
    (run (authStep lzo (Object.odbcDb driver) beyond) (authStart db)
      events).shared.app.db.InPlace := by
  have certifies : (Object.addresses driver).prepared
      (escapeText [false, false, false, false, false, false] "dbo.sp_CertificationUniqKey") :=
    trivial
  apply (auth_keepsApp lzo beyond certifies).run
  exact inPlace

/-- Behind OnStart of a new server, in every run and for every driver: no output was ever written
to the address of a parameter that is gone, and the statement has no such address. -/
theorem servers_write_in_place (driver : Driver W) (lzo : Lzo) (beyond : Message → Bytes)
    (dbConn : Bytes) (state : W) (events : List Event) :
    let started := ((DbServer.new dbConn state).onStart driver).2
    (run (agentStep lzo (Object.odbcDb driver)) (agentStart started.db started.dbReady)
        events).shared.app.db.InPlace ∧
      (run (authStep lzo (Object.odbcDb driver) beyond) (authStart started.db)
        events).shared.app.db.InPlace := by
  have started : ((DbServer.new dbConn state).onStart driver).2.db.InPlace :=
    DbServer.onStart_inPlace (Object.new_inPlace state)
  constructor
  · exact agent_inPlace lzo started _ events
  · exact auth_inPlace lzo beyond started events

end RanOnline.Servers
