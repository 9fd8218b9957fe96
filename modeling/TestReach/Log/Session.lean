import TestReach.Log.Setup

namespace TestReach.Log

structure Session where
  disk : Disk := {}
  setup : Setup := {}
  /-- The handlers that are closed, in the order in which they were. -/
  closed : List Handler := []

namespace Session

/-- Starts a log. Whether it can be started or not, the handlers there are get closed. -/
def start (session : Session) (file : Option Path) (verbose : Bool) : Except Trouble Unit × Session :=
  let (started, setup, disk) := Setup.start session.disk file verbose
  (started, { disk, setup, closed := session.closed ++ session.setup.handlers })

def emit (session : Session) (time : String) (record : Record) : Session :=
  { session with disk := session.setup.emit time session.disk record }

end Session
end TestReach.Log
