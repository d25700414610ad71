-- Faults that a store of records reports, in words.

namespace ServiceMesh

inductive RecordFault where
  | rowNotFound
  | poolTimedOut
  | protocol (text : String)
  /-- The connection failed, or broke. -/
  | connection (cause : String)
  | configuration (cause : String)
  deriving DecidableEq, Repr

def RecordFault.message : RecordFault → String
  | .rowNotFound => "no rows returned by a query that expected to return at least one row"
  | .poolTimedOut => "pool timed out while waiting for an open connection"
  | .protocol text => "encountered unexpected or invalid data: " ++ text
  | .connection cause => "error communicating with database: " ++ cause
  | .configuration cause => "error with configuration: " ++ cause

end ServiceMesh
