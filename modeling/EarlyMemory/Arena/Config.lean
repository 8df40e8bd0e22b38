/-!
# Switches of an arena

The switches decide what an arena reports. They have no part in what it grants.
-/

namespace EarlyMemory

/-- What an arena reports beside its opening. -/
structure Arena.Config where
  /-- Report refused requests. -/
  logFailures : Bool := true
  /-- Report granted requests. -/
  traceGrants : Bool := false
deriving DecidableEq, Repr

end EarlyMemory
