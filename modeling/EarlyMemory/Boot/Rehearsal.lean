import EarlyMemory.Boot.Sequence

/-!
# The boot rehearsal

The rehearsal is a start seen from outside: a command line goes in, and an exit code and the
standard error stream come out. What the options ask to see decides the threshold of the log and
nothing else but the reports on grants.
-/

namespace EarlyMemory.Boot

/-- The name under which the rehearsal runs. -/
def programName : String := "bootalloc_demo"

/-- What is said about a command line that is not accepted. -/
def usageText : Bytes :=
  Bytes.ofString "usage: " ++ Bytes.ofString programName ++
    Bytes.ofString " [--region-kib N] [--stack-pages N] [--trace] [--verbose]\n"

/-- The lowest level that the options ask to see. -/
def Options.threshold (o : Options) : Level :=
  if o.trace then .trace else if o.verbose then .debug else .info

/-- What a rehearsal shows. -/
structure Rehearsal where
  exitCode : UInt8
  errorText : Bytes
deriving DecidableEq, Repr

/-- The standard error stream of a course under given options. -/
def Course.errorText (c : Course) (o : Options) : Bytes :=
  let logger : Logger := { threshold := o.threshold }
  (logger.logAll (c.notices.map (·.entry))).flatMap (·.printed)

/-- Runs the rehearsal on a command line. -/
def rehearse (host : Host) (words : List Bytes) : Rehearsal :=
  let (options, accepted) := Options.read {} words
  if accepted then
    let course := start host options
    { exitCode := course.exitCode, errorText := course.errorText options }
  else { exitCode := 2, errorText := usageText }

end EarlyMemory.Boot
