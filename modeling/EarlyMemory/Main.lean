import EarlyMemory.Boot.Rehearsal

/-!
# Command line of the boot rehearsal

Passes the words of the command line to the rehearsal, prints what it says and ends with its exit
code.
-/

/-- Runs the rehearsal on its own host. -/
def main (args : List String) : IO UInt32 := do
  let result := EarlyMemory.Boot.rehearse .rehearsal (args.map EarlyMemory.Bytes.ofString)
  let stream ← IO.getStderr
  stream.write (ByteArray.mk result.errorText.toArray)
  stream.flush
  return result.exitCode.toUInt32
