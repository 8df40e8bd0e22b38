/-!
# Severity levels

A level is a signed number of 32 bits. Six numbers have names, from the least severe to the most;
any other number is a level too and is compared like the named ones.
-/

namespace EarlyMemory

/-- How severe a log entry is. -/
structure Level where
  code : Int32
deriving DecidableEq, Repr

namespace Level

/-! ## Order -/

instance : LE Level := ⟨fun a b => a.code ≤ b.code⟩

instance (a b : Level) : Decidable (a ≤ b) := inferInstanceAs (Decidable (a.code ≤ b.code))

/-! ## Names -/

def trace : Level := ⟨0⟩
def debug : Level := ⟨1⟩
def info : Level := ⟨2⟩
def warn : Level := ⟨3⟩
def error : Level := ⟨4⟩
def fatal : Level := ⟨5⟩

/-- The levels that have a name. -/
def names : List (Level × String) :=
  [(trace, "TRACE"), (debug, "DEBUG"), (info, "INFO"), (warn, "WARN"), (error, "ERROR"),
    (fatal, "FATAL")]

/-- The level's name; all levels without one share `UNKNOWN`. -/
def name (l : Level) : String := (names.lookup l).getD "UNKNOWN"

end Level

end EarlyMemory
