import EarlyMemory.Arena.Call

/-!
# Sessions

A session is a script over several arenas that share one log. Every step answers with a reply; a
panic is the last step that does.
-/

namespace EarlyMemory.Session

/-! ## State -/

/-- The arenas, by number, and the log that they share. -/
structure State (n : Nat) where
  arenas : Vector Arena n
  logger : Logger := {}

/-! ## Steps -/

/-- One line of the script. -/
inductive Step (n : Nat) where
  | call (arena : Fin n) (call : Arena.Call)
  /-- Gives pages back, which stops everything. -/
  | releasePages (arena : Fin n) (addr count : Word)
  | log (entry : Entry)
  | panic (message : Message)
  | setThreshold (level : Level)
  | setSink (sink : Option Sink)
  /-- Asks for the threshold. -/
  | threshold
  /-- Asks whether entries of a level are delivered. -/
  | enabled (level : Level)
deriving DecidableEq, Repr

/-- What a step tells its caller. -/
inductive Value where
  | nothing
  /-- The answer of an arena, with the arena as it is afterwards. -/
  | answer (value : Arena.Answer) (after : Arena)
  | level (value : Level)
  | enabled (value : Bool)
  /-- Everything has stopped. -/
  | stopped
deriving DecidableEq

/-- What a step shows: its value and the lines that reached a sink meanwhile. -/
structure Reply where
  value : Value
  deliveries : List Delivery := []
deriving DecidableEq

/-! ## Running -/

/-- A panic reaches the log and nothing comes after. -/
def State.panic {n : Nat} (s : State n) (m : Message) : Reply × State n :=
  ({ value := .stopped, deliveries := s.logger.log (.panic m) }, s)

/-- Carries out one step. -/
def State.perform {n : Nat} (s : State n) : Step n → Reply × State n
  | .call i c =>
    let effect := s.arenas[i].perform c
    ({ value := .answer effect.answer effect.arena
       deliveries := s.logger.logAll (effect.events.map (·.entry)) },
      { s with arenas := s.arenas.set i effect.arena })
  | .releasePages _ addr count => s.panic (Arena.releasePagesMessage addr count)
  | .log e => ({ value := .nothing, deliveries := s.logger.log e }, s)
  | .panic m => s.panic m
  | .setThreshold l => ({ value := .nothing }, { s with logger := s.logger.setThreshold l })
  | .setSink sink => ({ value := .nothing }, { s with logger := s.logger.setSink sink })
  | .threshold => ({ value := .level s.logger.threshold }, s)
  | .enabled l => ({ value := .enabled (s.logger.enabled l) }, s)

/-- The replies of a script, up to the end or to the first panic. -/
def State.run {n : Nat} (s : State n) : List (Step n) → List Reply
  | [] => []
  | step :: steps =>
    let result := s.perform step
    if result.1.value = .stopped then [result.1] else result.1 :: result.2.run steps

@[simp] theorem State.run_nil {n : Nat} (s : State n) : s.run [] = [] := rfl

/-- A step that does not stop everything is answered before the rest of the script. -/
theorem State.run_cons {n : Nat} (s : State n) (step : Step n) (steps : List (Step n))
    (h : (s.perform step).1.value ≠ .stopped) :
    s.run (step :: steps) = (s.perform step).1 :: (s.perform step).2.run steps := by
  simp only [State.run, if_neg h]

/-- A panic is the last step to answer. -/
theorem State.run_panic {n : Nat} (s : State n) (m : Message) (steps : List (Step n)) :
    s.run (.panic m :: steps) = [(s.panic m).1] := by
  simp [State.run, State.perform, State.panic]

end EarlyMemory.Session
