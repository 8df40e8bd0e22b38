import EarlyMemory.Arena.Operation

/-!
# Calls

A call is an operation of an arena together with its arguments, and `Arena.perform` carries it
out. Histories of an arena are lists of calls.
-/

namespace EarlyMemory.Arena

/-- The operations that return, with their arguments. -/
inductive Call where
  | init (region : Region)
  | addMemory (region : Region)
  | alloc (layout : Layout)
  | allocPages (count align : Word)
  /-- Gives bytes back, which changes nothing: they stay taken until the hand-over. -/
  | release (addr : Word) (layout : Layout)
  | unusedRegion
  | contains (addr : Word)
  | setConfig (config : Config)
  | report (stage : Bytes)
  /-- Looks at the arena and asks nothing. -/
  | observe
deriving DecidableEq, Repr

/-- What a call answers, by the kind of answer. -/
inductive Answer where
  | nothing
  | status (value : Status)
  | outcome (value : Outcome)
  | region (value : Region)
  | member (value : Bool)
  | config (value : Config)
deriving DecidableEq, Repr

/-- The same effect with its answer changed. -/
def Effect.map {α β : Type} (f : α → β) (e : Effect α) : Effect β :=
  { answer := f e.answer, arena := e.arena, events := e.events }

/-- Carries out a call. -/
def perform (a : Arena) : Call → Effect Answer
  | .init r => (a.init r).map fun _ => .nothing
  | .addMemory r => (a.addMemory r).map .status
  | .alloc l => (a.alloc l).map .outcome
  | .allocPages count align => (a.allocPages count align).map .outcome
  | .release _ _ => { answer := .nothing, arena := a }
  | .unusedRegion => { answer := .region a.unusedRegion, arena := a }
  | .contains addr => { answer := .member (a.contains addr), arena := a }
  | .setConfig c => { answer := .config c, arena := a.setConfig c }
  | .report stage => { answer := .nothing, arena := a, events := [a.report stage] }
  | .observe => { answer := .nothing, arena := a }

/-- The arena after a history of calls. -/
def performAll (a : Arena) (calls : List Call) : Arena :=
  calls.foldl (fun a c => (a.perform c).arena) a

/-- The effects of a history, one for each call. -/
def effects (a : Arena) : List Call → List (Effect Answer)
  | [] => []
  | c :: cs => a.perform c :: (a.perform c).arena.effects cs

@[simp] theorem performAll_nil (a : Arena) : a.performAll [] = a := rfl

@[simp] theorem performAll_cons (a : Arena) (c : Call) (cs : List Call) :
    a.performAll (c :: cs) = (a.perform c).arena.performAll cs := rfl

/-- No call changes the size of the pages. -/
theorem page_perform (a : Arena) (c : Call) : (a.perform c).arena.page = a.page := by
  cases c <;> simp only [perform, init, addMemory, alloc, allocPages, Effect.map, setConfig, around]
  all_goals split <;> rfl

end EarlyMemory.Arena
