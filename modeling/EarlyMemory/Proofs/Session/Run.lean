import Mathlib.Data.Nat.Notation
import EarlyMemory.Session

/-!
# Runs of a session

`State.run` gives the replies to a script; `State.after` gives the state that it leaves. As long as
no step stops everything, a script in two parts is answered part by part (`State.run_append`), so
the reply to a step anywhere in a script is the reply in the state that the steps before it leave
(`State.getElem?_run`).

Each arena of a session sees the calls to itself and nothing else: it comes out as if it had taken
them alone (`State.arenas_after`).
-/

namespace EarlyMemory.Session

variable {n : ℕ}

/-! ## The state after a script -/

/-- The state after a script that does not stop everything. -/
def State.after (s : State n) (steps : List (Step n)) : State n :=
  steps.foldl (fun s step => (s.perform step).2) s

/-- No step of the script stops everything. -/
def State.Returns (s : State n) (steps : List (Step n)) : Prop :=
  ∀ reply ∈ s.run steps, reply.value ≠ .stopped

instance (s : State n) (steps : List (Step n)) : Decidable (s.Returns steps) :=
  inferInstanceAs (Decidable (∀ reply ∈ s.run steps, reply.value ≠ .stopped))

@[simp] lemma State.after_nil (s : State n) : s.after [] = s := rfl

@[simp] lemma State.after_cons (s : State n) (step : Step n) (steps : List (Step n)) :
    s.after (step :: steps) = (s.perform step).2.after steps := rfl

/-- The first step of a script that does not stop everything returns, and so does the rest. -/
lemma State.returns_cons {s : State n} {step : Step n} {steps : List (Step n)}
    (h : s.Returns (step :: steps)) :
    (s.perform step).1.value ≠ .stopped ∧ (s.perform step).2.Returns steps := by
  have hfirst : (s.perform step).1.value ≠ .stopped := by
    intro hstopped
    refine h (s.perform step).1 ?_ hstopped
    rw [run, if_pos hstopped]
    exact List.mem_singleton_self _
  rw [Returns, s.run_cons step steps hfirst] at h
  exact ⟨hfirst, (List.forall_mem_cons.1 h).2⟩

/-- A script goes on where a part that does not stop everything has left off. -/
theorem State.run_append {s : State n} {before : List (Step n)} (h : s.Returns before)
    (steps : List (Step n)) :
    s.run (before ++ steps) = s.run before ++ (s.after before).run steps := by
  induction before generalizing s with
  | nil => rfl
  | cons step before ih =>
    obtain ⟨hfirst, hrest⟩ := returns_cons h
    rw [List.cons_append, s.run_cons _ _ hfirst, s.run_cons _ _ hfirst, ih hrest]
    rfl

/-- Every step of a script that does not stop everything is answered. -/
lemma State.length_run {s : State n} {steps : List (Step n)} (h : s.Returns steps) :
    (s.run steps).length = steps.length := by
  induction steps generalizing s with
  | nil => rfl
  | cons step steps ih =>
    obtain ⟨hfirst, hrest⟩ := returns_cons h
    rw [s.run_cons _ _ hfirst, List.length_cons, List.length_cons, ih hrest]

/-- The reply to a step is that in the state which the steps before it have left. -/
theorem State.getElem?_run {s : State n} {before : List (Step n)} (h : s.Returns before)
    (step : Step n) (rest : List (Step n)) :
    (s.run (before ++ step :: rest))[before.length]? = some ((s.after before).perform step).1 := by
  rw [run_append h, List.getElem?_append_right (Nat.le_of_eq (length_run h)), length_run h,
    Nat.sub_self, run]
  split <;> rfl

/-- After a panic no step is answered. -/
lemma State.getElem?_run_of_not_returns {s : State n} {before : List (Step n)}
    (h : ¬ s.Returns before) (steps : List (Step n)) :
    (s.run (before ++ steps))[before.length]? = none := by
  induction before generalizing s with
  | nil => exact absurd (fun reply hreply => absurd hreply List.not_mem_nil) h
  | cons step before ih =>
    rw [List.cons_append, run, List.length_cons]
    split
    · rfl
    · next hfirst =>
      rw [List.getElem?_cons_succ]
      apply ih
      intro hrest
      apply h
      rw [Returns, s.run_cons _ _ hfirst, List.forall_mem_cons]
      exact ⟨hfirst, hrest⟩

/-! ## One arena of a session -/

/-- The call that a step makes to an arena, if it makes one. -/
def Step.callTo? (i : Fin n) : Step n → Option Arena.Call
  | .call j c => if j = i then some c else none
  | _ => none

/-- The calls that a script makes to an arena, in order. -/
def callsTo (i : Fin n) (steps : List (Step n)) : List Arena.Call :=
  steps.filterMap (Step.callTo? i)

lemma callsTo_cons (i : Fin n) (step : Step n) (steps : List (Step n)) :
    callsTo i (step :: steps) = (step.callTo? i).toList ++ callsTo i steps := by
  cases h : step.callTo? i with
  | none => rw [callsTo, List.filterMap_cons_none h]; rfl
  | some c => rw [callsTo, List.filterMap_cons_some h]; rfl

/-- A step changes an arena by the call that it makes to it. -/
lemma State.arenas_perform (s : State n) (step : Step n) (i : Fin n) :
    (s.perform step).2.arenas.get i = (s.arenas.get i).performAll (step.callTo? i).toList := by
  cases step with
  | call j c =>
    show (s.arenas.set j ((s.arenas.get j).perform c).arena).get i = _
    by_cases hij : j = i
    · subst hij
      have hcall : (Step.call j c).callTo? j = some c := if_pos rfl
      rw [hcall]
      exact Vector.getElem_set_self j.isLt
    · have hcall : (Step.call j c).callTo? i = none := if_neg hij
      rw [hcall]
      exact Vector.getElem_set_ne j.isLt i.isLt fun h => hij (Fin.ext h)
  | _ => rfl

/-- A script changes an arena by the calls that it makes to it. -/
theorem State.arenas_after (s : State n) (steps : List (Step n)) (i : Fin n) :
    (s.after steps).arenas.get i = (s.arenas.get i).performAll (callsTo i steps) := by
  induction steps generalizing s with
  | nil => rfl
  | cons step steps ih =>
    rw [after_cons, ih, arenas_perform, callsTo_cons, Arena.performAll, Arena.performAll,
      Arena.performAll, List.foldl_append]

end EarlyMemory.Session
