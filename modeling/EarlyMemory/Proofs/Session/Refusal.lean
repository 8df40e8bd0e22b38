import EarlyMemory.Proofs.Arena.Refusal
import EarlyMemory.Proofs.Session.Run

/-!
# Refused requests stay refused

A session that asks an arena for memory in vain may go on as it likes: it may make any requests to
that arena and to the others, give bytes back, and set the switches, the threshold and the sink. As
long as it does not open the arena again, the same request is refused once more, with the same
status (`refused_of_refused`).
-/

namespace EarlyMemory.Session

variable {n : ℕ}

/-- The calls of a script to an arena open it only if a step of the script does. -/
lemma ne_init_of_mem_callsTo {i : Fin n} {steps : List (Step n)}
    (h : ∀ r, Step.call i (.init r) ∉ steps) : ∀ c ∈ callsTo i steps, ∀ r, c ≠ .init r := by
  rintro c hc r rfl
  obtain ⟨step, hstep, hcall⟩ := List.mem_filterMap.1 hc
  cases step with
  | call j c =>
    simp only [Step.callTo?, Option.ite_none_right_eq_some, Option.some.injEq] at hcall
    obtain ⟨rfl, rfl⟩ := hcall
    exact h r hstep
  | _ => cases hcall

/-- A request that an arena of a session refuses is refused with the same status after every script
that does not open the arena again and does not stop everything. -/
theorem refused_of_refused {s : State n} {i : Fin n} {c : Arena.Call} {status : Status}
    {after : Arena} (hstatus : status ≠ .ok)
    (hrefused : (s.perform (.call i c)).1.value = .answer (.outcome (.refused status)) after)
    {steps : List (Step n)} (hreturns : s.Returns steps)
    (hsteps : ∀ r, Step.call i (.init r) ∉ steps) (rest : List (Step n)) :
    ∃ after', (s.run (steps ++ .call i c :: rest))[steps.length]?.map (·.value) =
      some (.answer (.outcome (.refused status)) after') := by
  have hfirst : ((s.arenas.get i).perform c).answer = .outcome (.refused status) :=
    (Value.answer.inj hrefused).1
  have hlast := Arena.perform_refused_performAll (ne_init_of_mem_callsTo hsteps) hstatus hfirst
  rw [← s.arenas_after] at hlast
  refine ⟨(((s.after steps).arenas.get i).perform c).arena, ?_⟩
  rw [State.getElem?_run hreturns, ← hlast]
  rfl

/-- One page on a boundary of four, in a region of three pages: the page alone would fit, the
rounded count does not, and after more requests the page alone does not fit either. -/
theorem refused_after_more_requests :
    let s : State 2 := State.after
      { arenas := #v[{ page := .fourKib }, { page := ⟨1, by decide⟩ }] }
      [.call 0 (.init { start := 0xFFFFFFFFFFFFE000, size := 0x3000 })]
    let c : Arena.Call := .allocPages 1 16384
    let steps : List (Step 2) :=
      [.call 0 c, .setThreshold .trace, .call 0 (.setConfig { traceGrants := true }),
        .call 0 (.allocPages 2 4096), .call 1 (.init { start := 5, size := 7 }),
        .call 1 (.allocPages 3 1), .setSink none, .call 0 (.alloc { size := 1, align := 1 }),
        .call 0 (.release 0xFFFFFFFFFFFFE000 { size := 1, align := 1 })]
    (Status.noMemory ≠ .ok ∧ s.Returns steps ∧ (∀ r, Step.call 0 (.init r) ∉ steps) ∧
        (s.perform (.call 0 c)).1.value =
          .answer (.outcome (.refused .noMemory)) (s.arenas.get 0)) ∧
      ∃ after', (s.run (steps ++ [.call 0 c]))[9]?.map (·.value) =
        some (.answer (.outcome (.refused .noMemory)) after') := by
  intro s c steps
  have hrefused : (s.perform (.call 0 c)).1.value =
      .answer (.outcome (.refused .noMemory)) (s.arenas.get 0) := by decide
  have hreturns : s.Returns steps := by decide
  have hsteps : ∀ r, Step.call 0 (.init r) ∉ steps := by simp [steps, c]
  exact ⟨⟨by decide, hreturns, hsteps, hrefused⟩,
    refused_of_refused (by decide) hrefused hreturns hsteps []⟩

end EarlyMemory.Session
