import EarlyMemory.Proofs.Arena.Step

/-!
# Refusals are for good

Nothing is ever given back, so the gap of an arena never grows until the arena is opened again
(`toNat_gap_performAll_le`). This needs no order of the cursors: a grant takes no more than the gap,
wherever the cursors stand. A request is refused as invalid whatever the gap is, and for want of
room by tests that a smaller gap meets as well, the test on the rounded pages included. So a request
that is refused once is refused in the same way from then on (`perform_refused_performAll`).
-/

namespace EarlyMemory.Arena

variable {a b : Arena}

/-! ## The gap never grows -/

/-- No step but an opening makes the gap greater. -/
lemma Step.toNat_gap_le {a' : Arena} {c : Call} {g : Option Grant} (hstep : a.Step c g a')
    (hc : ∀ r, c ≠ .init r) : a'.gap.toNat ≤ a.gap.toNat := by
  cases hstep with
  | opened r => exact absurd rfl (hc r)
  | bytes l taken hadmitted =>
    rw [toNat_gap_takeBytes (toNat_of_admitBytes_eq_ok hadmitted).2.1]
    exact Nat.sub_le _ _
  | pages count align taken hadmitted =>
    rw [toNat_gap_takePages (toNat_mul_le_gap_of_admitPages_eq_ok hadmitted)]
    exact Nat.sub_le _ _
  | configured config => exact Nat.le_refl _
  | kept c hc => exact Nat.le_refl _

/-- No run that does not open the arena again makes the gap greater. -/
theorem toNat_gap_performAll_le (a : Arena) {calls : List Call}
    (hcalls : ∀ c ∈ calls, ∀ r, c ≠ .init r) : (a.performAll calls).gap.toNat ≤ a.gap.toNat := by
  induction calls generalizing a with
  | nil => exact Nat.le_refl _
  | cons c calls ih =>
    obtain ⟨hfirst, hrest⟩ := List.forall_mem_cons.1 hcalls
    rw [performAll_cons]
    exact Nat.le_trans (ih (a.perform c).arena hrest) ((a.step_perform c).toNat_gap_le hfirst)

/-! ## Refusals -/

/-- A byte request that is not admitted is not admitted to a smaller gap, for the same reason. -/
lemma admitBytes_eq_error_of_gap_le (hgap : b.gap.toNat ≤ a.gap.toNat) {l : Layout}
    {status : Status} (h : a.admitBytes l = .error status) : b.admitBytes l = .error status := by
  rw [admitBytes_eq] at h ⊢
  split at h
  · next hvalid =>
    rw [if_pos hvalid]
    split at h
    · next hroom => rwa [if_pos (by omega)]
    · cases h
  · next hvalid => rwa [if_neg hvalid]

/-- A page request that is not admitted is not admitted to a smaller gap, for the same reason. -/
lemma admitPages_eq_error_of_gap_le (hpage : b.page = a.page) (hgap : b.gap.toNat ≤ a.gap.toNat)
    {count align : Word} {status : Status} (h : a.admitPages count align = .error status) :
    b.admitPages count align = .error status := by
  rw [admitPages_eq] at h ⊢
  rw [hpage]
  split at h
  · next hvalid =>
    rw [if_pos hvalid]
    split at h
    · next hcount => rwa [if_pos (by omega)]
    · split at h
      · next hrounded =>
        -- the smaller gap may already fail the test on the count: the status is the same
        cases h
        rw [if_pos (Nat.lt_of_le_of_lt hgap hrounded), ite_self]
      · cases h
  · next hvalid => rwa [if_neg hvalid]

/-- A byte request is refused with the status for which it is not admitted. -/
lemma answer_alloc_eq_refused_iff {l : Layout} {status : Status} (hstatus : status ≠ .ok) :
    (a.alloc l).answer = .refused status ↔ a.admitBytes l = .error status := by
  cases hadmitted : a.admitBytes l with
  | error s =>
    rw [(alloc_of_admitBytes_eq_error hadmitted).1, Except.error.injEq]
    exact ⟨congrArg Outcome.status, congrArg Outcome.refused⟩
  | ok taken =>
    rw [(alloc_of_admitBytes_eq_ok hadmitted).1]
    exact ⟨fun h => absurd (congrArg Outcome.status h).symm hstatus, fun h => by cases h⟩

/-- A page request is refused with the status for which it is not admitted. -/
lemma answer_allocPages_eq_refused_iff {count align : Word} {status : Status}
    (hstatus : status ≠ .ok) :
    (a.allocPages count align).answer = .refused status ↔
      a.admitPages count align = .error status := by
  cases hadmitted : a.admitPages count align with
  | error s =>
    rw [(allocPages_of_admitPages_eq_error hadmitted).1, Except.error.injEq]
    exact ⟨congrArg Outcome.status, congrArg Outcome.refused⟩
  | ok taken =>
    rw [(allocPages_of_admitPages_eq_ok hadmitted).1]
    exact ⟨fun h => absurd (congrArg Outcome.status h).symm hstatus, fun h => by cases h⟩

/-- A request that is refused is refused by an arena with pages of the same size and a smaller gap,
with the same status. -/
lemma perform_refused_of_gap_le (hpage : b.page = a.page) (hgap : b.gap.toNat ≤ a.gap.toNat)
    {c : Call} {status : Status} (hstatus : status ≠ .ok)
    (h : (a.perform c).answer = .outcome (.refused status)) :
    (b.perform c).answer = .outcome (.refused status) := by
  cases c with
  | alloc l =>
    have hanswer : (a.alloc l).answer = .refused status := Answer.outcome.inj h
    rw [answer_alloc_eq_refused_iff hstatus] at hanswer
    have hagain := admitBytes_eq_error_of_gap_le hgap hanswer
    exact congrArg Answer.outcome ((answer_alloc_eq_refused_iff hstatus).2 hagain)
  | allocPages count align =>
    have hanswer : (a.allocPages count align).answer = .refused status := Answer.outcome.inj h
    rw [answer_allocPages_eq_refused_iff hstatus] at hanswer
    have hagain := admitPages_eq_error_of_gap_le hpage hgap hanswer
    exact congrArg Answer.outcome ((answer_allocPages_eq_refused_iff hstatus).2 hagain)
  | _ => cases h

/-- A request that is refused is refused with the same status after every run that does not open the
arena again. -/
theorem perform_refused_performAll {calls : List Call} (hcalls : ∀ c ∈ calls, ∀ r, c ≠ .init r)
    {c : Call} {status : Status} (hstatus : status ≠ .ok)
    (h : (a.perform c).answer = .outcome (.refused status)) :
    ((a.performAll calls).perform c).answer = .outcome (.refused status) :=
  perform_refused_of_gap_le (page_performAll a calls) (a.toNat_gap_performAll_le hcalls) hstatus h

end EarlyMemory.Arena
