import EarlyMemory.Arena.Call
import EarlyMemory.Proofs.Arena.Admission

/-!
# Steps of an arena

`Step` lists once what a call can do to an arena, with the block that it grants. Every call takes
one of these steps (`step_perform`), so a property of all runs needs one case for each kind of
step and the induction of `performAll_induction`.
-/

namespace EarlyMemory

/-! ## Grants -/

/-- A block that an arena has given out: where it begins, and the numbers that were asked for. -/
structure Grant where
  client : Client
  /-- The bytes asked for, before rounding. -/
  asked : ℕ
  /-- The alignment in bytes. -/
  align : ℕ
  addr : Word
deriving DecidableEq, Repr

namespace Grant

/-- The grant of a byte request. -/
def ofBytes (l : Layout) (addr : Word) : Grant :=
  { client := .bytes, asked := l.size.toNat, align := l.align.toNat, addr }

/-- The grant of a page request. -/
def ofPages (p : PageSize) (count align addr : Word) : Grant :=
  { client := .pages, asked := count.toNat * p.bytes.toNat, align := align.toNat, addr }

/-- The bytes that the block takes: those asked for, rounded up to the alignment. -/
def length (g : Grant) : ℕ := roundUp g.asked g.align

end Grant

namespace Arena

/-- The block that a call has obtained, by its answer. -/
def Call.grant? (p : PageSize) : Call → Answer → Option Grant
  | .alloc l, .outcome o => if o.isOk then some (.ofBytes l o.addr) else none
  | .allocPages count align, .outcome o =>
    if o.isOk then some (.ofPages p count align o.addr) else none
  | _, _ => none

/-! ## Steps -/

/-- What a call does to an arena: the block granted and the arena afterwards. -/
inductive Step (a : Arena) : Call → Option Grant → Arena → Prop where
  /-- A region is taken, and all that was granted before is forgotten. -/
  | opened (r : Region) : Step a (.init r) none (a.around r)
  | bytes (l : Layout) (taken : Word) (h : a.admitBytes l = .ok taken) :
      Step a (.alloc l) (some (.ofBytes l a.byteCursor)) (a.takeBytes taken)
  | pages (count align taken : Word) (h : a.admitPages count align = .ok taken) :
      Step a (.allocPages count align)
        (some (.ofPages a.page count align (a.takePages taken).pageCursor)) (a.takePages taken)
  | configured (config : Config) : Step a (.setConfig config) none (a.setConfig config)
  /-- A refusal, or a call that only looks. -/
  | kept (c : Call) (h : ∀ r, c ≠ .init r) : Step a c none a

/-- No step changes the size of the pages. -/
lemma Step.page_eq {a a' : Arena} {c : Call} {g : Option Grant} (h : a.Step c g a') :
    a'.page = a.page := by
  cases h <;> rfl

/-- Only opening moves the bounds. -/
lemma Step.bounds_eq {a a' : Arena} {c : Call} {g : Option Grant} (h : a.Step c g a')
    (hc : ∀ r, c ≠ .init r) : a'.start = a.start ∧ a'.stop = a.stop := by
  cases h with
  | opened r => exact absurd rfl (hc r)
  | _ => exact ⟨rfl, rfl⟩

/-- A refused byte request is not answered with a grant. -/
lemma ne_ok_of_admitBytes_eq_error {a : Arena} {l : Layout} {s : Status}
    (h : a.admitBytes l = .error s) : s ≠ .ok := by
  rw [admitBytes_eq] at h
  split at h
  · split at h <;> cases h
    decide
  · cases h
    decide

/-- A refused page request is not answered with a grant. -/
lemma ne_ok_of_admitPages_eq_error {a : Arena} {count align : Word} {s : Status}
    (h : a.admitPages count align = .error s) : s ≠ .ok := by
  rw [admitPages_eq] at h
  split at h
  · split at h
    · cases h
      decide
    · split at h <;> cases h
      decide
  · cases h
    decide

/-- A byte request that is not admitted is refused, and the arena stays as it was. -/
lemma alloc_of_admitBytes_eq_error {a : Arena} {l : Layout} {s : Status}
    (h : a.admitBytes l = .error s) :
    (a.alloc l).answer = .refused s ∧ (a.alloc l).arena = a := by
  unfold alloc
  rw [h]
  exact ⟨rfl, rfl⟩

/-- An admitted byte request is granted at the byte cursor. -/
lemma alloc_of_admitBytes_eq_ok {a : Arena} {l : Layout} {taken : Word}
    (h : a.admitBytes l = .ok taken) :
    (a.alloc l).answer = .granted a.byteCursor ∧ (a.alloc l).arena = a.takeBytes taken := by
  unfold alloc
  rw [h]
  exact ⟨rfl, rfl⟩

/-- A page request that is not admitted is refused, and the arena stays as it was. -/
lemma allocPages_of_admitPages_eq_error {a : Arena} {count align : Word} {s : Status}
    (h : a.admitPages count align = .error s) :
    (a.allocPages count align).answer = .refused s ∧ (a.allocPages count align).arena = a := by
  unfold allocPages
  rw [h]
  exact ⟨rfl, rfl⟩

/-- An admitted page request is granted where the page cursor is afterwards. -/
lemma allocPages_of_admitPages_eq_ok {a : Arena} {count align taken : Word}
    (h : a.admitPages count align = .ok taken) :
    (a.allocPages count align).answer = .granted (a.takePages taken).pageCursor ∧
      (a.allocPages count align).arena = a.takePages taken := by
  unfold allocPages
  rw [h]
  exact ⟨rfl, rfl⟩

/-- Only an admitted byte request is granted. -/
lemma exists_admitBytes_of_isOk {a : Arena} {l : Layout} (h : (a.alloc l).answer.isOk = true) :
    ∃ taken, a.admitBytes l = .ok taken := by
  cases hadmitted : a.admitBytes l with
  | error s =>
    rw [(alloc_of_admitBytes_eq_error hadmitted).1, Outcome.isOk_refused, beq_iff_eq] at h
    exact absurd h (ne_ok_of_admitBytes_eq_error hadmitted)
  | ok taken => exact ⟨taken, rfl⟩

/-- Only an admitted page request is granted. -/
lemma exists_admitPages_of_isOk {a : Arena} {count align : Word}
    (h : (a.allocPages count align).answer.isOk = true) :
    ∃ taken, a.admitPages count align = .ok taken := by
  cases hadmitted : a.admitPages count align with
  | error s =>
    rw [(allocPages_of_admitPages_eq_error hadmitted).1, Outcome.isOk_refused, beq_iff_eq] at h
    exact absurd h (ne_ok_of_admitPages_eq_error hadmitted)
  | ok taken => exact ⟨taken, rfl⟩

/-- Every call takes a step, and its answer shows the block that the step grants. -/
theorem step_perform (a : Arena) (c : Call) :
    a.Step c (c.grant? a.page (a.perform c).answer) (a.perform c).arena := by
  cases c with
  | init r => exact .opened r
  | alloc l =>
    simp only [perform, alloc, Effect.map]
    cases h : a.admitBytes l with
    | error s =>
      -- an answer shows a block by its status alone
      have hs := ne_ok_of_admitBytes_eq_error h
      simp only [refuse, Call.grant?, Outcome.isOk_refused, beq_iff_eq, if_neg hs]
      exact .kept _ (by simp)
    | ok taken => exact .bytes l taken h
  | allocPages count align =>
    simp only [perform, allocPages, Effect.map]
    cases h : a.admitPages count align with
    | error s =>
      have hs := ne_ok_of_admitPages_eq_error h
      simp only [refuse, Call.grant?, Outcome.isOk_refused, beq_iff_eq, if_neg hs]
      exact .kept _ (by simp)
    | ok taken => exact .pages count align taken h
  | setConfig config => exact .configured config
  | addMemory r => exact .kept _ (by simp)
  | release addr l => exact .kept _ (by simp)
  | unusedRegion => exact .kept _ (by simp)
  | contains addr => exact .kept _ (by simp)
  | report stage => exact .kept _ (by simp)
  | observe => exact .kept _ (by simp)

/-- What every step keeps, every run keeps. -/
theorem performAll_induction {motive : Arena → Prop}
    (step : ∀ {a a' : Arena} {c : Call} {g : Option Grant}, a.Step c g a' → motive a → motive a')
    {a : Arena} (h : motive a) (calls : List Call) : motive (a.performAll calls) := by
  induction calls generalizing a with
  | nil => exact h
  | cons c calls ih =>
    rw [performAll_cons]
    exact ih (step (a.step_perform c) h)

/-- No run that does not open the arena again moves its bounds. -/
lemma bounds_performAll (a : Arena) {calls : List Call}
    (hcalls : ∀ c ∈ calls, ∀ r, c ≠ .init r) :
    (a.performAll calls).start = a.start ∧ (a.performAll calls).stop = a.stop := by
  induction calls generalizing a with
  | nil => exact ⟨rfl, rfl⟩
  | cons c calls ih =>
    have hfirst := (a.step_perform c).bounds_eq (hcalls c List.mem_cons_self)
    have hrest := ih (a.perform c).arena fun c' hc' => hcalls c' (List.mem_cons_of_mem c hc')
    rw [performAll_cons]
    exact ⟨hrest.1.trans hfirst.1, hrest.2.trans hfirst.2⟩

/-- No run changes the size of the pages. -/
lemma page_performAll (a : Arena) (calls : List Call) : (a.performAll calls).page = a.page := by
  induction calls generalizing a with
  | nil => rfl
  | cons c calls ih => rw [performAll_cons, ih, page_perform]

end Arena

end EarlyMemory
