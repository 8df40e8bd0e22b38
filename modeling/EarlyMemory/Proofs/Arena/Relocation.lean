import Mathlib.Data.UInt
import EarlyMemory.Proofs.Arena.Step

/-!
# Arenas do not depend on where their region lies

Two arenas with pages of one size are opened over regions that lie a whole number of pages apart,
and then take the same calls. `Relocated` says that the second arena is the first one moved by the
distance. Opening establishes it (`relocated_around`), because both roundings commute with whole
pages. One call keeps it and has the same answer but for the distance (`Relocated.perform`), because
an arena decides by differences of addresses alone. So all runs do (`effects_relocated`), wherever
either region wraps. The switches of the two arenas and what they were before play no part.

The calls may not open the arena again, and may not ask for an address: `contains` compares
addresses as they are.
-/

namespace EarlyMemory

/-! ## Moving answers -/

/-- The region as far away. -/
def Region.relocate (d : Word) (r : Region) : Region := { r with start := r.start + d }

/-- The outcome as far away. A refusal has no address to move. -/
def Outcome.relocate (d : Word) (o : Outcome) : Outcome :=
  { o with addr := if o.isOk then o.addr + d else o.addr }

lemma Outcome.relocate_granted (d addr : Word) : (granted addr).relocate d = granted (addr + d) :=
  rfl

lemma Outcome.relocate_refused (d : Word) {s : Status} (hs : s ≠ .ok) :
    (refused s).relocate d = refused s := by
  rw [relocate, isOk_refused, beq_false_of_ne hs]
  rfl

/-- The answer as far away. -/
def Arena.Answer.relocate (d : Word) : Arena.Answer → Arena.Answer
  | .outcome o => .outcome (o.relocate d)
  | .region r => .region (r.relocate d)
  | answer => answer

namespace Arena

/-- The calls that do not name a place in the address space to the arena. -/
def Call.Placeless : Call → Prop
  | .init _ => False
  | .contains _ => False
  | _ => True

/-! ## Moving arenas -/

/-- The second arena has the bounds and the cursors of the first, as far away. -/
structure Relocated (d : Word) (a b : Arena) : Prop where
  page_eq : b.page = a.page
  start_eq : b.start = a.start + d
  stop_eq : b.stop = a.stop + d
  byteCursor_eq : b.byteCursor = a.byteCursor + d
  pageCursor_eq : b.pageCursor = a.pageCursor + d

/-- What a call shows of the second arena is what it shows of the first, as far away. -/
structure Effect.Relocated (d : Word) (e f : Effect Answer) : Prop where
  answer_eq : f.answer = e.answer.relocate d
  arena : Arena.Relocated d e.arena f.arena
  bytes_eq : f.arena.bytes = e.arena.bytes
  pages_eq : f.arena.pages = e.arena.pages
  unusedRegion_eq : f.arena.unusedRegion = e.arena.unusedRegion.relocate d

section

variable {d : Word} {a b : Arena}

/-- Both roundings commute with whole pages, so the bounds move as the region does. -/
lemma relocated_around (hpage : b.page = a.page) (hd : a.page.bytes.toNat ∣ d.toNat) (r : Region) :
    Relocated d (a.around r) (b.around (r.relocate d)) := by
  have hpow := a.page.isPowerOfTwo_bytes
  have hstart : (r.start + d).alignDown b.page.bytes = r.start.alignDown a.page.bytes + d := by
    rw [hpage, Word.alignDown_add _ hpow hd]
  have hstop : (r.start + d + r.size).alignUp b.page.bytes = r.stop.alignUp a.page.bytes + d := by
    rw [hpage, add_right_comm, Word.alignUp_add _ hpow hd]
    rfl
  exact ⟨hpage, hstart, hstop, hstart, hstop⟩

namespace Relocated

-- all that is read off an arena is a difference of two addresses, in which the distance cancels

lemma gap_eq (h : Relocated d a b) : b.gap = a.gap := by
  rw [gap, gap, h.pageCursor_eq, h.byteCursor_eq, add_sub_add_right_eq_sub]

lemma bytes_eq (h : Relocated d a b) : b.bytes = a.bytes := by
  simp only [bytes, h.pageCursor_eq, h.byteCursor_eq, h.start_eq, add_sub_add_right_eq_sub]

lemma pages_eq (h : Relocated d a b) : b.pages = a.pages := by
  simp only [pages, h.page_eq, h.stop_eq, h.pageCursor_eq, h.byteCursor_eq, add_sub_add_right_eq_sub]

lemma unusedRegion_eq (h : Relocated d a b) : b.unusedRegion = a.unusedRegion.relocate d := by
  simp only [unusedRegion, Region.between, Region.relocate, h.pageCursor_eq, h.byteCursor_eq,
    add_sub_add_right_eq_sub]

/-- A byte request is decided by the gap. -/
lemma admitBytes_eq (h : Relocated d a b) (l : Layout) : b.admitBytes l = a.admitBytes l := by
  rw [admitBytes, admitBytes, h.gap_eq]

/-- A page request is decided by the gap and the size of the pages. -/
lemma admitPages_eq (h : Relocated d a b) (count align : Word) :
    b.admitPages count align = a.admitPages count align := by
  rw [admitPages, admitPages, h.gap_eq, h.page_eq]

/-! ## One call -/

/-- Arenas that are as far apart report the same usage, whatever the answer was. -/
lemma effect {e f : Effect Answer} (harena : Relocated d e.arena f.arena)
    (hanswer : f.answer = e.answer.relocate d) : Effect.Relocated d e f :=
  ⟨hanswer, harena, harena.bytes_eq, harena.pages_eq, harena.unusedRegion_eq⟩

/-- The same of a request, by its outcome. -/
lemma effect_outcome {e f : Effect Outcome} (harena : Relocated d e.arena f.arena)
    (hanswer : f.answer = e.answer.relocate d) :
    Effect.Relocated d (e.map .outcome) (f.map .outcome) :=
  effect harena (congrArg Answer.outcome hanswer)

lemma takeBytes (h : Relocated d a b) (taken : Word) :
    Relocated d (a.takeBytes taken) (b.takeBytes taken) where
  page_eq := h.page_eq
  start_eq := h.start_eq
  stop_eq := h.stop_eq
  byteCursor_eq := by
    rw [Arena.takeBytes, Arena.takeBytes, h.byteCursor_eq, add_right_comm]
  pageCursor_eq := h.pageCursor_eq

lemma takePages (h : Relocated d a b) (count : Word) :
    Relocated d (a.takePages count) (b.takePages count) where
  page_eq := h.page_eq
  start_eq := h.start_eq
  stop_eq := h.stop_eq
  byteCursor_eq := h.byteCursor_eq
  pageCursor_eq := by
    rw [Arena.takePages, Arena.takePages, h.pageCursor_eq, h.page_eq, sub_add_eq_add_sub]

/-- A byte request has the same outcome in both, but for the distance. -/
lemma alloc (h : Relocated d a b) (l : Layout) :
    Effect.Relocated d (a.perform (.alloc l)) (b.perform (.alloc l)) := by
  have hsame := h.admitBytes_eq l
  show Effect.Relocated d ((a.alloc l).map .outcome) ((b.alloc l).map .outcome)
  cases hadmitted : a.admitBytes l with
  | error s =>
    rw [hadmitted] at hsame
    obtain ⟨hanswer, hafter⟩ := alloc_of_admitBytes_eq_error hadmitted
    obtain ⟨hanswer', hafter'⟩ := alloc_of_admitBytes_eq_error hsame
    have hs := ne_ok_of_admitBytes_eq_error hadmitted
    apply effect_outcome
    · rwa [hafter, hafter']
    · rw [hanswer, hanswer', Outcome.relocate_refused d hs]
  | ok taken =>
    rw [hadmitted] at hsame
    obtain ⟨hanswer, hafter⟩ := alloc_of_admitBytes_eq_ok hadmitted
    obtain ⟨hanswer', hafter'⟩ := alloc_of_admitBytes_eq_ok hsame
    have htaken := h.takeBytes taken
    apply effect_outcome
    · rwa [hafter, hafter']
    · rw [hanswer, hanswer', Outcome.relocate_granted, h.byteCursor_eq]

/-- A page request has the same outcome in both, but for the distance. -/
lemma allocPages (h : Relocated d a b) (count align : Word) :
    Effect.Relocated d (a.perform (.allocPages count align))
      (b.perform (.allocPages count align)) := by
  have hsame := h.admitPages_eq count align
  show Effect.Relocated d ((a.allocPages count align).map .outcome)
    ((b.allocPages count align).map .outcome)
  cases hadmitted : a.admitPages count align with
  | error s =>
    rw [hadmitted] at hsame
    obtain ⟨hanswer, hafter⟩ := allocPages_of_admitPages_eq_error hadmitted
    obtain ⟨hanswer', hafter'⟩ := allocPages_of_admitPages_eq_error hsame
    have hs := ne_ok_of_admitPages_eq_error hadmitted
    apply effect_outcome
    · rwa [hafter, hafter']
    · rw [hanswer, hanswer', Outcome.relocate_refused d hs]
  | ok taken =>
    rw [hadmitted] at hsame
    obtain ⟨hanswer, hafter⟩ := allocPages_of_admitPages_eq_ok hadmitted
    obtain ⟨hanswer', hafter'⟩ := allocPages_of_admitPages_eq_ok hsame
    have htaken := h.takePages taken
    apply effect_outcome
    · rwa [hafter, hafter']
    · rw [hanswer, hanswer', Outcome.relocate_granted, htaken.pageCursor_eq]

/-- Every call that names no place shows the same of both arenas, but for the distance. -/
theorem perform (h : Relocated d a b) {c : Call} (hc : c.Placeless) :
    Effect.Relocated d (a.perform c) (b.perform c) := by
  cases c with
  | init r => exact absurd hc id
  | contains addr => exact absurd hc id
  | alloc l => exact h.alloc l
  | allocPages count align => exact h.allocPages count align
  | unusedRegion => exact effect h (congrArg Answer.region h.unusedRegion_eq)
  | setConfig config =>
    exact effect ⟨h.page_eq, h.start_eq, h.stop_eq, h.byteCursor_eq, h.pageCursor_eq⟩ rfl
  | addMemory r => exact effect h rfl
  | release addr l => exact effect h rfl
  | report stage => exact effect h rfl
  | observe => exact effect h rfl

/-! ## Runs -/

/-- Every run of such calls shows the same of both arenas, but for the distance. -/
theorem effects (h : Relocated d a b) {calls : List Call} (hcalls : ∀ c ∈ calls, c.Placeless) :
    List.Forall₂ (Effect.Relocated d) (a.effects calls) (b.effects calls) := by
  induction calls generalizing a b with
  | nil => exact .nil
  | cons c calls ih =>
    obtain ⟨hc, hrest⟩ := List.forall_mem_cons.1 hcalls
    have hfirst := h.perform hc
    exact .cons hfirst (ih hfirst.arena hrest)

end Relocated

end

/-- Two arenas with pages of one size, opened over regions that lie a whole number of pages apart,
answer the same calls alike and report the same usage after each; every address that they grant or
report lies just that far apart. -/
theorem effects_relocated {a b : Arena} (hpage : b.page = a.page) {d : Word}
    (hd : a.page.bytes.toNat ∣ d.toNat) (r : Region) {calls : List Call}
    (hcalls : ∀ c ∈ calls, c.Placeless) :
    List.Forall₂ (Effect.Relocated d) (a.effects (.init r :: calls))
      (b.effects (.init (r.relocate d) :: calls)) := by
  have hopened : Relocated d (a.around r) (b.around (r.relocate d)) := relocated_around hpage hd r
  exact .cons (hopened.effect rfl) (hopened.effects hcalls)

/-- A region of five pages that reaches over the top of the address space, and the same region moved
by three pages, which does not; the second arena has other switches. -/
theorem effects_relocated_from_the_top :
    let a : Arena := { page := .fourKib }
    let b : Arena := { page := .fourKib, config := { traceGrants := true } }
    let r : Region := { start := 0xFFFFFFFFFFFFE000, size := 0x5000 }
    let calls : List Call :=
      [.alloc { size := 3, align := 8 }, .allocPages 1 8192, .allocPages 9 4096, .unusedRegion]
    (b.page = a.page ∧ a.page.bytes.toNat ∣ (0x3000 : Word).toNat ∧
        ∀ c ∈ calls, c.Placeless) ∧
      (a.effects (.init r :: calls)).map (·.answer) =
        [.nothing, .outcome (.granted 0xFFFFFFFFFFFFE000), .outcome (.granted 0x1000),
          .outcome (.refused .noMemory),
          .region { start := 0xFFFFFFFFFFFFE008, size := 0x2FF8 }] ∧
      (b.effects (.init (r.relocate 0x3000) :: calls)).map (·.answer) =
        [.nothing, .outcome (.granted 0x1000), .outcome (.granted 0x4000),
          .outcome (.refused .noMemory), .region { start := 0x1008, size := 0x2FF8 }] ∧
      List.Forall₂ (Effect.Relocated 0x3000) (a.effects (.init r :: calls))
        (b.effects (.init (r.relocate 0x3000) :: calls)) := by
  intro a b r calls
  have hpage : b.page = a.page := rfl
  have hd : a.page.bytes.toNat ∣ (0x3000 : Word).toNat := by decide
  have hcalls : ∀ c ∈ calls, c.Placeless := by simp [calls, Call.Placeless]
  exact ⟨⟨hpage, hd, hcalls⟩, by decide, by decide, effects_relocated hpage hd r hcalls⟩

end Arena

end EarlyMemory
