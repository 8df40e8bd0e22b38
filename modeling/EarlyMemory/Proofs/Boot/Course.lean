import EarlyMemory.Boot.Sequence
import EarlyMemory.Proofs.Arena.Interleaving

/-!
# The course of a start

A start asks its arena for blocks of known extent. Every request is valid, as long as the stack has
a page at all, so the gap alone decides. The checks on the way never fail: the memory map has a
layout, and no arena takes a second region. `Course.Run` lists once where each action takes a
course, and every plan is carried out in this way (`Course.run_spec`). A plan therefore fails
exactly at the first block that the gap, less the blocks before, cannot meet
(`Course.Run.failure_eq`), and its last word is then that failure (`Course.Run.notices_of_failure`).
-/

namespace EarlyMemory.Boot

/-! ## Items -/

namespace Item

/-- The request for a block, as a call. -/
def call : Item → Arena.Call
  | info => .alloc infoLayout
  | memoryMap => .alloc mapLayout
  | rootTable => .allocPages 1 page.bytes
  | stack pages => .allocPages pages page.bytes

/-- The number of bytes that a block takes. -/
def extent : Item → ℕ
  | info => 16
  | memoryMap => 384
  | rootTable => 4096
  | stack pages => pages.toNat * 4096

/-- A block of at least one byte. Only a stack can have none. -/
def Occupies (item : Item) : Prop := item ≠ stack 0

instance (item : Item) : Decidable item.Occupies := inferInstanceAs (Decidable (item ≠ stack 0))

lemma map_request (a : Arena) (item : Item) :
    (item.request a).map .outcome = a.perform item.call := by
  cases item <;> rfl

lemma arena_request (a : Arena) (item : Item) :
    (item.request a).arena = (a.perform item.call).arena := by
  rw [← map_request]
  rfl

/-- What the call comes to is what the request comes to. -/
lemma request_eq_of_perform {a after : Arena} {item : Item} {o : Outcome}
    (h : (a.perform item.call).answer = .outcome o ∧ (a.perform item.call).arena = after) :
    (item.request a).answer = o ∧ (item.request a).arena = after := by
  rw [← map_request] at h
  exact ⟨Arena.Answer.outcome.inj h.1, h.2⟩

/-- A page is a power of two of pages. -/
lemma isAlignment_page : page.IsAlignment page.bytes.toNat := ⟨0, (Nat.mul_one _).symm⟩

lemma valid_call {item : Item} (h : item.Occupies) : item.call.Valid page := by
  cases item with
  | info => exact ⟨⟨3, rfl⟩, by decide⟩
  | memoryMap => exact ⟨⟨3, rfl⟩, by decide⟩
  | rootTable => exact ⟨isAlignment_page, by decide⟩
  | stack pages =>
    refine ⟨isAlignment_page, fun hzero => h ?_⟩
    rw [UInt64.toNat_inj.1 (hzero.trans UInt64.toNat_zero.symm)]

/-- What a request needs of the gap is the extent of its block: rounding adds nothing. -/
lemma need_call (item : Item) : item.call.need page = item.extent := by
  cases item with
  | info => decide
  | memoryMap => decide
  | rootTable => decide
  | stack pages => exact roundUp_eq_self page.toNat_bytes_pos (Nat.dvd_mul_left _ _)

section

variable {a : Arena} {item : Item}

lemma valid_and_need (ha : a.page = page) (hitem : item.Occupies) :
    item.call.Valid a.page ∧ item.call.need a.page = item.extent := by
  rw [ha]
  exact ⟨valid_call hitem, need_call item⟩

/-- A block that the gap can meet is granted, and its extent is taken from the gap. -/
lemma request_of_le (ha : a.page = page) (hitem : item.Occupies)
    (hroom : item.extent ≤ a.gap.toNat) :
    (item.request a).answer.isOk = true ∧
      (item.request a).arena.gap.toNat = a.gap.toNat - item.extent := by
  have hpage : 2 ≤ a.page.bytes.toNat := by rw [ha]; decide
  obtain ⟨hvalid, hneed⟩ := valid_and_need ha hitem
  rw [← hneed] at hroom ⊢
  refine ⟨?_, ?_⟩
  · have hgranted := (Arena.isGranted_perform_iff hpage item.call).2 ⟨hvalid, hroom⟩
    rwa [← map_request] at hgranted
  · rw [arena_request, Arena.toNat_gap_perform hpage hvalid hroom]

/-- A block that the gap cannot meet is refused for want of room. -/
lemma request_of_lt (ha : a.page = page) (hitem : item.Occupies)
    (hroom : a.gap.toNat < item.extent) :
    (item.request a).answer = .refused .noMemory ∧ (item.request a).arena = a := by
  have hpage : 2 ≤ a.page.bytes.toNat := by rw [ha]; decide
  obtain ⟨hvalid, hneed⟩ := valid_and_need ha hitem
  rw [← hneed] at hroom
  exact request_eq_of_perform (Arena.perform_of_gap_lt hpage hvalid hroom)

end

end Item

/-! ## Runs -/

namespace Course

/-- A course that has obtained one more block. -/
def obtained (c : Course) (item : Item) : Course :=
  let effect := item.request c.arena
  (c.follow effect).keep { item, region := { start := effect.answer.addr, size := item.size } }

/-- A course that could not have a block. -/
def denied (c : Course) (item : Item) : Course :=
  (c.follow (item.request c.arena)).fail (.refused item .noMemory)

/-- Where a plan takes a course: an action checks or says something or obtains a block and the rest
follows, or it is denied a block and nothing follows. -/
inductive Run : Course → List Action → Course → Prop where
  | done (c : Course) : Run c [] c
  | checked {c d : Course} {actions : List Action} (hrest : Run c actions d) :
      Run c (.layOutMap :: actions) d
  | said {c d : Course} {action : Action} {actions : List Action} (n : Notice)
      (haction : ∀ item, action ≠ .obtain item) (hrest : Run (c.say n) actions d) :
      Run c (action :: actions) d
  | obtained {c d : Course} {item : Item} {actions : List Action} (hpage : c.arena.page = page)
      (hitem : item.Occupies) (hroom : item.extent ≤ c.arena.gap.toNat)
      (hrest : Run (c.obtained item) actions d) : Run c (.obtain item :: actions) d
  | denied {c : Course} {item : Item} {actions : List Action} (hpage : c.arena.page = page)
      (hitem : item.Occupies) (hroom : c.arena.gap.toNat < item.extent) :
      Run c (.obtain item :: actions) (c.denied item)

/-- No action changes the size of the pages. -/
lemma page_obtained (c : Course) (item : Item) : (c.obtained item).arena.page = c.arena.page := by
  show (item.request c.arena).arena.page = c.arena.page
  rw [Item.arena_request, Arena.page_perform]

/-- The memory map has a layout. -/
lemma perform_layOutMap (c : Course) : c.perform .layOutMap = c := by
  have hlayout : mapLayout?.isSome = true := by decide
  rw [perform, if_pos hlayout]

/-- No arena takes a second region. -/
lemma perform_offer (c : Course) (r : Region) :
    c.perform (.offer r) = c.say (.arena (.extensionRefused r)) := by
  have hrefused : (c.arena.addMemory r).answer = .unsupported := rfl
  rw [perform, if_pos hrefused]
  rfl

lemma perform_obtain_of_le {c : Course} (hpage : c.arena.page = page) {item : Item}
    (hitem : item.Occupies) (hroom : item.extent ≤ c.arena.gap.toNat) :
    c.perform (.obtain item) = c.obtained item :=
  if_pos (Item.request_of_le hpage hitem hroom).1

lemma perform_obtain_of_lt {c : Course} (hpage : c.arena.page = page) {item : Item}
    (hitem : item.Occupies) (hroom : c.arena.gap.toNat < item.extent) :
    c.perform (.obtain item) = c.denied item := by
  rw [perform, (Item.request_of_lt hpage hitem hroom).1, denied]
  rfl

lemma run_cons_of_some {c : Course} {action : Action} {f : Failure}
    (h : (c.perform action).failure = some f) (actions : List Action) :
    c.run (action :: actions) = c.perform action := by
  simp only [run, h, Option.isSome_some, if_true]

lemma run_cons_of_none {c : Course} {action : Action} (h : (c.perform action).failure = none)
    (actions : List Action) : c.run (action :: actions) = (c.perform action).run actions := by
  simp only [run, h, Option.isSome_none, Bool.false_eq_true, if_false]

/-- Every plan without empty blocks is carried out in this way. -/
theorem run_spec {c : Course} (hpage : c.arena.page = page) (hc : c.failure = none)
    {actions : List Action} (hactions : ∀ item, .obtain item ∈ actions → item.Occupies) :
    Run c actions (c.run actions) := by
  induction actions generalizing c with
  | nil => exact .done c
  | cons action actions ih =>
    have hrest : ∀ item, .obtain item ∈ actions → item.Occupies :=
      fun item hitem => hactions item (List.mem_cons_of_mem _ hitem)
    cases action with
    | report stage =>
      rw [run_cons_of_none (by exact hc)]
      exact .said _ (by simp) (ih hpage hc hrest)
    | layOutMap =>
      rw [run_cons_of_none (by rw [perform_layOutMap]; exact hc), perform_layOutMap]
      exact .checked (ih hpage hc hrest)
    | offer r =>
      rw [run_cons_of_none (by rw [perform_offer]; exact hc), perform_offer]
      exact .said _ (by simp) (ih hpage hc hrest)
    | handOff =>
      rw [run_cons_of_none (by exact hc)]
      exact .said _ (by simp) (ih hpage hc hrest)
    | obtain item =>
      have hitem := hactions item List.mem_cons_self
      by_cases hroom : item.extent ≤ c.arena.gap.toNat
      · have hperform := perform_obtain_of_le hpage hitem hroom
        rw [run_cons_of_none (by rw [hperform]; exact hc), hperform]
        exact .obtained hpage hitem hroom (ih ((c.page_obtained item).trans hpage) hc hrest)
      · have hlt := Nat.lt_of_not_le hroom
        have hperform := perform_obtain_of_lt hpage hitem hlt
        rw [run_cons_of_some (f := .refused item .noMemory) (by rw [hperform]; rfl), hperform]
        exact .denied hpage hitem hlt

/-- A plan goes on where its front ends, unless that has failed. -/
lemma run_append {c : Course} (hc : c.failure = none) (front back : List Action) :
    c.run (front ++ back) =
      if (c.run front).failure = none then (c.run front).run back else c.run front := by
  induction front generalizing c with
  | nil => exact (if_pos hc).symm
  | cons action front ih =>
    cases hd : (c.perform action).failure with
    | some f =>
      rw [List.cons_append, run_cons_of_some hd, run_cons_of_some hd, if_neg (by simp [hd])]
    | none => rw [List.cons_append, run_cons_of_none hd, run_cons_of_none hd, ih hd]

/-- What is said is not taken back. -/
lemma Run.prefix_notices {c d : Course} {actions : List Action} (h : Run c actions d) :
    c.notices <+: d.notices := by
  induction h with
  | done c => exact List.prefix_rfl
  | checked hrest ih => exact ih
  | said n haction hrest ih => exact (List.prefix_append _ _).trans ih
  | obtained hpage hitem hroom hrest ih => exact (List.prefix_append _ _).trans ih
  | denied hpage hitem hroom =>
    exact (List.prefix_append _ _).trans (List.prefix_append _ _)

/-! ## Failures -/

/-- The first block of a plan that a gap cannot meet after those before it. -/
def shortItem? : ℕ → List Action → Option Item
  | _, [] => none
  | gap, .obtain item :: actions =>
    if gap < item.extent then some item else shortItem? (gap - item.extent) actions
  | gap, _ :: actions => shortItem? gap actions

/-- A plan fails at the first block that the gap cannot meet after those before it. -/
theorem Run.failure_eq {c d : Course} {actions : List Action} (h : Run c actions d)
    (hc : c.failure = none) :
    d.failure = (shortItem? c.arena.gap.toNat actions).map fun item => .refused item .noMemory := by
  induction h with
  | done c => exact hc
  | checked hrest ih => exact ih hc
  | @said c d action actions n haction hrest ih =>
    have hskip : shortItem? c.arena.gap.toNat (action :: actions) =
        shortItem? c.arena.gap.toNat actions := by
      cases action with
      | obtain item => exact absurd rfl (haction item)
      | _ => rfl
    rw [hskip]
    exact ih hc
  | @obtained c d item actions hpage hitem hroom hrest ih =>
    have hgap : (c.obtained item).arena.gap.toNat = c.arena.gap.toNat - item.extent :=
      (Item.request_of_le hpage hitem hroom).2
    rw [ih hc, hgap, shortItem?, if_neg (Nat.not_lt.2 hroom)]
  | denied hpage hitem hroom =>
    rw [shortItem?, if_pos hroom]
    rfl

/-- Every failure shows in the exit code. -/
lemma exitCode_eq_zero_iff (c : Course) : c.exitCode = 0 ↔ c.failure = none := by
  unfold exitCode
  cases c.failure with
  | none => simp
  | some f => cases f <;> simp [Failure.exitCode]

/-- A course that fails does so with its last word. -/
lemma Run.notices_of_failure {c d : Course} {actions : List Action} (h : Run c actions d)
    (hc : c.failure = none) {f : Failure} (hf : d.failure = some f) :
    ∃ earlier, d.notices = earlier ++ [.failed f] := by
  induction h with
  | done c => exact absurd (hc.symm.trans hf) (Option.some_ne_none f).symm
  | checked hrest ih => exact ih hc hf
  | said n haction hrest ih => exact ih hc hf
  | obtained hpage hitem hroom hrest ih => exact ih hc hf
  | denied hpage hitem hroom =>
    obtain rfl := Option.some.inj hf
    exact ⟨_, rfl⟩

end Course

end EarlyMemory.Boot
