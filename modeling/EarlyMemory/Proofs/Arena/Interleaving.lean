import Mathlib.Algebra.BigOperators.Group.List.Basic
import Mathlib.Data.UInt
import EarlyMemory.Proofs.Arena.Step

/-!
# The two clients of an arena do not disturb each other

Bytes and pages are taken from opposite ends of one gap, and each request is tested against what
the other client has left of it. From two bytes a page on, both tests compare one number, what the
request needs, with the gap, and a grant takes just that number away. So whether all of some
requests are granted is a matter of their sum (`grantsAll_iff`), in which their order does not show
(`grantsAll_perm`).

Where all requests are granted, each client's blocks lie in a row from its own cursor on, whatever
the other client does in between (`rows_of_grantsAll`). Two interleavings of the same requests
therefore agree in everything (`interleavings_agree`).
-/

namespace EarlyMemory.Arena

/-! ## Requests -/

/-- The client that a call serves, if it is a request. -/
def Call.client? : Call → Option Client
  | .alloc _ => some .bytes
  | .allocPages _ _ => some .pages
  | _ => none

/-- The requests that a gap of any size may meet. -/
def Call.Valid (p : PageSize) : Call → Prop
  | .alloc l => l.align.toNat.isPowerOfTwo ∧ roundUp l.size.toNat l.align.toNat < 2 ^ 64
  | .allocPages count align => p.IsAlignment align.toNat ∧ count.toNat ≠ 0
  | _ => False

/-- The bytes of the gap that a request needs: those asked for, rounded up to the alignment. -/
def Call.need (p : PageSize) : Call → ℕ
  | .alloc l => roundUp l.size.toNat l.align.toNat
  | .allocPages count align => roundUp (count.toNat * p.bytes.toNat) align.toNat
  | _ => 0

/-- Whether an answer hands out a block. -/
def Answer.isGranted : Answer → Bool
  | .outcome o => o.isOk
  | _ => false

/-- Every one of the calls is granted. -/
def GrantsAll (a : Arena) (calls : List Call) : Prop :=
  ∀ e ∈ a.effects calls, e.answer.isGranted = true

instance (a : Arena) (calls : List Call) : Decidable (a.GrantsAll calls) :=
  inferInstanceAs (Decidable (∀ e ∈ a.effects calls, e.answer.isGranted = true))

/-- The answers to one client's requests, in order. -/
def answersTo (a : Arena) (client : Client) : List Call → List Answer
  | [] => []
  | c :: cs =>
    let rest := (a.perform c).arena.answersTo client cs
    if c.client? = some client then (a.perform c).answer :: rest else rest

/-- The calls are the byte requests and the page requests, either kind in its own order. -/
inductive Interleaving : List Layout → List (Word × Word) → List Call → Prop where
  | nil : Interleaving [] [] []
  | bytes (l : Layout) {layouts : List Layout} {blocks : List (Word × Word)} {calls : List Call}
      (h : Interleaving layouts blocks calls) :
      Interleaving (l :: layouts) blocks (.alloc l :: calls)
  | pages (count align : Word) {layouts : List Layout} {blocks : List (Word × Word)}
      {calls : List Call} (h : Interleaving layouts blocks calls) :
      Interleaving layouts ((count, align) :: blocks) (.allocPages count align :: calls)

/-! ## One request -/

section

variable {a : Arena}

/-- A valid byte request that the gap can meet is granted at the byte cursor. -/
lemma perform_alloc_of_le {l : Layout} (hvalid : (Call.alloc l).Valid a.page)
    (hroom : (Call.alloc l).need a.page ≤ a.gap.toNat) :
    (a.perform (.alloc l)).answer = .outcome (.granted a.byteCursor) ∧
      (a.perform (.alloc l)).arena = a.takeBytes (.ofNat ((Call.alloc l).need a.page)) := by
  simp only [Call.Valid, Call.need] at hvalid hroom
  have hadmitted := a.admitBytes_eq l
  rw [if_pos hvalid, if_neg (Nat.not_lt.2 hroom)] at hadmitted
  obtain ⟨hanswer, hafter⟩ := alloc_of_admitBytes_eq_ok hadmitted
  exact ⟨congrArg Answer.outcome hanswer, hafter⟩

/-- A valid page request that the gap can meet is granted below the page cursor. -/
lemma perform_allocPages_of_le (hpage : 2 ≤ a.page.bytes.toNat) {count align : Word}
    (hvalid : (Call.allocPages count align).Valid a.page)
    (hroom : (Call.allocPages count align).need a.page ≤ a.gap.toNat) :
    let low := a.pageCursor - .ofNat ((Call.allocPages count align).need a.page)
    (a.perform (.allocPages count align)).answer = .outcome (.granted low) ∧
      (a.perform (.allocPages count align)).arena = { a with pageCursor := low } := by
  simp only [Call.Valid, Call.need] at hvalid hroom
  have hadmitted := a.admitPages_eq_of_two_le hpage count align
  rw [if_pos hvalid, if_neg (Nat.not_lt.2 hroom)] at hadmitted
  have hbytes := mul_eq_ofNat_of_admitPages_eq_ok hadmitted
  obtain ⟨hanswer, hafter⟩ := allocPages_of_admitPages_eq_ok hadmitted
  simp only [takePages, hbytes] at hanswer hafter
  exact ⟨congrArg Answer.outcome hanswer, hafter⟩

/-- A byte request that is granted was valid, and the gap could meet it. -/
lemma le_gap_of_isGranted_alloc {l : Layout}
    (h : (a.perform (.alloc l)).answer.isGranted = true) :
    (Call.alloc l).Valid a.page ∧ (Call.alloc l).need a.page ≤ a.gap.toNat := by
  obtain ⟨taken, hadmitted⟩ := exists_admitBytes_of_isOk h
  obtain ⟨hneed, hroom, hpow⟩ := toNat_of_admitBytes_eq_ok hadmitted
  have htaken := taken.toNat_lt
  simp only [Call.Valid, Call.need]
  exact ⟨⟨hpow, by omega⟩, by omega⟩

/-- A page request that is granted was valid, and the gap could meet it. -/
lemma le_gap_of_isGranted_allocPages (hpage : 2 ≤ a.page.bytes.toNat) {count align : Word}
    (h : (a.perform (.allocPages count align)).answer.isGranted = true) :
    (Call.allocPages count align).Valid a.page ∧
      (Call.allocPages count align).need a.page ≤ a.gap.toNat := by
  obtain ⟨taken, hadmitted⟩ := exists_admitPages_of_isOk h
  obtain ⟨hneed, hvalid⟩ := toNat_mul_of_admitPages_eq_ok hpage hadmitted
  have hroom := toNat_mul_le_gap_of_admitPages_eq_ok hadmitted
  refine ⟨hvalid, ?_⟩
  show roundUp (count.toNat * a.page.bytes.toNat) align.toNat ≤ a.gap.toNat
  omega

/-- Either client's test compares what the request needs with the gap. -/
theorem isGranted_perform_iff (hpage : 2 ≤ a.page.bytes.toNat) (c : Call) :
    (a.perform c).answer.isGranted = true ↔ c.Valid a.page ∧ c.need a.page ≤ a.gap.toNat := by
  constructor
  · intro h
    cases c with
    | alloc l => exact le_gap_of_isGranted_alloc h
    | allocPages count align => exact le_gap_of_isGranted_allocPages hpage h
    | _ => cases h
  · rintro ⟨hvalid, hroom⟩
    cases c with
    | alloc l =>
      rw [(perform_alloc_of_le hvalid hroom).1]
      rfl
    | allocPages count align =>
      rw [(perform_allocPages_of_le hpage hvalid hroom).1]
      rfl
    | _ => exact absurd hvalid id

/-- A valid request that the gap cannot meet is refused for want of room. -/
lemma perform_of_gap_lt (hpage : 2 ≤ a.page.bytes.toNat) {c : Call} (hvalid : c.Valid a.page)
    (hroom : a.gap.toNat < c.need a.page) :
    (a.perform c).answer = .outcome (.refused .noMemory) ∧ (a.perform c).arena = a := by
  cases c with
  | alloc l =>
    simp only [Call.Valid, Call.need] at hvalid hroom
    have hadmitted := a.admitBytes_eq l
    rw [if_pos hvalid, if_pos hroom] at hadmitted
    obtain ⟨hanswer, hafter⟩ := alloc_of_admitBytes_eq_error hadmitted
    exact ⟨congrArg Answer.outcome hanswer, hafter⟩
  | allocPages count align =>
    simp only [Call.Valid, Call.need] at hvalid hroom
    have hadmitted := a.admitPages_eq_of_two_le hpage count align
    rw [if_pos hvalid, if_pos hroom] at hadmitted
    obtain ⟨hanswer, hafter⟩ := allocPages_of_admitPages_eq_error hadmitted
    exact ⟨congrArg Answer.outcome hanswer, hafter⟩
  | _ => exact absurd hvalid id

/-- A grant takes from the gap what the request needs. -/
lemma toNat_gap_perform (hpage : 2 ≤ a.page.bytes.toNat) {c : Call} (hvalid : c.Valid a.page)
    (hroom : c.need a.page ≤ a.gap.toNat) :
    (a.perform c).arena.gap.toNat = a.gap.toNat - c.need a.page := by
  have hgap := a.gap.toNat_lt
  have hneed : (UInt64.ofNat (c.need a.page)).toNat = c.need a.page := by
    rw [UInt64.toNat_ofNat', Nat.mod_eq_of_lt (by omega)]
  have hword : (a.perform c).arena.gap = a.gap - .ofNat (c.need a.page) := by
    cases c with
    | alloc l =>
      rw [(perform_alloc_of_le hvalid hroom).2]
      exact a.gap_takeBytes _
    | allocPages count align =>
      rw [(perform_allocPages_of_le hpage hvalid hroom).2, gap, gap, sub_right_comm]
    | _ => exact absurd hvalid id
  rw [hword, UInt64.toNat_sub_of_le _ _ (UInt64.le_iff_toNat_le.2 (by omega)), hneed]

end

/-! ## All of some requests -/

lemma grantsAll_nil (a : Arena) : a.GrantsAll [] := fun _ he => absurd he List.not_mem_nil

lemma grantsAll_cons (a : Arena) (c : Call) (cs : List Call) :
    a.GrantsAll (c :: cs) ↔
      (a.perform c).answer.isGranted = true ∧ (a.perform c).arena.GrantsAll cs := by
  simp only [GrantsAll, effects, List.forall_mem_cons]

/-- All of some requests are granted exactly if each is valid and the gap can meet their sum. -/
theorem grantsAll_iff (a : Arena) (hpage : 2 ≤ a.page.bytes.toNat) (calls : List Call) :
    a.GrantsAll calls ↔
      (∀ c ∈ calls, c.Valid a.page) ∧ (calls.map (Call.need a.page)).sum ≤ a.gap.toNat := by
  induction calls generalizing a with
  | nil => simp [grantsAll_nil]
  | cons c cs ih =>
    have hsame := a.page_perform c
    have hrest := ih (a.perform c).arena (by rwa [hsame])
    rw [hsame] at hrest
    rw [grantsAll_cons, isGranted_perform_iff hpage, List.forall_mem_cons, List.map_cons,
      List.sum_cons]
    constructor
    · rintro ⟨⟨hvalid, hroom⟩, hgranted⟩
      obtain ⟨hvalid_rest, hsum⟩ := hrest.1 hgranted
      rw [toNat_gap_perform hpage hvalid hroom] at hsum
      exact ⟨⟨hvalid, hvalid_rest⟩, by omega⟩
    · rintro ⟨⟨hvalid, hvalid_rest⟩, hsum⟩
      have hroom : c.need a.page ≤ a.gap.toNat := by omega
      refine ⟨⟨hvalid, hroom⟩, hrest.2 ⟨hvalid_rest, ?_⟩⟩
      rw [toNat_gap_perform hpage hvalid hroom]
      omega

/-- Whether all of some requests are granted does not depend on their order. -/
theorem grantsAll_perm (a : Arena) (hpage : 2 ≤ a.page.bytes.toNat) {first second : List Call}
    (hperm : first.Perm second) : a.GrantsAll first ↔ a.GrantsAll second := by
  rw [grantsAll_iff a hpage, grantsAll_iff a hpage, (hperm.map (Call.need a.page)).sum_eq]
  simp only [hperm.mem_iff]

/-- Interleavings of the same requests are permutations of each other. -/
lemma Interleaving.perm {layouts : List Layout} {blocks : List (Word × Word)} {calls : List Call}
    (h : Interleaving layouts blocks calls) :
    calls.Perm (layouts.map .alloc ++ blocks.map fun b => .allocPages b.1 b.2) := by
  induction h with
  | nil => exact .refl _
  | bytes l _ ih => exact ih.cons _
  | pages count align _ ih => exact (ih.cons _).trans List.perm_middle.symm

/-! ## The row of each client -/

/-- The addresses of byte blocks that lie in a row upwards, and where the row ends. -/
def rowUp (p : PageSize) (cursor : Word) : List Layout → List Word × Word
  | [] => ([], cursor)
  | l :: layouts =>
    let rest := rowUp p (cursor + .ofNat ((Call.alloc l).need p)) layouts
    (cursor :: rest.1, rest.2)

/-- The addresses of page blocks that lie in a row downwards, and where the row ends. -/
def rowDown (p : PageSize) (cursor : Word) : List (Word × Word) → List Word × Word
  | [] => ([], cursor)
  | (count, align) :: blocks =>
    let low := cursor - .ofNat ((Call.allocPages count align).need p)
    let rest := rowDown p low blocks
    (low :: rest.1, rest.2)

/-- What requests that are all granted amount to: two rows, and the cursors at their ends. -/
structure Rows (a : Arena) (layouts : List Layout) (blocks : List (Word × Word))
    (calls : List Call) : Prop where
  answers_bytes : a.answersTo .bytes calls =
    (rowUp a.page a.byteCursor layouts).1.map fun addr => .outcome (.granted addr)
  answers_pages : a.answersTo .pages calls =
    (rowDown a.page a.pageCursor blocks).1.map fun addr => .outcome (.granted addr)
  performAll_eq : a.performAll calls =
    { a with
      byteCursor := (rowUp a.page a.byteCursor layouts).2
      pageCursor := (rowDown a.page a.pageCursor blocks).2 }

section

variable {a : Arena} {layouts : List Layout} {blocks : List (Word × Word)} {calls : List Call}

/-- A byte block in front lengthens the row of bytes and leaves that of pages alone. -/
lemma Rows.bytes {l : Layout} (hvalid : (Call.alloc l).Valid a.page)
    (hroom : (Call.alloc l).need a.page ≤ a.gap.toNat)
    (hrest : (a.perform (.alloc l)).arena.Rows layouts blocks calls) :
    a.Rows (l :: layouts) blocks (.alloc l :: calls) := by
  obtain ⟨hanswer, hafter⟩ := perform_alloc_of_le hvalid hroom
  obtain ⟨hbytes, hpages, hlast⟩ := hrest
  refine ⟨?_, ?_, ?_⟩
  · show (a.perform (.alloc l)).answer :: (a.perform (.alloc l)).arena.answersTo .bytes calls = _
    rw [hbytes, hanswer, hafter]
    rfl
  · show (a.perform (.alloc l)).arena.answersTo .pages calls = _
    rw [hpages, hafter]
    rfl
  · rw [performAll_cons, hlast, hafter]
    rfl

/-- A page block in front lengthens the row of pages and leaves that of bytes alone. -/
lemma Rows.pages (hpage : 2 ≤ a.page.bytes.toNat) {count align : Word}
    (hvalid : (Call.allocPages count align).Valid a.page)
    (hroom : (Call.allocPages count align).need a.page ≤ a.gap.toNat)
    (hrest : (a.perform (.allocPages count align)).arena.Rows layouts blocks calls) :
    a.Rows layouts ((count, align) :: blocks) (.allocPages count align :: calls) := by
  obtain ⟨hanswer, hafter⟩ := perform_allocPages_of_le hpage hvalid hroom
  obtain ⟨hbytes, hpages, hlast⟩ := hrest
  refine ⟨?_, ?_, ?_⟩
  · show (a.perform (.allocPages count align)).arena.answersTo .bytes calls = _
    rw [hbytes, hafter]
  · show (a.perform (.allocPages count align)).answer ::
      (a.perform (.allocPages count align)).arena.answersTo .pages calls = _
    rw [hpages, hanswer, hafter]
    rfl
  · rw [performAll_cons, hlast, hafter]
    rfl

/-- Requests that are all granted make up two rows, whatever their interleaving. -/
theorem rows_of_grantsAll (hpage : 2 ≤ a.page.bytes.toNat) (h : Interleaving layouts blocks calls)
    (hgranted : a.GrantsAll calls) : a.Rows layouts blocks calls := by
  induction h generalizing a with
  | nil => exact ⟨rfl, rfl, rfl⟩
  | bytes l _ ih =>
    obtain ⟨hfirst, hrest⟩ := (a.grantsAll_cons _ _).1 hgranted
    obtain ⟨hvalid, hroom⟩ := (isGranted_perform_iff hpage _).1 hfirst
    exact Rows.bytes hvalid hroom (ih (by rwa [page_perform]) hrest)
  | pages count align _ ih =>
    obtain ⟨hfirst, hrest⟩ := (a.grantsAll_cons _ _).1 hgranted
    obtain ⟨hvalid, hroom⟩ := (isGranted_perform_iff hpage _).1 hfirst
    exact Rows.pages hpage hvalid hroom (ih (by rwa [page_perform]) hrest)

end

/-- If in one interleaving of byte requests and page requests every request is granted, then so it
is in every interleaving; each request has the same answer there, and the arena is the same in
the end. -/
theorem interleavings_agree (a : Arena) (hpage : 2 ≤ a.page.bytes.toNat) {layouts : List Layout}
    {blocks : List (Word × Word)} {first second : List Call}
    (hfirst : Interleaving layouts blocks first) (hsecond : Interleaving layouts blocks second)
    (hgranted : a.GrantsAll first) :
    a.GrantsAll second ∧ (∀ client, a.answersTo client second = a.answersTo client first) ∧
      a.performAll second = a.performAll first := by
  have hgranted_second : a.GrantsAll second :=
    (a.grantsAll_perm hpage (hfirst.perm.trans hsecond.perm.symm)).1 hgranted
  have hrows := rows_of_grantsAll hpage hfirst hgranted
  have hrows_second := rows_of_grantsAll hpage hsecond hgranted_second
  refine ⟨hgranted_second, ?_, ?_⟩
  · intro client
    cases client with
    | bytes => rw [hrows.answers_bytes, hrows_second.answers_bytes]
    | pages => rw [hrows.answers_pages, hrows_second.answers_pages]
  · rw [hrows.performAll_eq, hrows_second.performAll_eq]

/-- Two byte requests and two page requests in a region that reaches over the top of the address
space: one client after the other, and in turns. -/
theorem interleavings_agree_over_the_top :
    let a := (({ page := .fourKib } : Arena).perform
      (.init { start := 0xFFFFFFFFFFFFE000, size := 0x5000 })).arena
    let layouts : List Layout := [{ size := 3, align := 8 }, { size := 5000, align := 1 }]
    let blocks : List (Word × Word) := [(1, 8192), (1, 4096)]
    let first := layouts.map .alloc ++ blocks.map fun b => .allocPages b.1 b.2
    let second : List Call :=
      [.allocPages 1 8192, .alloc { size := 3, align := 8 }, .allocPages 1 4096,
        .alloc { size := 5000, align := 1 }]
    2 ≤ PageSize.fourKib.bytes.toNat ∧ Interleaving layouts blocks first ∧
      Interleaving layouts blocks second ∧ a.GrantsAll first ∧ a.GrantsAll second ∧
      a.answersTo .bytes second =
        [.outcome (.granted 0xFFFFFFFFFFFFE000), .outcome (.granted 0xFFFFFFFFFFFFE008)] ∧
      a.answersTo .pages second = [.outcome (.granted 0x1000), .outcome (.granted 0)] ∧
      a.performAll second = a.performAll first := by
  intro a layouts blocks first second
  have hfirst : Interleaving layouts blocks first :=
    .bytes _ (.bytes _ (.pages _ _ (.pages _ _ .nil)))
  have hsecond : Interleaving layouts blocks second :=
    .pages _ _ (.bytes _ (.pages _ _ (.bytes _ .nil)))
  have hgranted : a.GrantsAll first := by decide
  obtain ⟨hgranted_second, hanswers, hlast⟩ :=
    interleavings_agree a (by decide) hfirst hsecond hgranted
  refine ⟨by decide, hfirst, hsecond, hgranted, hgranted_second, ?_, ?_, hlast⟩
  · exact (hanswers .bytes).trans (by decide)
  · exact (hanswers .pages).trans (by decide)

end EarlyMemory.Arena
