import EarlyMemory.Proofs.Arena.EventLine
import EarlyMemory.Proofs.Boot.Outcome

/-!
# The size of the region

The number of bytes in the region is a product of words, and nothing looks at whether it has
wrapped. The arena manages the wrapped product, and says so in its first report. So a rehearsal that
succeeds manages the region that was asked for exactly if the host lends a region of that size
(`managed_rehearse_iff`). From `2 ^ 54` kibibytes on, the product may wrap to a size that the host
does lend, and then the rehearsal succeeds over another region (`not_managed_as_asked`).
-/

namespace EarlyMemory.Boot

/-! ## Reports -/

/-- The notice of a report: the bytes and the pages at some stage. -/
def reportNotice (stage : String) (bytes pages : Usage) : Notice :=
  .arena (.usage (Bytes.ofString stage) bytes pages)

/-- The bytes and the pages that a course first reports at a stage. -/
def Course.report? (c : Course) (stage : String) : Option (Usage × Usage) :=
  c.notices.findSome? fun
    | .arena (.usage name bytes pages) =>
      if name = Bytes.ofString stage then some (bytes, pages) else none
    | _ => none

/-- The report on the opening gets through in full. -/
lemma plain_reportNotice_init (bytes pages : Usage) : (reportNotice "init" bytes pages).Plain where
  level_mem := by simp [reportNotice, Notice.entry, Arena.Event.entry, Arena.Event.level]
  room_le := Arena.Event.room_usage_le (by decide) bytes pages
  lacks := of_decide_eq_true rfl

section

variable {o : Options}

/-- The first two things that a start says once it has its region: where the arena lies, and what
it holds. -/
lemma prefix_notices_start (hstack : o.stackPages ≠ 0) (hlent : o.Lent) :
    (opened .rehearsal o).notices ++
        [reportNotice "init" (opened .rehearsal o).arena.bytes
          (opened .rehearsal o).arena.pages] <+:
      (start .rehearsal o).notices := by
  have hfirst : (opened .rehearsal o).run (plan o.stackPages) =
      ((opened .rehearsal o).perform (.report "init")).run (plan o.stackPages).tail := rfl
  have hrest : ((opened .rehearsal o).perform (.report "init")).Run (plan o.stackPages).tail
      (((opened .rehearsal o).perform (.report "init")).run (plan o.stackPages).tail) :=
    Course.run_spec rfl rfl fun item hitem =>
      occupies_of_mem_plan hstack item (List.mem_of_mem_tail hitem)
  rw [start_of_lent hlent, hfirst]
  exact hrest.prefix_notices

/-- The arena of a start reports the size of its region. -/
lemma report?_start (hstack : o.stackPages ≠ 0) (hlent : o.Lent) :
    (start .rehearsal o).report? "init" =
      some ((opened .rehearsal o).arena.bytes, (opened .rehearsal o).arena.pages) :=
  (prefix_notices_start hstack hlent).findSome?_eq_some rfl

lemma toNat_total_opened (hlent : o.Lent) :
    (opened .rehearsal o).arena.bytes.total.toNat = o.regionBytes.toNat :=
  toNat_gap_opened hlent

end

/-! ## Rehearsals -/

/-- A rehearsal that succeeds reports and prints what its arena manages, the wrapped product. This
is what the command line asks for exactly if the host lends so much. -/
theorem managed_rehearse_iff (words : List Bytes) (h : (rehearse .rehearsal words).exitCode = 0) :
    let o := (Options.read {} words).1
    let asked := o.regionKib.toNat * 1024
    ∃ bytes pages, (start .rehearsal o).report? "init" = some (bytes, pages) ∧
      (∃ before after, Bytes.Ended before ∧ (rehearse .rehearsal words).errorText =
        before ++ ((reportNotice "init" bytes pages).line ++ [Bytes.lineFeed]) ++ after) ∧
      bytes.total.toNat = asked % 2 ^ 64 ∧
      (bytes.total.toNat = asked ↔ asked ≤ 67108864) := by
  intro o asked
  have hstack : o.stackPages ≠ 0 := Options.stackPages_read_ne_zero words
  obtain ⟨haccepted, hsuccess⟩ := success_of_exitCode_eq_zero h
  have htext : (rehearse .rehearsal words).errorText = (start .rehearsal o).errorText o :=
    congrArg Rehearsal.errorText (rehearse_of_accepted haccepted)
  have hlent : o.Lent := lent_of_success hsuccess
  have hbound := hlent.regionBytes_le
  rw [o.toNat_regionBytes] at hbound
  have htotal := (toNat_total_opened hlent).trans o.toNat_regionBytes
  refine ⟨_, _, report?_start hstack hlent, ?_, htotal, ?_⟩
  · have hmem := (prefix_notices_start hstack hlent).subset
      (List.mem_append_right _ List.mem_cons_self)
    rw [htext]
    exact Course.line_infix_errorText _ o hmem (plain_reportNotice_init _ _)
  · rw [htotal]
    omega

/-- The largest region that the host lends is managed as it was asked for. -/
theorem managed_rehearse_largest :
    let words := ["--region-kib", "65536"].map Bytes.ofString
    (rehearse .rehearsal words).exitCode = 0 ∧
      ∃ bytes pages, (start .rehearsal (Options.read {} words).1).report? "init" =
        some (bytes, pages) ∧ bytes.total.toNat = 65536 * 1024 := by
  intro words
  have hzero : (rehearse .rehearsal words).exitCode = 0 := by decide +kernel
  have hkib : (Options.read {} words).1.regionKib.toNat = 65536 := by decide +kernel
  obtain ⟨bytes, pages, hreport, -, -, hasked⟩ := managed_rehearse_iff words hzero
  rw [hkib] at hasked
  exact ⟨hzero, bytes, pages, hreport, hasked.2 (by decide)⟩

/-- A region of 256 KiB more than the address space wraps to one of 256 KiB, and the rehearsal
succeeds over that. -/
theorem not_managed_as_asked :
    let words := ["--region-kib", "18014398509482240"].map Bytes.ofString
    let o := (Options.read {} words).1
    (rehearse .rehearsal words).exitCode = 0 ∧
      ((start .rehearsal o).report? "init").map (·.1.total.toNat) = some (256 * 1024) ∧
      o.regionKib.toNat * 1024 = 2 ^ 64 + 256 * 1024 := by
  decide +kernel

end EarlyMemory.Boot
