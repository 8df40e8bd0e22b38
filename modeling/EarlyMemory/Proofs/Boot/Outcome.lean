import EarlyMemory.Proofs.Boot.ErrorText
import EarlyMemory.Proofs.Boot.Start

/-!
# The outcome of a rehearsal

Seen from outside, a rehearsal is an exit code and a last line. Both follow from the options that
the command line leaves: the exit code is that of `Options.failure?`, and the last line tells this
failure and no other (`failsWith_rehearse_iff`). `outcome_rehearse` says for every command line
which outcome it has, by the size of the region in bytes and in pages and by the pages of the stack.
-/

namespace EarlyMemory.Boot

/-! ## The failures of given options -/

namespace Options

variable (o : Options)

/-- What a start with these options can fail at. -/
def failures : List Failure :=
  [.unevenRegion o.regionKib, .noRegion o.regionBytes, .refused .info .noMemory,
    .refused .rootTable .noMemory, .refused (.stack o.stackPages) .noMemory]

lemma mem_failures {f : Failure} (h : o.failure? = some f) : f ∈ o.failures := by
  simp only [failure?] at h
  split_ifs at h <;> cases h <;> simp [failures]

lemma map_heading_failures : o.failures.map Failure.heading =
    [Bytes.ofString "region", Bytes.ofString "failed", Bytes.ofString "boot i",
      Bytes.ofString "root p", Bytes.ofString "boot s"] := rfl

/-- Each of them is told in words of its own. -/
lemma nodup_headings : (o.failures.map Failure.heading).Nodup := by
  rw [map_heading_failures]
  decide

/-- Two failures that are told in the same words are one. -/
lemma eq_of_bytes_eq {f g : Failure} (hf : f ∈ o.failures) (hg : g ∈ o.failures)
    (h : f.message.bytes = g.message.bytes) : f = g :=
  List.inj_on_of_nodup_map o.nodup_headings hf hg (Failure.heading_eq_of_bytes_eq h)

/-- A failure whose words none of them begins with is told by none of them. -/
lemma bytes_ne_of_heading_notMem {f g : Failure} (hf : f ∈ o.failures)
    (hg : g.heading ∉ o.failures.map Failure.heading) : f.message.bytes ≠ g.message.bytes := by
  intro h
  have hheading : f.heading = g.heading := Failure.heading_eq_of_bytes_eq h
  exact hg (hheading ▸ List.mem_map_of_mem hf)

/-- When a start with these options fails in this way. -/
def FailsFor : Failure → Prop
  | .unevenRegion _ => ¬ 4 ∣ o.regionKib.toNat
  | .noRegion _ => 4 ∣ o.regionKib.toNat ∧ 67108864 < o.regionKib.toNat * 1024 % 2 ^ 64
  | .badMapLayout | .regionTaken => False
  | .refused .info _ => 4 ∣ o.regionKib.toNat ∧ o.regionKib.toNat * 1024 % 2 ^ 64 = 0
  | .refused .memoryMap _ => False
  | .refused .rootTable _ =>
    4 ∣ o.regionKib.toNat ∧ o.regionKib.toNat * 1024 % 2 ^ 64 / 4096 = 1
  | .refused (.stack _) _ =>
    4 ∣ o.regionKib.toNat ∧ 2 ≤ o.regionKib.toNat * 1024 % 2 ^ 64 / 4096 ∧
      o.regionKib.toNat * 1024 % 2 ^ 64 ≤ 67108864 ∧
      o.regionKib.toNat * 1024 % 2 ^ 64 / 4096 - 2 < o.stackPages.toNat

/-- The ways to fail exclude each other. -/
lemma failure?_eq_some_iff {f : Failure} (hf : f ∈ o.failures) :
    o.failure? = some f ↔ o.FailsFor f := by
  simp only [failures, List.mem_cons, List.not_mem_nil, or_false] at hf
  rcases hf with rfl | rfl | rfl | rfl | rfl
  all_goals
    simp only [failure?, FailsFor]
    split_ifs <;>
      simp only [reduceCtorEq, Option.some.injEq, Failure.refused.injEq, and_true, true_iff,
        false_iff] <;>
      omega

lemma failure?_eq_none_iff : o.failure? = none ↔
    4 ∣ o.regionKib.toNat ∧ o.regionKib.toNat * 1024 % 2 ^ 64 ≤ 67108864 ∧
      o.stackPages.toNat + 2 ≤ o.regionKib.toNat * 1024 % 2 ^ 64 / 4096 := by
  simp only [failure?]
  split_ifs <;> simp only [true_iff, false_iff] <;> omega

/-- The exit code tells a region that cannot be meant from one that does not do. -/
lemma exitCode_failure? : o.failure?.elim 0 Failure.exitCode =
    if 4 ∣ o.regionKib.toNat then if o.failure? = none then 0 else 1 else 2 := by
  cases hfailure : o.failure? with
  | none =>
    rw [if_pos (o.failure?_eq_none_iff.1 hfailure).1, if_pos rfl]
    rfl
  | some f =>
    have hf := o.mem_failures hfailure
    have hfor := (o.failure?_eq_some_iff hf).1 hfailure
    simp only [failures, List.mem_cons, List.not_mem_nil, or_false] at hf
    -- an uneven region is the one failure that does not take whole pages for granted
    rcases hf with rfl | rfl | rfl | rfl | rfl
    · rw [if_neg hfor]
      rfl
    all_goals
      rw [if_pos hfor.1, if_neg (Option.some_ne_none _)]
      rfl

end Options

/-! ## From outside -/

section

variable {host : Host} {words : List Bytes}

lemma rehearse_of_accepted (h : (Options.read {} words).2 = true) :
    rehearse host words =
      { exitCode := (start host (Options.read {} words).1).exitCode
        errorText := (start host (Options.read {} words).1).errorText
          (Options.read {} words).1 } :=
  if_pos h

lemma rehearse_of_refused (h : (Options.read {} words).2 ≠ true) :
    rehearse host words = { exitCode := 2, errorText := usageText } :=
  if_neg h

/-- On every accepted command line, a start comes to what its numbers say. -/
lemma failure_start_read : (start .rehearsal (Options.read {} words).1).failure =
    (Options.read {} words).1.failure? :=
  failure_start (Options.stackPages_read_ne_zero words)

/-- The exit code tells a command line that cannot be meant from a region that does not do. -/
lemma exitCode_rehearse : (rehearse .rehearsal words).exitCode =
    if (Options.read {} words).2 = true ∧ 4 ∣ (Options.read {} words).1.regionKib.toNat then
      if (Options.read {} words).1.failure? = none then 0 else 1
    else 2 := by
  by_cases haccepted : (Options.read {} words).2 = true
  · rw [rehearse_of_accepted haccepted]
    show Option.elim _ 0 Failure.exitCode = _
    rw [failure_start_read, Options.exitCode_failure?]
    simp only [haccepted, true_and]
  · rw [rehearse_of_refused haccepted, if_neg (mt And.left haccepted)]

/-- The rehearsal ends with code one, and its last line tells this failure. -/
def Rehearsal.FailsWith (r : Rehearsal) (f : Failure) : Prop :=
  r.exitCode = 1 ∧ r.errorText.lastLine = Bytes.ofString "ERROR: " ++ f.message.bytes

/-- A rehearsal tells what its start fails at, and it does so last. -/
lemma failsWith_rehearse_iff_exists (f : Failure) : (rehearse .rehearsal words).FailsWith f ↔
    (Options.read {} words).2 = true ∧ ∃ g, (Options.read {} words).1.failure? = some g ∧
      g.exitCode = 1 ∧ g.message.bytes = f.message.bytes := by
  by_cases haccepted : (Options.read {} words).2 = true
  · rw [rehearse_of_accepted haccepted, ← failure_start_read]
    cases hfailure : (start .rehearsal (Options.read {} words).1).failure with
    | none =>
      have hcode : (start .rehearsal (Options.read {} words).1).exitCode = 0 := by
        rw [Course.exitCode, hfailure, Option.elim_none]
      simp [Rehearsal.FailsWith, hcode]
    | some g =>
      have hcode : (start .rehearsal (Options.read {} words).1).exitCode = g.exitCode := by
        rw [Course.exitCode, hfailure, Option.elim_some]
      obtain ⟨earlier, hlast⟩ :=
        notices_start_of_some (Options.stackPages_read_ne_zero words) hfailure
      have hline := Course.lastLine_errorText hlast (Notice.plain_failed g)
        (Options.read {} words).1
      simp [Rehearsal.FailsWith, hcode, hline, Notice.line_failed, haccepted]
  · rw [rehearse_of_refused haccepted]
    simp [Rehearsal.FailsWith, haccepted]

/-- A rehearsal that ends with code one tells the failure of its start and no other. -/
lemma failsWith_rehearse_iff {f : Failure} (hcode : f.exitCode = 1)
    (hf : f ∈ (Options.read {} words).1.failures) : (rehearse .rehearsal words).FailsWith f ↔
      (Options.read {} words).2 = true ∧ (Options.read {} words).1.FailsFor f := by
  rw [failsWith_rehearse_iff_exists, ← Options.failure?_eq_some_iff _ hf, and_congr_right_iff]
  intro _
  constructor
  · rintro ⟨g, hg, -, hbytes⟩
    rw [hg, Options.eq_of_bytes_eq _ (Options.mem_failures _ hg) hf hbytes]
  · exact fun h => ⟨f, h, hcode, rfl⟩

/-- A failure that begins with other words than these is never told. -/
lemma not_failsWith_rehearse {f : Failure}
    (hf : f.heading ∉ (Options.read {} words).1.failures.map Failure.heading) :
    ¬ (rehearse .rehearsal words).FailsWith f := by
  intro h
  obtain ⟨-, g, hg, -, hbytes⟩ := (failsWith_rehearse_iff_exists f).1 h
  exact Options.bytes_ne_of_heading_notMem _ (Options.mem_failures _ hg) hf hbytes

/-- A rehearsal that ends with code zero was accepted, and its start did not fail. -/
lemma success_of_exitCode_eq_zero (h : (rehearse .rehearsal words).exitCode = 0) :
    (Options.read {} words).2 = true ∧
      (start .rehearsal (Options.read {} words).1).failure = none := by
  have haccepted : (Options.read {} words).2 = true := by
    by_contra hrefused
    rw [rehearse_of_refused hrefused] at h
    cases h
  rw [rehearse_of_accepted haccepted] at h
  exact ⟨haccepted, (Course.exitCode_eq_zero_iff _).1 h⟩

end

/-- What every command line comes to. The exit code is two if it is refused or asks for an uneven
region, and one if the region is too large for the host or too small for the blocks. With code one
the last line names the region, or the first block that has no room: never the memory map, which
shares its page with the boot information, and neither of the checks on the way. -/
theorem outcome_rehearse (words : List Bytes) :
    let o := (Options.read {} words).1
    let valid := (Options.read {} words).2 = true ∧ 4 ∣ o.regionKib.toNat
    let bytes := o.regionKib.toNat * 1024 % 2 ^ 64
    let pages := bytes / 4096
    let stack := o.stackPages.toNat
    let r := rehearse .rehearsal words
    (r.exitCode = 2 ↔ ¬ valid) ∧
      (r.exitCode = 1 ↔ valid ∧ ¬ (bytes ≤ 67108864 ∧ stack + 2 ≤ pages)) ∧
      (r.FailsWith (.noRegion o.regionBytes) ↔ valid ∧ 67108864 < bytes) ∧
      (r.FailsWith (.refused .info .noMemory) ↔ valid ∧ bytes = 0) ∧
      (∀ status, ¬ r.FailsWith (.refused .memoryMap status)) ∧
      (¬ r.FailsWith .badMapLayout ∧ ¬ r.FailsWith .regionTaken) ∧
      (r.FailsWith (.refused .rootTable .noMemory) ↔ valid ∧ pages = 1) ∧
      (r.FailsWith (.refused (.stack o.stackPages) .noMemory) ↔
        valid ∧ 2 ≤ pages ∧ bytes ≤ 67108864 ∧ pages - 2 < stack) ∧
      (r.exitCode = 0 ↔ valid ∧ bytes ≤ 67108864 ∧ stack + 2 ≤ pages) := by
  intro o valid bytes pages stack r
  obtain ⟨htwo, hone, hzero⟩ : (r.exitCode = 2 ↔ ¬ valid) ∧
      (r.exitCode = 1 ↔ valid ∧ o.failure? ≠ none) ∧
      (r.exitCode = 0 ↔ valid ∧ o.failure? = none) := by
    have hcode : r.exitCode = if valid then if o.failure? = none then 0 else 1 else 2 :=
      exitCode_rehearse
    rw [hcode]
    split_ifs <;> simp [*]
  have hnone (hvalid : valid) : o.failure? = none ↔ bytes ≤ 67108864 ∧ stack + 2 ≤ pages :=
    o.failure?_eq_none_iff.trans (and_iff_right hvalid.2)
  have hfails {f : Failure} (hf : f ∈ o.failures) (hexit : f.exitCode = 1) :
      r.FailsWith f ↔ (Options.read {} words).2 = true ∧ o.FailsFor f :=
    failsWith_rehearse_iff hexit hf
  have hnever {f : Failure} (hf : f.heading ∉
      [Bytes.ofString "region", Bytes.ofString "failed", Bytes.ofString "boot i",
        Bytes.ofString "root p", Bytes.ofString "boot s"]) : ¬ r.FailsWith f :=
    not_failsWith_rehearse (o.map_heading_failures ▸ hf)
  refine ⟨htwo, ?_, ?_, ?_, ?_, ?_, ?_, ?_, ?_⟩
  · exact hone.trans (and_congr_right fun hvalid => not_congr (hnone hvalid))
  · exact (hfails (by simp [Options.failures]) rfl).trans and_assoc.symm
  · exact (hfails (by simp [Options.failures]) rfl).trans and_assoc.symm
  · exact fun status => hnever (of_decide_eq_true rfl)
  · exact ⟨hnever (of_decide_eq_true rfl), hnever (of_decide_eq_true rfl)⟩
  · exact (hfails (by simp [Options.failures]) rfl).trans and_assoc.symm
  · exact (hfails (by simp [Options.failures]) rfl).trans and_assoc.symm
  · exact hzero.trans (and_congr_right hnone)

end EarlyMemory.Boot
