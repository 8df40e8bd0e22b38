import EarlyMemory.Proofs.Boot.CommandLine

/-!
# Sizes on the command line

A size that is read is never zero, whatever its sign and whether its numeral fits a word
(`Size.ne_zero_of_read?`). The default sizes are not zero either, so no command line leaves a size
of zero (`Options.sized_read`). The number of bytes in a region is another matter: it is a product
of words.
-/

namespace EarlyMemory.Boot

/-! ## Settings -/

/-- The size that a setting sets, if it sets one. -/
def Setting.size? : Setting → Option Word
  | regionKib value => some value
  | stackPages value => some value
  | trace => none
  | verbose => none

/-- A group of words gives no size of zero. -/
lemma Setting.Spelled.size?_ne_zero {s : Setting} {words : List Bytes} (h : s.Spelled words) :
    s.size? ≠ some 0 := by
  cases h with
  | regionKib hread => exact fun hzero => Size.ne_zero_of_read? hread (Option.some.inj hzero)
  | stackPages hread => exact fun hzero => Size.ne_zero_of_read? hread (Option.some.inj hzero)
  | trace => exact (Option.some_ne_none 0).symm
  | verbose => exact (Option.some_ne_none 0).symm

/-- No setting that is read sets a size to zero. -/
theorem Setting.size?_ne_zero (words : List Bytes) :
    ∀ s ∈ (readAll words).1, s.size? ≠ some 0 := by
  obtain ⟨groups, hgroups, -⟩ := exists_groups words
  generalize (readAll words).1 = settings at hgroups ⊢
  induction hgroups with
  | nil => exact fun _ hs => absurd hs List.not_mem_nil
  | cons hfirst hrest ih => exact List.forall_mem_cons.2 ⟨hfirst.size?_ne_zero, ih⟩

/-! ## Options -/

namespace Options

/-- No size among the options is zero. -/
structure Sized (o : Options) : Prop where
  regionKib_ne_zero : o.regionKib ≠ 0
  stackPages_ne_zero : o.stackPages ≠ 0

lemma sized_default : Sized {} := ⟨by decide, by decide⟩

lemma Sized.apply {o : Options} (h : o.Sized) {s : Setting} (hs : s.size? ≠ some 0) :
    (o.apply s).Sized := by
  cases s with
  | regionKib value => exact ⟨fun hzero => hs (congrArg some hzero), h.stackPages_ne_zero⟩
  | stackPages value => exact ⟨h.regionKib_ne_zero, fun hzero => hs (congrArg some hzero)⟩
  | trace => exact ⟨h.regionKib_ne_zero, h.stackPages_ne_zero⟩
  | verbose => exact ⟨h.regionKib_ne_zero, h.stackPages_ne_zero⟩

lemma Sized.foldl_apply {o : Options} (h : o.Sized) {settings : List Setting}
    (hsettings : ∀ s ∈ settings, s.size? ≠ some 0) : (settings.foldl Options.apply o).Sized := by
  induction settings generalizing o with
  | nil => exact h
  | cons s settings ih =>
    obtain ⟨hs, hrest⟩ := List.forall_mem_cons.1 hsettings
    exact ih (h.apply hs) hrest

/-- No command line leaves a size of zero, accepted or not. -/
theorem sized_read {o : Options} (h : o.Sized) (words : List Bytes) : (o.read words).1.Sized :=
  h.foldl_apply (Setting.size?_ne_zero words)

/-- So the stack has a page at least. -/
lemma stackPages_read_ne_zero (words : List Bytes) : (read {} words).1.stackPages ≠ 0 :=
  (sized_read sized_default words).stackPages_ne_zero

end Options

end EarlyMemory.Boot
