import EarlyMemory.Boot.Options
import EarlyMemory.Proofs.Text.Size

/-!
# The grammar of the command line

The words of a command line stand in groups: a flag alone, or a name with a size after it. A command
line is accepted exactly if it is a row of groups and nothing else, and it counts as far as it is
one: the options are those of its longest front that is a row of groups
(`read_eq_after_longest_front`). No flag can be read as a size, so a flag in a row of groups is a
group of its own wherever it stands.
-/

namespace EarlyMemory.Boot

/-! ## Groups -/

/-- The words that a setting is written with. -/
inductive Setting.Spelled : Setting → List Bytes → Prop where
  | regionKib {size : Bytes} {value : Word} (h : Size.read? size = some value) :
      Spelled (.regionKib value) [Bytes.ofString "--region-kib", size]
  | stackPages {size : Bytes} {value : Word} (h : Size.read? size = some value) :
      Spelled (.stackPages value) [Bytes.ofString "--stack-pages", size]
  | trace : Spelled .trace [Bytes.ofString "--trace"]
  | verbose : Spelled .verbose [Bytes.ofString "--verbose"]

/-- The words are those of one setting. -/
def Group (words : List Bytes) : Prop := ∃ s : Setting, s.Spelled words

/-- The words are a row of groups. -/
def Grouped (words : List Bytes) : Prop :=
  ∃ groups : List (List Bytes), (∀ g ∈ groups, Group g) ∧ groups.flatten = words

/-- The longest front of a command line that is a row of groups: all others are fronts of it. -/
structure LongestFront (words front : List Bytes) : Prop where
  isPrefix : front <+: words
  grouped : Grouped front
  isPrefix_of : ∀ other, other <+: words → Grouped other → other <+: front

/-! ## What groups say -/

/-- The size that a group gives under a name. -/
def groupSize? (name : String) : List Bytes → Option Word
  | [word, size] => if word = Bytes.ofString name then Size.read? size else none
  | _ => none

/-- The size that is given last under a name, or the prior one. -/
def lastSize (name : String) (groups : List (List Bytes)) (prior : Word) : Word :=
  (groups.filterMap (groupSize? name)).getLastD prior

/-- The options after a row of groups: the sizes given last, and the flags that occur. -/
def Options.after (o : Options) (groups : List (List Bytes)) : Options where
  regionKib := lastSize "--region-kib" groups o.regionKib
  stackPages := lastSize "--stack-pages" groups o.stackPages
  trace := o.trace || Bytes.ofString "--trace" ∈ groups.flatten
  verbose := o.verbose || Bytes.ofString "--verbose" ∈ groups.flatten

lemma lastSize_cons (name : String) (g : List Bytes) (groups : List (List Bytes)) (prior : Word) :
    lastSize name (g :: groups) prior = lastSize name groups ((groupSize? name g).getD prior) := by
  unfold lastSize
  cases h : groupSize? name g with
  | none => rw [List.filterMap_cons_none h]; rfl
  | some size => rw [List.filterMap_cons_some h, List.getLastD_cons]; rfl

lemma lastSize_singleton (name : String) (g : List Bytes) (prior : Word) :
    lastSize name [g] prior = (groupSize? name g).getD prior :=
  lastSize_cons name g [] prior

lemma Options.after_cons (o : Options) (g : List Bytes) (groups : List (List Bytes)) :
    o.after (g :: groups) = (o.after [g]).after groups := by
  simp only [after, lastSize_cons _ g groups, lastSize_singleton, List.flatten_cons,
    List.flatten_nil, List.append_nil, List.mem_append, Bool.decide_or, Bool.or_assoc]

/-! ## Settings and their groups -/

/-- No flag is a size. -/
lemma ne_flag_of_read? {size : Bytes} {value : Word} (h : Size.read? size = some value) :
    Bytes.ofString "--trace" ≠ size ∧ Bytes.ofString "--verbose" ≠ size := by
  have htrace : Size.read? (Bytes.ofString "--trace") = none := by decide
  have hverbose : Size.read? (Bytes.ofString "--verbose") = none := by decide
  constructor
  · rintro rfl
    exact Option.some_ne_none _ (h.symm.trans htrace)
  · rintro rfl
    exact Option.some_ne_none _ (h.symm.trans hverbose)

/-- A setting does what its group says. -/
lemma Options.apply_eq_after (o : Options) {s : Setting} {g : List Bytes} (h : s.Spelled g) :
    o.apply s = o.after [g] := by
  have hnames : Bytes.ofString "--region-kib" ≠ Bytes.ofString "--stack-pages" := by decide
  have hflags : ∀ name ∈ ["--region-kib", "--stack-pages"],
      Bytes.ofString "--trace" ≠ Bytes.ofString name ∧
        Bytes.ofString "--verbose" ≠ Bytes.ofString name := by decide
  have hflag : Bytes.ofString "--trace" ≠ Bytes.ofString "--verbose" := by decide
  cases h with
  | regionKib hread =>
    obtain ⟨htrace, hverbose⟩ := ne_flag_of_read? hread
    simp [apply, after, lastSize_singleton, groupSize?, hread, hnames, hflags, htrace, hverbose]
  | stackPages hread =>
    obtain ⟨htrace, hverbose⟩ := ne_flag_of_read? hread
    simp [apply, after, lastSize_singleton, groupSize?, hread, hnames.symm, hflags, htrace,
      hverbose]
  | trace => simp [apply, after, lastSize_singleton, groupSize?, hflag.symm]
  | verbose => simp [apply, after, lastSize_singleton, groupSize?, hflag]

/-- The settings of a row of groups do what the groups say. -/
lemma Options.foldl_apply_eq_after {settings : List Setting} {groups : List (List Bytes)}
    (h : List.Forall₂ Setting.Spelled settings groups) (o : Options) :
    settings.foldl apply o = o.after groups := by
  induction h generalizing o with
  | nil => simp [after, lastSize]
  | cons hfirst hrest ih => rw [List.foldl_cons, ih, after_cons, o.apply_eq_after hfirst]

/-! ## Reading groups -/

namespace Setting

/-- A group is read as its setting, whatever follows. -/
lemma readAll_append_of_spelled {s : Setting} {g : List Bytes} (h : s.Spelled g)
    (words : List Bytes) : readAll (g ++ words) = (readAll words).map (s :: ·) id := by
  have hword : ∀ name ∈ ["--region-kib", "--stack-pages"],
      ofWord? (Bytes.ofString name) = none := by decide
  have hnames : Bytes.ofString "--stack-pages" ≠ Bytes.ofString "--region-kib" := by decide
  cases h with
  | regionKib hread => simp [readAll, hword, ofPair?, hread]
  | stackPages hread => simp [readAll, hword, ofPair?, hread, hnames]
  | trace => rfl
  | verbose => rfl

lemma spelled_of_ofWord? {word : Bytes} {s : Setting} (h : ofWord? word = some s) :
    s.Spelled [word] := by
  unfold ofWord? at h
  split at h
  · next hword =>
    cases h
    rw [hword]
    exact .trace
  · split at h
    · next hword =>
      cases h
      rw [hword]
      exact .verbose
    · cases h

lemma spelled_of_ofPair? {word size : Bytes} {s : Setting} (h : ofPair? word size = some s) :
    s.Spelled [word, size] := by
  unfold ofPair? at h
  split at h
  · next hword =>
    obtain ⟨value, hread, rfl⟩ := Option.map_eq_some_iff.1 h
    rw [hword]
    exact .regionKib hread
  · split at h
    · next hword =>
      obtain ⟨value, hread, rfl⟩ := Option.map_eq_some_iff.1 h
      rw [hword]
      exact .stackPages hread
    · cases h

/-- What is read off a command line is written in groups at its front. -/
lemma exists_groups (words : List Bytes) :
    ∃ groups, List.Forall₂ Spelled (readAll words).1 groups ∧
      groups.flatten ++ (readAll words).2 = words := by
  fun_induction readAll words with
  | case1 => exact ⟨[], .nil, rfl⟩
  | case2 word words s hword ih =>
    obtain ⟨groups, hgroups, hwords⟩ := ih
    exact ⟨[word] :: groups, .cons (spelled_of_ofWord? hword) hgroups, congrArg (word :: ·) hwords⟩
  | case3 word hword => exact ⟨[], .nil, rfl⟩
  | case4 word hword size rest s hpair ih =>
    obtain ⟨groups, hgroups, hwords⟩ := ih
    exact ⟨[word, size] :: groups, .cons (spelled_of_ofPair? hpair) hgroups,
      congrArg (word :: size :: ·) hwords⟩
  | case5 word hword size rest hpair => exact ⟨[], .nil, rfl⟩

/-- A row of groups is read as its settings, whatever follows. -/
lemma readAll_flatten_append {settings : List Setting} {groups : List (List Bytes)}
    (h : List.Forall₂ Spelled settings groups) (words : List Bytes) :
    readAll (groups.flatten ++ words) = (readAll words).map (settings ++ ·) id := by
  induction h with
  | nil => rfl
  | cons hfirst hrest ih =>
    rw [List.flatten_cons, List.append_assoc, readAll_append_of_spelled hfirst, ih]
    rfl

/-- The rest of a command line does not begin with a group. -/
lemma readAll_rest (words : List Bytes) : (readAll (readAll words).2).1 = [] := by
  obtain ⟨groups, hgroups, hwords⟩ := exists_groups words
  have hread := congrArg Prod.fst (readAll_flatten_append hgroups (readAll words).2)
  rw [hwords, Prod.map_fst] at hread
  exact List.self_eq_append_right.1 hread

end Setting

/-! ## Rows of groups -/

lemma exists_spelled {groups : List (List Bytes)} (h : ∀ g ∈ groups, Group g) :
    ∃ settings, List.Forall₂ Setting.Spelled settings groups := by
  induction groups with
  | nil => exact ⟨[], .nil⟩
  | cons g groups ih =>
    obtain ⟨⟨s, hs⟩, hrest⟩ := List.forall_mem_cons.1 h
    obtain ⟨settings, hsettings⟩ := ih hrest
    exact ⟨s :: settings, .cons hs hsettings⟩

lemma grouped_flatten {settings : List Setting} {groups : List (List Bytes)}
    (h : List.Forall₂ Setting.Spelled settings groups) : Grouped groups.flatten := by
  refine ⟨groups, ?_, rfl⟩
  induction h with
  | nil => exact fun _ hg => absurd hg List.not_mem_nil
  | cons hfirst hrest ih => exact List.forall_mem_cons.2 ⟨⟨_, hfirst⟩, ih⟩

/-- Nothing is left of a command line exactly if it is a row of groups. -/
lemma rest_eq_nil_iff (words : List Bytes) :
    (Setting.readAll words).2 = [] ↔ Grouped words := by
  constructor
  · intro hrest
    obtain ⟨groups, hgroups, hwords⟩ := Setting.exists_groups words
    rw [hrest, List.append_nil] at hwords
    rw [← hwords]
    exact grouped_flatten hgroups
  · rintro ⟨groups, hall, rfl⟩
    obtain ⟨settings, hsettings⟩ := exists_spelled hall
    rw [← List.append_nil groups.flatten, Setting.readAll_flatten_append hsettings]
    rfl

/-- What is read is the longest front that is a row of groups. -/
lemma exists_longestFront (words : List Bytes) :
    ∃ front, LongestFront words front ∧ front ++ (Setting.readAll words).2 = words := by
  obtain ⟨groups, hgroups, hwords⟩ := Setting.exists_groups words
  refine ⟨_, ⟨⟨_, hwords⟩, grouped_flatten hgroups, ?_⟩, hwords⟩
  rintro other ⟨tail, rfl⟩ ⟨others, hall, rfl⟩
  obtain ⟨settings, hsettings⟩ := exists_spelled hall
  obtain ⟨more, -, htail⟩ := Setting.exists_groups tail
  -- reading goes on behind the other front, and what is left is left of its tail
  rw [Setting.readAll_flatten_append hsettings, Prod.map_snd, id] at hwords
  refine ⟨more.flatten, (List.append_left_inj (Setting.readAll tail).2).1 ?_⟩
  rw [hwords, List.append_assoc, htail]

namespace Options

variable (o : Options) (words : List Bytes)

lemma read_eq : o.read words =
    ((Setting.readAll words).1.foldl apply o, (Setting.readAll words).2.isEmpty) := rfl

lemma accepted_iff_grouped : (o.read words).2 = true ↔ Grouped words := by
  rw [read_eq, List.isEmpty_iff, rest_eq_nil_iff]

/-- The options after the groups before the rest are those that are left. -/
lemma read_eq_after {groups : List (List Bytes)} (hall : ∀ g ∈ groups, Group g)
    (hwords : groups.flatten ++ (Setting.readAll words).2 = words) :
    (o.read words).1 = o.after groups := by
  obtain ⟨settings, hsettings⟩ := exists_spelled hall
  have hread : (Setting.readAll words).1 = settings := by
    rw [← hwords, Setting.readAll_flatten_append hsettings, Prod.map_fst, Setting.readAll_rest,
      List.append_nil]
  rw [read_eq, hread, foldl_apply_eq_after hsettings]

/-- Reading goes on behind a row of groups with the options that it leaves. -/
lemma read_append (h : Grouped words) (more : List Bytes) :
    o.read (words ++ more) = (o.read words).1.read more := by
  obtain ⟨groups, hall, rfl⟩ := h
  obtain ⟨settings, hsettings⟩ := exists_spelled hall
  have hfront : (Setting.readAll groups.flatten).1 = settings := by
    rw [← List.append_nil groups.flatten, Setting.readAll_flatten_append hsettings]
    exact List.append_nil settings
  rw [read_eq, read_eq, read_eq, hfront, Setting.readAll_flatten_append hsettings, Prod.map_fst,
    List.foldl_append]
  rfl

/-- A command line is accepted exactly if it is a row of groups. Whether it is or not, the options
that it leaves are those of its longest front that is one: the sizes given last, and the flags that
occur. Words behind an accepted command line are read as if they stood alone, from the options that
it leaves. -/
theorem read_eq_after_longest_front :
    ((o.read words).2 = true ↔ Grouped words) ∧
      (∃ front, LongestFront words front ∧
        ∀ groups : List (List Bytes), (∀ g ∈ groups, Group g) → groups.flatten = front →
          (o.read words).1 = o.after groups) ∧
      ((o.read words).2 = true → ∀ more, o.read (words ++ more) = (o.read words).1.read more) := by
  have haccepted := o.accepted_iff_grouped words
  obtain ⟨front, hfront, hwords⟩ := exists_longestFront words
  refine ⟨haccepted, ⟨front, hfront, ?_⟩, fun h => o.read_append words (haccepted.1 h)⟩
  rintro groups hall rfl
  exact o.read_eq_after words hall hwords

end Options

end EarlyMemory.Boot
