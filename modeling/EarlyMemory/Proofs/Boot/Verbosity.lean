import EarlyMemory.Proofs.Boot.CommandLine
import EarlyMemory.Proofs.Boot.Outcome

/-!
# Flags and what they bring out

The two flags ask to see more of a start, and have no part in how it goes. What they bring out are
details: events and notices below the level `info`. An arena that does not report grants does the
same as another, less the details (`Arena.alloc_hushed`, `Arena.allocPages_hushed`), and so does a
course over it, step by step (`Course.run_hushed`). A start without its details therefore depends on
the two sizes alone (`hushed_start`).

On the standard error stream a detail is a line of its own that begins with `DEBUG: ` or `TRACE: `,
whereas no option silences the other notices (`Course.otherLines_errorText`). So a flag behind a
command line changes neither the exit code nor the stream, but for these lines
(`hushed_rehearse_append_flag`).
-/

namespace EarlyMemory

/-! ## Arenas without details -/

/-- The level is let through without any flag. Below it are the details. -/
def Level.isUsual (l : Level) : Bool := info ≤ l

namespace Arena

/-- The same arena, but that it does not report grants. -/
def hushed (a : Arena) : Arena := a.setConfig { a.config with traceGrants := false }

/-- The same effect without its details. -/
def Effect.hushed {α : Type} (e : Effect α) : Effect α where
  answer := e.answer
  arena := e.arena.hushed
  events := e.events.filter (·.level.isUsual)

variable (a : Arena)

/-- A refusal is no detail. -/
lemma refuse_hushed (client : Client) (amount align : Word) (status : Status) :
    a.hushed.refuse client amount align status = (a.refuse client amount align status).hushed := by
  have hconfig : a.hushed.config.logFailures = a.config.logFailures := rfl
  unfold refuse Effect.hushed
  rw [hconfig]
  split <;> rfl

lemma alloc_hushed (l : Layout) : a.hushed.alloc l = (a.alloc l).hushed := by
  have hadmitted : a.hushed.admitBytes l = a.admitBytes l := rfl
  unfold alloc
  rw [hadmitted]
  cases a.admitBytes l with
  | error status => exact a.refuse_hushed ..
  | ok taken =>
    -- the one event of a grant is a detail
    simp only [Effect.hushed]
    cases a.config.traceGrants <;> rfl

lemma allocPages_hushed (count align : Word) :
    a.hushed.allocPages count align = (a.allocPages count align).hushed := by
  have hadmitted : a.hushed.admitPages count align = a.admitPages count align := rfl
  unfold allocPages
  rw [hadmitted]
  cases a.admitPages count align with
  | error status => exact a.refuse_hushed ..
  | ok taken =>
    simp only [Effect.hushed]
    cases a.config.traceGrants <;> rfl

end Arena

namespace Boot

lemma Item.request_hushed (a : Arena) (item : Item) :
    item.request a.hushed = (item.request a).hushed := by
  cases item with
  | info => exact a.alloc_hushed infoLayout
  | memoryMap => exact a.alloc_hushed mapLayout
  | rootTable => exact a.allocPages_hushed 1 page.bytes
  | stack pages => exact a.allocPages_hushed pages page.bytes

/-! ## Courses without details -/

/-- The notice is let through without any flag. -/
def Notice.isUsual (n : Notice) : Bool := n.entry.level.isUsual

namespace Course

/-- The same course without its details, over an arena that does not report grants. -/
def hushed (c : Course) : Course :=
  { c with arena := c.arena.hushed, notices := c.notices.filter Notice.isUsual }

variable (c : Course)

lemma say_hushed {n : Notice} (h : n.isUsual = true) : c.hushed.say n = (c.say n).hushed := by
  unfold say hushed
  rw [List.filter_append, List.filter_cons_of_pos h, List.filter_nil]

lemma follow_hushed {α : Type} (e : Arena.Effect α) :
    c.hushed.follow e.hushed = (c.follow e).hushed := by
  unfold follow hushed
  rw [List.filter_append, List.filter_map]
  rfl

/-- A failure is no detail. -/
lemma fail_hushed (f : Failure) : c.hushed.fail f = (c.fail f).hushed := by
  have hsay : c.hushed.say (.failed f) = (c.say (.failed f)).hushed := c.say_hushed rfl
  unfold fail
  rw [hsay]
  rfl

/-- Details have no part in what a step does. -/
lemma perform_hushed (action : Action) : c.hushed.perform action = (c.perform action).hushed := by
  cases action with
  | report stage => exact c.say_hushed rfl
  | obtain item =>
    have hrequest : item.request c.hushed.arena = (item.request c.arena).hushed :=
      Item.request_hushed c.arena item
    have hanswer : (item.request c.arena).hushed.answer = (item.request c.arena).answer := rfl
    simp only [perform]
    rw [hrequest, follow_hushed, hanswer]
    split
    · rfl
    · exact fail_hushed _ _
  | layOutMap => rw [perform_layOutMap, perform_layOutMap]
  | offer r =>
    rw [perform_offer, perform_offer]
    exact c.say_hushed rfl
  | handOff => exact c.say_hushed rfl

lemma run_hushed (actions : List Action) : c.hushed.run actions = (c.run actions).hushed := by
  induction actions generalizing c with
  | nil => rfl
  | cons action actions ih =>
    have hfailure : (c.perform action).hushed.failure = (c.perform action).failure := rfl
    simp only [run]
    rw [perform_hushed, hfailure, ih]
    split <;> rfl

end Course

/-- A start without its details depends on the two sizes alone. -/
theorem hushed_start (host : Host) {o o' : Options} (hregion : o'.regionKib = o.regionKib)
    (hstack : o'.stackPages = o.stackPages) :
    (start host o').hushed = (start host o).hushed := by
  have hbytes : o'.regionBytes = o.regionBytes := congrArg (· * 1024) hregion
  have hidle : (idle o').hushed = (idle o).hushed := rfl
  have hopened : (opened host o').hushed = (opened host o).hushed := by
    rw [opened, opened, ← Course.follow_hushed, ← Course.follow_hushed, hidle, hbytes]
    rfl
  rw [start_eq, start_eq, hregion, hstack, hbytes]
  split
  · split
    · rw [← Course.fail_hushed, ← Course.fail_hushed, hidle]
    · rw [← Course.run_hushed, ← Course.run_hushed, hopened]
  · rw [← Course.fail_hushed, ← Course.fail_hushed, hidle]

/-! ## The stream without details -/

/-- What the lines begin with that tell details. -/
def detailMarks : List Bytes := [Bytes.ofString "DEBUG: ", Bytes.ofString "TRACE: "]

namespace Notice

/-- Only the opening of an arena and its grants are details. -/
lemma level_mem_of_detail {n : Notice} (h : n.isUsual = false) :
    n.entry.level ∈ [Level.debug, .trace] ∧ ∀ p ∈ n.entry.message, p.Lacks Bytes.lineFeed := by
  cases n with
  | arena e =>
    cases e with
    | opened => exact ⟨of_decide_eq_true rfl, of_decide_eq_true rfl⟩
    | bytesGranted => exact ⟨of_decide_eq_true rfl, of_decide_eq_true rfl⟩
    | pagesGranted => exact ⟨of_decide_eq_true rfl, of_decide_eq_true rfl⟩
    | _ => cases h
  | _ => cases h

/-- A detail is a line of its own, and marked as such. -/
lemma otherLines_of_detail {n : Notice} (h : n.isUsual = false) :
    Bytes.otherLines detailMarks (Bytes.ofString n.entry.level.name ++ Bytes.ofString ": " ++
      n.entry.line) = [] := by
  have hmarks : ∀ l ∈ [Level.debug, .trace],
      Bytes.ofString l.name ++ Bytes.ofString ": " ∈ detailMarks := by decide
  have hfeed : ∀ mark ∈ detailMarks, Bytes.lineFeed ∉ mark := by decide
  obtain ⟨hlevel, hmessage⟩ := level_mem_of_detail h
  have hmark := hmarks _ hlevel
  refine Bytes.otherLines_line detailMarks hmark (List.prefix_append _ _) ?_
  rw [List.mem_append, not_or]
  exact ⟨hfeed _ hmark, fun hline =>
    Message.lineFeed_notMem_bytes hmessage (Entry.mem_bytes_of_mem_line hline)⟩

end Notice

/-- Whatever the options, the lines beside the details are those of the other notices. -/
theorem Course.otherLines_errorText (c : Course) (o : Options) :
    Bytes.otherLines detailMarks (c.errorText o) =
      Bytes.otherLines detailMarks (c.hushed.errorText {}) := by
  rw [errorText_eq, errorText_eq]
  show _ = Bytes.otherLines _ ((c.notices.filter Notice.isUsual).flatMap _)
  induction c.notices with
  | nil => rfl
  | cons n notices ih =>
    cases husual : n.isUsual with
    | true =>
      have hlevel : Level.info ≤ n.entry.level := of_decide_eq_true husual
      rw [List.filter_cons_of_pos husual, List.flatMap_cons, List.flatMap_cons,
        Notice.printed_of_enabled (enabled_of_le o hlevel),
        Notice.printed_of_enabled (enabled_of_le {} hlevel), ← List.append_cons, ← List.append_cons,
        Bytes.otherLines_append, Bytes.otherLines_append, ih]
    | false =>
      rw [List.filter_cons_of_neg (by rw [husual]; decide), List.flatMap_cons, ← ih]
      by_cases henabled : ({ threshold := o.threshold } : Logger).enabled n.entry.level = true
      · rw [Notice.printed_of_enabled henabled, ← List.append_cons, Bytes.otherLines_append,
          n.otherLines_of_detail husual, List.nil_append]
      · rw [Notice.printed, Logger.log, if_neg henabled, List.flatMap_nil, List.nil_append]

/-- What a rehearsal shows without its details. -/
def Rehearsal.hushed (r : Rehearsal) : Rehearsal :=
  { r with errorText := r.errorText.withoutLines detailMarks }

/-- What is shown of a course without its details is shown of the course without details. -/
lemma Course.hushed_shown (c : Course) (o : Options) :
    Rehearsal.hushed { exitCode := c.exitCode, errorText := c.errorText o } =
      Rehearsal.hushed { exitCode := c.hushed.exitCode, errorText := c.hushed.errorText {} } := by
  have hcode : c.hushed.exitCode = c.exitCode := rfl
  rw [hcode, Rehearsal.hushed, Rehearsal.hushed, Bytes.withoutLines, Bytes.withoutLines,
    otherLines_errorText]

/-! ## A flag behind a command line -/

/-- A flag behind words is a group of its own: no size is spelled like a flag. -/
lemma grouped_append_flag_iff {s : Setting} {flag : Bytes} (hflag : s.Spelled [flag])
    (words : List Bytes) : Grouped (words ++ [flag]) ↔ Grouped words := by
  have hsize {size : Bytes} {value : Word} (hread : Size.read? size = some value) :
      size ≠ flag := by
    obtain ⟨htrace, hverbose⟩ := ne_flag_of_read? hread
    cases hflag with
    | trace => exact htrace.symm
    | verbose => exact hverbose.symm
  constructor
  · rintro ⟨groups, hall, hwords⟩
    rcases List.eq_nil_or_concat' groups with rfl | ⟨front, last, rfl⟩
    · exact absurd hwords.symm (List.concat_ne_nil _ _)
    · obtain ⟨hfront, hlast⟩ := List.forall_mem_append.1 hall
      obtain ⟨s', hs'⟩ := hlast last (List.mem_singleton_self last)
      rw [List.flatten_append, List.flatten_singleton] at hwords
      -- a group of two words would end with a size
      cases hs' with
      | regionKib hread =>
        exact absurd (by simpa using congrArg List.getLast? hwords) (hsize hread)
      | stackPages hread =>
        exact absurd (by simpa using congrArg List.getLast? hwords) (hsize hread)
      | trace => exact ⟨front, hfront, (List.append_inj' hwords rfl).1⟩
      | verbose => exact ⟨front, hfront, (List.append_inj' hwords rfl).1⟩
  · rintro ⟨groups, hall, rfl⟩
    have hgroup : ∀ g ∈ [[flag]], Group g := by
      intro g hg
      rw [List.mem_singleton.1 hg]
      exact ⟨s, hflag⟩
    refine ⟨groups ++ [[flag]], List.forall_mem_append.2 ⟨hall, hgroup⟩, ?_⟩
    rw [List.flatten_append, List.flatten_singleton]

/-- A flag behind an accepted command line is read as its setting. -/
lemma read_append_flag {s : Setting} {flag : Bytes} (hflag : s.Spelled [flag]) (o : Options)
    {words : List Bytes} (h : Grouped words) :
    o.read (words ++ [flag]) = ((o.read words).1.apply s, true) := by
  have hread : Setting.readAll [flag] = ([s], []) := Setting.readAll_append_of_spelled hflag []
  rw [o.read_append words h, Options.read_eq, hread]
  rfl

/-- A flag behind a command line brings out details and nothing else. -/
lemma hushed_rehearse_append {s : Setting} {flag : Bytes} (hflag : s.Spelled [flag])
    (host : Host) (words : List Bytes) :
    (rehearse host (words ++ [flag])).hushed = (rehearse host words).hushed := by
  by_cases hwords : Grouped words
  · have haccepted := (Options.accepted_iff_grouped {} words).2 hwords
    have hread := read_append_flag hflag {} hwords
    have hstart : (start host ((Options.read {} words).1.apply s)).hushed =
        (start host (Options.read {} words).1).hushed := by
      cases hflag with
      | trace => exact hushed_start host rfl rfl
      | verbose => exact hushed_start host rfl rfl
    rw [rehearse_of_accepted haccepted, rehearse_of_accepted (by rw [hread]), hread,
      Course.hushed_shown, hstart, ← Course.hushed_shown]
  · have hrefused := mt (Options.accepted_iff_grouped {} words).1 hwords
    have hrefused' := mt (Options.accepted_iff_grouped {} (words ++ [flag])).1
      (mt (grouped_append_flag_iff hflag words).1 hwords)
    rw [rehearse_of_refused hrefused, rehearse_of_refused hrefused']

/-- Flags have no part in how a start goes. Whatever the host and whatever the command line, whether
it is accepted or not, the same words with `--verbose` or `--trace` behind them lead to the same
exit code, and to the same standard error stream once the lines that begin with `DEBUG: ` or
`TRACE: ` are deleted. -/
theorem hushed_rehearse_append_flag (host : Host) (words : List Bytes) :
    (rehearse host (words ++ [Bytes.ofString "--verbose"])).hushed = (rehearse host words).hushed ∧
      (rehearse host (words ++ [Bytes.ofString "--trace"])).hushed = (rehearse host words).hushed :=
  ⟨hushed_rehearse_append .verbose host words, hushed_rehearse_append .trace host words⟩

/-- They do bring out lines. -/
example : (rehearse .rehearsal [Bytes.ofString "--verbose"]).errorText ≠
      (rehearse .rehearsal []).errorText ∧
    (rehearse .rehearsal [Bytes.ofString "--trace"]).errorText ≠
      (rehearse .rehearsal [Bytes.ofString "--verbose"]).errorText := by
  decide +kernel

end Boot

end EarlyMemory
