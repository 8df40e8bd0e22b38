import EarlyMemory.Boot.Rehearsal
import EarlyMemory.Proofs.Log.Room

/-!
# What a start prints

A start tells its standard error stream what it says, line by line, as far as the threshold lets it
through. Reports, the hand-over and failures always get through, and are short enough to be printed
in full. So the last line of the stream is the last word of the start
(`Course.lastLine_errorText`). The eight kinds of failure begin with different words, so a line that
tells one failure tells no other (`Failure.heading_eq_of_bytes_eq`).
-/

namespace EarlyMemory.Boot

/-! ## One notice -/

/-- A notice as it is printed, if the options let it through. -/
def Notice.printed (o : Options) (n : Notice) : Bytes :=
  (({ threshold := o.threshold } : Logger).log n.entry).flatMap (·.printed)

lemma Course.errorText_eq (c : Course) (o : Options) :
    c.errorText o = c.notices.flatMap (Notice.printed o) := by
  show (({ threshold := o.threshold } : Logger).logAll (c.notices.map (·.entry))).flatMap _ = _
  rw [Logger.logAll, List.flatMap_map, List.flatMap_assoc]
  rfl

/-- No options silence what is let through without any. -/
lemma enabled_of_le (o : Options) {l : Level} (h : Level.info ≤ l) :
    ({ threshold := o.threshold } : Logger).enabled l = true := by
  have hthreshold : o.threshold ≤ Level.info := by
    unfold Options.threshold
    cases o.trace <;> cases o.verbose <;> decide
  exact decide_eq_true (Int32.le_trans hthreshold h)

namespace Notice

/-- The notice gets through in full, as one line. -/
structure Plain (n : Notice) : Prop where
  level_mem : n.entry.level ∈ [Level.info, .error]
  room_le : n.entry.message.room ≤ Entry.lineRoom
  lacks : ∀ p ∈ n.entry.message, p.Lacks Bytes.nul ∧ p.Lacks Bytes.lineFeed

lemma Plain.fits {n : Notice} (h : n.Plain) : n.entry.Fits :=
  Entry.fits_of_room_le h.room_le fun p hp => (h.lacks p hp).1

/-- The line of a notice: its level and its message. -/
def line (n : Notice) : Bytes :=
  Bytes.ofString n.entry.level.name ++ Bytes.ofString ": " ++ n.entry.message.bytes

/-- A notice leaves a whole line, or nothing. -/
lemma ended_printed (o : Options) (n : Notice) : Bytes.Ended (n.printed o) := by
  unfold printed Logger.log
  split
  · rw [List.flatMap_singleton]
    exact .inr ⟨_, rfl⟩
  · exact .inl rfl

/-- A notice that gets through is printed with its level in front, as far as a line has room. -/
lemma printed_of_enabled {o : Options} {n : Notice}
    (h : ({ threshold := o.threshold } : Logger).enabled n.entry.level = true) :
    n.printed o = Bytes.ofString n.entry.level.name ++ Bytes.ofString ": " ++ n.entry.line ++
      [Bytes.lineFeed] := by
  rw [printed, Logger.log, if_pos h, List.flatMap_singleton]
  rfl

lemma printed_of_plain (o : Options) {n : Notice} (h : n.Plain) :
    n.printed o = n.line ++ [Bytes.lineFeed] := by
  have hlevels : ∀ l ∈ [Level.info, .error], Level.info ≤ l := by decide
  rw [printed_of_enabled (enabled_of_le o (hlevels _ h.level_mem)), Entry.line_of_fits h.fits, line]

lemma lineFeed_notMem_line {n : Notice} (h : n.Plain) : Bytes.lineFeed ∉ n.line := by
  have hnames : ∀ l ∈ [Level.info, .error],
      Bytes.lineFeed ∉ Bytes.ofString l.name ++ Bytes.ofString ": " := by decide
  rw [line, List.mem_append, not_or]
  exact ⟨hnames _ h.level_mem, Message.lineFeed_notMem_bytes fun p hp => (h.lacks p hp).2⟩

lemma plain_failed (f : Failure) : (failed f).Plain where
  level_mem := by simp [entry]
  room_le := by
    cases f with
    | refused item status =>
      cases item <;> cases status <;> exact Nat.le_of_ble_eq_true rfl
    | _ => exact Nat.le_of_ble_eq_true rfl
  lacks := by
    cases f with
    | refused item status => cases item <;> cases status <;> exact of_decide_eq_true rfl
    | _ => exact of_decide_eq_true rfl

lemma line_failed (f : Failure) :
    (failed f).line = Bytes.ofString "ERROR: " ++ f.message.bytes := by
  have hlevel : Bytes.ofString Level.error.name ++ Bytes.ofString ": " =
      Bytes.ofString "ERROR: " := by decide
  exact congrArg (· ++ f.message.bytes) hlevel

lemma plain_handOff (r : Region) : (handOff r).Plain where
  level_mem := by simp [entry]
  room_le := Nat.le_of_ble_eq_true rfl
  lacks := of_decide_eq_true rfl

end Notice

/-! ## The whole stream -/

/-- What gets through is printed on a line of its own. -/
lemma Course.line_infix_errorText (c : Course) (o : Options) {n : Notice} (hn : n ∈ c.notices)
    (h : n.Plain) : ∃ before after, Bytes.Ended before ∧
      c.errorText o = before ++ (n.line ++ [Bytes.lineFeed]) ++ after := by
  obtain ⟨earlier, later, hsplit⟩ := List.append_of_mem hn
  rw [errorText_eq, hsplit, List.flatMap_append, List.flatMap_cons, n.printed_of_plain o h,
    ← List.append_assoc]
  exact ⟨_, _, Bytes.ended_flatMap _ fun x _ => x.ended_printed o, rfl⟩

/-- The last word is the last line. -/
theorem Course.lastLine_errorText {c : Course} {n : Notice} {earlier : List Notice}
    (hlast : c.notices = earlier ++ [n]) (h : n.Plain) (o : Options) :
    (c.errorText o).lastLine = n.line := by
  rw [errorText_eq, hlast, List.flatMap_append, List.flatMap_singleton, n.printed_of_plain o h]
  exact Bytes.lastLine_append (Bytes.ended_flatMap _ fun x _ => x.ended_printed o)
    (Notice.lineFeed_notMem_line h)

/-! ## Telling failures apart -/

/-- The first bytes of what is said of a failure. -/
def Failure.heading : Failure → Bytes
  | unevenRegion _ => Bytes.ofString "region"
  | noRegion _ => Bytes.ofString "failed"
  | badMapLayout => Bytes.ofString "bad me"
  | refused .info _ => Bytes.ofString "boot i"
  | refused .memoryMap _ => Bytes.ofString "memory"
  | refused .rootTable _ => Bytes.ofString "root p"
  | refused (.stack _) _ => Bytes.ofString "boot s"
  | regionTaken => Bytes.ofString "add_me"

lemma Failure.take_bytes_message (f : Failure) : f.message.bytes.take 6 = f.heading := by
  cases f with
  | refused item status => cases item <;> rfl
  | _ => rfl

/-- What is said of two failures is the same only if they begin with the same words. -/
lemma Failure.heading_eq_of_bytes_eq {f g : Failure} (h : f.message.bytes = g.message.bytes) :
    f.heading = g.heading := by
  rw [← take_bytes_message, ← take_bytes_message, h]

end EarlyMemory.Boot
