import EarlyMemory.Proofs.Arena.Transcript
import EarlyMemory.Proofs.Session.Delivery

/-!
# The lines of a session as a transcript

A session at the threshold `trace` delivers everything that an arena with both switches on reports,
each event as a line of its own (`State.lines_calls`). So from the lines alone one can tell what
every request came to and where the cursors are in the end (`receipts_eq_of_lines_eq`).
-/

namespace EarlyMemory

/-- At the threshold `trace` every event is delivered. -/
lemma Logger.content_logAll_entry {g : Logger} (hg : g.threshold = .trace)
    (es : List Arena.Event) :
    (g.logAll (es.map (·.entry))).map Delivery.content = es.map (·.record) := by
  induction es with
  | nil => rfl
  | cons e es ih =>
    have henabled : g.enabled e.level = true := by
      rw [enabled, hg]
      cases e <;> rfl
    have hlog : g.log e.entry = [{ sink := g.sink, level := e.level, line := e.entry.line }] :=
      if_pos henabled
    rw [List.map_cons, logAll_cons, List.map_append, ih, hlog]
    rfl

namespace Session

variable {n : ℕ}

/-- The log lets everything through, and the arena reports all that it can. -/
structure State.Traces (s : State n) (i : Fin n) : Prop where
  threshold_eq : s.logger.threshold = .trace
  config_eq : (s.arenas.get i).config = .full

lemma callsTo_map_call (i : Fin n) (calls : List Arena.Call) :
    callsTo i (calls.map (.call i)) = calls := by
  have hcall : Step.callTo? i ∘ Step.call i = some := funext fun c => if_pos rfl
  rw [callsTo, List.filterMap_map, hcall, List.filterMap_some]

/-- A script of calls to one arena delivers what the arena reports. -/
theorem State.lines_calls {s : State n} (hs : s.logger.threshold = .trace) (i : Fin n)
    (calls : List Arena.Call) :
    s.lines (calls.map (.call i)) = ((s.arenas.get i).events calls).map (·.record) := by
  induction calls generalizing s with
  | nil => rfl
  | cons c calls ih =>
    have hvalue : (s.perform (.call i c)).1.value ≠ .stopped := nofun
    have hafter : (s.perform (.call i c)).2.arenas.get i = ((s.arenas.get i).perform c).arena := by
      rw [arenas_perform, Step.callTo?, if_pos rfl]
      rfl
    have hfirst : (s.perform (.call i c)).1.deliveries.map Delivery.content =
        ((s.arenas.get i).perform c).events.map (·.record) :=
      Logger.content_logAll_entry hs _
    have hrest := ih (s := (s.perform (.call i c)).2) hs
    rw [List.map_cons, lines_cons, if_neg hvalue, hfirst, hrest, hafter, Arena.events_cons,
      List.map_append]

/-- Two runs of an arena that begin with an opening, in sessions at the threshold `trace` and with
both switches on, deliver the same lines only if they make requests of the same kinds in the same
order and these came to the same: the same outcomes and the same moves of the cursors, and the same
bounds and cursors in the end. -/
theorem receipts_eq_of_lines_eq {m n : ℕ} {s : State m} {t : State n} {i : Fin m} {j : Fin n}
    (hs : s.Traces i) (ht : t.Traces j) {r r' : Region} {calls calls' : List Arena.Call}
    (hcalls : ∀ c ∈ calls, c.IsTraced) (hcalls' : ∀ c ∈ calls', c.IsTraced)
    (hlines : s.lines ((.init r :: calls).map (.call i)) =
      t.lines ((.init r' :: calls').map (.call j))) :
    calls.filterMap Arena.Call.client? = calls'.filterMap Arena.Call.client? ∧
      (s.arenas.get i).receipts (.init r :: calls) =
        (t.arenas.get j).receipts (.init r' :: calls') ∧
      ((s.after ((.init r :: calls).map (.call i))).arenas.get i).extent =
        ((t.after ((.init r' :: calls').map (.call j))).arenas.get j).extent := by
  rw [State.lines_calls hs.threshold_eq, State.lines_calls ht.threshold_eq] at hlines
  rw [State.arenas_after, State.arenas_after, callsTo_map_call, callsTo_map_call]
  obtain ⟨hreceipts, hextent⟩ :=
    Arena.receipts_eq_and_extent_eq hs.config_eq ht.config_eq hcalls hcalls' hlines
  have hclients := congrArg (List.map (·.client)) hreceipts
  rw [Arena.map_client_receipts, Arena.map_client_receipts] at hclients
  exact ⟨hclients, hreceipts, hextent⟩

/-- Two runs with the same lines that are not the same: the regions differ, but not the pages around
them, and one run has calls that leave no line. -/
theorem receipts_eq_around_one_region :
    let first : List Arena.Call :=
      [.addMemory { start := 0, size := 7 }, .alloc { size := 10, align := 8 },
        .allocPages 1 8192, .alloc { size := 1, align := 3 }]
    let second : List Arena.Call :=
      [.addMemory { start := 0, size := 7 }, .alloc { size := 10, align := 8 },
        .release 0x100000 { size := 10, align := 8 }, .allocPages 1 8192, .contains 5,
        .alloc { size := 1, align := 3 }]
    let s : State 1 :=
      { arenas := #v[{ page := .fourKib, config := .full }], logger := { threshold := .trace } }
    let t : State 2 :=
      { arenas := #v[{ page := .fourKib }, { page := .fourKib, config := .full, start := 9 }]
        logger := { threshold := .trace, sink := .recorder "console" } }
    let r : Region := { start := 0x100000, size := 0x4000 }
    let r' : Region := { start := 0x100123, size := 0x3E00 }
    (s.Traces 0 ∧ t.Traces 1 ∧ (∀ c ∈ first, c.IsTraced) ∧ (∀ c ∈ second, c.IsTraced) ∧
        s.lines ((.init r :: first).map (.call 0)) =
          t.lines ((.init r' :: second).map (.call 1))) ∧
      first.filterMap Arena.Call.client? = second.filterMap Arena.Call.client? ∧
      (s.arenas.get 0).receipts (.init r :: first) =
        (t.arenas.get 1).receipts (.init r' :: second) ∧
      ((s.after ((.init r :: first).map (.call 0))).arenas.get 0).extent =
        ((t.after ((.init r' :: second).map (.call 1))).arenas.get 1).extent := by
  intro first second s t r r'
  have hs : s.Traces 0 := ⟨rfl, rfl⟩
  have ht : t.Traces 1 := ⟨rfl, rfl⟩
  have hfirst : ∀ c ∈ first, c.IsTraced := by decide
  have hsecond : ∀ c ∈ second, c.IsTraced := by decide
  have hlines : s.lines ((.init r :: first).map (.call 0)) =
      t.lines ((.init r' :: second).map (.call 1)) := by decide +kernel
  exact ⟨⟨hs, ht, hfirst, hsecond, hlines⟩,
    receipts_eq_of_lines_eq hs ht hfirst hsecond hlines⟩

end Session

end EarlyMemory
