import Mathlib.Data.List.Basic
import EarlyMemory.Proofs.Session.Run

/-!
# What a session delivers

Every entry that a session offers to the log is an attempt, and `State.attempts` lists them all:
they are what the session delivers if the threshold never leaves the lowest level, and these are the
entries that its steps offer, one after the other (`State.attempts_eq_offered`). The threshold in
force decides which attempts become deliveries, the sink in force where they go, and neither has any
part in anything else (`deliveries_eq_filter_attempts`). Both are read off the script:
`lastThreshold` and `lastSink` are what the steps so far have set.

One step is compared with the same step at the lowest threshold (`State.deliveries_perform`), and
the state after it with the state there (`State.lowered_perform`); all scripts follow by induction.
-/

namespace EarlyMemory

/-- A delivered line with its level, wherever it has gone. -/
def Delivery.content (d : Delivery) : Level × Bytes := (d.level, d.line)

/-! ## The lowest threshold -/

/-- The least of all levels. -/
def Level.lowest : Level := ⟨Int32.minValue⟩

lemma Level.lowest_le (l : Level) : lowest ≤ l := Int32.minValue_le l.code

namespace Logger

/-- The logger that delivers every entry, to the same sink. -/
def lowered (g : Logger) : Logger := g.setThreshold .lowest

lemma log_lowered (g : Logger) (e : Entry) :
    g.lowered.log e = [{ sink := g.sink, level := e.level, line := e.line }] :=
  if_pos (decide_eq_true (Level.lowest_le e.level))

lemma logAll_lowered (g : Logger) (es : List Entry) :
    g.lowered.logAll es =
      es.map fun e => { sink := g.sink, level := e.level, line := e.line } := by
  induction es with
  | nil => rfl
  | cons e es ih => rw [logAll_cons, log_lowered, ih, List.map_cons, List.singleton_append]

/-- A logger delivers what its threshold lets through. -/
lemma log_eq_filter (g : Logger) (e : Entry) :
    g.log e = (g.lowered.log e).filter fun d => g.threshold ≤ d.level := by
  rw [log_lowered, List.filter_cons, List.filter_nil]
  rfl

lemma logAll_eq_filter (g : Logger) (es : List Entry) :
    g.logAll es = (g.lowered.logAll es).filter fun d => g.threshold ≤ d.level := by
  rw [logAll, logAll, List.filter_flatMap]
  exact List.flatMap_congr fun e _ => g.log_eq_filter e

/-- Where a line goes has no part in what it is. -/
lemma content_log_of_threshold_eq {g g' : Logger} (h : g'.threshold = g.threshold) (e : Entry) :
    (g'.log e).map Delivery.content = (g.log e).map Delivery.content := by
  rw [log_eq_filter, log_eq_filter g, h, log_lowered, log_lowered, List.filter_cons,
    List.filter_cons]
  split <;> rfl

lemma content_logAll_of_threshold_eq {g g' : Logger} (h : g'.threshold = g.threshold)
    (es : List Entry) :
    (g'.logAll es).map Delivery.content = (g.logAll es).map Delivery.content := by
  rw [logAll, logAll, List.map_flatMap, List.map_flatMap]
  exact List.flatMap_congr fun e _ => content_log_of_threshold_eq h e

lemma sink_of_mem_log (g : Logger) (e : Entry) : ∀ d ∈ g.log e, d.sink = g.sink := by
  intro d hd
  rw [log_eq_filter, log_lowered] at hd
  rw [List.mem_singleton.1 (List.mem_of_mem_filter hd)]

lemma sink_of_mem_logAll (g : Logger) (es : List Entry) : ∀ d ∈ g.logAll es, d.sink = g.sink := by
  intro d hd
  obtain ⟨e, -, hd⟩ := List.mem_flatMap.1 hd
  exact g.sink_of_mem_log e d hd

end Logger

namespace Session

variable {n : ℕ}

/-! ## What a script sets -/

/-- The threshold that a step sets, if it does. -/
def Step.threshold? : Step n → Option Level
  | .setThreshold l => some l
  | _ => none

/-- The sink that a step sets, if it does. -/
def Step.sink? : Step n → Option Sink
  | .setSink sink => some (sink.getD .standardError)
  | _ => none

/-- The threshold that a script has set last, or the first one if it has set none. -/
def lastThreshold (first : Level) (steps : List (Step n)) : Level :=
  (steps.filterMap Step.threshold?).getLastD first

/-- The sink that a script has set last, or the first one if it has set none. -/
def lastSink (first : Sink) (steps : List (Step n)) : Sink :=
  (steps.filterMap Step.sink?).getLastD first

lemma lastThreshold_cons (first : Level) (step : Step n) (steps : List (Step n)) :
    lastThreshold first (step :: steps) = lastThreshold (step.threshold?.getD first) steps := by
  unfold lastThreshold
  cases h : step.threshold? with
  | none => rw [List.filterMap_cons_none h]; rfl
  | some l => rw [List.filterMap_cons_some h, List.getLastD_cons]; rfl

lemma lastSink_cons (first : Sink) (step : Step n) (steps : List (Step n)) :
    lastSink first (step :: steps) = lastSink (step.sink?.getD first) steps := by
  unfold lastSink
  cases h : step.sink? with
  | none => rw [List.filterMap_cons_none h]; rfl
  | some sink => rw [List.filterMap_cons_some h, List.getLastD_cons]; rfl

namespace State

variable (s : State n) (step : Step n) (steps : List (Step n))

lemma threshold_perform :
    (s.perform step).2.logger.threshold = step.threshold?.getD s.logger.threshold := by
  cases step <;> rfl

lemma sink_perform : (s.perform step).2.logger.sink = step.sink?.getD s.logger.sink := by
  cases step <;> rfl

/-! ## Deliveries and attempts -/

/-- What a script delivers, in order, each line with the number of the step that delivered it. -/
def deliveries : List (ℕ × Delivery) :=
  (s.run steps).zipIdx.flatMap fun p => p.1.deliveries.map (p.2, ·)

/-- The lines that a script delivers, in order, with their levels. -/
def lines : List (Level × Bytes) := (s.deliveries steps).map fun p => p.2.content

/-- The same state at the lowest threshold. -/
def lowered : State n := { s with logger := s.logger.lowered }

end State

/-- The same step, but for a threshold other than the lowest. -/
def Step.lowered : Step n → Step n
  | .setThreshold _ => .setThreshold .lowest
  | step => step

/-- All that a script offers to the log: what it delivers at the lowest threshold, from the first
step to the last. -/
def State.attempts (s : State n) (steps : List (Step n)) : List (ℕ × Delivery) :=
  s.lowered.deliveries (steps.map Step.lowered)

/-- What a step offers to the log, whatever the threshold is. -/
def State.offers (s : State n) : Step n → List Entry
  | .call i c => ((s.arenas.get i).perform c).events.map (·.entry)
  | .releasePages _ addr count => [.panic (Arena.releasePagesMessage addr count)]
  | .log e => [e]
  | .panic m => [.panic m]
  | .setThreshold _ | .setSink _ | .threshold | .enabled _ => []

/-- What the steps of a script offer, up to the first panic, each entry with the number of the step
that offers it. -/
def State.offered (s : State n) (steps : List (Step n)) : List (ℕ × Entry) :=
  (steps.take (s.run steps).length).zipIdx.flatMap fun p =>
    ((s.after (steps.take p.2)).offers p.1).map (p.2, ·)

/-- What comes of elements, each result with the number of its element: behind the first element the
others are numbered from one on. -/
lemma flatMap_zipIdx_cons {α β : Type} (f : α → ℕ → List β) (x : α) (xs : List α) :
    (x :: xs).zipIdx.flatMap (fun p => (f p.1 p.2).map (p.2, ·)) =
      (f x 0).map (0, ·) ++
        (xs.zipIdx.flatMap fun p => (f p.1 (p.2 + 1)).map (p.2, ·)).map
          fun p => (p.1 + 1, p.2) := by
  rw [List.zipIdx_cons, List.flatMap_cons, List.zipIdx_succ, List.flatMap_map, List.map_flatMap]
  simp only [List.map_map]
  rfl

namespace State

variable (s : State n) (step : Step n) (steps : List (Step n))

/-- A panic is the last step to deliver anything. -/
lemma deliveries_cons :
    s.deliveries (step :: steps) =
      (s.perform step).1.deliveries.map (0, ·) ++
        if (s.perform step).1.value = .stopped then []
        else ((s.perform step).2.deliveries steps).map fun p => (p.1 + 1, p.2) := by
  unfold deliveries
  rw [run]
  split
  · exact flatMap_zipIdx_cons (fun (reply : Reply) _ => reply.deliveries) _ []
  · exact flatMap_zipIdx_cons (fun (reply : Reply) _ => reply.deliveries) _ _

/-- A panic is the last step to offer anything. -/
lemma offered_cons :
    s.offered (step :: steps) =
      (s.offers step).map (0, ·) ++
        if (s.perform step).1.value = .stopped then []
        else ((s.perform step).2.offered steps).map fun p => (p.1 + 1, p.2) := by
  unfold offered
  rw [run]
  let offersAt (step' : Step n) (k : ℕ) := (s.after ((step :: steps).take k)).offers step'
  split
  · exact flatMap_zipIdx_cons offersAt step []
  · exact flatMap_zipIdx_cons offersAt step _

/-! ## One step at the lowest threshold -/

lemma lowered_perform : (s.lowered.perform step.lowered).2 = (s.perform step).2.lowered := by
  cases step <;> rfl

/-- At the lowest threshold a step delivers all that it offers. -/
lemma deliveries_perform_lowered :
    (s.lowered.perform step.lowered).1.deliveries =
      (s.offers step).map fun e => { sink := s.logger.sink, level := e.level, line := e.line } := by
  cases step with
  | call i c => exact s.logger.logAll_lowered _
  | releasePages i addr count =>
    exact s.logger.log_lowered (.panic (Arena.releasePagesMessage addr count))
  | log e => exact s.logger.log_lowered e
  | panic m => exact s.logger.log_lowered (.panic m)
  | _ => rfl

lemma stopped_perform_lowered :
    (s.lowered.perform step.lowered).1.value = .stopped ↔ (s.perform step).1.value = .stopped := by
  cases step <;> simp [perform, panic, Step.lowered]

/-- A step delivers what the threshold before it lets through. -/
lemma deliveries_perform :
    (s.perform step).1.deliveries =
      (s.lowered.perform step.lowered).1.deliveries.filter
        fun d => s.logger.threshold ≤ d.level := by
  cases step with
  | call i c => exact s.logger.logAll_eq_filter _
  | releasePages i addr count => exact s.logger.log_eq_filter _
  | log e => exact s.logger.log_eq_filter e
  | panic m => exact s.logger.log_eq_filter _
  | _ => rfl

lemma sink_of_mem_deliveries_perform :
    ∀ d ∈ (s.perform step).1.deliveries, d.sink = s.logger.sink := by
  cases step with
  | call i c => exact s.logger.sink_of_mem_logAll _
  | releasePages i addr count => exact s.logger.sink_of_mem_log _
  | log e => exact s.logger.sink_of_mem_log e
  | panic m => exact s.logger.sink_of_mem_log _
  | _ => exact fun _ hd => absurd hd List.not_mem_nil

/-! ## Whole scripts -/

/-- The attempts of a script are what its steps offer, in order and each once. -/
theorem attempts_eq_offered :
    s.attempts steps = (s.offered steps).map fun p =>
      (p.1, { sink := lastSink s.logger.sink (steps.take p.1), level := p.2.level,
              line := p.2.line }) := by
  induction steps generalizing s with
  | nil => rfl
  | cons step steps ih =>
    have hrest := ih (s.perform step).2
    rw [attempts, ← lowered_perform] at hrest
    rw [attempts, List.map_cons, deliveries_cons, offered_cons, List.map_append,
      deliveries_perform_lowered, List.map_map, List.map_map]
    congr 1
    by_cases hstopped : (s.perform step).1.value = .stopped
    · rw [if_pos hstopped, if_pos ((s.stopped_perform_lowered step).2 hstopped), List.map_nil]
    · rw [if_neg hstopped, if_neg (mt (s.stopped_perform_lowered step).1 hstopped), hrest,
        List.map_map, List.map_map]
      -- the sinks of the rest start from the one that the first step leaves
      simp only [Function.comp_def, List.take_succ_cons, lastSink_cons, sink_perform]

/-- What a script delivers is what the thresholds let through of its attempts. -/
theorem deliveries_eq_filter :
    s.deliveries steps =
      (s.attempts steps).filter
        fun p => lastThreshold s.logger.threshold (steps.take p.1) ≤ p.2.level := by
  induction steps generalizing s with
  | nil => rfl
  | cons step steps ih =>
    have hfirst := s.deliveries_perform step
    have hrest := ih (s.perform step).2
    rw [attempts, ← lowered_perform] at hrest
    rw [attempts, List.map_cons, deliveries_cons, deliveries_cons, List.filter_append,
      List.filter_map, hfirst]
    congr 1
    by_cases hstopped : (s.perform step).1.value = .stopped
    · rw [if_pos hstopped, if_pos ((s.stopped_perform_lowered step).2 hstopped), List.filter_nil]
    · rw [if_neg hstopped, if_neg (mt (s.stopped_perform_lowered step).1 hstopped), hrest,
        List.filter_map]
      -- the thresholds of the rest start from the one that the first step leaves
      simp only [Function.comp_def, List.take_succ_cons, lastThreshold_cons, threshold_perform]

/-- Every line goes to the sink that is in force when it is delivered. -/
theorem sink_of_mem_deliveries :
    ∀ p ∈ s.deliveries steps, p.2.sink = lastSink s.logger.sink (steps.take p.1) := by
  induction steps generalizing s with
  | nil => exact fun _ hp => absurd hp List.not_mem_nil
  | cons step steps ih =>
    rw [deliveries_cons, List.forall_mem_append, List.forall_mem_map]
    refine ⟨s.sink_of_mem_deliveries_perform step, ?_⟩
    split
    · exact fun _ hp => absurd hp List.not_mem_nil
    · rw [List.forall_mem_map]
      intro p hp
      rw [List.take_succ_cons, lastSink_cons, ← sink_perform]
      exact ih (s.perform step).2 p hp

/-! ## The standard error stream -/

/-- The stream shows the lines that were delivered while it was the sink, one to a line and behind
the names of their levels. -/
theorem printed_deliveries :
    (s.deliveries steps).flatMap (·.2.printed) =
      ((s.deliveries steps).filter
        fun p => lastSink s.logger.sink (steps.take p.1) = .standardError).flatMap
          fun p => Bytes.ofString p.2.level.name ++ Bytes.ofString ": " ++ p.2.line ++
            Bytes.ofString "\n" := by
  have hsinks := s.sink_of_mem_deliveries steps
  generalize s.deliveries steps = ps at hsinks ⊢
  induction ps with
  | nil => rfl
  | cons p ps ih =>
    obtain ⟨hfirst, hrest⟩ := List.forall_mem_cons.1 hsinks
    rw [List.flatMap_cons, List.filter_cons, ih hrest, ← hfirst, Delivery.printed]
    cases p.2.sink with
    | standardError => rfl
    | recorder label => rfl

/-! ## Other sinks -/

/-- The same state with another sink. -/
def redirected (sink : Sink) : State n := { s with logger := { s.logger with sink } }

lemma lines_cons :
    s.lines (step :: steps) =
      (s.perform step).1.deliveries.map Delivery.content ++
        if (s.perform step).1.value = .stopped then [] else (s.perform step).2.lines steps := by
  rw [lines, deliveries_cons, List.map_append, List.map_map]
  congr 1
  split
  · rfl
  · rw [List.map_map]
    rfl

/-- A step that sets no sink delivers the same lines to another sink, and is the same in all else. -/
lemma perform_redirected (sink : Sink) (hsink : step.sink? = none) :
    ((s.redirected sink).perform step).1.deliveries.map Delivery.content =
        (s.perform step).1.deliveries.map Delivery.content ∧
      ((s.redirected sink).perform step).1.value = (s.perform step).1.value ∧
      ((s.redirected sink).perform step).2 = (s.perform step).2.redirected sink := by
  have hthreshold : (s.redirected sink).logger.threshold = s.logger.threshold := rfl
  cases step with
  | call i c => exact ⟨Logger.content_logAll_of_threshold_eq hthreshold _, rfl, rfl⟩
  | releasePages i addr count =>
    exact ⟨Logger.content_log_of_threshold_eq hthreshold _, rfl, rfl⟩
  | log e => exact ⟨Logger.content_log_of_threshold_eq hthreshold e, rfl, rfl⟩
  | panic m => exact ⟨Logger.content_log_of_threshold_eq hthreshold _, rfl, rfl⟩
  | setSink sink => cases hsink
  | _ => exact ⟨rfl, rfl, rfl⟩

/-- The lines of a script are those of the same script without the steps that set a sink, whatever
the sink is then. -/
theorem lines_redirected (sink : Sink) :
    (s.redirected sink).lines (steps.filter (·.sink?.isNone)) = s.lines steps := by
  induction steps generalizing s with
  | nil => rfl
  | cons step steps ih =>
    cases hsink : step.sink? with
    | none =>
      obtain ⟨hlines, hvalue, hafter⟩ := s.perform_redirected step sink hsink
      rw [List.filter_cons_of_pos (by rw [hsink]; rfl), lines_cons, lines_cons, hlines, hvalue,
        hafter, ih]
    | some other =>
      rw [List.filter_cons_of_neg (by rw [hsink]; exact Bool.false_ne_true), lines_cons]
      cases step with
      | setSink sink' => exact ih { s with logger := s.logger.setSink sink' }
      | _ => cases hsink

/-! ## Asking first -/

lemma sink_after : (s.after steps).logger.sink = lastSink s.logger.sink steps := by
  induction steps generalizing s with
  | nil => rfl
  | cons step steps ih => rw [after_cons, ih, sink_perform, lastSink_cons]

/-- A message is delivered just when its level would have been reported to be enabled. -/
lemma deliveries_perform_log (e : Entry) :
    (s.perform (.log e)).1.deliveries =
      if (s.perform (.enabled e.level)).1.value = .enabled true then
        [{ sink := s.logger.sink, level := e.level, line := e.line }]
      else [] := by
  show s.logger.log e =
    if Value.enabled (s.logger.enabled e.level) = .enabled true then _ else []
  rw [Logger.log]
  simp only [Value.enabled.injEq]

end State

/-- In every session the attempts are the entries that the steps offer, in order and each once. The
deliveries are, in order, the attempts whose level is not below the threshold set last, `info` if
none was set, and each goes to the sink set last. What the standard error stream shows are those
that find it as the sink, one to a line and behind the names of their levels. The lines and their
order are those of the same session without any setting of a sink. And a message is delivered, once
and as its line, just when the question in its place whether its level is enabled would have been
answered with `true`. -/
theorem deliveries_eq_filter_attempts (arenas : Vector Arena n) (sink : Sink)
    (steps : List (Step n)) :
    let s : State n := { arenas, logger := { sink } }
    let thresholdAt (k : ℕ) := lastThreshold .info (steps.take k)
    let sinkAt (k : ℕ) := lastSink sink (steps.take k)
    s.attempts steps = (s.offered steps).map (fun p =>
        (p.1, { sink := sinkAt p.1, level := p.2.level, line := p.2.line })) ∧
      s.deliveries steps = (s.attempts steps).filter (fun p => thresholdAt p.1 ≤ p.2.level) ∧
      (∀ p ∈ s.deliveries steps, p.2.sink = sinkAt p.1) ∧
      (s.deliveries steps).flatMap (·.2.printed) =
        ((s.attempts steps).filter fun p =>
          sinkAt p.1 = .standardError ∧ thresholdAt p.1 ≤ p.2.level).flatMap
            (fun p => Bytes.ofString p.2.level.name ++ Bytes.ofString ": " ++ p.2.line ++
              Bytes.ofString "\n") ∧
      s.lines steps = ({ arenas } : State n).lines (steps.filter (·.sink?.isNone)) ∧
      ∀ (before rest : List (Step n)) (e : Entry),
        (s.run (before ++ .log e :: rest))[before.length]?.map (·.deliveries) =
          (s.run (before ++ .enabled e.level :: rest))[before.length]?.map fun reply =>
            if reply.value = .enabled true then
              [{ sink := lastSink sink before, level := e.level, line := e.line }]
            else [] := by
  intro s thresholdAt sinkAt
  have hfilter : s.deliveries steps =
      (s.attempts steps).filter (fun p => thresholdAt p.1 ≤ p.2.level) :=
    s.deliveries_eq_filter steps
  refine ⟨s.attempts_eq_offered steps, hfilter, s.sink_of_mem_deliveries steps, ?_, ?_, ?_⟩
  · rw [s.printed_deliveries, hfilter, List.filter_filter]
    simp only [Bool.decide_and]
    rfl
  · exact (s.lines_redirected steps .standardError).symm
  · intro before rest e
    by_cases hreturns : s.Returns before
    · rw [State.getElem?_run hreturns, State.getElem?_run hreturns, Option.map_some,
        Option.map_some, State.deliveries_perform_log, s.sink_after]
    · rw [State.getElem?_run_of_not_returns hreturns, State.getElem?_run_of_not_returns hreturns,
        Option.map_none, Option.map_none]

end Session

end EarlyMemory
