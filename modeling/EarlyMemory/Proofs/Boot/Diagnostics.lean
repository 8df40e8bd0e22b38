import EarlyMemory.Session
import EarlyMemory.Proofs.Arena.EventLine
import EarlyMemory.Proofs.Boot.Outcome

/-!
# Diagnostics are told in full

Lines have fixed room, but no arena and no start ever says more than fits. A call makes short events
only, unless it is a report at a stage with a long name (`Arena.isShort_of_mem_events`). A start has
no such stage, so whatever it says fits, step by step (`Course.Fits.perform`, `Course.Fits.run`).
And the one thing that is said when pages are given back has room enough in a panic. So each of
these lines is delivered in full, or kept back as a whole (`told_in_full`).
-/

namespace EarlyMemory

/-! ## Calls -/

namespace Arena

/-- The call is no report, or the name of its stage is not too long. -/
def Call.IsShort : Call → Prop
  | .report stage => stage.length ≤ Event.stageRoom
  | _ => True

/-- What is said under a switch is short if it is when the switch is on. -/
lemma Event.isShort_of_mem_ite {on : Bool} {e : Event} (he : e.IsShort) :
    ∀ e' ∈ (if on then [e] else []), e'.IsShort := by
  split
  · exact List.forall_mem_singleton.2 he
  · exact fun _ hmem => absurd hmem List.not_mem_nil

section

variable (a : Arena)

lemma isShort_of_mem_refuse (client : Client) (amount align : Word) (status : Status) :
    ∀ e ∈ (a.refuse client amount align status).events, e.IsShort :=
  Event.isShort_of_mem_ite trivial

lemma isShort_of_mem_alloc (l : Layout) : ∀ e ∈ (a.alloc l).events, e.IsShort := by
  unfold alloc
  cases a.admitBytes l with
  | error status => exact a.isShort_of_mem_refuse _ _ _ status
  | ok taken => exact Event.isShort_of_mem_ite trivial

lemma isShort_of_mem_allocPages (count align : Word) :
    ∀ e ∈ (a.allocPages count align).events, e.IsShort := by
  unfold allocPages
  cases a.admitPages count align with
  | error status => exact a.isShort_of_mem_refuse _ _ _ status
  | ok taken => exact Event.isShort_of_mem_ite trivial

/-- In every state, a short call makes short events. -/
theorem isShort_of_mem_events {c : Call} (hc : c.IsShort) :
    ∀ e ∈ (a.perform c).events, e.IsShort := by
  cases c with
  | init r => exact List.forall_mem_singleton.2 trivial
  | addMemory r => exact List.forall_mem_singleton.2 trivial
  | alloc l => exact a.isShort_of_mem_alloc l
  | allocPages count align => exact a.isShort_of_mem_allocPages count align
  | report stage => exact List.forall_mem_singleton.2 hc
  | _ => exact fun _ he => absurd he List.not_mem_nil

end

end Arena

namespace Boot

/-! ## Courses -/

/-- The action is no report, or the name of its stage is not too long. -/
def Action.IsShort : Action → Prop
  | .report stage => (Bytes.ofString stage).length ≤ Arena.Event.stageRoom
  | _ => True

instance (action : Action) : Decidable action.IsShort :=
  match action with
  | .report stage =>
    inferInstanceAs (Decidable ((Bytes.ofString stage).length ≤ Arena.Event.stageRoom))
  | .layOutMap | .obtain _ | .offer _ | .handOff => .isTrue trivial

lemma Item.isShort_of_mem_request (a : Arena) (item : Item) :
    ∀ e ∈ (item.request a).events, e.IsShort := by
  cases item with
  | info => exact a.isShort_of_mem_alloc _
  | memoryMap => exact a.isShort_of_mem_alloc _
  | rootTable => exact a.isShort_of_mem_allocPages _ _
  | stack pages => exact a.isShort_of_mem_allocPages _ _

lemma isShort_of_mem_plan (stackPages : Word) :
    ∀ action ∈ plan stackPages, action.IsShort :=
  of_decide_eq_true rfl

namespace Course

/-- All that a course has said fits. -/
def Fits (c : Course) : Prop := ∀ n ∈ c.notices, n.entry.Fits

section

variable {c : Course} (hc : c.Fits)

include hc

lemma Fits.say {n : Notice} (hn : n.entry.Fits) : (c.say n).Fits :=
  List.forall_mem_append.2 ⟨hc, List.forall_mem_singleton.2 hn⟩

lemma Fits.follow {α : Type} {effect : Arena.Effect α} (h : ∀ e ∈ effect.events, e.IsShort) :
    (c.follow effect).Fits :=
  List.forall_mem_append.2
    ⟨hc, List.forall_mem_map.2 fun e he => Arena.Event.fits_of_isShort (h e he)⟩

lemma Fits.fail (f : Failure) : (c.fail f).Fits :=
  hc.say (Notice.plain_failed f).fits

/-- Every action says what fits. -/
lemma Fits.perform {action : Action} (h : action.IsShort) : (c.perform action).Fits := by
  cases action with
  | report stage => exact hc.say (Arena.Event.fits_of_isShort h)
  | layOutMap =>
    rw [perform_layOutMap]
    exact hc
  | obtain item =>
    have hafter : (c.follow (item.request c.arena)).Fits :=
      hc.follow (item.isShort_of_mem_request c.arena)
    simp only [Course.perform]
    split
    · exact hafter
    · exact hafter.fail _
  | offer r =>
    rw [perform_offer]
    exact hc.say (Arena.Event.fits_of_isShort trivial)
  | handOff => exact hc.say (Notice.plain_handOff _).fits

/-- So does every plan, however far it comes. -/
theorem Fits.run {actions : List Action} (h : ∀ action ∈ actions, action.IsShort) :
    (c.run actions).Fits := by
  induction actions generalizing c with
  | nil => exact hc
  | cons action actions ih =>
    obtain ⟨hfirst, hrest⟩ := List.forall_mem_cons.1 h
    have hafter := hc.perform hfirst
    simp only [Course.run]
    split
    · exact hafter
    · exact ih hafter hrest

end

/-- A start has nothing to say that does not fit, whatever the host lends it. -/
theorem fits_start (host : Host) (o : Options) : (start host o).Fits := by
  have hidle : (idle o).Fits := fun _ hn => absurd hn List.not_mem_nil
  have hopened : (opened host o).Fits := hidle.follow (List.forall_mem_singleton.2 trivial)
  rw [start_eq]
  split
  · split
    · exact hidle.fail _
    · exact hopened.run (isShort_of_mem_plan o.stackPages)
  · exact hidle.fail _

/-- What fits is printed in full, line by line, as far as the threshold lets it through. -/
lemma errorText_of_fits {c : Course} (hc : c.Fits) (o : Options) :
    c.errorText o = (c.notices.filter (o.threshold ≤ ·.entry.level)).flatMap
      fun n => n.line ++ [Bytes.lineFeed] := by
  show (({ threshold := o.threshold } : Logger).logAll (c.notices.map (·.entry))).flatMap _ = _
  rw [Logger.logAll_of_fits _ (List.forall_mem_map.2 hc), List.filter_map, List.map_map,
    List.flatMap_map]
  rfl

end Course

/-! ## All of it -/

/-- Nothing that an arena or a start says is ever cut. In every state and for all words, what a call
says has at most 511 bytes, unless it is a report at a stage with a long name, and what stops
everything when pages are given back has at most 255 bytes; so has all that a start says at most 511
bytes, for every host and command line. All of it is delivered in full, as far as the threshold lets
it through. -/
theorem told_in_full {n : ℕ} (s : Session.State n) (i : Fin n) (host : Host)
    (words : List Bytes) :
    (∀ c : Arena.Call, c.IsShort →
        let entries := ((s.arenas.get i).perform c).events.map (·.entry)
        (∀ e ∈ entries, e.message.bytes.length ≤ 511) ∧
          (s.perform (.call i c)).1.deliveries =
            (entries.filter (s.logger.enabled ·.level)).map s.logger.inFull) ∧
      (∀ addr count,
        let message := Arena.releasePagesMessage addr count
        message.bytes.length ≤ 255 ∧
          (s.perform (.releasePages i addr count)).1.deliveries =
            if s.logger.enabled .fatal then
              [{ sink := s.logger.sink, level := .fatal,
                 line := Bytes.ofString "panic: " ++ message.bytes }]
            else []) ∧
      let o := (Options.read {} words).1
      let notices := (start host o).notices
      (∀ n ∈ notices, n.entry.message.bytes.length ≤ 511) ∧
        (rehearse host words).errorText =
          if (Options.read {} words).2 then
            (notices.filter (o.threshold ≤ ·.entry.level)).flatMap
              fun n => n.line ++ [Bytes.lineFeed]
          else usageText := by
  refine ⟨?_, ?_, ?_⟩
  · intro c hc entries
    have hfits : ∀ e ∈ entries, e.Fits := List.forall_mem_map.2 fun e he =>
      Arena.Event.fits_of_isShort (Arena.isShort_of_mem_events _ hc e he)
    exact ⟨fun e he => (hfits e he).length_le, s.logger.logAll_of_fits hfits⟩
  · intro addr count message
    refine ⟨Arena.length_releasePagesMessage_le addr count, ?_⟩
    show s.logger.log (.panic message) = _
    rw [Logger.log, Arena.line_panic_releasePages]
    rfl
  · intro o notices
    have hfits : (start host o).Fits := Course.fits_start host o
    refine ⟨fun n hn => (hfits n hn).length_le, ?_⟩
    split
    · next haccepted =>
      rw [rehearse_of_accepted haccepted]
      exact Course.errorText_of_fits hfits o
    · next hrefused => rw [rehearse_of_refused hrefused]

/-- The longest line of an arena: a refusal with words that have as many digits as can be. -/
theorem told_in_full_greatest_words :
    let a : Arena :=
      { page := ⟨1, by decide⟩, stop := Word.greatest, pageCursor := Word.greatest }
    let s : Session.State 1 := { arenas := #v[a], logger := { sink := .recorder "a" } }
    let c : Arena.Call := .allocPages Word.greatest Word.greatest
    c.IsShort ∧ (s.perform (.call 0 c)).1.deliveries =
      [{ sink := .recorder "a", level := .warn,
         line := Bytes.ofString "early arena: alloc_pages(18446744073709551615, " ++
           Bytes.ofString "18446744073709551615) failed: InvalidParam (bytes avail=" ++
           Bytes.ofString "18446744073709551615 pages avail=18446744073709551615)" }] := by
  intro a s c
  have hc : c.IsShort := trivial
  refine ⟨hc, ?_⟩
  rw [((told_in_full s 0 .rehearsal []).1 c hc).2]
  decide +kernel

end Boot

end EarlyMemory
