import EarlyMemory.Proofs.Arena.EventLine
import EarlyMemory.Proofs.Arena.Interleaving

/-!
# Histories told by their events

An arena with both switches on reports an event for every opening and every request. The event says
enough to replay what the arena has done: from the events alone `Extent.receipts` reads what every
request came to, and `Extent.replayAll` where the cursors are in the end. `Tells` states both, for
one call (`tells_perform`) and for a history (`tells_performAll`). As the lines tell the events, two
histories from an opening with the same lines have the same receipts (`receipts_eq_and_extent_eq`).
-/

namespace EarlyMemory.Arena

/-! ## Receipts -/

/-- Where an arena lies and where its cursors stand. -/
structure Extent where
  start : Word
  stop : Word
  byteCursor : Word
  pageCursor : Word
deriving DecidableEq, Repr

/-- What a request comes to: its outcome, and how far the byte cursor moves up and the page cursor
moves down. -/
structure Receipt where
  client : Client
  outcome : Outcome
  up : Word
  down : Word
deriving DecidableEq, Repr

/-- The receipt for a request that leads from one extent to another. -/
def Extent.receipt (before after : Extent) (client : Client) (outcome : Outcome) : Receipt where
  client := client
  outcome := outcome
  up := after.byteCursor - before.byteCursor
  down := before.pageCursor - after.pageCursor

/-- The bounds and the cursors of an arena, without its switches and its page size. -/
def extent (a : Arena) : Extent where
  start := a.start
  stop := a.stop
  byteCursor := a.byteCursor
  pageCursor := a.pageCursor

/-- The receipt of a call, if it is a request. -/
def receipt? (a : Arena) (c : Call) : Option Receipt :=
  match c.client?, (a.perform c).answer with
  | some client, .outcome o => some (a.extent.receipt (a.perform c).arena.extent client o)
  | _, _ => none

/-- The receipts of the requests in a history, in order. -/
def receipts (a : Arena) : List Call → List Receipt
  | [] => []
  | c :: cs => (a.receipt? c).toList ++ (a.perform c).arena.receipts cs

/-- Every request in a history has its receipt, and no other call has one. -/
theorem map_client_receipts (a : Arena) (calls : List Call) :
    (a.receipts calls).map (·.client) = calls.filterMap Call.client? := by
  have hreceipt (a : Arena) (c : Call) :
      (a.receipt? c).toList.map (·.client) = c.client?.toList := by
    cases c <;> rfl
  induction calls generalizing a with
  | nil => rfl
  | cons c calls ih =>
    rw [receipts, List.map_append, hreceipt, ih]
    cases c <;> rfl

/-- All that an arena reports during a history. -/
def events (a : Arena) (calls : List Call) : List Event := (a.effects calls).flatMap (·.events)

lemma events_cons (a : Arena) (c : Call) (cs : List Call) :
    a.events (c :: cs) = (a.perform c).events ++ (a.perform c).arena.events cs := rfl

/-! ## Replaying events -/

namespace Extent

/-- The extent after an event. Granted bytes begin at the old byte cursor, granted pages at the new
page cursor. -/
def replay (x : Extent) : Event → Extent
  | .opened start stop _ => { start, stop, byteCursor := start, pageCursor := stop }
  | .bytesGranted l addr => { x with byteCursor := addr + l.paddedSize }
  | .pagesGranted _ _ addr => { x with pageCursor := addr }
  | _ => x

/-- The receipt that an event stands for. -/
def receipt? (x : Extent) (e : Event) : Option Receipt :=
  match e with
  | .bytesGranted _ addr => some (x.receipt (x.replay e) .bytes (.granted addr))
  | .pagesGranted _ _ addr => some (x.receipt (x.replay e) .pages (.granted addr))
  | .refused client _ _ status _ _ => some (x.receipt x client (.refused status))
  | _ => none

/-- The extent after events. -/
def replayAll (x : Extent) (es : List Event) : Extent := es.foldl replay x

/-- The receipts that events stand for, in order. -/
def receipts (x : Extent) : List Event → List Receipt
  | [] => []
  | e :: es => (x.receipt? e).toList ++ (x.replay e).receipts es

lemma receipts_append (x : Extent) (es fs : List Event) :
    x.receipts (es ++ fs) = x.receipts es ++ (x.replayAll es).receipts fs := by
  induction es generalizing x with
  | nil => rfl
  | cons e es ih =>
    rw [List.cons_append, receipts, receipts, ih, List.append_assoc]
    rfl

end Extent

/-! ## What events tell -/

/-- The events say how one arena became the other, and what the requests in between came to. -/
structure Tells (a a' : Arena) (es : List Event) (rs : List Receipt) : Prop where
  level_ne_info : ∀ e ∈ es, e.level ≠ .info
  replayAll_eq : a.extent.replayAll es = a'.extent
  receipts_eq : a.extent.receipts es = rs

namespace Tells

variable {a b c : Arena} {es fs : List Event} {rs qs : List Receipt}

lemma nil (a : Arena) : Tells a a [] [] where
  level_ne_info := fun _ he => absurd he List.not_mem_nil
  replayAll_eq := rfl
  receipts_eq := rfl

lemma singleton {e : Event} (hlevel : e.level ≠ .info) (hreplay : a.extent.replay e = b.extent)
    (hreceipt : (a.extent.receipt? e).toList = rs) : Tells a b [e] rs where
  level_ne_info := List.forall_mem_singleton.2 hlevel
  replayAll_eq := hreplay
  receipts_eq := (List.append_nil _).trans hreceipt

lemma append (h : Tells a b es rs) (h' : Tells b c fs qs) : Tells a c (es ++ fs) (rs ++ qs) where
  level_ne_info := List.forall_mem_append.2 ⟨h.level_ne_info, h'.level_ne_info⟩
  replayAll_eq := by
    rw [← h'.replayAll_eq, ← h.replayAll_eq]
    exact List.foldl_append
  receipts_eq := by
    rw [Extent.receipts_append, h.receipts_eq, h.replayAll_eq, h'.receipts_eq]

end Tells

/-- Both switches are on. -/
def Config.full : Config := { logFailures := true, traceGrants := true }

/-- The call leaves the switches alone and makes no report. -/
def Call.IsTraced : Call → Prop
  | .setConfig _ | .report _ => False
  | _ => True

instance : DecidablePred Call.IsTraced
  | .setConfig _ | .report _ => .isFalse id
  | .init _ | .addMemory _ | .alloc _ | .allocPages _ _ | .release _ _ | .unusedRegion | .contains _
  | .observe => .isTrue trivial

/-- An admitted byte request takes its padded size. -/
lemma eq_paddedSize_of_admitBytes_eq_ok {a : Arena} {l : Layout} {taken : Word}
    (h : a.admitBytes l = .ok taken) : taken = l.paddedSize := by
  unfold admitBytes at h
  split at h
  · cases h
  · next l' hl =>
    obtain ⟨-, rfl⟩ := (Layout.of?_eq_some_iff _ _ _).1 hl
    split at h
    · cases h
    · cases h
      rfl

section

variable {a : Arena} (ha : a.config = .full)

include ha

lemma config_perform {c : Call} (hc : c.IsTraced) : (a.perform c).arena.config = .full := by
  cases c with
  | alloc l =>
    simp only [perform, alloc, Effect.map]
    split <;> exact ha
  | allocPages count align =>
    simp only [perform, allocPages, Effect.map]
    split <;> exact ha
  | setConfig config => exact absurd hc id
  | _ => exact ha

lemma tells_refuse (client : Client) (amount align : Word) (status : Status) :
    Tells a (a.refuse client amount align status).arena
      (a.refuse client amount align status).events
      [a.extent.receipt a.extent client (.refused status)] := by
  unfold refuse
  rw [ha]
  exact .singleton (of_decide_eq_false rfl) rfl rfl

lemma tells_alloc (l : Layout) :
    Tells a (a.alloc l).arena (a.alloc l).events
      [a.extent.receipt (a.alloc l).arena.extent .bytes (a.alloc l).answer] := by
  unfold alloc
  cases h : a.admitBytes l with
  | error status => exact tells_refuse ha .bytes l.size l.align status
  | ok taken =>
    rw [ha, eq_paddedSize_of_admitBytes_eq_ok h]
    exact .singleton (of_decide_eq_false rfl) rfl rfl

lemma tells_allocPages (count align : Word) :
    Tells a (a.allocPages count align).arena (a.allocPages count align).events
      [a.extent.receipt (a.allocPages count align).arena.extent .pages
        (a.allocPages count align).answer] := by
  unfold allocPages
  cases h : a.admitPages count align with
  | error status => exact tells_refuse ha .pages count align status
  | ok taken =>
    rw [ha]
    exact .singleton (of_decide_eq_false rfl) rfl rfl

/-- The events of a call tell what it does. -/
theorem tells_perform {c : Call} (hc : c.IsTraced) :
    Tells a (a.perform c).arena (a.perform c).events (a.receipt? c).toList := by
  cases c with
  | init r => exact .singleton (of_decide_eq_false rfl) rfl rfl
  | addMemory r => exact .singleton (of_decide_eq_false rfl) rfl rfl
  | alloc l => exact tells_alloc ha l
  | allocPages count align => exact tells_allocPages ha count align
  | setConfig config => exact absurd hc id
  | report stage => exact absurd hc id
  | _ => exact .nil a

/-- The events of a history tell what every request in it comes to, and how it ends. -/
theorem tells_performAll {calls : List Call} (hcalls : ∀ c ∈ calls, c.IsTraced) :
    Tells a (a.performAll calls) (a.events calls) (a.receipts calls) := by
  induction calls generalizing a with
  | nil => exact .nil a
  | cons c calls ih =>
    obtain ⟨hc, hcalls⟩ := List.forall_mem_cons.1 hcalls
    exact (tells_perform ha hc).append (ih (config_perform ha hc) hcalls)

end

/-- Two histories that open an arena first and leave the same records are the same as far as
requests and addresses go, whatever the arenas were before. -/
theorem receipts_eq_and_extent_eq {a b : Arena} (ha : a.config = .full) (hb : b.config = .full)
    {r r' : Region} {calls calls' : List Call} (hcalls : ∀ c ∈ calls, c.IsTraced)
    (hcalls' : ∀ c ∈ calls', c.IsTraced)
    (h : (a.events (.init r :: calls)).map Event.record =
      (b.events (.init r' :: calls')).map Event.record) :
    a.receipts (.init r :: calls) = b.receipts (.init r' :: calls') ∧
      (a.performAll (.init r :: calls)).extent = (b.performAll (.init r' :: calls')).extent := by
  have hfirst := tells_performAll ha (List.forall_mem_cons.2 ⟨trivial, hcalls⟩ :
    ∀ c ∈ Call.init r :: calls, c.IsTraced)
  have hsecond := tells_performAll hb (List.forall_mem_cons.2 ⟨trivial, hcalls'⟩ :
    ∀ c ∈ Call.init r' :: calls', c.IsTraced)
  have hevents := Event.eq_of_map_record_eq hfirst.level_ne_info h
  -- the first event is the opening, after which nothing is left of the extent before
  constructor
  · rw [← hfirst.receipts_eq, ← hsecond.receipts_eq, ← hevents]
    rfl
  · rw [← hfirst.replayAll_eq, ← hsecond.replayAll_eq, ← hevents]
    rfl

end EarlyMemory.Arena
