import EarlyMemory.Log.Logger
import EarlyMemory.Proofs.Text.Line

/-!
# The room of a line

A line has room for so many bytes, and a byte zero ends it. An entry that fits is delivered in full,
or not at all if the threshold keeps it back (`Logger.logAll_of_fits`). Whether it fits can often be
seen from its wording alone (`Entry.fits_of_room_le`). The entry of a panic always fits, as its
message is cut beforehand (`Entry.line_panic`).
-/

namespace EarlyMemory

/-! ## Entries that fit -/

namespace Entry

/-- A line has room for the whole message, and nothing in the message ends it. -/
structure Fits (e : Entry) : Prop where
  length_le : e.message.bytes.length ≤ lineRoom
  nul_notMem : Bytes.nul ∉ e.message.bytes

/-- A message fits whatever words are written in it, if its wording leaves room for the longest. -/
lemma fits_of_room_le {e : Entry} (hroom : e.message.room ≤ lineRoom)
    (hnul : ∀ p ∈ e.message, p.Lacks Bytes.nul) : e.Fits where
  length_le := e.message.length_bytes_le.trans hroom
  nul_notMem := Message.nul_notMem_bytes hnul

lemma line_of_fits {e : Entry} (h : e.Fits) : e.line = e.message.bytes := by
  rw [line, List.take_of_length_le h.length_le, Bytes.untilNul_of_notMem h.nul_notMem]

/-- A line has no byte that is not in its message. -/
lemma mem_bytes_of_mem_line {e : Entry} {b : UInt8} (h : b ∈ e.line) : b ∈ e.message.bytes :=
  List.mem_of_mem_take ((List.takeWhile_prefix _).subset h)

lemma bytes_message_panic (m : Message) :
    (panic m).message.bytes =
      Bytes.ofString "panic: " ++ Bytes.untilNul (m.bytes.take panicRoom) := by
  show Bytes.ofString "panic: " ++ (Bytes.untilNul (m.bytes.take panicRoom) ++ []) = _
  rw [List.append_nil]

lemma fits_panic (m : Message) : (panic m).Fits := by
  have hword : (Bytes.ofString "panic: ").length = 7 ∧ Bytes.nul ∉ Bytes.ofString "panic: " := by
    decide
  have hcut : (m.bytes.take panicRoom).length ≤ 255 := List.length_take_le _ _
  have hread := Bytes.length_untilNul_le (m.bytes.take panicRoom)
  constructor
  · show _ ≤ 511
    rw [bytes_message_panic, List.length_append, hword.1]
    omega
  · rw [bytes_message_panic, List.mem_append, not_or]
    exact ⟨hword.2, Bytes.nul_notMem_untilNul _⟩

/-- A panic loses of its message what a panic has no room for and what is behind a byte zero, and no
more. -/
theorem line_panic (m : Message) :
    (panic m).line = Bytes.ofString "panic: " ++ Bytes.untilNul (m.bytes.take panicRoom) := by
  rw [line_of_fits (fits_panic m), bytes_message_panic]

end Entry

/-! ## Deliveries in full -/

namespace Logger

/-- The delivery of a message in full. -/
def inFull (g : Logger) (e : Entry) : Delivery where
  sink := g.sink
  level := e.level
  line := e.message.bytes

lemma log_of_fits (g : Logger) {e : Entry} (h : e.Fits) :
    g.log e = if g.enabled e.level then [g.inFull e] else [] := by
  rw [log, e.line_of_fits h]
  rfl

/-- Of entries that fit, those that the threshold lets through are delivered in full. -/
theorem logAll_of_fits (g : Logger) {es : List Entry} (h : ∀ e ∈ es, e.Fits) :
    g.logAll es = (es.filter (g.enabled ·.level)).map g.inFull := by
  induction es with
  | nil => rfl
  | cons e es ih =>
    obtain ⟨he, hes⟩ := List.forall_mem_cons.1 h
    rw [logAll_cons, g.log_of_fits he, ih hes, List.filter_cons]
    split <;> rfl

end Logger

end EarlyMemory
