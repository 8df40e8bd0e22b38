import EarlyMemory.Arena.Operation
import EarlyMemory.Proofs.Log.Room
import EarlyMemory.Proofs.Text.Field

/-!
# Lines of events

But for a report at a stage with a long name, an event is never cut when it is printed
(`Event.fits_of_isShort`), and neither is what is said when pages are given back
(`line_panic_releasePages`). Beside reports, no two events leave the same line at the same level
(`Event.eq_of_record_eq`). A level has at most two kinds of events, which begin with different
bytes, and two events of one kind differ in their fields alone.
-/

namespace EarlyMemory

/-! ## Words in fields -/

lemma Client.isField_requestName (client : Client) :
    (Bytes.ofString client.requestName).IsField := by
  cases client <;> decide

lemma Client.requestName_inj {client client' : Client}
    (h : Bytes.ofString client.requestName = Bytes.ofString client'.requestName) :
    client = client' := by
  cases client <;> cases client' <;> first | rfl | exact absurd h (by decide)

lemma Status.isField_name (status : Status) : (Bytes.ofString status.name).IsField := by
  cases status <;> decide

lemma Status.name_inj {status status' : Status}
    (h : Bytes.ofString status.name = Bytes.ofString status'.name) : status = status' := by
  cases status <;> cases status' <;> first | rfl | exact absurd h (by decide)

namespace Arena

/-! ## Lines -/

namespace Event

/-- The line of an event with its level. -/
def record (e : Event) : Level × Bytes := (e.level, e.entry.line)

/-- A refusal fits a line, whatever words are written in it. -/
lemma room_refused_le (client : Client) (amount align : Word) (status : Status)
    (bytes pages : Word) :
    (refused client amount align status bytes pages).message.room ≤ Entry.lineRoom := by
  have hclient : (Bytes.ofString client.requestName).length ≤ 11 := by cases client <;> decide
  have hstatus : (Bytes.ofString status.name).length ≤ 12 := by cases status <;> decide
  -- the wording, and 20 bytes for each numeral
  show 13 + ((Bytes.ofString client.requestName).length + (1 + (20 + (2 + (20 + (10 +
    ((Bytes.ofString status.name).length + (14 + (20 + (13 + (20 + (1 + 0)))))))))))) ≤ 511
  omega

/-- The longest name of a stage beside which a line has room for any usage. -/
def stageRoom : ℕ := 335

/-- A report fits a line, whatever the usage is, as long as the name of its stage is not too long. -/
lemma room_usage_le {stage : Bytes} (h : stage.length ≤ stageRoom) (bytes pages : Usage) :
    (usage stage bytes pages).message.room ≤ Entry.lineRoom := by
  have hstage : stage.untilNul.length ≤ 335 := stage.length_untilNul_le.trans h
  show 1 + (stage.untilNul.length + (13 + (20 + (7 + (20 + (7 + (20 + (14 + (20 + (7 + (20 + (7 +
    (20 + 0))))))))))))) ≤ 511
  omega

/-- The event is no report, or the name of its stage is not too long. -/
def IsShort : Event → Prop
  | usage stage _ _ => stage.length ≤ stageRoom
  | _ => True

/-- No event has a byte zero in its wording, whatever the name of its stage. -/
lemma lacks_nul (e : Event) : ∀ p ∈ e.message, p.Lacks Bytes.nul := by
  cases e with
  | refused client amount align status bytes pages =>
    cases client <;> cases status <;> exact of_decide_eq_true rfl
  | usage stage bytes pages =>
    have hstage : (Part.text stage.untilNul).Lacks Bytes.nul := stage.nul_notMem_untilNul
    rw [message, List.forall_mem_cons, List.forall_mem_cons]
    exact ⟨of_decide_eq_true rfl, hstage, of_decide_eq_true rfl⟩
  | _ => exact of_decide_eq_true rfl

/-- Only a report may be cut, and only for the name of its stage. -/
theorem fits_of_isShort {e : Event} (he : e.IsShort) : e.entry.Fits := by
  refine Entry.fits_of_room_le ?_ e.lacks_nul
  cases e with
  | refused client amount align status bytes pages => exact room_refused_le ..
  | usage stage bytes pages => exact room_usage_le he bytes pages
  | _ => exact Nat.le_of_ble_eq_true rfl

lemma line_entry {e : Event} (he : e.level ≠ .info) : e.entry.line = e.message.bytes := by
  have hshort : e.IsShort := by
    cases e with
    | usage stage bytes pages => exact absurd rfl he
    | _ => trivial
  exact Entry.line_of_fits (fits_of_isShort hshort)

section

variable {start stop pageBytes addr asked taken amount align bytes pages : Word}
variable {start' stop' pageBytes' addr' asked' taken' amount' align' bytes' pages' : Word}
variable {r r' : Region} {l l' : Layout} {client client' : Client} {status status' : Status}

/-- The two kinds of grant begin with different bytes. -/
lemma bytes_bytesGranted_ne :
    (bytesGranted l addr).message.bytes ≠ (pagesGranted asked taken addr').message.bytes := by
  intro h
  have hstart : Bytes.ofString "early arena: alloc " = Bytes.ofString "early arena: alloc_" :=
    congrArg (List.take 19) h
  exact absurd hstart (by decide)

/-- The two kinds of refusal begin with different bytes. -/
lemma bytes_extensionRefused_ne :
    (extensionRefused r).message.bytes ≠
      (refused client amount align status bytes pages).message.bytes := by
  intro h
  have hstart : Bytes.ofString "early arena: ad" = Bytes.ofString "early arena: al" := by
    cases client <;> exact congrArg (List.take 15) h
  exact absurd hstart (by decide)

lemma opened_eq_of_bytes_eq
    (h : (opened start stop pageBytes).message.bytes =
      (opened start' stop' pageBytes').message.bytes) :
    opened start stop pageBytes = opened start' stop' pageBytes' := by
  have hwording : Message.SameWording (opened start stop pageBytes).message
      (opened start' stop' pageBytes').message :=
    .text _ (.hex _ _ rfl rfl (.text _ (.hex _ _ rfl rfl (.text _ (.decimal _ _ rfl rfl .nil)))))
  cases hwording.eq_of_bytes_eq h
  rfl

lemma extensionRefused_eq_of_bytes_eq
    (h : (extensionRefused r).message.bytes = (extensionRefused r').message.bytes) :
    extensionRefused r = extensionRefused r' := by
  have hwording : Message.SameWording (extensionRefused r).message (extensionRefused r').message :=
    .text _ (.hex _ _ rfl rfl (.text _ (.decimal _ _ rfl rfl (.text _ .nil))))
  cases r
  cases r'
  cases hwording.eq_of_bytes_eq h
  rfl

lemma bytesGranted_eq_of_bytes_eq
    (h : (bytesGranted l addr).message.bytes = (bytesGranted l' addr').message.bytes) :
    bytesGranted l addr = bytesGranted l' addr' := by
  have hwording : Message.SameWording (bytesGranted l addr).message
      (bytesGranted l' addr').message :=
    .text _ (.decimal _ _ rfl rfl (.text _ (.decimal _ _ rfl rfl (.text _
      (.hex _ _ rfl rfl .nil)))))
  cases l
  cases l'
  cases hwording.eq_of_bytes_eq h
  rfl

lemma pagesGranted_eq_of_bytes_eq
    (h : (pagesGranted asked taken addr).message.bytes =
      (pagesGranted asked' taken' addr').message.bytes) :
    pagesGranted asked taken addr = pagesGranted asked' taken' addr' := by
  have hwording : Message.SameWording (pagesGranted asked taken addr).message
      (pagesGranted asked' taken' addr').message :=
    .text _ (.decimal _ _ rfl rfl (.text _ (.decimal _ _ rfl rfl (.text _
      (.hex _ _ rfl rfl .nil)))))
  cases hwording.eq_of_bytes_eq h
  rfl

lemma refused_eq_of_bytes_eq
    (h : (refused client amount align status bytes pages).message.bytes =
      (refused client' amount' align' status' bytes' pages').message.bytes) :
    refused client amount align status bytes pages =
      refused client' amount' align' status' bytes' pages' := by
  have hwording : Message.SameWording (refused client amount align status bytes pages).message
      (refused client' amount' align' status' bytes' pages').message :=
    .text _ (.word client.isField_requestName client'.isField_requestName rfl rfl
      (.text _ (.decimal _ _ rfl rfl (.text _ (.decimal _ _ rfl rfl (.text _
        (.word status.isField_name status'.isField_name rfl rfl (.text _
          (.decimal _ _ rfl rfl (.text _ (.decimal _ _ rfl rfl (.text _ .nil))))))))))))
  have hparts := hwording.eq_of_bytes_eq h
  simp only [message, List.cons.injEq, Part.text.injEq, Part.decimal.injEq, true_and,
    and_true] at hparts
  obtain ⟨hname, rfl, rfl, hstatus, rfl, rfl⟩ := hparts
  rw [Client.requestName_inj hname, Status.name_inj hstatus]

end

/-- Beside reports, no two events have the same line at the same level. -/
theorem eq_of_record_eq {e e' : Event} (he : e.level ≠ .info) (h : e.record = e'.record) :
    e = e' := by
  obtain ⟨hlevel, hline⟩ := Prod.mk.inj h
  have he' : e'.level ≠ .info := fun h' => he (hlevel.trans h')
  have hbytes : e.message.bytes = e'.message.bytes := by
    rw [← line_entry he, ← line_entry he', hline]
  -- the level leaves at most one other kind, and that one begins with different bytes
  cases e with
  | opened =>
    cases e' with
    | opened => exact opened_eq_of_bytes_eq hbytes
    | _ => exact absurd hlevel (of_decide_eq_false rfl)
  | extensionRefused =>
    cases e' with
    | extensionRefused => exact extensionRefused_eq_of_bytes_eq hbytes
    | refused => exact absurd hbytes bytes_extensionRefused_ne
    | _ => exact absurd hlevel (of_decide_eq_false rfl)
  | bytesGranted =>
    cases e' with
    | bytesGranted => exact bytesGranted_eq_of_bytes_eq hbytes
    | pagesGranted => exact absurd hbytes bytes_bytesGranted_ne
    | _ => exact absurd hlevel (of_decide_eq_false rfl)
  | pagesGranted =>
    cases e' with
    | pagesGranted => exact pagesGranted_eq_of_bytes_eq hbytes
    | bytesGranted => exact absurd hbytes.symm bytes_bytesGranted_ne
    | _ => exact absurd hlevel (of_decide_eq_false rfl)
  | refused =>
    cases e' with
    | refused => exact refused_eq_of_bytes_eq hbytes
    | extensionRefused => exact absurd hbytes.symm bytes_extensionRefused_ne
    | _ => exact absurd hlevel (of_decide_eq_false rfl)
  | usage => exact absurd rfl he

lemma eq_of_map_record_eq {es fs : List Event} (hes : ∀ e ∈ es, e.level ≠ .info)
    (h : es.map record = fs.map record) : es = fs := by
  induction es generalizing fs with
  | nil => exact (List.map_eq_nil_iff.1 h.symm).symm
  | cons e es ih =>
    obtain ⟨he, hes⟩ := List.forall_mem_cons.1 hes
    obtain ⟨f, fs, rfl, hfirst, hrest⟩ := List.map_eq_cons_iff.1 h.symm
    rw [eq_of_record_eq he hfirst.symm, ih hes hrest.symm]

end Event

/-! ## Giving pages back -/

/-- What is said when pages are given back has room in a panic. -/
lemma length_releasePagesMessage_le (addr count : Word) :
    (releasePagesMessage addr count).bytes.length ≤ Entry.panicRoom :=
  (Message.length_bytes_le _).trans (Nat.le_of_ble_eq_true rfl)

/-- Nothing is lost when a panic says it. -/
lemma line_panic_releasePages (addr count : Word) :
    (Entry.panic (releasePagesMessage addr count)).line =
      Bytes.ofString "panic: " ++ (releasePagesMessage addr count).bytes := by
  have hnul : Bytes.nul ∉ (releasePagesMessage addr count).bytes :=
    Message.nul_notMem_bytes (of_decide_eq_true rfl)
  rw [Entry.line_panic, List.take_of_length_le (length_releasePagesMessage_le addr count),
    Bytes.untilNul_of_notMem hnul]

end Arena

end EarlyMemory
