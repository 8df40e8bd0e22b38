import Mathlib.Algebra.GroupWithZero.Nat
import Mathlib.Data.List.DropRight
import Mathlib.Data.Nat.Notation
import EarlyMemory.Text.Message

/-!
# Lines of text

A line is text without a line feed. Numerals have no control characters, and are short: a word has
at most `20` decimal digits and `16` hexadecimal ones. So the length of a message is bounded by its
wording alone (`Message.length_bytes_le`), and a message lacks a control character as soon as its
wording does (`Message.notMem_bytes`). That holds of the byte that ends a line, and of the one that
ends a text.

Where every line is followed by a line feed, as on a console, `Bytes.lastLine` reads the last line
back (`Bytes.lastLine_append`). `Bytes.withoutLines` deletes lines by the words that they begin
with; a line feed parts a text into two that lose their lines apart (`Bytes.otherLines_append`).
-/

namespace EarlyMemory

namespace Bytes

/-- The byte that ends a line. -/
def lineFeed : UInt8 := 0x0A

/-- A text of other bytes has no control character. -/
lemma notMem_of_all {t : Bytes} (h : t.all (0x20 ≤ ·) = true) {b : UInt8} (hb : b < 0x20) :
    b ∉ t := by
  intro hmem
  exact UInt8.not_le.2 hb (of_decide_eq_true (List.all_eq_true.1 h b hmem))

/-! ## Digits -/

/-- The byte of a digit. -/
def digit (d : ℕ) : UInt8 := .ofNat (if d < 10 then 0x30 + d else 0x57 + d)

lemma utf8EncodeChar_digitChar {d : ℕ} (h : d < 16) :
    String.utf8EncodeChar d.digitChar = [digit d] := by
  have hall : ∀ d < 16, String.utf8EncodeChar (Nat.digitChar d) = [digit d] := by decide
  exact hall d h

/-- A numeral is made of the digits below its base. -/
lemma exists_digitChar_of_mem_toDigits {base n : ℕ} (hbase : 1 < base) {c : Char}
    (h : c ∈ base.toDigits n) : ∃ d < base, c = d.digitChar := by
  induction n using Nat.strong_induction_on with
  | _ n ih =>
    rw [Nat.toDigits_eq_if hbase] at h
    split at h
    · next hlt => exact ⟨n, hlt, List.mem_singleton.1 h⟩
    · next hge =>
      rcases List.mem_append.1 h with hfront | hlast
      · exact ih (n / base) (Nat.div_lt_self (by omega) hbase) hfront
      · exact ⟨n % base, Nat.mod_lt _ (by omega), List.mem_singleton.1 hlast⟩

section

variable {base : ℕ} (hbase : 1 < base) (hle : base ≤ 16) (n : ℕ)

include hbase hle

/-- A numeral has as many bytes as digits. -/
lemma length_ofChars_toDigits : (ofChars (base.toDigits n)).length = (base.toDigits n).length := by
  have hone : ∀ c ∈ base.toDigits n, (String.utf8EncodeChar c).length = 1 := by
    intro c hc
    obtain ⟨d, hd, rfl⟩ := exists_digitChar_of_mem_toDigits hbase hc
    rw [utf8EncodeChar_digitChar (by omega), List.length_singleton]
  rw [ofChars, List.length_flatMap, List.map_congr_left hone, List.map_const',
    List.sum_replicate_nat, Nat.mul_one]

/-- All bytes of a numeral are digits. -/
lemma exists_digit_of_mem_ofChars_toDigits {b : UInt8} (h : b ∈ ofChars (base.toDigits n)) :
    ∃ d < 16, b = digit d := by
  obtain ⟨c, hc, hmem⟩ := List.mem_flatMap.1 h
  obtain ⟨d, hd, rfl⟩ := exists_digitChar_of_mem_toDigits hbase hc
  rw [utf8EncodeChar_digitChar (by omega), List.mem_singleton] at hmem
  exact ⟨d, by omega, hmem⟩

/-- No control character is a digit. -/
lemma notMem_ofChars_toDigits {b : UInt8} (hb : b < 0x20) : b ∉ ofChars (base.toDigits n) := by
  have hdigit : ∀ d < 16, 0x20 ≤ digit d := by decide
  intro h
  obtain ⟨d, hd, rfl⟩ := exists_digit_of_mem_ofChars_toDigits hbase hle n h
  exact UInt8.not_le.2 hb (hdigit d hd)

end

end Bytes

/-! ## Numerals -/

namespace Word

lemma length_decimal_le (w : Word) : w.decimal.length ≤ 20 := by
  have hlt := w.toNat_lt
  rw [decimal, Bytes.length_ofChars_toDigits (by omega) (by omega),
    Nat.length_toDigits_le_iff (by omega) (by omega)]
  omega

/-- The `0x` and at most one digit for each four bits. -/
lemma length_hexadecimal_le (w : Word) : w.hexadecimal.length ≤ 18 := by
  have hmark : (Bytes.ofString "0x").length = 2 := by decide
  have hdigits : (Bytes.ofChars (Nat.toDigits 16 w.toNat)).length ≤ 16 := by
    rw [Bytes.length_ofChars_toDigits (by omega) (by omega),
      Nat.length_toDigits_le_iff (by omega) (by omega)]
    exact w.toNat_lt
  unfold hexadecimal
  split
  · decide
  · rw [List.length_append]
    omega

lemma notMem_decimal (w : Word) {b : UInt8} (hb : b < 0x20) : b ∉ w.decimal :=
  Bytes.notMem_ofChars_toDigits (by omega) (by omega) _ hb

lemma notMem_hexadecimal (w : Word) {b : UInt8} (hb : b < 0x20) : b ∉ w.hexadecimal := by
  have hmark : b ∉ Bytes.ofString "0x" := Bytes.notMem_of_all (by decide) hb
  have hzero : b ∉ Bytes.ofString "0" := Bytes.notMem_of_all (by decide) hb
  have hdigits : b ∉ Bytes.ofChars (Nat.toDigits 16 w.toNat) :=
    Bytes.notMem_ofChars_toDigits (by omega) (by omega) _ hb
  unfold hexadecimal
  split
  · exact hzero
  · rw [List.mem_append, not_or]
    exact ⟨hmark, hdigits⟩

end Word

/-! ## Messages -/

/-- The number of bytes that a part needs at most, whatever word is written in it. -/
def Part.room : Part → ℕ
  | text t => t.length
  | decimal _ => 20
  | hex _ => 18

/-- The number of bytes that a message needs at most. -/
def Message.room (m : Message) : ℕ := (m.map Part.room).sum

/-- The fixed text of a part does not have this byte. -/
def Part.Lacks (b : UInt8) : Part → Prop
  | text t => b ∉ t
  | _ => True

instance (b : UInt8) (p : Part) : Decidable (p.Lacks b) :=
  match p with
  | .text t => inferInstanceAs (Decidable (b ∉ t))
  | .decimal _ => .isTrue trivial
  | .hex _ => .isTrue trivial

lemma Part.length_bytes_le (p : Part) : p.bytes.length ≤ p.room := by
  cases p with
  | text t => exact Nat.le_refl _
  | decimal w => exact w.length_decimal_le
  | hex w => exact w.length_hexadecimal_le

lemma Part.notMem_bytes {b : UInt8} (hb : b < 0x20) {p : Part} (h : p.Lacks b) :
    b ∉ p.bytes := by
  cases p with
  | text t => exact h
  | decimal w => exact w.notMem_decimal hb
  | hex w => exact w.notMem_hexadecimal hb

namespace Message

theorem length_bytes_le (m : Message) : m.bytes.length ≤ m.room := by
  induction m with
  | nil => exact Nat.le_refl _
  | cons p m ih =>
    have hpart := p.length_bytes_le
    rw [bytes_cons, List.length_append, room, List.map_cons, List.sum_cons]
    rw [room] at ih
    omega

/-- A control character that the wording lacks is nowhere in the message. -/
theorem notMem_bytes {b : UInt8} (hb : b < 0x20) {m : Message} (h : ∀ p ∈ m, p.Lacks b) :
    b ∉ m.bytes := by
  intro hmem
  obtain ⟨p, hp, hbyte⟩ := List.mem_flatMap.1 hmem
  exact Part.notMem_bytes hb (h p hp) hbyte

lemma nul_notMem_bytes {m : Message} (h : ∀ p ∈ m, p.Lacks Bytes.nul) : Bytes.nul ∉ m.bytes :=
  notMem_bytes (by decide) h

lemma lineFeed_notMem_bytes {m : Message} (h : ∀ p ∈ m, p.Lacks Bytes.lineFeed) :
    Bytes.lineFeed ∉ m.bytes :=
  notMem_bytes (by decide) h

end Message

/-! ## The last line -/

namespace Bytes

/-- The last line of a text in which a line feed follows every line. -/
def lastLine (text : Bytes) : Bytes := text.dropLast.rtakeWhile (· != lineFeed)

/-- The text is made of lines with a line feed after each. -/
def Ended (text : Bytes) : Prop := text = [] ∨ ∃ front, text = front ++ [lineFeed]

lemma Ended.append {text more : Bytes} (h : Ended text) (hmore : Ended more) :
    Ended (text ++ more) := by
  rcases hmore with rfl | ⟨front, rfl⟩
  · rwa [List.append_nil]
  · exact .inr ⟨text ++ front, (List.append_assoc _ _ _).symm⟩

lemma ended_flatMap {α : Type} {f : α → Bytes} (xs : List α) (h : ∀ x ∈ xs, Ended (f x)) :
    Ended (xs.flatMap f) := by
  induction xs with
  | nil => exact .inl rfl
  | cons x xs ih =>
    obtain ⟨hx, hxs⟩ := List.forall_mem_cons.1 h
    rw [List.flatMap_cons]
    exact hx.append (ih hxs)

/-- One more line after others is the last. -/
theorem lastLine_append {text line : Bytes} (htext : Ended text) (hline : lineFeed ∉ line) :
    lastLine (text ++ (line ++ [lineFeed])) = line := by
  have hkeep : ∀ b ∈ line.reverse, (b != lineFeed) = true := by
    intro b hb
    rw [bne_iff_ne]
    rintro rfl
    exact hline (List.mem_reverse.1 hb)
  rw [lastLine, ← List.append_assoc, List.dropLast_concat, List.rtakeWhile, List.reverse_append,
    List.takeWhile_append_of_pos hkeep]
  -- before the line there is nothing, or the line feed of another
  rcases htext with rfl | ⟨front, rfl⟩
  · simp
  · simp

/-! ## Deleting lines -/

/-- The lines of a text that begin with none of these words. -/
def otherLines (words : List Bytes) (text : Bytes) : List Bytes :=
  (text.splitOn lineFeed).filter fun line => !words.any (·.isPrefixOf line)

/-- The text without the lines that begin with one of these words. -/
def withoutLines (words : List Bytes) (text : Bytes) : Bytes :=
  [lineFeed].intercalate (otherLines words text)

example : withoutLines [ofString "x: "] (ofString "x: 1\ny: 2\nx: 3\n") = ofString "y: 2\n" := by
  decide

section

variable (words : List Bytes)

lemma otherLines_append (text more : Bytes) :
    otherLines words (text ++ lineFeed :: more) =
      otherLines words text ++ otherLines words more := by
  unfold otherLines
  rw [List.splitOn_append_cons_self, List.filter_append]

/-- A line that begins with one of the words is deleted. -/
lemma otherLines_line {word line : Bytes} (hword : word ∈ words) (hfront : word <+: line)
    (hline : lineFeed ∉ line) : otherLines words line = [] := by
  have hany : words.any (·.isPrefixOf line) = true :=
    List.any_eq_true.2 ⟨word, hword, List.isPrefixOf_iff_prefix.2 hfront⟩
  rw [otherLines, List.splitOn_eq_singleton hline, List.filter_cons_of_neg (by rw [hany]; decide),
    List.filter_nil]

end

end Bytes

end EarlyMemory
