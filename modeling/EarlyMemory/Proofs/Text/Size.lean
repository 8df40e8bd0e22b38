import Mathlib.Data.Nat.Digits.Defs
import Mathlib.Data.UInt
import EarlyMemory.Proofs.Text.Line
import EarlyMemory.Text.Size

/-!
# The grammar of sizes

`Numeral` says which texts are numerals and what number each stands for: blanks, perhaps a sign, and
at least one decimal digit up to the end. A text is read as a size exactly if it is a numeral of a
number other than zero (`read?_eq_some_iff`), and the size is never zero (`ne_zero_of_read?`).

The reader takes a text apart and looks at all digits together. A conversion that goes over the
digits once, in the words, has to notice on the way that the number has become too great
(`Scan.step`); it answers with a word and with the text that it has left over, and three tests on
these decide (`scanInto`). Both come to the same (`scanInto_eq`).
-/

namespace EarlyMemory.Size

/-! ## Numerals -/

/-- The bytes that may stand before a numeral. -/
def blanks : Bytes := [0x20, 0x09, 0x0A, 0x0B, 0x0C, 0x0D]

/-- The ways to write a sign; no sign at all is a plus. -/
inductive Sign.Mark : Sign → Bytes → Prop where
  | none : Mark .plus []
  | plus : Mark .plus (Bytes.ofString "+")
  | minus : Mark .minus (Bytes.ofString "-")

/-- The text is a numeral of this number: blanks, a sign and decimal digits, the most significant
first. There may be zeros in front. -/
inductive Numeral : Bytes → Sign → ℕ → Prop where
  | intro (blank : Bytes) {sign : Sign} {mark : Bytes} (digits : List ℕ)
      (hblank : ∀ b ∈ blank, b ∈ blanks) (hmark : sign.Mark mark) (hnonempty : digits ≠ [])
      (hdigits : ∀ d ∈ digits, d < 10) :
      Numeral (blank ++ mark ++ digits.map Bytes.digit) sign (Nat.ofDigits 10 digits.reverse)

/-- The size that a numeral stands for: too great a number is the greatest size, and any other
negative one is taken from `2 ^ 64`. -/
def Sign.size (sign : Sign) (n : ℕ) : ℕ :=
  if 2 ^ 64 ≤ n then 2 ^ 64 - 1
  else match sign with
    | .plus => n
    | .minus => 2 ^ 64 - n

lemma Sign.size_ne_zero (sign : Sign) {n : ℕ} (hn : n ≠ 0) : sign.size n ≠ 0 := by
  unfold size
  split
  · decide
  · cases sign with
    | plus => exact hn
    | minus =>
      show 2 ^ 64 - n ≠ 0
      omega

/-- The reader's word is this size. -/
lemma Sign.toNat_apply (sign : Sign) {n : ℕ} (hn : n ≠ 0) : (sign.apply n).toNat = sign.size n := by
  have hgreatest : Word.greatest.toNat = 2 ^ 64 - 1 := rfl
  unfold apply size
  by_cases hfits : n < 2 ^ 64
  · rw [if_neg (by omega), if_neg (by omega)]
    have hword : (UInt64.ofNat n).toNat = n := by
      rw [UInt64.toNat_ofNat', Nat.mod_eq_of_lt hfits]
    cases sign with
    | plus => exact hword
    | minus =>
      show (-UInt64.ofNat n).toNat = 2 ^ 64 - n
      rw [UInt64.toNat_neg, hword, UInt64.size]
      omega
  · rw [if_pos (by omega), if_pos (by omega), hgreatest]

/-- A signed number other than zero is not read as zero. -/
lemma apply_ne_zero (sign : Sign) {n : ℕ} (hn : n ≠ 0) : sign.apply n ≠ 0 := by
  intro hzero
  have hsize := sign.toNat_apply hn
  rw [hzero, UInt64.toNat_zero] at hsize
  exact sign.size_ne_zero hn hsize.symm

/-! ## Bytes -/

lemma isBlank_iff (b : UInt8) : isBlank b = true ↔ b ∈ blanks := by
  simp only [isBlank, blanks, Bool.or_eq_true, Bool.and_eq_true, beq_iff_eq, decide_eq_true_eq,
    List.mem_cons, List.not_mem_nil, or_false, UInt8.le_iff_toNat_le, ← UInt8.toNat_inj,
    UInt8.reduceToNat]
  omega

lemma isDigit_iff (b : UInt8) : isDigit b = true ↔ ∃ d < 10, b = Bytes.digit d := by
  simp only [isDigit, Bool.and_eq_true, decide_eq_true_eq, UInt8.le_iff_toNat_le,
    UInt8.reduceToNat]
  constructor
  · rintro ⟨hlow, hhigh⟩
    refine ⟨b.toNat - 48, by omega, ?_⟩
    rw [Bytes.digit, if_pos (by omega), ← UInt8.toNat_inj, UInt8.toNat_ofNat']
    omega
  · rintro ⟨d, hd, rfl⟩
    rw [Bytes.digit, if_pos hd, UInt8.toNat_ofNat']
    omega

/-- The digits are the bytes that the reader takes for digits. -/
lemma isDigit_digit {d : ℕ} (hd : d < 10) : isDigit (Bytes.digit d) = true :=
  (isDigit_iff _).2 ⟨d, hd, rfl⟩

lemma exists_digits_of_all_isDigit {text : Bytes} (h : ∀ b ∈ text, isDigit b = true) :
    ∃ digits : List ℕ, (∀ d ∈ digits, d < 10) ∧ text = digits.map Bytes.digit := by
  induction text with
  | nil => exact ⟨[], by simp, rfl⟩
  | cons b text ih =>
    obtain ⟨hb, htext⟩ := List.forall_mem_cons.1 h
    obtain ⟨d, hd, rfl⟩ := (isDigit_iff b).1 hb
    obtain ⟨digits, hdigits, rfl⟩ := ih htext
    exact ⟨d :: digits, List.forall_mem_cons.2 ⟨hd, hdigits⟩, rfl⟩

/-- The byte of a digit, taken from that of zero, is the digit. -/
lemma toNat_digit_sub {d : ℕ} (hd : d < 10) : (Bytes.digit d - 0x30).toNat = d := by
  have hall : ∀ d < 10, (Bytes.digit d - 0x30).toNat = d := by decide
  exact hall d hd

/-- The reader's number is the one that the digits stand for. -/
lemma value_map_digit {digits : List ℕ} (h : ∀ d ∈ digits, d < 10) :
    value (digits.map Bytes.digit) = Nat.ofDigits 10 digits.reverse := by
  rw [value, List.foldl_map, Nat.ofDigits_eq_foldr, List.foldr_reverse]
  apply List.foldl_ext
  intro n d hd
  rw [toNat_digit_sub (h d hd)]
  push_cast
  omega

/-! ## Reading -/

/-- What the reader makes of a text: it drops the blanks, takes the sign, and looks at the rest. -/
lemma read?_eq {text digits : Bytes} {sign : Sign}
    (h : Sign.read (text.dropWhile isBlank) = (sign, digits)) :
    read? text =
      if digits.isEmpty || !digits.all isDigit || value digits == 0 then none
      else some (sign.apply (value digits)) := by
  simp only [read?, h]

lemma Sign.exists_mark {text rest : Bytes} {sign : Sign} (h : Sign.read text = (sign, rest)) :
    ∃ mark, sign.Mark mark ∧ text = mark ++ rest := by
  unfold Sign.read at h
  split at h <;> cases h
  · exact ⟨_, .plus, rfl⟩
  · exact ⟨_, .minus, rfl⟩
  · exact ⟨_, .none, rfl⟩

section

variable {sign : Sign} {mark : Bytes} {digits : List ℕ} (hmark : sign.Mark mark)
  (hnonempty : digits ≠ []) (hdigits : ∀ d ∈ digits, d < 10)

include hmark hnonempty hdigits

/-- A sign in front of digits is read as that sign. -/
lemma Sign.read_append :
    Sign.read (mark ++ digits.map Bytes.digit) = (sign, digits.map Bytes.digit) := by
  have hmarks : ∀ d < 10, Bytes.digit d ≠ 0x2B ∧ Bytes.digit d ≠ 0x2D := by decide
  obtain ⟨d, rest, rfl⟩ := List.exists_cons_of_ne_nil hnonempty
  obtain ⟨hplus, hminus⟩ := hmarks d (hdigits d List.mem_cons_self)
  cases hmark with
  | none => simp [Sign.read, hplus, hminus]
  | plus => rfl
  | minus => rfl

/-- Neither signs nor digits are blank. -/
lemma dropWhile_isBlank {blank : Bytes} (hblank : ∀ b ∈ blank, b ∈ blanks) :
    (blank ++ mark ++ digits.map Bytes.digit).dropWhile isBlank =
      mark ++ digits.map Bytes.digit := by
  have hall : ∀ d < 10, isBlank (Bytes.digit d) = false := by decide
  obtain ⟨d, rest, rfl⟩ := List.exists_cons_of_ne_nil hnonempty
  rw [List.append_assoc,
    List.dropWhile_append_of_pos fun b hb => (isBlank_iff b).2 (hblank b hb)]
  cases hmark with
  | none => exact List.dropWhile_cons_of_neg (by simp [hall d (hdigits d List.mem_cons_self)])
  | plus => rfl
  | minus => rfl

end

/-- A numeral is read as its number, unless that is zero. -/
lemma read?_of_numeral {text : Bytes} {sign : Sign} {n : ℕ} (h : Numeral text sign n) :
    read? text = if n = 0 then none else some (sign.apply n) := by
  cases h with
  | intro blank digits hblank hmark hnonempty hdigits =>
    have hall : (digits.map Bytes.digit).all isDigit = true := by
      simp only [List.all_map, List.all_eq_true]
      exact fun d hd => isDigit_digit (hdigits d hd)
    have hempty : (digits.map Bytes.digit).isEmpty = false := by
      simpa using hnonempty
    have hread := Sign.read_append hmark hnonempty hdigits
    rw [← dropWhile_isBlank hmark hnonempty hdigits hblank] at hread
    simp only [read?_eq hread, hall, hempty, value_map_digit hdigits, Bool.not_true, Bool.or_false,
      Bool.false_or, beq_iff_eq]

/-- Nothing but numerals is read. -/
lemma exists_numeral_of_read? {text : Bytes} {w : Word} (h : read? text = some w) :
    ∃ sign n, Numeral text sign n := by
  rcases hread : Sign.read (text.dropWhile isBlank) with ⟨sign, body⟩
  rw [read?_eq hread] at h
  split at h
  · cases h
  · next hvalid =>
    simp only [Bool.or_eq_true, Bool.not_eq_true', not_or, Bool.not_eq_true,
      Bool.not_eq_false] at hvalid
    obtain ⟨⟨hnonempty, hall⟩, -⟩ := hvalid
    obtain ⟨mark, hmark, hbody⟩ := Sign.exists_mark hread
    obtain ⟨digits, hdigits, rfl⟩ := exists_digits_of_all_isDigit (List.all_eq_true.1 hall)
    have htext : text = text.takeWhile isBlank ++ mark ++ digits.map Bytes.digit := by
      rw [List.append_assoc, ← hbody, List.takeWhile_append_dropWhile]
    rw [htext]
    refine ⟨_, _, .intro _ digits ?_ hmark ?_ hdigits⟩
    · exact fun b hb => (isBlank_iff b).1 (List.mem_takeWhile_imp hb)
    · rintro rfl
      cases hnonempty

/-- A text is read exactly if it is a numeral of a number other than zero. -/
theorem read?_eq_some_iff (text : Bytes) (w : Word) :
    read? text = some w ↔ ∃ sign n, Numeral text sign n ∧ n ≠ 0 ∧ sign.apply n = w := by
  constructor
  · intro h
    obtain ⟨sign, n, hnumeral⟩ := exists_numeral_of_read? h
    rw [read?_of_numeral hnumeral] at h
    split at h
    · cases h
    · next hn => exact ⟨sign, n, hnumeral, hn, Option.some.inj h⟩
  · rintro ⟨sign, n, hnumeral, hn, rfl⟩
    rw [read?_of_numeral hnumeral, if_neg hn]

theorem ne_zero_of_read? {text : Bytes} {w : Word} (h : read? text = some w) : w ≠ 0 := by
  obtain ⟨sign, n, -, hn, rfl⟩ := (read?_eq_some_iff text w).1 h
  exact apply_ne_zero sign hn

/-! ## Scanning in one pass -/

/-- What a scan knows after some digits: their number, as long as it was a word, and whether it has
become too great. -/
structure Scan where
  word : Word := 0
  overflowed : Bool := false

namespace Scan

/-- Whether a number with one more digit is too great for a word, seen before it is computed. -/
def exceeds (word digit : Word) : Bool :=
  Word.greatest / 10 < word || word == Word.greatest / 10 && Word.greatest % 10 < digit

lemma exceeds_iff (word : Word) {digit : Word} (hdigit : digit.toNat < 10) :
    exceeds word digit = true ↔ 2 ^ 64 ≤ 10 * word.toNat + digit.toNat := by
  have hquotient : (Word.greatest / 10).toNat = 1844674407370955161 := rfl
  have hremainder : (Word.greatest % 10).toNat = 5 := rfl
  simp only [exceeds, Bool.or_eq_true, Bool.and_eq_true, decide_eq_true_eq, beq_iff_eq,
    UInt64.lt_iff_toNat_lt, ← UInt64.toNat_inj, hquotient, hremainder]
  omega

/-- One more digit. -/
def step (s : Scan) (b : UInt8) : Scan :=
  let digit := (b - 0x30).toUInt64
  if exceeds s.word digit then { s with overflowed := true }
  else { s with word := 10 * s.word + digit }

/-- The word that a scan ends with. -/
def result (s : Scan) (sign : Sign) : Word :=
  if s.overflowed then Word.greatest
  else match sign with
    | .plus => s.word
    | .minus => -s.word

/-- The scan has gone over the digits of this number. -/
structure Counts (s : Scan) (n : ℕ) : Prop where
  overflowed_iff : s.overflowed = true ↔ 2 ^ 64 ≤ n
  toNat_word : n < 2 ^ 64 → s.word.toNat = n

lemma counts_zero : Counts {} 0 := ⟨by decide, fun _ => rfl⟩

/-- One more digit makes ten times the number and the digit. -/
lemma Counts.step {s : Scan} {n : ℕ} (h : s.Counts n) {b : UInt8} (hb : isDigit b = true) :
    (s.step b).Counts (10 * n + (b - 0x30).toNat) := by
  have hdigit : (b - 0x30).toUInt64.toNat = (b - 0x30).toNat := UInt8.toNat_toUInt64 _
  have hlt : (b - 0x30).toNat < 10 := by
    obtain ⟨d, hd, rfl⟩ := (isDigit_iff b).1 hb
    rwa [toNat_digit_sub hd]
  have hexceeds := exceeds_iff s.word (hdigit.trans_lt hlt)
  rw [hdigit] at hexceeds
  unfold Scan.step
  simp only
  by_cases hn : n < 2 ^ 64
  · rw [h.toNat_word hn] at hexceeds
    by_cases hnext : 2 ^ 64 ≤ 10 * n + (b - 0x30).toNat
    · rw [if_pos (hexceeds.2 hnext)]
      exact ⟨iff_of_true rfl hnext, fun hword => absurd hnext (Nat.not_le.2 hword)⟩
    · have hflag : ¬ s.overflowed = true := by
        rw [h.overflowed_iff]
        omega
      have hten : (10 : Word).toNat = 10 := rfl
      rw [if_neg (mt hexceeds.1 hnext)]
      refine ⟨iff_of_false hflag hnext, fun hword => ?_⟩
      rw [UInt64.toNat_add, UInt64.toNat_mul, hdigit, h.toNat_word hn, hten]
      omega
  · -- a number that is no word stays none, and the scan does not forget it
    have hflag : s.overflowed = true := h.overflowed_iff.2 (by omega)
    refine ⟨iff_of_true ?_ (by omega), fun hword => by omega⟩
    split
    · rfl
    · exact hflag

/-- Digits that follow make the number longer, one after the other. -/
lemma Counts.foldl {s : Scan} {n : ℕ} (h : s.Counts n) {digits : Bytes}
    (hdigits : ∀ b ∈ digits, isDigit b = true) :
    (digits.foldl Scan.step s).Counts (digits.foldl (fun n d => 10 * n + (d - 0x30).toNat) n) := by
  induction digits generalizing s n with
  | nil => exact h
  | cons b digits ih =>
    obtain ⟨hb, hdigits⟩ := List.forall_mem_cons.1 hdigits
    exact ih (h.step hb) hdigits

/-- A scan over digits comes to their number. -/
lemma counts_foldl {digits : Bytes} (hdigits : ∀ b ∈ digits, isDigit b = true) :
    (digits.foldl Scan.step {}).Counts (value digits) :=
  counts_zero.foldl hdigits

/-- What a scan ends with is what its number is read as. -/
lemma Counts.result_eq {s : Scan} {n : ℕ} (h : s.Counts n) (sign : Sign) :
    s.result sign = sign.apply n := by
  have hgreatest : Word.greatest.toNat = 2 ^ 64 - 1 := rfl
  unfold result Sign.apply
  by_cases hn : n < 2 ^ 64
  · have hword : s.word = .ofNat n := by
      rw [← UInt64.toNat_inj, h.toNat_word hn, UInt64.toNat_ofNat', Nat.mod_eq_of_lt hn]
    rw [if_neg (by rw [h.overflowed_iff]; omega), if_neg (by omega)]
    cases sign with
    | plus => exact hword
    | minus => exact congrArg (- ·) hword
  · rw [if_pos (h.overflowed_iff.2 (by omega)), if_pos (by omega)]

end Scan

/-- Converts the numeral at the front of a text, and gives back what is behind it. If there is none,
the value is zero and the whole text is given back. -/
def convert (text : Bytes) : Word × Bytes :=
  let (sign, body) := Sign.read (text.dropWhile isBlank)
  let digits := body.takeWhile isDigit
  if digits.isEmpty then (0, text)
  else ((digits.foldl Scan.step {}).result sign, body.dropWhile isDigit)

/-- Converts a text in place of an earlier size. The earlier size stays if nothing was converted, if
something is left over, or if the value is zero. -/
def scanInto (text : Bytes) (prior : Word) : Bool × Word :=
  let (value, rest) := convert text
  if rest == text || !rest.isEmpty || value == 0 then (false, prior) else (true, value)

section

variable {text body : Bytes} {sign : Sign}
  (hread : Sign.read (text.dropWhile isBlank) = (sign, body))

include hread

/-- Where only digits are left, they are converted. -/
lemma convert_of_digits (hnonempty : body ≠ []) (hall : ∀ b ∈ body, isDigit b = true) :
    convert text = (sign.apply (value body), []) := by
  simp only [convert, hread, List.takeWhile_eq_self_iff.2 hall, List.dropWhile_eq_nil_iff.2 hall,
    (Scan.counts_foldl hall).result_eq]
  exact if_neg (by simpa using hnonempty)

/-- Where there are no digits, or more than digits, the whole text or its end is left over. -/
lemma rest_convert_of_not_digits (h : ¬ (body ≠ [] ∧ ∀ b ∈ body, isDigit b = true)) :
    (convert text).2 = text ∨ (convert text).2 ≠ [] := by
  simp only [convert, hread]
  split
  · exact .inl rfl
  · next hdigits =>
    refine .inr fun hrest => h ⟨?_, List.dropWhile_eq_nil_iff.1 hrest⟩
    rintro rfl
    exact hdigits rfl

end

/-- The scan accepts what the reader reads, and leaves the same size. -/
theorem scanInto_eq (text : Bytes) (prior : Word) :
    scanInto text prior = ((read? text).isSome, (read? text).getD prior) := by
  rcases hread : Sign.read (text.dropWhile isBlank) with ⟨sign, body⟩
  rw [read?_eq hread]
  by_cases h : body ≠ [] ∧ ∀ b ∈ body, isDigit b = true
  · obtain ⟨hnonempty, hall⟩ := h
    have hbody : (body.isEmpty || !body.all isDigit) = false := by
      simp [hnonempty, List.all_eq_true.2 hall]
    have htext : ([] == text) = false := by
      rw [beq_eq_false_iff_ne]
      rintro rfl
      cases hread
      exact hnonempty rfl
    simp only [scanInto, convert_of_digits hread hnonempty hall, hbody, htext, List.isEmpty_nil,
      Bool.not_true, Bool.false_or, beq_iff_eq]
    -- what is left to test is the value, as a word or as a number
    by_cases hvalue : value body = 0
    · have hzero : sign.apply (value body) = 0 := by
        rw [hvalue]
        cases sign <;> rfl
      rw [if_pos hzero, if_pos hvalue]
      rfl
    · rw [if_neg (apply_ne_zero sign hvalue), if_neg hvalue]
      rfl
  · have hbody : (body.isEmpty || !body.all isDigit) = true := by
      by_contra hdigits
      simp only [Bool.or_eq_true, Bool.not_eq_true', not_or, Bool.not_eq_true, Bool.not_eq_false,
        List.isEmpty_eq_false_iff, List.all_eq_true] at hdigits
      exact h hdigits
    have hrest : ((convert text).2 == text || !(convert text).2.isEmpty) = true := by
      rcases rest_convert_of_not_digits hread h with hwhole | hend
      · simp [hwhole]
      · simp [hend]
    simp only [scanInto, hbody, hrest, Bool.true_or, if_true]
    rfl

/-! ## Sizes -/

lemma isSome_read?_iff (text : Bytes) :
    (read? text).isSome = true ↔ ∃ sign n, Numeral text sign n ∧ n ≠ 0 := by
  rw [Option.isSome_iff_exists]
  constructor
  · rintro ⟨w, hread⟩
    obtain ⟨sign, n, hnumeral, hn, -⟩ := (read?_eq_some_iff text w).1 hread
    exact ⟨sign, n, hnumeral, hn⟩
  · rintro ⟨sign, n, hnumeral, hn⟩
    exact ⟨_, (read?_eq_some_iff text _).2 ⟨sign, n, hnumeral, hn, rfl⟩⟩

/-- A text takes the place of a prior size exactly if it is a numeral of a number other than zero.
What is then in place is the size of that numeral, which is not zero; otherwise the prior size
stays. A scan in one pass comes to the same. -/
theorem accepted_iff_numeral (text : Bytes) (prior : Word) :
    let accepted := (read? text).isSome
    let after := (read? text).getD prior
    (accepted, after) = scanInto text prior ∧
      (accepted = true ↔ ∃ sign n, Numeral text sign n ∧ n ≠ 0) ∧
      (∀ sign n, Numeral text sign n → n ≠ 0 → after.toNat = sign.size n) ∧
      (accepted = true → after ≠ 0) ∧ (accepted = false → after = prior) := by
  intro accepted after
  refine ⟨(scanInto_eq text prior).symm, isSome_read?_iff text, ?_, ?_, ?_⟩
  · intro sign n hnumeral hn
    show ((read? text).getD prior).toNat = sign.size n
    rw [read?_of_numeral hnumeral, if_neg hn, Option.getD_some, sign.toNat_apply hn]
  · intro haccepted
    obtain ⟨w, hread⟩ := Option.isSome_iff_exists.1 haccepted
    show (read? text).getD prior ≠ 0
    rw [hread, Option.getD_some]
    exact ne_zero_of_read? hread
  · intro hrefused
    show (read? text).getD prior = prior
    rw [Option.isNone_iff_eq_none.1 (Option.isSome_eq_false_iff.1 hrefused), Option.getD_none]

end EarlyMemory.Size
