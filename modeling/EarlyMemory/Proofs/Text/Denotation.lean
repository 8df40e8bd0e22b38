import EarlyMemory.Proofs.Text.Size

/-!
# The integers that sizes stand for

A numeral denotes one integer (`Denotes.unique`), which may be below zero or too great for a word.
The reader looks for neither: it reads every integer but zero, as the word that `asRead` gives
(`exists_read?_of_denotes`). Negative integers wrap, and great ones are cut off. So the texts that
are misread are those whose integer is no word, all of them, and every other text is read as what
it says or refused (`faithful_iff_isWord`). The numeral of minus one is misread
(`not_faithful_minus_one`).
-/

namespace EarlyMemory.Size

/-! ## Integers -/

/-- The integer of a signed number. -/
def Sign.toInt : Sign → ℕ → ℤ
  | .plus, n => n
  | .minus, n => -n

/-- The text is a numeral of this integer. -/
def Denotes (text : Bytes) (z : ℤ) : Prop := ∃ sign n, Numeral text sign n ∧ sign.toInt n = z

/-- The integer fits a word. -/
def IsWord (z : ℤ) : Prop := 0 ≤ z ∧ z < 2 ^ 64

/-- What the reader makes of an integer: negative ones wrap, and those as great as the number of
words, of either sign, become the greatest word. -/
def asRead (z : ℤ) : ℤ := if z.natAbs < 2 ^ 64 then z % 2 ^ 64 else 2 ^ 64 - 1

/-- The words are the integers that are read as themselves. -/
lemma asRead_eq_self_iff (z : ℤ) : asRead z = z ↔ IsWord z := by
  unfold asRead IsWord
  split <;> omega

lemma Sign.toInt_eq_zero_iff (sign : Sign) (n : ℕ) : sign.toInt n = 0 ↔ n = 0 := by
  cases sign with
  | plus => exact Int.natCast_eq_zero
  | minus => exact neg_eq_zero.trans Int.natCast_eq_zero

/-- The size of a signed number is what the reader makes of its integer. -/
lemma Sign.size_eq_asRead (sign : Sign) {n : ℕ} (hn : n ≠ 0) :
    (sign.size n : ℤ) = asRead (sign.toInt n) := by
  have habs : (sign.toInt n).natAbs = n := by
    cases sign with
    | plus => exact Int.natAbs_natCast n
    | minus => exact (Int.natAbs_neg _).trans (Int.natAbs_natCast n)
  unfold asRead size
  rw [habs]
  by_cases hfits : n < 2 ^ 64
  · rw [if_pos hfits, if_neg (by omega)]
    cases sign with
    | plus =>
      show (n : ℤ) = (n : ℤ) % 2 ^ 64
      omega
    | minus =>
      show ((2 ^ 64 - n : ℕ) : ℤ) = -(n : ℤ) % 2 ^ 64
      omega
  · rw [if_neg hfits, if_pos (by omega)]
    rfl

/-! ## Numerals -/

/-- The reader takes a numeral apart into its sign and its digits. -/
lemma Numeral.exists_body {text : Bytes} {sign : Sign} {n : ℕ} (h : Numeral text sign n) :
    ∃ body, Sign.read (text.dropWhile isBlank) = (sign, body) ∧ value body = n := by
  cases h with
  | intro blank digits hblank hmark hnonempty hdigits =>
    refine ⟨digits.map Bytes.digit, ?_, value_map_digit hdigits⟩
    rw [dropWhile_isBlank hmark hnonempty hdigits hblank,
      Sign.read_append hmark hnonempty hdigits]

/-- A text is a numeral of one integer at most. -/
lemma Denotes.unique {text : Bytes} {z z' : ℤ} (h : Denotes text z) (h' : Denotes text z') :
    z = z' := by
  obtain ⟨sign, n, hnumeral, rfl⟩ := h
  obtain ⟨sign', n', hnumeral', rfl⟩ := h'
  obtain ⟨body, hbody, rfl⟩ := hnumeral.exists_body
  obtain ⟨body', hbody', rfl⟩ := hnumeral'.exists_body
  cases hbody.symm.trans hbody'
  rfl

/-- Every integer but zero is read. -/
lemma exists_read?_of_denotes {text : Bytes} {z : ℤ} (h : Denotes text z) (hz : z ≠ 0) :
    ∃ w, read? text = some w ∧ (w.toNat : ℤ) = asRead z := by
  obtain ⟨sign, n, hnumeral, rfl⟩ := h
  have hn : n ≠ 0 := mt (sign.toInt_eq_zero_iff n).2 hz
  refine ⟨sign.apply n, ?_, ?_⟩
  · rw [read?_of_numeral hnumeral, if_neg hn]
  · rw [sign.toNat_apply hn, sign.size_eq_asRead hn]

/-- Nothing else is read. -/
lemma exists_denotes_of_read? {text : Bytes} {w : Word} (h : read? text = some w) :
    ∃ z, Denotes text z ∧ (w.toNat : ℤ) = asRead z := by
  obtain ⟨sign, n, hnumeral, hn, rfl⟩ := (read?_eq_some_iff text w).1 h
  refine ⟨sign.toInt n, ⟨sign, n, hnumeral, rfl⟩, ?_⟩
  rw [sign.toNat_apply hn, sign.size_eq_asRead hn]

/-! ## Misreading -/

/-- No number is misread. A size that takes the place of a prior one is the integer that the text
denotes, and a numeral of no word is refused, so that the prior size stays. -/
structure Faithful (text : Bytes) (prior : Word) (accepted : Bool) (after : Word) : Prop where
  denotes_iff : accepted = true → ∀ z, Denotes text z ↔ z = after.toNat
  kept : ∀ z, Denotes text z → ¬ IsWord z → accepted = false ∧ after = prior

/-- A text is not misread exactly if the integer that it denotes, if it denotes one, is a word. Any
other integer is accepted all the same, as the word that the reader makes of it. -/
theorem faithful_iff_isWord (text : Bytes) (prior : Word) :
    let accepted := (read? text).isSome
    let after := (read? text).getD prior
    (Faithful text prior accepted after ↔ ∀ z, Denotes text z → IsWord z) ∧
      ∀ z, Denotes text z → ¬ IsWord z →
        accepted = true ∧ (after.toNat : ℤ) = asRead z ∧ (after.toNat : ℤ) ≠ z := by
  intro accepted after
  have hread : ∀ z, Denotes text z → ¬ IsWord z →
      accepted = true ∧ (after.toNat : ℤ) = asRead z ∧ (after.toNat : ℤ) ≠ z := by
    intro z hz hword
    have hne : z ≠ 0 := by
      rintro rfl
      exact hword ⟨le_rfl, by decide⟩
    obtain ⟨w, hw, hvalue⟩ := exists_read?_of_denotes hz hne
    simp only [accepted, after, hw, Option.isSome_some, Option.getD_some, hvalue]
    exact ⟨trivial, trivial, mt (asRead_eq_self_iff z).1 hword⟩
  refine ⟨⟨?_, ?_⟩, hread⟩
  · intro hfaithful z hz
    by_contra hword
    have hrefused := (hfaithful.kept z hz hword).1
    rw [(hread z hz hword).1] at hrefused
    cases hrefused
  · intro hwords
    refine ⟨?_, fun z hz hword => absurd (hwords z hz) hword⟩
    intro haccepted
    obtain ⟨w, hw⟩ := Option.isSome_iff_exists.1 haccepted
    obtain ⟨z, hz, hvalue⟩ := exists_denotes_of_read? hw
    rw [(asRead_eq_self_iff z).2 (hwords z hz)] at hvalue
    simp only [after, hw, Option.getD_some, hvalue]
    exact fun z' => ⟨fun hz' => hz'.unique hz, fun heq => heq ▸ hz⟩

/-- A minus sign before a one: the text denotes an integer below zero, and is accepted as the
greatest word in place of the prior size. -/
theorem not_faithful_minus_one :
    let text := Bytes.ofString "-1"
    Denotes text (-1) ∧ read? text = some Word.greatest ∧
      ¬ Faithful text 256 (read? text).isSome ((read? text).getD 256) := by
  intro text
  have hdenotes : Denotes text (-1) :=
    ⟨.minus, 1, .intro [] [1] (by simp) .minus (by simp) (by simp), rfl⟩
  have hread : read? text = some Word.greatest := by decide
  refine ⟨hdenotes, hread, fun hfaithful => ?_⟩
  have hrefused := (hfaithful.kept (-1) hdenotes (by simp [IsWord])).1
  rw [hread] at hrefused
  cases hrefused

/-- A negative numeral may be read as any size, here as the default one. -/
example : read? (Bytes.ofString "-18446744073709551360") = some 256 := by decide

end EarlyMemory.Size
