/-!
# Bytes of text

Log lines have fixed numbers of bytes and may be cut inside a character, so text is a list of
bytes. `Bytes.ofString` gives the bytes of a string in UTF-8. Who is handed a text without its
length reads it up to its first byte zero, `Bytes.untilNul`.
-/

namespace EarlyMemory

/-- Text as it is stored and printed. -/
abbrev Bytes := List UInt8

namespace Bytes

/-- The characters one after the other, each in UTF-8. -/
def ofChars (cs : List Char) : Bytes := cs.flatMap String.utf8EncodeChar

/-- The string in UTF-8. -/
def ofString (s : String) : Bytes := ofChars s.toList

@[simp] theorem ofChars_append (cs ds : List Char) :
    ofChars (cs ++ ds) = ofChars cs ++ ofChars ds := by
  simp [ofChars]

theorem ofString_append (s t : String) : ofString (s ++ t) = ofString s ++ ofString t := by
  simp [ofString]

/-! ## The end of a text -/

/-- The byte that ends a text. -/
def nul : UInt8 := 0x00

/-- The text as far as it is read by who does not know its length. -/
def untilNul (t : Bytes) : Bytes := t.takeWhile (· != nul)

theorem nul_notMem_untilNul (t : Bytes) : nul ∉ t.untilNul := by
  have hkept : ∀ b ∈ t.untilNul, (b != nul) = true := List.all_eq_true.1 List.all_takeWhile
  exact fun h => absurd (hkept nul h) (by decide)

/-- A text without the byte zero is read whole. -/
theorem untilNul_of_notMem {t : Bytes} (h : nul ∉ t) : t.untilNul = t := by
  induction t with
  | nil => rfl
  | cons b t ih =>
    rw [List.mem_cons, not_or] at h
    have hfirst : untilNul (b :: t) = b :: untilNul t :=
      List.takeWhile_cons_of_pos (bne_iff_ne.2 (Ne.symm h.1))
    rw [hfirst, ih h.2]

theorem length_untilNul_le (t : Bytes) : t.untilNul.length ≤ t.length :=
  (List.takeWhile_prefix _).length_le

example : untilNul (ofString "a" ++ [nul] ++ ofString "b") = ofString "a" := by decide

end Bytes

end EarlyMemory
