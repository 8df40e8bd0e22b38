import EarlyMemory.Proofs.Text.Line

/-!
# Reading messages back

A field is text without a separator: a blank, a bracket, a comma or a slash. Numerals are fields,
and no two words have the same numeral (`Word.decimal_inj`, `Word.hexadecimal_inj`). Where a
separator or the end stands behind every field, the fields can be told from what follows
(`Bytes.append_inj_of_isField`). So messages that have the same wording around their fields, and are
printed alike, are the same (`Message.SameWording.eq_of_bytes_eq`).
-/

namespace EarlyMemory

namespace Bytes

/-! ## Fields -/

/-- The bytes that stand between fields. -/
def separators : Bytes := ofString " (),/"

/-- The text can stand in a field. -/
def IsField (t : Bytes) : Prop := ∀ b ∈ t, b ∉ separators

instance (t : Bytes) : Decidable t.IsField :=
  decidable_of_iff (t.all (· ∉ separators) = true) (by simp [IsField])

/-- A field can end before this text: it is empty, or begins with a separator. -/
def endsField (t : Bytes) : Bool := t.head?.all (· ∈ separators)

/-- A field ends where the first separator stands, so two texts that begin with fields have the same
fields and go on alike. -/
theorem append_inj_of_isField {x y xs ys : Bytes} (hx : x.IsField) (hy : y.IsField)
    (hxs : xs.endsField = true) (hys : ys.endsField = true) (h : x ++ xs = y ++ ys) :
    x = y ∧ xs = ys := by
  induction x generalizing y with
  | nil =>
    cases y with
    | nil => exact ⟨rfl, h⟩
    | cons b y =>
      have hhead : xs.head? = some b := congrArg List.head? h
      rw [endsField, hhead] at hxs
      exact absurd (of_decide_eq_true hxs) (hy b List.mem_cons_self)
  | cons a x ih =>
    obtain ⟨ha, hx⟩ := List.forall_mem_cons.1 hx
    cases y with
    | nil =>
      have hhead : ys.head? = some a := (congrArg List.head? h).symm
      rw [endsField, hhead] at hys
      exact absurd (of_decide_eq_true hys) ha
    | cons b y =>
      obtain ⟨-, hy⟩ := List.forall_mem_cons.1 hy
      rw [List.cons_append, List.cons_append, List.cons.injEq] at h
      obtain ⟨hfield, hrest⟩ := ih hx hy h.2
      exact ⟨congrArg₂ List.cons h.1 hfield, hrest⟩

/-! ## Numerals -/

lemma digit_inj {d e : ℕ} (hd : d < 16) (he : e < 16) (h : digit d = digit e) : d = e := by
  have hall : ∀ d < 16, ∀ e < 16, digit d = digit e → d = e := by decide
  exact hall d hd e he h

section

variable {base : ℕ} (hbase : 1 < base) (hle : base ≤ 16)

include hbase hle

lemma isField_ofChars_toDigits (n : ℕ) : IsField (ofChars (base.toDigits n)) := by
  have hdigit : ∀ d < 16, digit d ∉ separators := by decide
  intro b hb
  obtain ⟨d, hd, rfl⟩ := exists_digit_of_mem_ofChars_toDigits hbase hle n hb
  exact hdigit d hd

/-- A numeral is one digit, or the last digit behind the numeral of the rest. -/
lemma ofChars_toDigits_eq (n : ℕ) :
    ofChars (base.toDigits n) =
      if n < base then [digit n] else ofChars (base.toDigits (n / base)) ++ [digit (n % base)] := by
  rw [Nat.toDigits_eq_if hbase]
  split
  · rw [ofChars, List.flatMap_singleton, utf8EncodeChar_digitChar (by omega)]
  · have hmod := Nat.mod_lt n (show 0 < base by omega)
    rw [ofChars_append, ← utf8EncodeChar_digitChar (by omega : n % base < 16)]
    exact congrArg (_ ++ ·) (List.flatMap_singleton _ _)

/-- A numeral of two digits or more is longer than one digit. -/
lemma singleton_ne_append_singleton (x y : UInt8) (n : ℕ) :
    [x] ≠ ofChars (base.toDigits n) ++ [y] := by
  intro h
  have hlength := congrArg List.length h
  have hpos : 0 < (base.toDigits n).length := Nat.length_toDigits_pos
  rw [List.length_append, length_ofChars_toDigits hbase hle, List.length_singleton,
    List.length_singleton] at hlength
  omega

/-- No two numbers have the same numeral. -/
theorem ofChars_toDigits_inj {m n : ℕ}
    (h : ofChars (base.toDigits m) = ofChars (base.toDigits n)) : m = n := by
  induction m using Nat.strong_induction_on generalizing n with
  | _ m ih =>
    have hm := Nat.mod_lt m (show 0 < base by omega)
    have hn := Nat.mod_lt n (show 0 < base by omega)
    rw [ofChars_toDigits_eq hbase hle m, ofChars_toDigits_eq hbase hle n] at h
    split at h
    · split at h
      · exact digit_inj (by omega) (by omega) (List.singleton_inj.1 h)
      · exact absurd h (singleton_ne_append_singleton hbase hle _ _ _)
    · split at h
      · exact absurd h.symm (singleton_ne_append_singleton hbase hle _ _ _)
      · -- the last digits agree, and the numerals before them belong to smaller numbers
        obtain ⟨hfront, hlast⟩ := List.append_inj' h rfl
        have hdiv : m / base = n / base := ih (m / base) (Nat.div_lt_self (by omega) hbase) hfront
        have hmod : m % base = n % base :=
          digit_inj (by omega) (by omega) (List.singleton_inj.1 hlast)
        rw [← Nat.div_add_mod m base, hdiv, hmod, Nat.div_add_mod]

end

end Bytes

/-! ## Words -/

namespace Word

lemma isField_decimal (w : Word) : w.decimal.IsField :=
  Bytes.isField_ofChars_toDigits (by omega) (by omega) _

lemma decimal_inj {v w : Word} (h : v.decimal = w.decimal) : v = w :=
  UInt64.toNat_inj.1 (Bytes.ofChars_toDigits_inj (by omega) (by omega) h)

lemma isField_hexadecimal (w : Word) : w.hexadecimal.IsField := by
  have hmark : (Bytes.ofString "0x").IsField := by decide
  unfold hexadecimal
  split
  · decide
  · exact List.forall_mem_append.2 ⟨hmark, Bytes.isField_ofChars_toDigits (by omega) (by omega) _⟩

/-- Zero lacks the `0x`, so its numeral is shorter than all others. -/
lemma hexadecimal_inj {v w : Word} (h : v.hexadecimal = w.hexadecimal) : v = w := by
  have hzero : ∀ digits : Bytes, Bytes.ofString "0" ≠ Bytes.ofString "0x" ++ digits := by
    intro digits h
    have hlength := congrArg List.length h
    have hone : (Bytes.ofString "0").length = 1 := by decide
    have htwo : (Bytes.ofString "0x").length = 2 := by decide
    rw [List.length_append, hone, htwo] at hlength
    omega
  unfold hexadecimal at h
  split at h
  · next hv =>
    split at h
    · next hw => rw [hv, hw]
    · exact absurd h (hzero _)
  · split at h
    · exact absurd h.symm (hzero _)
    · have hdigits := List.append_cancel_left h
      exact UInt64.toNat_inj.1 (Bytes.ofChars_toDigits_inj (by omega) (by omega) hdigits)

end Word

/-! ## Messages -/

namespace Message

/-- The messages differ at most in fields: in numerals of one kind, or in words. After each field of
either message there is a separator, or the end. -/
inductive SameWording : Message → Message → Prop where
  | nil : SameWording [] []
  | text (t : Bytes) {m n : Message} (h : SameWording m n) :
      SameWording (.text t :: m) (.text t :: n)
  | word {t u : Bytes} {m n : Message} (ht : t.IsField) (hu : u.IsField)
      (hm : m.bytes.endsField = true) (hn : n.bytes.endsField = true) (h : SameWording m n) :
      SameWording (.text t :: m) (.text u :: n)
  | decimal (v w : Word) {m n : Message} (hm : m.bytes.endsField = true)
      (hn : n.bytes.endsField = true) (h : SameWording m n) :
      SameWording (.decimal v :: m) (.decimal w :: n)
  | hex (v w : Word) {m n : Message} (hm : m.bytes.endsField = true)
      (hn : n.bytes.endsField = true) (h : SameWording m n) :
      SameWording (.hex v :: m) (.hex w :: n)

/-- Where the wording is the same, nothing of the fields is lost in print. -/
theorem SameWording.eq_of_bytes_eq {m n : Message} (h : SameWording m n)
    (hbytes : m.bytes = n.bytes) : m = n := by
  induction h with
  | nil => rfl
  | text t h ih => rw [ih (List.append_cancel_left hbytes)]
  | word ht hu hm hn h ih =>
    obtain ⟨rfl, hrest⟩ := Bytes.append_inj_of_isField ht hu hm hn hbytes
    rw [ih hrest]
  | decimal v w hm hn h ih =>
    obtain ⟨hnumeral, hrest⟩ :=
      Bytes.append_inj_of_isField v.isField_decimal w.isField_decimal hm hn hbytes
    rw [Word.decimal_inj hnumeral, ih hrest]
  | hex v w hm hn h ih =>
    obtain ⟨hnumeral, hrest⟩ :=
      Bytes.append_inj_of_isField v.isField_hexadecimal w.isField_hexadecimal hm hn hbytes
    rw [Word.hexadecimal_inj hnumeral, ih hrest]

end Message

end EarlyMemory
