import Mathlib.Algebra.Order.Floor.Div
import Mathlib.Order.Bounds.Basic
import EarlyMemory.Layout
import EarlyMemory.PageSize

/-!
# Rounding as arithmetic

The masks of `EarlyMemory.Alignment` read back as natural numbers. The two sides are

* `roundUp n unit`, the least multiple of `unit` that is no less than `n`, with no bound on
  its size;
* the words `alignDown` and `alignUp`, which clear bits and wrap.

For a power of two the mask `align - 1` keeps the remainder, so rounding down is exact
(`toNat_alignDown`) and rounding up is exact modulo `2 ^ 64` (`toNat_alignUp`). A layout is
accepted exactly when its padded size is below `2 ^ 64` (`of?_eq`), and is then padded exactly.
-/

namespace EarlyMemory

/-! ## The least multiple -/

/-- The least multiple of `unit` that is no less than `n`. -/
def roundUp (n unit : ℕ) : ℕ := unit * (n ⌈/⌉ unit)

lemma dvd_roundUp (n unit : ℕ) : unit ∣ roundUp n unit := Dvd.intro _ rfl

/-- A multiple is no less than the least one exactly when it is no less than `n`. -/
lemma roundUp_le_iff {n unit m : ℕ} (hunit : 0 < unit) (hm : unit ∣ m) :
    roundUp n unit ≤ m ↔ n ≤ m := by
  obtain ⟨q, rfl⟩ := hm
  rw [roundUp, Nat.mul_le_mul_left_iff hunit, ceilDiv_le_iff_le_mul hunit]

/-- The least multiple is below another exactly when a whole unit more still fits. -/
lemma roundUp_lt_iff {n unit m : ℕ} (hunit : 0 < unit) (hm : unit ∣ m) :
    roundUp n unit < m ↔ n + unit ≤ m := by
  obtain ⟨q, rfl⟩ := hm
  rw [roundUp, Nat.mul_lt_mul_left hunit]
  cases q with
  | zero => omega
  | succ q =>
    rw [Nat.lt_succ_iff, ceilDiv_le_iff_le_mul hunit, Nat.mul_succ]
    omega

lemma le_roundUp (n : ℕ) {unit : ℕ} (hunit : 0 < unit) : n ≤ roundUp n unit :=
  (roundUp_le_iff hunit (dvd_roundUp n unit)).1 le_rfl

lemma roundUp_lt (n : ℕ) {unit : ℕ} (hunit : 0 < unit) : roundUp n unit < n + unit := by
  have hdiv := Nat.mul_div_le (n + unit - 1) unit
  rw [roundUp, Nat.ceilDiv_eq_add_pred_div]
  omega

/-- `roundUp` is the least multiple, as an order-theoretic statement. -/
theorem isLeast_roundUp (n : ℕ) {unit : ℕ} (hunit : 0 < unit) :
    IsLeast {m | unit ∣ m ∧ n ≤ m} (roundUp n unit) :=
  ⟨⟨dvd_roundUp n unit, le_roundUp n hunit⟩,
    fun _ ⟨hdvd, hle⟩ => (roundUp_le_iff hunit hdvd).2 hle⟩

/-- Whole quotients of the unit make the greatest multiple that is no greater than `n`. -/
theorem isGreatest_mul_div (n : ℕ) {unit : ℕ} (hunit : 0 < unit) :
    IsGreatest {m | unit ∣ m ∧ m ≤ n} (unit * (n / unit)) := by
  refine ⟨⟨Dvd.intro _ rfl, Nat.mul_div_le n unit⟩, ?_⟩
  rintro m ⟨⟨q, rfl⟩, hle⟩
  rw [Nat.mul_comm] at hle
  exact Nat.mul_le_mul_left unit ((Nat.le_div_iff_mul_le hunit).2 hle)

/-- A multiple is its own least multiple. -/
lemma roundUp_eq_self {n unit : ℕ} (hunit : 0 < unit) (h : unit ∣ n) : roundUp n unit = n :=
  le_antisymm ((roundUp_le_iff hunit h).2 le_rfl) (le_roundUp n hunit)

/-- The least multiple grows with the number, and with the unit from a divisor to its multiple. -/
lemma roundUp_le_roundUp {m n unit unit' : ℕ} (hunit' : 0 < unit') (hdvd : unit ∣ unit')
    (hle : m ≤ n) : roundUp m unit ≤ roundUp n unit' :=
  (roundUp_le_iff (Nat.pos_of_dvd_of_pos hdvd hunit') (hdvd.trans (dvd_roundUp n unit'))).2
    (hle.trans (le_roundUp n hunit'))

/-- Scaling the number and the unit scales the least multiple. -/
lemma roundUp_mul_right (n unit : ℕ) {k : ℕ} (hk : 0 < k) (hunit : 0 < unit) :
    roundUp (n * k) (unit * k) = roundUp n unit * k := by
  have hle : ∀ q, (n * k) ⌈/⌉ (unit * k) ≤ q ↔ n ⌈/⌉ unit ≤ q := by
    intro q
    rw [ceilDiv_le_iff_le_mul (Nat.mul_pos hunit hk), ceilDiv_le_iff_le_mul hunit,
      Nat.mul_right_comm, Nat.mul_le_mul_right_iff hk]
  have heq : (n * k) ⌈/⌉ (unit * k) = n ⌈/⌉ unit :=
    le_antisymm ((hle _).2 le_rfl) ((hle _).1 le_rfl)
  rw [roundUp, roundUp, heq, Nat.mul_right_comm]

/-- A shift by whole units shifts the least multiple. -/
lemma roundUp_add_mul (n k : ℕ) {unit : ℕ} (hunit : 0 < unit) :
    roundUp (n + unit * k) unit = roundUp n unit + unit * k := by
  rw [roundUp, roundUp, Nat.ceilDiv_eq_add_pred_div, Nat.ceilDiv_eq_add_pred_div,
    show n + unit * k + unit - 1 = n + unit - 1 + unit * k by omega,
    Nat.add_mul_div_left _ _ hunit, Nat.mul_add]

/-- Modulo a multiple of the unit, it does not matter whether the number is reduced first. -/
lemma roundUp_mod_mod (n : ℕ) {unit m : ℕ} (hunit : 0 < unit) (hm : unit ∣ m) :
    roundUp (n % m) unit % m = roundUp n unit % m := by
  obtain ⟨q, rfl⟩ := hm
  -- what the reduction drops is a number of whole units, which only shifts the result
  conv_rhs => rw [← Nat.mod_add_div n (unit * q), Nat.mul_assoc, roundUp_add_mul _ _ hunit,
    ← Nat.mul_assoc, Nat.add_mul_mod_self_left]

/-- The least multiple computed from the remainder. -/
lemma roundUp_eq_of_mod {n unit : ℕ} (hunit : 0 < unit) :
    roundUp n unit = if n % unit = 0 then n else n + (unit - n % unit) := by
  have hmod := Nat.mod_lt n hunit
  split
  · next hzero => exact roundUp_eq_self hunit (Nat.dvd_of_mod_eq_zero hzero)
  · next hne =>
    -- the next multiple after `n` is one more quotient
    have hsum : n + (unit - n % unit) = unit * (n / unit + 1) := by
      have hdiv := Nat.div_add_mod n unit
      rw [Nat.mul_add, Nat.mul_one]
      omega
    refine le_antisymm ((roundUp_le_iff hunit ⟨_, hsum⟩).2 (by omega)) ?_
    have hlt : n / unit < n ⌈/⌉ unit := by
      rw [← not_le, ceilDiv_le_iff_le_mul hunit]
      have hdiv := Nat.div_add_mod n unit
      omega
    rw [hsum, roundUp]
    exact Nat.mul_le_mul_left unit hlt

/-! ## Powers of two among the words -/

/-- Of two powers of two the smaller divides the greater. -/
lemma dvd_of_isPowerOfTwo_of_le {m n : ℕ} (hm : m.isPowerOfTwo) (hn : n.isPowerOfTwo)
    (hle : m ≤ n) : m ∣ n := by
  obtain ⟨i, rfl⟩ := hm
  obtain ⟨j, rfl⟩ := hn
  exact Nat.pow_dvd_pow 2 ((Nat.pow_le_pow_iff_right one_lt_two).1 hle)

namespace Word

variable {align : Word}

/-- Above zero there is no borrow. -/
lemma toNat_sub_one {v : Word} (h : 0 < v.toNat) : (v - 1).toNat = v.toNat - 1 :=
  UInt64.toNat_sub_of_le v 1 (UInt64.le_iff_toNat_le.2 h)

/-- The bit test finds the powers of two. -/
theorem isPowerOfTwo_iff (v : Word) : v.isPowerOfTwo = true ↔ v.toNat.isPowerOfTwo := by
  rw [← Nat.ne_zero_and_sub_one_eq_zero_iff_isPowerOfTwo, isPowerOfTwo, Bool.and_eq_true,
    bne_iff_ne, beq_iff_eq, Ne, ← UInt64.toNat_inj, ← UInt64.toNat_inj, UInt64.toNat_and]
  apply and_congr_right
  intro hne
  rw [toNat_sub_one (Nat.pos_of_ne_zero hne)]
  rfl

/-- A power of two among the words is `2 ^ k` for some `k` below `64`. -/
lemma exists_toNat_eq_two_pow (h : align.isPowerOfTwo = true) :
    ∃ k < 64, align.toNat = 2 ^ k := by
  obtain ⟨k, hk⟩ := (isPowerOfTwo_iff align).1 h
  have hlt := align.toNat_lt
  rw [hk] at hlt
  exact ⟨k, (Nat.pow_lt_pow_iff_right (by omega)).1 hlt, hk⟩

lemma toNat_pos_of_isPowerOfTwo (h : align.isPowerOfTwo = true) : 0 < align.toNat :=
  Nat.pos_of_isPowerOfTwo ((isPowerOfTwo_iff align).1 h)

/-- Addresses wrap at a multiple of every power of two. -/
lemma dvd_two_pow_of_isPowerOfTwo (h : align.isPowerOfTwo = true) : align.toNat ∣ 2 ^ 64 := by
  obtain ⟨k, hlt, hk⟩ := exists_toNat_eq_two_pow h
  rw [hk]
  exact Nat.pow_dvd_pow 2 (by omega)

/-- The least multiple of a power of two that is no less than a word is at most `2 ^ 64`. -/
lemma roundUp_le_two_pow {n : ℕ} (h : align.isPowerOfTwo = true) (hn : n ≤ 2 ^ 64) :
    roundUp n align.toNat ≤ 2 ^ 64 :=
  (roundUp_le_iff (toNat_pos_of_isPowerOfTwo h) (dvd_two_pow_of_isPowerOfTwo h)).2 hn

/-! ## Rounding words -/

/-- The mask of a power of two keeps the remainder. -/
lemma toNat_and_mask (pos : Word) (h : align.isPowerOfTwo = true) :
    (pos &&& (align - 1)).toNat = pos.toNat % align.toNat := by
  obtain ⟨k, -, hk⟩ := exists_toNat_eq_two_pow h
  rw [UInt64.toNat_and, toNat_sub_one (toNat_pos_of_isPowerOfTwo h), hk,
    Nat.and_two_pow_sub_one_eq_mod]

/-- Rounding down to a power of two takes whole multiples. -/
theorem toNat_alignDown (pos : Word) (h : align.isPowerOfTwo = true) :
    (pos.alignDown align).toNat = align.toNat * (pos.toNat / align.toNat) := by
  have hsplit := toNat_alignDown_add pos align
  have hdiv := Nat.div_add_mod pos.toNat align.toNat
  rw [toNat_and_mask pos h] at hsplit
  omega

/-- Rounding up to a power of two is the least multiple, but for the wrap. -/
theorem toNat_alignUp (pos : Word) (h : align.isPowerOfTwo = true) :
    (pos.alignUp align).toNat = roundUp pos.toNat align.toNat % 2 ^ 64 := by
  have hpos := toNat_pos_of_isPowerOfTwo h
  obtain ⟨m, hm⟩ := dvd_two_pow_of_isPowerOfTwo h
  have hsum : (pos + align - 1).toNat = (pos.toNat + align.toNat - 1) % 2 ^ 64 := by
    have hone : (1 : Word).toNat = 1 := rfl
    have hpos64 := pos.toNat_lt
    rw [UInt64.toNat_sub, UInt64.toNat_add, hone]
    omega
  -- the remainder by `2 ^ 64` is taken from the quotient, as `align` divides `2 ^ 64`
  rw [alignUp_eq_alignDown, toNat_alignDown _ h, hsum, roundUp, Nat.ceilDiv_eq_add_pred_div, hm,
    Nat.mod_mul_right_div_self, Nat.mul_mod_mul_left]

/-- A multiple is left alone by rounding down. -/
lemma alignDown_eq_self {pos : Word} (h : align.isPowerOfTwo = true)
    (hpos : align.toNat ∣ pos.toNat) : pos.alignDown align = pos := by
  rw [← UInt64.toNat_inj, toNat_alignDown pos h, Nat.mul_div_cancel' hpos]

/-- A multiple is left alone by rounding up. -/
lemma alignUp_eq_self {pos : Word} (h : align.isPowerOfTwo = true)
    (hpos : align.toNat ∣ pos.toNat) : pos.alignUp align = pos := by
  rw [← UInt64.toNat_inj, toNat_alignUp pos h,
    roundUp_eq_self (toNat_pos_of_isPowerOfTwo h) hpos, Nat.mod_eq_of_lt pos.toNat_lt]

/-- A step by whole multiples goes through rounding down, also when it wraps. -/
lemma alignDown_add (pos : Word) {d : Word} (h : align.isPowerOfTwo = true)
    (hd : align.toNat ∣ d.toNat) : (pos + d).alignDown align = pos.alignDown align + d := by
  have hpos := toNat_pos_of_isPowerOfTwo h
  obtain ⟨q, hq⟩ := hd
  obtain ⟨m, hm⟩ := dvd_two_pow_of_isPowerOfTwo h
  rw [← UInt64.toNat_inj, toNat_alignDown _ h, UInt64.toNat_add, UInt64.toNat_add,
    toNat_alignDown _ h, hq, hm, Nat.mod_mul_right_div_self, Nat.add_mul_div_left _ _ hpos,
    ← Nat.mul_add, Nat.mul_mod_mul_left]

/-- A step by whole multiples goes through rounding up, also when it wraps. -/
lemma alignUp_add (pos : Word) {d : Word} (h : align.isPowerOfTwo = true)
    (hd : align.toNat ∣ d.toNat) : (pos + d).alignUp align = pos.alignUp align + d := by
  have hcomm : pos + d + align - 1 = pos + align - 1 + d := by grind
  rw [alignUp_eq_alignDown, alignUp_eq_alignDown, hcomm, alignDown_add _ h hd]

end Word

/-! ## Padded sizes -/

namespace Layout

/-- The room test on the unrounded sum is the test on the least multiple. -/
lemma roundUp_lt_two_pow_iff {size align : Word} (h : align.isPowerOfTwo = true) :
    roundUp size.toNat align.toNat < 2 ^ 64 ↔ size ≤ Word.greatest - (align - 1) := by
  have hpos := Word.toNat_pos_of_isPowerOfTwo h
  have halign := align.toNat_lt
  have hpred := Word.toNat_sub_one hpos
  have hgreatest : Word.greatest.toNat = 2 ^ 64 - 1 := rfl
  have hroom : (Word.greatest - (align - 1)).toNat = 2 ^ 64 - align.toNat := by
    rw [UInt64.toNat_sub_of_le _ _ (UInt64.le_iff_toNat_le.2 (by omega)), hpred, hgreatest]
    omega
  rw [roundUp_lt_iff hpos (Word.dvd_two_pow_of_isPowerOfTwo h), UInt64.le_iff_toNat_le, hroom]
  omega

/-- A layout is accepted when its alignment is a power of two and its padded size is a size. -/
theorem of?_eq (size align : Word) :
    of? size align =
      if align.toNat.isPowerOfTwo ∧ roundUp size.toNat align.toNat < 2 ^ 64 then
        some { size, align }
      else none := by
  unfold of?
  by_cases h : align.isPowerOfTwo = true
  · simp only [h, Bool.true_and, decide_eq_true_eq, (Word.isPowerOfTwo_iff align).1 h, true_and,
      roundUp_lt_two_pow_iff h]
  · have hnot : ¬align.toNat.isPowerOfTwo := fun hn => h ((Word.isPowerOfTwo_iff align).2 hn)
    simp only [h, hnot, Bool.false_and, Bool.false_eq_true, false_and, if_false]

/-- What is accepted is padded exactly. -/
lemma toNat_paddedSize {l : Layout} (halign : l.align.toNat.isPowerOfTwo)
    (hsize : roundUp l.size.toNat l.align.toNat < 2 ^ 64) :
    l.paddedSize.toNat = roundUp l.size.toNat l.align.toNat := by
  rw [paddedSize, Word.toNat_alignUp _ ((Word.isPowerOfTwo_iff _).2 halign),
    Nat.mod_eq_of_lt hsize]

/-- Asking for a layout in place of a prior one, test by test, comes to what `of?` says at once. -/
theorem makeInto_eq (size align : Word) (prior : Layout) :
    makeInto size align prior = ((of? size align).isSome, (of? size align).getD prior) := by
  unfold makeInto of?
  by_cases halign : align.isPowerOfTwo = true
  · by_cases hsize : size ≤ Word.greatest - (align - 1)
    · simp [halign, hsize, UInt64.not_lt.2 hsize]
    · simp [halign, hsize, UInt64.not_le.1 hsize]
  · simp [halign]

/-- What comes of asking for a layout in place of a prior one. It is accepted exactly if its
alignment is a power of two and the least multiple with room for its size is below `2 ^ 64`. Then it
takes the place as it was asked for and is padded to that multiple; otherwise the prior layout
stays. -/
theorem accepted_iff_padding_lt (size align : Word) (prior : Layout) :
    let accepted := (of? size align).isSome
    let after := (of? size align).getD prior
    let multiples : Set ℕ := {m | align.toNat ∣ m ∧ size.toNat ≤ m}
    makeInto size align prior = (accepted, after) ∧
      (accepted = true ↔ align.toNat.isPowerOfTwo ∧ ∃ n < 2 ^ 64, IsLeast multiples n) ∧
      if accepted then after = { size, align } ∧ IsLeast multiples after.paddedSize.toNat
      else after = prior := by
  intro accepted after multiples
  have hleast (halign : align.toNat.isPowerOfTwo) :
      IsLeast multiples (roundUp size.toNat align.toNat) :=
    isLeast_roundUp size.toNat (Nat.pos_of_isPowerOfTwo halign)
  refine ⟨makeInto_eq size align prior, ?_⟩
  by_cases h : align.toNat.isPowerOfTwo ∧ roundUp size.toNat align.toNat < 2 ^ 64
  · have hsome : of? size align = some { size, align } := by rw [of?_eq, if_pos h]
    simp only [accepted, after, hsome, Option.isSome_some, Option.getD_some, if_true, true_iff,
      true_and]
    refine ⟨⟨h.1, _, h.2, hleast h.1⟩, ?_⟩
    rw [toNat_paddedSize h.1 h.2]
    exact hleast h.1
  · have hnone : of? size align = none := by rw [of?_eq, if_neg h]
    simp only [accepted, after, hnone, Option.isSome_none, Option.getD_none, Bool.false_eq_true,
      if_false, false_iff, and_true]
    rintro ⟨halign, n, hlt, hn⟩
    rw [hn.unique (hleast halign)] at hlt
    exact h ⟨halign, hlt⟩

/-- Sizes up to the last multiple are accepted, and the next one is not. -/
example : (of? 0xFFFFFFFFFFFFF000 4096).isSome ∧ of? 0xFFFFFFFFFFFFF001 4096 = none := by decide

end Layout

/-! ## Page sizes -/

namespace PageSize

lemma toNat_bytes_pos (p : PageSize) : 0 < p.bytes.toNat :=
  Word.toNat_pos_of_isPowerOfTwo p.isPowerOfTwo_bytes

/-- A page is at most half of the address space. -/
lemma two_mul_toNat_bytes_le (p : PageSize) : 2 * p.bytes.toNat ≤ 2 ^ 64 := by
  obtain ⟨k, hlt, hk⟩ := Word.exists_toNat_eq_two_pow p.isPowerOfTwo_bytes
  rw [hk, ← Nat.pow_succ']
  exact Nat.pow_le_pow_right two_pos hlt

/-- Addresses wrap on a page boundary. -/
lemma dvd_two_pow (p : PageSize) : p.bytes.toNat ∣ 2 ^ 64 :=
  Word.dvd_two_pow_of_isPowerOfTwo p.isPowerOfTwo_bytes

/-- A bound that is rounded down is a whole number of pages. -/
lemma dvd_alignDown (p : PageSize) (pos : Word) :
    p.bytes.toNat ∣ (pos.alignDown p.bytes).toNat := by
  rw [Word.toNat_alignDown _ p.isPowerOfTwo_bytes]
  exact Dvd.intro _ rfl

/-- A bound that is rounded up is a whole number of pages, also when it has wrapped. -/
lemma dvd_alignUp (p : PageSize) (pos : Word) :
    p.bytes.toNat ∣ (pos.alignUp p.bytes).toNat := by
  rw [Word.toNat_alignUp _ p.isPowerOfTwo_bytes]
  exact (Nat.dvd_mod_iff p.dvd_two_pow).2 (dvd_roundUp _ _)

end PageSize

end EarlyMemory
