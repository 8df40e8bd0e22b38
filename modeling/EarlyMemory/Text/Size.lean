import EarlyMemory.Alignment
import EarlyMemory.Text.Bytes

/-!
# Reading sizes

A size is read from text of the form: blanks, then perhaps a sign, then at least one decimal digit,
and nothing after the digits. Zero is no size. A numeral too great for a word is read as the
greatest word, whatever its sign; any other numeral with a minus sign is read modulo `2 ^ 64`, so
that a nonzero numeral never reads as zero.
-/

namespace EarlyMemory.Size

/-! ## Characters -/

/-- The space and the control characters from the tab to the carriage return. -/
def isBlank (b : UInt8) : Bool := b == 0x20 || 0x09 ≤ b && b ≤ 0x0D

/-- The ten decimal digits. -/
def isDigit (b : UInt8) : Bool := 0x30 ≤ b && b ≤ 0x39

/-- The number that a row of digits stands for, most significant first. -/
def value (digits : Bytes) : Nat := digits.foldl (fun n d => 10 * n + (d - 0x30).toNat) 0

/-! ## Signs -/

/-- The sign before a numeral. -/
inductive Sign where
  | plus
  | minus
deriving DecidableEq, Repr

/-- Takes the sign off the front; a numeral without one is positive. -/
def Sign.read : Bytes → Sign × Bytes
  | 0x2B :: rest => (.plus, rest)
  | 0x2D :: rest => (.minus, rest)
  | text => (.plus, text)

/-- The word that a signed number is read as. -/
def Sign.apply (sign : Sign) (n : Nat) : Word :=
  if Word.greatest.toNat < n then Word.greatest
  else match sign with
    | .plus => .ofNat n
    | .minus => -.ofNat n

/-! ## Sizes -/

/-- Reads a size; `none` if the text has another form or its digits are all zero. -/
def read? (text : Bytes) : Option Word :=
  let (sign, digits) := Sign.read (text.dropWhile isBlank)
  if digits.isEmpty || !digits.all isDigit || value digits == 0 then none
  else some (sign.apply (value digits))

example : read? (Bytes.ofString " \t+0256") = some 256 := by decide

example : read? (Bytes.ofString "-1") = some Word.greatest := by decide

example : read? (Bytes.ofString "99999999999999999999") = some Word.greatest := by decide

example : read? (Bytes.ofString "+ 1") = none ∧ read? (Bytes.ofString "1 ") = none := by decide

end EarlyMemory.Size
