import EarlyMemory.Alignment
import EarlyMemory.Text.Bytes

/-!
# Numerals

Words are written in one of two ways: sizes and counts in decimal, addresses in hexadecimal with a
leading `0x`. Neither has leading zeros. The address zero is written `0`, without the `0x`.
-/

namespace EarlyMemory.Word

/-- The decimal digits, most significant first. -/
def decimal (w : Word) : Bytes := Bytes.ofChars (Nat.toDigits 10 w.toNat)

/-- `0x` and the lower-case hexadecimal digits; zero is the one digit `0`. -/
def hexadecimal (w : Word) : Bytes :=
  if w = 0 then Bytes.ofString "0"
  else Bytes.ofString "0x" ++ Bytes.ofChars (Nat.toDigits 16 w.toNat)

example : decimal 4096 = Bytes.ofString "4096" := by decide

example : hexadecimal 0x10F0 = Bytes.ofString "0x10f0" := by decide

example : hexadecimal 0 = Bytes.ofString "0" := by decide

end EarlyMemory.Word
