import EarlyMemory.Text.Numeral

/-!
# Messages

A message is a row of parts: fixed text, and words written as numerals. It keeps the words apart
from the wording until its bytes are asked for.
-/

namespace EarlyMemory

/-! ## Parts -/

/-- A piece of a message. -/
inductive Part where
  | text (bytes : Bytes)
  | decimal (value : Word)
  | hex (value : Word)
deriving DecidableEq, Repr

namespace Part

instance : Coe String Part := ⟨fun s => text (Bytes.ofString s)⟩

/-- The part as it is printed. -/
def bytes : Part → Bytes
  | text t => t
  | decimal w => w.decimal
  | hex w => w.hexadecimal

end Part

/-! ## Messages -/

/-- The parts of a message in reading order. -/
abbrev Message := List Part

namespace Message

/-- The message as it is printed, in full. -/
def bytes (m : Message) : Bytes := m.flatMap Part.bytes

@[simp] theorem bytes_nil : bytes [] = [] := rfl

@[simp] theorem bytes_cons (p : Part) (m : Message) : bytes (p :: m) = p.bytes ++ bytes m := rfl

@[simp] theorem bytes_append (m n : Message) : bytes (m ++ n) = bytes m ++ bytes n := by
  simp [bytes]

end Message

end EarlyMemory
