import EarlyMemory.Text.Message

/-!
# Formats

A format is text with places for arguments. Five conversions are known: `%zu` takes a word and
writes it in decimal, `%#llx` takes a word and writes it as an address, `%c` takes a word and writes
its lowest byte, `%s` takes a text, and `%%` is a percent sign and takes nothing. Formats and texts
alike are read up to a byte zero, whereas `%c` may write one. Filling a format gives a message,
whose text is never read as a format again.
-/

namespace EarlyMemory

/-- What a place in a format is filled with. -/
inductive Argument where
  | word (value : Word)
  | text (bytes : Bytes)
deriving DecidableEq, Repr

namespace Format

/-! ## Reading -/

/-- A byte that stands for itself, or a place to be filled. -/
inductive Piece where
  | byte (value : UInt8)
  | decimal
  | hex
  | char
  | text
deriving DecidableEq, Repr

/-- Reads the pieces off a format; `none` if a percent sign begins no known conversion. -/
def pieces? : Bytes → Option (List Piece)
  | [] => some []
  -- the end of the format, whatever is stored behind it
  | 0x00 :: _ => some []
  -- `%%`
  | 0x25 :: 0x25 :: rest => (pieces? rest).map (.byte 0x25 :: ·)
  -- `%zu`
  | 0x25 :: 0x7A :: 0x75 :: rest => (pieces? rest).map (.decimal :: ·)
  -- `%#llx`
  | 0x25 :: 0x23 :: 0x6C :: 0x6C :: 0x78 :: rest => (pieces? rest).map (.hex :: ·)
  -- `%c`
  | 0x25 :: 0x63 :: rest => (pieces? rest).map (.char :: ·)
  -- `%s`
  | 0x25 :: 0x73 :: rest => (pieces? rest).map (.text :: ·)
  | b :: rest => if b = 0x25 then none else (pieces? rest).map (.byte b :: ·)

/-! ## Filling -/

/-- Puts the arguments into the places in order. An argument must be of its place's kind; those
past the last place are not used. -/
def fill? : List Piece → List Argument → Option Message
  | [], _ => some []
  | .byte b :: ps, args => (fill? ps args).map (.text [b] :: ·)
  | .decimal :: ps, .word w :: args => (fill? ps args).map (.decimal w :: ·)
  | .hex :: ps, .word w :: args => (fill? ps args).map (.hex w :: ·)
  | .char :: ps, .word w :: args => (fill? ps args).map (.text [w.toUInt8] :: ·)
  | .text :: ps, .text t :: args => (fill? ps args).map (.text t.untilNul :: ·)
  | _ :: _, _ => none

end Format

/-- The message that a format and its arguments give. -/
def Message.ofFormat? (format : Bytes) (args : List Argument) : Option Message := do
  Format.fill? (← Format.pieces? format) args

example :
    (Message.ofFormat? (Bytes.ofString "%zu of %#llx%%") [.word 7, .word 64]).map Message.bytes
      = some (Bytes.ofString "7 of 0x40%") := by decide

end EarlyMemory
