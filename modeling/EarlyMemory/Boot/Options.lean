import EarlyMemory.Text.Size

/-!
# Options of the boot rehearsal

The command line is a row of settings. A setting is one word, or a word with a size after it.
Settings are read from the left for as long as they can be; the command line is accepted if
nothing is left over. The settings before a bad word count even if the command line is refused.
-/

namespace EarlyMemory.Boot

/-! ## Settings -/

/-- One setting of the command line. -/
inductive Setting where
  | regionKib (value : Word)
  | stackPages (value : Word)
  | trace
  | verbose
deriving DecidableEq, Repr

namespace Setting

/-- The settings of one word. -/
def ofWord? (word : Bytes) : Option Setting :=
  if word = Bytes.ofString "--trace" then some .trace
  else if word = Bytes.ofString "--verbose" then some .verbose
  else none

/-- The settings of a word and a size. -/
def ofPair? (word size : Bytes) : Option Setting :=
  if word = Bytes.ofString "--region-kib" then (Size.read? size).map .regionKib
  else if word = Bytes.ofString "--stack-pages" then (Size.read? size).map .stackPages
  else none

/-- Reads settings from the left; the words from the first bad one on are left over. -/
def readAll : List Bytes → List Setting × List Bytes
  | [] => ([], [])
  | word :: words =>
    match ofWord? word with
    | some s => ((readAll words).map (s :: ·) id)
    | none =>
      match words with
      | [] => ([], [word])
      | size :: rest =>
        match ofPair? word size with
        | some s => ((readAll rest).map (s :: ·) id)
        | none => ([], word :: size :: rest)

end Setting

/-! ## Options -/

/-- What the rehearsal is asked for. -/
structure Options where
  /-- The size of the region in kibibytes. -/
  regionKib : Word := 256
  /-- The size of the boot stack in pages. -/
  stackPages : Word := 4
  /-- Report grants, and let all levels through. -/
  trace : Bool := false
  /-- Let all levels but the lowest through. -/
  verbose : Bool := false
deriving DecidableEq, Repr

namespace Options

/-- The options after one more setting; a later size replaces an earlier one. -/
def apply (o : Options) : Setting → Options
  | .regionKib value => { o with regionKib := value }
  | .stackPages value => { o with stackPages := value }
  | .trace => { o with trace := true }
  | .verbose => { o with verbose := true }

/-- The options that a command line leaves, and whether it is accepted. -/
def read (o : Options) (words : List Bytes) : Options × Bool :=
  let (settings, rest) := Setting.readAll words
  (settings.foldl apply o, rest.isEmpty)

/-- The number of bytes in the region; the product wraps. -/
def regionBytes (o : Options) : Word := o.regionKib * 1024

end Options

end EarlyMemory.Boot
