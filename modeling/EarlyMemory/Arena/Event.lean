import EarlyMemory.Arena.Basic
import EarlyMemory.Log.Logger

/-!
# What an arena reports

Everything that an arena tells its log is an event. An event keeps the words that it speaks of;
its level and its wording are given here and nowhere else.
-/

namespace EarlyMemory

/-- The two users of an arena. -/
inductive Client where
  | bytes
  | pages
deriving DecidableEq, Repr

/-- The name of the client's request in messages. -/
def Client.requestName : Client → String
  | .bytes => "alloc"
  | .pages => "alloc_pages"

namespace Arena

inductive Event where
  /-- The arena begins anew over these bounds. -/
  | opened (start stop pageBytes : Word)
  /-- A second region was offered; an arena has only one. -/
  | extensionRefused (region : Region)
  | bytesGranted (layout : Layout) (addr : Word)
  /-- So many pages were asked for, and so many taken to keep the alignment. -/
  | pagesGranted (asked taken addr : Word)
  /-- A request came to nothing; so much was available to either client. -/
  | refused (client : Client) (amount align : Word) (status : Status) (bytes pages : Word)
  /-- The usage at some stage of the caller's work. -/
  | usage (stage : Bytes) (bytes pages : Usage)
deriving DecidableEq, Repr

namespace Event

def level : Event → Level
  | opened .. => .debug
  | extensionRefused .. | refused .. => .warn
  | bytesGranted .. | pagesGranted .. => .trace
  | usage .. => .info

def message : Event → Message
  | opened start stop pageBytes =>
    ["early arena: init [", .hex start, ", ", .hex stop, ") page_size=", .decimal pageBytes]
  | extensionRefused r =>
    ["early arena: add_memory(", .hex r.start, ", ", .decimal r.size, ") unsupported"]
  | bytesGranted l addr =>
    ["early arena: alloc ", .decimal l.size, "/", .decimal l.align, " -> ", .hex addr]
  | pagesGranted asked taken addr =>
    ["early arena: alloc_pages ", .decimal asked, " (", .decimal taken, ") -> ", .hex addr]
  | refused client amount align status bytes pages =>
    ["early arena: ", client.requestName, "(", .decimal amount, ", ", .decimal align,
      ") failed: ", status.name, " (bytes avail=", .decimal bytes, " pages avail=", .decimal pages,
      ")"]
  | usage stage bytes pages =>
    ["[", .text stage.untilNul, "] bytes used=", .decimal bytes.used,
      " avail=", .decimal bytes.available, " total=", .decimal bytes.total,
      " | pages used=", .decimal pages.used, " avail=", .decimal pages.available,
      " total=", .decimal pages.total]

/-- The event as it is offered to the log. -/
def entry (e : Event) : Entry := { level := e.level, message := e.message }

end Event

end Arena

end EarlyMemory
