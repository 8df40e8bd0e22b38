import EarlyMemory.Arena.Event

/-!
# Operations of an arena

An operation answers, leaves an arena behind and reports events. A refused request leaves the
arena as it was. The one operation that does not return, giving pages back, is described by the
message with which it stops everything.
-/

namespace EarlyMemory.Arena

/-- The effect of an operation: its answer, the arena afterwards and the events in order. -/
structure Effect (α : Type) where
  answer : α
  arena : Arena
  events : List Event := []

/-! ## Regions -/

/-- Manages the whole pages around a region and forgets all that was taken before. -/
def init (a : Arena) (r : Region) : Effect Unit :=
  let opened := a.around r
  { answer := (), arena := opened, events := [.opened opened.start opened.stop a.page.bytes] }

/-- An arena never takes a second region. -/
def addMemory (a : Arena) (r : Region) : Effect Status :=
  { answer := .unsupported, arena := a, events := [.extensionRefused r] }

/-! ## Requests -/

/-- Refuses a request and, if the arena reports failures, says how much was left. -/
def refuse (a : Arena) (client : Client) (amount align : Word) (status : Status) :
    Effect Outcome where
  answer := .refused status
  arena := a
  events :=
    if a.config.logFailures then
      [.refused client amount align status a.bytes.available a.pages.available]
    else []

/-- A block of bytes, at the byte cursor. -/
def alloc (a : Arena) (l : Layout) : Effect Outcome :=
  match a.admitBytes l with
  | .error status => a.refuse .bytes l.size l.align status
  | .ok taken =>
    { answer := .granted a.byteCursor
      arena := a.takeBytes taken
      events := if a.config.traceGrants then [.bytesGranted l a.byteCursor] else [] }

/-- A block of pages, just below the page cursor. The alignment is in bytes. -/
def allocPages (a : Arena) (count align : Word) : Effect Outcome :=
  match a.admitPages count align with
  | .error status => a.refuse .pages count align status
  | .ok taken =>
    let after := a.takePages taken
    { answer := .granted after.pageCursor
      arena := after
      events := if a.config.traceGrants then [.pagesGranted count taken after.pageCursor] else [] }

/-- What stops everything when pages are given back: an arena cannot take them. -/
def releasePagesMessage (addr count : Word) : Message :=
  ["early arena: dealloc_pages(", .hex addr, ", ", .decimal count, ") not implemented"]

/-! ## Reports and switches -/

/-- The usage as it stands at some stage. -/
def report (a : Arena) (stage : Bytes) : Event := .usage stage a.bytes a.pages

/-- Sets both switches. -/
def setConfig (a : Arena) (config : Config) : Arena := { a with config }

end EarlyMemory.Arena
